import BearerIdentity.Json.Value

set_option autoImplicit false

namespace BearerIdentity

inductive FlowKind where
  | discovery
  | keySetRefresh
  | tokenRefresh
  | requestAccess
  | login
  | sasl
  deriving DecidableEq, Repr

namespace FlowKind

def label : FlowKind → String
  | discovery => "discovery"
  | keySetRefresh => "key_set_refresh"
  | tokenRefresh => "token_refresh"
  | requestAccess => "request_access"
  | login => "login"
  | sasl => "sasl"

def all : List FlowKind :=
  [discovery, keySetRefresh, tokenRefresh, requestAccess, login, sasl]

end FlowKind

inductive FlowOutcome where
  | attempt
  | success
  | failure
  deriving DecidableEq, Repr

namespace FlowOutcome

def label : FlowOutcome → String
  | attempt => "attempt"
  | success => "success"
  | failure => "failure"

def all : List FlowOutcome :=
  [attempt, success, failure]

end FlowOutcome

/-- The events recorded so far, latest first. -/
abbrev Flows := List (FlowKind × FlowOutcome)

def Flows.count (flows : Flows) (kind : FlowKind) (outcome : FlowOutcome) : Nat :=
  List.count (kind, outcome) flows

/-- The counts by flow and outcome, without those that are zero. -/
def Flows.toValue (flows : Flows) : Json.Value :=
  .ofMembers (FlowKind.all.flatMap fun kind =>
    FlowOutcome.all.filterMap fun outcome =>
      let times := flows.count kind outcome
      if times = 0 then none else some (s!"{kind.label}/{outcome.label}", .ofNat times))

end BearerIdentity
