import BearerIdentity.Error
import BearerIdentity.Flow
import BearerIdentity.Http.Request
import BearerIdentity.Http.Response
import BearerIdentity.Instant

set_option autoImplicit false

namespace BearerIdentity

/-- How the network answers a request, given the requests sent before it. -/
abbrev Network := (earlier : List Request) → Request → Except TransportError Response

structure Environment where
  now : Instant
  network : Network
  /-- The requests sent so far, oldest first. -/
  sent : List Request
  /-- The random bytes to come. -/
  entropy : Bytes
  flows : Flows

namespace Environment

/-- The answer to a request, which then counts as sent. -/
def exchange (environment : Environment) (request : Request) :
    Except TransportError Response × Environment :=
  (environment.network environment.sent request,
    { environment with sent := environment.sent ++ [request] })

/-- The next random bytes. A source that has run dry yields zeros. -/
def draw (environment : Environment) (count : Nat) : Bytes × Environment :=
  let drawn := environment.entropy.take count
  (drawn ++ List.replicate (count - drawn.length) 0,
    { environment with entropy := environment.entropy.drop count })

def record (environment : Environment) (kind : FlowKind) (outcome : FlowOutcome) : Environment :=
  { environment with flows := (kind, outcome) :: environment.flows }

@[simp] theorem length_draw (environment : Environment) (count : Nat) :
    (environment.draw count).1.length = count := by
  simp only [draw, List.length_append, List.length_replicate, List.length_take]
  omega

end Environment

end BearerIdentity
