import BearerIdentity.Environment

set_option autoImplicit false

/- Operations that consult a memory and their environment. What an operation did to either stays done
when it fails. -/

namespace BearerIdentity

/-- Why an operation has no result: an instant left the calendar, or an error of its own kind. -/
inductive Fault (ε : Type) where
  | calendar
  | error (cause : ε)
  deriving DecidableEq, Repr

namespace Fault

def map {ε ε' : Type} (f : ε → ε') : Fault ε → Fault ε'
  | calendar => calendar
  | error cause => error (f cause)

end Fault

structure Outcome (ε σ α : Type) where
  result : Except (Fault ε) α
  memory : σ
  environment : Environment

def Operation (ε σ α : Type) : Type :=
  σ → Environment → Outcome ε σ α

namespace Operation

variable {ε ε' σ τ α β : Type}

def succeed (value : α) : Operation ε σ α :=
  fun memory environment => ⟨.ok value, memory, environment⟩

def andThen (first : Operation ε σ α) (next : α → Operation ε σ β) : Operation ε σ β :=
  fun memory environment =>
    match first memory environment with
    | ⟨.ok value, memory, environment⟩ => next value memory environment
    | ⟨.error fault, memory, environment⟩ => ⟨.error fault, memory, environment⟩

instance : Monad (Operation ε σ) where
  pure := succeed
  bind := andThen

def fail (cause : ε) : Operation ε σ α :=
  fun memory environment => ⟨.error (.error cause), memory, environment⟩

def ofExcept : Except ε α → Operation ε σ α
  | .ok value => succeed value
  | .error cause => fail cause

def ofOption (missing : ε) : Option α → Operation ε σ α
  | some value => succeed value
  | none => fail missing

def ofDated (result : Except (Fault ε) α) : Operation ε σ α :=
  fun memory environment => ⟨result, memory, environment⟩

/-- Turns an error into a result. An instant outside the calendar still ends the operation. -/
def attempt (operation : Operation ε σ α) : Operation ε' σ (Except ε α) :=
  fun memory environment =>
    match operation memory environment with
    | ⟨.ok value, memory, environment⟩ => ⟨.ok (.ok value), memory, environment⟩
    | ⟨.error (.error cause), memory, environment⟩ => ⟨.ok (.error cause), memory, environment⟩
    | ⟨.error .calendar, memory, environment⟩ => ⟨.error .calendar, memory, environment⟩

def mapError (f : ε → ε') (operation : Operation ε σ α) : Operation ε' σ α :=
  fun memory environment =>
    let outcome := operation memory environment
    ⟨outcome.result.mapError (Fault.map f), outcome.memory, outcome.environment⟩

def onPart (part : τ → σ) (restore : σ → τ → τ) (operation : Operation ε σ α) :
    Operation ε τ α :=
  fun memory environment =>
    let outcome := operation (part memory) environment
    ⟨outcome.result, restore outcome.memory memory, outcome.environment⟩

def onSecond (operation : Operation ε σ α) : Operation ε (τ × σ) α :=
  onPart Prod.snd (fun second memory => (memory.1, second)) operation

def alone (operation : Operation ε (σ × Unit) α) : Operation ε σ α :=
  onPart (·, ()) (fun memory _ => memory.1) operation

def memory : Operation ε σ σ :=
  fun memory environment => ⟨.ok memory, memory, environment⟩

def revise (f : σ → σ) : Operation ε σ Unit :=
  fun memory environment => ⟨.ok (), f memory, environment⟩

def now : Operation ε σ Instant :=
  fun memory environment => ⟨.ok environment.now, memory, environment⟩

def draw (count : Nat) : Operation ε σ Bytes :=
  fun memory environment =>
    let (bytes, environment) := environment.draw count
    ⟨.ok bytes, memory, environment⟩

def send (request : Request) : Operation TransportError σ Response :=
  fun memory environment =>
    let (answer, environment) := environment.exchange request
    ⟨answer.mapError .error, memory, environment⟩

def record (kind : FlowKind) (outcome : FlowOutcome) : Operation ε σ Unit :=
  fun memory environment => ⟨.ok (), memory, environment.record kind outcome⟩

/-- Records an attempt and then how it went. -/
def observe (kind : FlowKind) (operation : Operation ε σ α) : Operation ε σ α := do
  record kind .attempt
  match ← attempt operation with
  | .ok value =>
    record kind .success
    succeed value
  | .error cause =>
    record kind .failure
    fail cause

def succeeds (operation : Operation ε σ α) : Operation ε' σ Bool := do
  match ← attempt operation with
  | .ok _ => succeed true
  | .error _ => succeed false

end Operation

end BearerIdentity
