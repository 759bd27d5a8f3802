import BearerIdentity.Proofs.Operation.Success

set_option autoImplicit false

namespace BearerIdentity

/-- The same network later on: requests have been sent, and none is forgotten. -/
structure Environment.Extends (earlier later : Environment) : Prop where
  network : later.network = earlier.network
  sent : earlier.sent <+: later.sent

/-- The clock may be set to any instant. -/
theorem Environment.Extends.elapse (environment : Environment) (now : Instant) :
    environment.Extends { environment with now } where
  network := rfl
  sent := List.prefix_rfl

theorem Environment.Extends.refl (environment : Environment) : environment.Extends environment where
  network := rfl
  sent := List.prefix_rfl

theorem Environment.Extends.trans {first second third : Environment} (near : first.Extends second)
    (far : second.Extends third) : first.Extends third where
  network := far.network.trans near.network
  sent := near.sent.trans far.sent

/-- What an operation does to its environment: requests are sent while the clock stands still. -/
structure Environment.Proceeds (earlier later : Environment) : Prop
    extends earlier.Extends later where
  now : later.now = earlier.now

namespace Environment.Proceeds

variable {first second third : Environment}

theorem refl (environment : Environment) : environment.Proceeds environment where
  network := rfl
  sent := List.prefix_rfl
  now := rfl

theorem trans (near : first.Proceeds second) (far : second.Proceeds third) :
    first.Proceeds third where
  network := far.network.trans near.network
  sent := near.sent.trans far.sent
  now := far.now.trans near.now

theorem exchange (environment : Environment) (request : Request) :
    environment.Proceeds (environment.exchange request).2 where
  network := rfl
  sent := List.prefix_append _ _
  now := rfl

theorem record (environment : Environment) (kind : FlowKind) (outcome : FlowOutcome) :
    environment.Proceeds (environment.record kind outcome) where
  network := rfl
  sent := List.prefix_rfl
  now := rfl

end Environment.Proceeds

namespace Operation

variable {ε ε' σ τ α β : Type} {kept : σ → Environment → Prop}

def Keeps (kept : σ → Environment → Prop) (operation : Operation ε σ α) : Prop :=
  ∀ memory environment, kept memory environment →
    kept (operation memory environment).memory (operation memory environment).environment

/-- What holds of a memory goes on to hold while only the environment changes. -/
def Lasting (kept : σ → Environment → Prop) : Prop :=
  ∀ memory earlier later, kept memory earlier → earlier.Proceeds later → kept memory later

namespace Keeps

theorem succeed (value : α) : Keeps kept (succeed value : Operation ε σ α) :=
  fun _ _ holds => holds

theorem fail (cause : ε) : Keeps kept (fail cause : Operation ε σ α) :=
  fun _ _ holds => holds

theorem ofExcept (result : Except ε α) : Keeps kept (ofExcept result : Operation ε σ α) := by
  cases result with
  | ok value => exact succeed value
  | error cause => exact fail cause

theorem ofOption (missing : ε) (found : Option α) :
    Keeps kept (ofOption missing found : Operation ε σ α) := by
  cases found with
  | some value => exact succeed value
  | none => exact fail missing

theorem ofDated (result : Except (Fault ε) α) : Keeps kept (ofDated result : Operation ε σ α) :=
  fun _ _ holds => holds

theorem memory : Keeps kept (Operation.memory : Operation ε σ σ) :=
  fun _ _ holds => holds

theorem now : Keeps kept (Operation.now : Operation ε σ Instant) :=
  fun _ _ holds => holds

theorem bind {first : Operation ε σ α} {next : α → Operation ε σ β} (start : Keeps kept first)
    (rest : ∀ value, Keeps kept (next value)) : Keeps kept (first >>= next) := by
  intro memory environment holds
  have middle := start memory environment holds
  show kept (andThen first next memory environment).memory
    (andThen first next memory environment).environment
  revert middle
  unfold andThen
  rcases first memory environment with ⟨fault | value, memory₁, environment₁⟩
  · exact id
  · exact rest value memory₁ environment₁

theorem attempt {operation : Operation ε σ α} (keeps : Keeps kept operation) :
    Keeps kept (attempt operation : Operation ε' σ (Except ε α)) := by
  intro memory environment holds
  have after := keeps memory environment holds
  revert after
  unfold Operation.attempt
  rcases operation memory environment with ⟨(_ | cause) | value, memory₁, environment₁⟩ <;>
    exact id

theorem mapError {f : ε → ε'} {operation : Operation ε σ α} (keeps : Keeps kept operation) :
    Keeps kept (mapError f operation) :=
  keeps

theorem revise {f : σ → σ}
    (revised : ∀ memory environment, kept memory environment → kept (f memory) environment) :
    Keeps kept (revise f : Operation ε σ Unit) :=
  revised

theorem onPart {part : τ → σ} {restore : σ → τ → τ} {operation : Operation ε σ α}
    {whole : τ → Environment → Prop} (keeps : Keeps kept operation)
    (take : ∀ memory environment, whole memory environment → kept (part memory) environment)
    (put : ∀ memory rest environment, kept rest environment → whole (restore rest memory) environment) :
    Keeps whole (onPart part restore operation) :=
  fun memory environment holds => put _ _ _ (keeps _ _ (take memory environment holds))

theorem send (lasting : Lasting kept) (request : Request) : Keeps kept (send request) :=
  fun _ _ holds => lasting _ _ _ holds (.exchange _ request)

theorem record (lasting : Lasting kept) (kind : FlowKind) (outcome : FlowOutcome) :
    Keeps kept (record kind outcome : Operation ε σ Unit) :=
  fun _ _ holds => lasting _ _ _ holds (.record _ kind outcome)

theorem observe (lasting : Lasting kept) (kind : FlowKind) {operation : Operation ε σ α}
    (keeps : Keeps kept operation) : Keeps kept (observe kind operation) := by
  refine bind (record lasting kind .attempt) fun _ => bind (attempt keeps) fun result => ?_
  cases result with
  | ok value => exact bind (record lasting kind .success) fun _ => succeed value
  | error cause => exact bind (record lasting kind .failure) fun _ => fail cause

end Keeps

theorem lasting_proceeds (base : Environment) :
    Lasting fun (_ : σ) environment => base.Proceeds environment :=
  fun _ _ _ near far => near.trans far

end Operation

end BearerIdentity
