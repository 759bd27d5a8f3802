import BearerIdentity.Proofs.Operation.Success

set_option autoImplicit false

namespace BearerIdentity.Operation

variable {ε ε' σ τ α β : Type} {kind other : ε → Prop}

/-- Whatever error an operation ends with is of this kind. -/
def Raises (kind : ε → Prop) (operation : Operation ε σ α) : Prop :=
  ∀ memory environment cause, (operation memory environment).result = .error (.error cause) → kind cause

namespace Raises

theorem mono {operation : Operation ε σ α} (raises : Raises kind operation)
    (weaker : ∀ cause, kind cause → other cause) : Raises other operation :=
  fun _ _ _ failed => weaker _ (raises _ _ _ failed)

theorem ofExcept {result : Except ε α} (raised : ∀ cause, result = .error cause → kind cause) :
    Raises kind (ofExcept result : Operation ε σ α) := by
  intro memory environment cause failed
  cases result with
  | ok value => cases failed
  | error other =>
    cases failed
    exact raised _ rfl

theorem succeed (value : α) : Raises kind (succeed value : Operation ε σ α) := by
  intro memory environment cause failed
  cases failed

theorem fail {cause : ε} (raised : kind cause) : Raises kind (fail cause : Operation ε σ α) := by
  intro memory environment other failed
  cases failed
  exact raised

theorem ofOption {missing : ε} {found : Option α} (raised : found = none → kind missing) :
    Raises kind (ofOption missing found : Operation ε σ α) := by
  cases found with
  | some value => exact succeed value
  | none => exact fail (raised rfl)

theorem ofDated {result : Except (Fault ε) α}
    (raised : ∀ cause, result = .error (.error cause) → kind cause) :
    Raises kind (ofDated result : Operation ε σ α) :=
  fun _ _ => raised

theorem memory : Raises kind (Operation.memory : Operation ε σ σ) := by
  intro memory environment cause failed
  cases failed

theorem now : Raises kind (Operation.now : Operation ε σ Instant) := by
  intro memory environment cause failed
  cases failed

theorem revise (f : σ → σ) : Raises kind (revise f : Operation ε σ Unit) := by
  intro memory environment cause failed
  cases failed

theorem bind {first : Operation ε σ α} {next : α → Operation ε σ β} (start : Raises kind first)
    (rest : ∀ value, Raises kind (next value)) : Raises kind (first >>= next) := by
  intro memory environment cause failed
  change (andThen first next memory environment).result = _ at failed
  unfold andThen at failed
  rcases begun : first memory environment with ⟨fault | value, memory₁, environment₁⟩
  · rw [begun] at failed
    cases failed
    exact start memory environment cause (congrArg Outcome.result begun)
  · rw [begun] at failed
    exact rest value memory₁ environment₁ cause failed

theorem mapError {f : ε → ε'} {operation : Operation ε σ α} {kind' : ε' → Prop}
    (raises : Raises kind operation) (mapped : ∀ cause, kind cause → kind' (f cause)) :
    Raises kind' (mapError f operation) := by
  intro memory environment cause failed
  obtain ⟨_ | origin, raised, same⟩ := exists_of_mapError failed
  · cases same
  · cases same
    exact mapped origin (raises memory environment origin raised)

theorem onPart (part : τ → σ) (restore : σ → τ → τ) {operation : Operation ε σ α}
    (raises : Raises kind operation) : Raises kind (onPart part restore operation) :=
  fun memory environment => raises (part memory) environment

theorem observe (flow : FlowKind) {operation : Operation ε σ α} (raises : Raises kind operation) :
    Raises kind (observe flow operation) := by
  intro memory environment cause failed
  rw [result_observe] at failed
  exact raises _ _ _ failed

end Raises

end BearerIdentity.Operation
