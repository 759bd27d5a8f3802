import BearerIdentity.Proofs.Operation.Success

set_option autoImplicit false

namespace BearerIdentity.Operation

variable {ε ε' σ τ α β : Type}

section Results

variable {memory : σ} {environment : Environment}

/-- One operation after another has no answer where the first has none, or where the second has none
after the first has succeeded. -/
theorem result_bind_eq_calendar_iff {first : Operation ε σ α} {next : α → Operation ε σ β} :
    ((first >>= next) memory environment).result = .error .calendar ↔
      (first memory environment).result = .error .calendar ∨
        ∃ value memory₁ environment₁, first memory environment = ⟨.ok value, memory₁, environment₁⟩ ∧
          (next value memory₁ environment₁).result = .error .calendar := by
  change (andThen first next memory environment).result = _ ↔ _
  unfold andThen
  rcases first memory environment with ⟨fault | value, memory₁, environment₁⟩
  · simp
  · constructor
    · intro left
      exact .inr ⟨value, memory₁, environment₁, rfl, left⟩
    · intro left
      rcases left with impossible | ⟨_, _, _, same, left⟩
      · cases impossible
      · cases same
        exact left

/-- An error that is turned into another one is an answer before and after. -/
theorem result_mapError_eq_calendar_iff {f : ε → ε'} {operation : Operation ε σ α} :
    (mapError f operation memory environment).result = .error .calendar ↔
      (operation memory environment).result = .error .calendar := by
  unfold mapError
  rcases operation memory environment with ⟨(_ | cause) | value, memory₁, environment₁⟩
  · simp [Fault.map]
  · simp [Fault.map]
  · simp

end Results

/-- Whatever the memory and the environment are, the operation has a result or an error. -/
def Answers (operation : Operation ε σ α) : Prop :=
  ∀ memory environment, (operation memory environment).result ≠ .error .calendar

namespace Answers

theorem succeed (value : α) : Answers (succeed value : Operation ε σ α) := by
  intro memory environment left
  cases left

theorem fail (cause : ε) : Answers (fail cause : Operation ε σ α) := by
  intro memory environment left
  cases left

theorem ofExcept (result : Except ε α) : Answers (ofExcept result : Operation ε σ α) := by
  cases result with
  | ok value => exact succeed value
  | error cause => exact fail cause

theorem ofOption (missing : ε) (found : Option α) :
    Answers (ofOption missing found : Operation ε σ α) := by
  cases found with
  | some value => exact succeed value
  | none => exact fail missing

theorem memory : Answers (Operation.memory : Operation ε σ σ) := by
  intro memory environment left
  cases left

theorem now : Answers (Operation.now : Operation ε σ Instant) := by
  intro memory environment left
  cases left

theorem send (request : Request) : Answers (send request : Operation TransportError σ Response) := by
  intro memory environment left
  obtain ⟨cause, -, same⟩ := exists_of_mapError left
  cases same

theorem bind {first : Operation ε σ α} {next : α → Operation ε σ β} (start : Answers first)
    (rest : ∀ value, Answers (next value)) : Answers (first >>= next) := by
  intro memory environment left
  rcases result_bind_eq_calendar_iff.mp left with left | ⟨value, memory₁, environment₁, -, left⟩
  · exact start memory environment left
  · exact rest value memory₁ environment₁ left

theorem mapError {f : ε → ε'} {operation : Operation ε σ α} (answers : Answers operation) :
    Answers (mapError f operation) := by
  intro memory environment left
  exact answers memory environment (result_mapError_eq_calendar_iff.mp left)

theorem onPart (part : τ → σ) (restore : σ → τ → τ) {operation : Operation ε σ α}
    (answers : Answers operation) : Answers (onPart part restore operation) :=
  fun memory environment => answers (part memory) environment

theorem observe (flow : FlowKind) {operation : Operation ε σ α} (answers : Answers operation) :
    Answers (observe flow operation) := by
  intro memory environment left
  rw [result_observe] at left
  exact answers _ _ left

end Answers

end BearerIdentity.Operation
