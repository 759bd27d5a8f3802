import BearerIdentity.Proofs.Operation.Invariant

set_option autoImplicit false

namespace BearerIdentity.Operation

variable {ε σ α β : Type}

/-- An operation gives a verdict, and gives it again when it is called once more at the same instant
with the memory that it has left behind. -/
structure Repeats (operation : Operation ε σ α) (memory : σ) (environment : Environment)
    (verdict : Except ε α) : Prop where
  proceeds : environment.Proceeds (operation memory environment).environment
  first : (operation memory environment).result = verdict.mapError .error
  again : ∀ later, (operation memory environment).environment.Proceeds later →
    (operation (operation memory environment).memory later).result = verdict.mapError .error

namespace Repeats

variable {memory : σ} {environment : Environment}

theorem ofExcept (verdict : Except ε α) :
    Repeats (ofExcept verdict : Operation ε σ α) memory environment verdict := by
  cases verdict with
  | ok value => exact ⟨.refl environment, rfl, fun _ _ => rfl⟩
  | error cause => exact ⟨.refl environment, rfl, fun _ _ => rfl⟩

/-- What is computed from a verdict is repeated with it. -/
theorem bind_ofExcept {operation : Operation ε σ α} {verdict : Except ε α} (f : α → Except ε β)
    (repeats : Repeats operation memory environment verdict) :
    Repeats (operation >>= fun value => Operation.ofExcept (f value)) memory environment
      (verdict >>= f) := by
  have same : (verdict.mapError Fault.error >>= fun value => (f value).mapError .error) =
      (verdict >>= f).mapError .error := by
    cases verdict <;> rfl
  refine ⟨?_, ?_, ?_⟩
  · rw [bind_ofExcept_apply]
    exact repeats.proceeds
  · rw [bind_ofExcept_apply, repeats.first, same]
  · intro later passed
    rw [bind_ofExcept_apply] at passed ⊢
    rw [bind_ofExcept_apply, repeats.again later passed, same]

/-- A condition that depends on neither memory nor environment may come first. -/
theorem ofExcept_bind {condition : Except ε α} {next : α → Operation ε σ β}
    (rest : ∀ value, condition = .ok value → ∃ verdict, Repeats (next value) memory environment verdict) :
    ∃ verdict, Repeats (Operation.ofExcept condition >>= next) memory environment verdict := by
  cases condition with
  | ok value => exact rest value rfl
  | error cause => exact ⟨.error cause, ofExcept (.error cause)⟩

theorem ofOption_bind {missing : ε} {found : Option α} {next : α → Operation ε σ β}
    (rest : ∀ value, found = some value → ∃ verdict, Repeats (next value) memory environment verdict) :
    ∃ verdict, Repeats (Operation.ofOption missing found >>= next) memory environment verdict := by
  cases found with
  | some value => exact rest value rfl
  | none => exact ⟨.error missing, ofExcept (.error missing)⟩

/-- The clock may be read first, since it stands still. -/
theorem now_bind {next : Instant → Operation ε σ β}
    (rest : ∃ verdict, Repeats (next environment.now) memory environment verdict) :
    ∃ verdict, Repeats (Operation.now >>= next) memory environment verdict := by
  obtain ⟨verdict, repeats⟩ := rest
  refine ⟨verdict, repeats.proceeds, repeats.first, ?_⟩
  intro later passed
  have still : later.now = environment.now := (repeats.proceeds.trans passed).now
  show (next later.now _ later).result = _
  rw [still]
  exact repeats.again later passed

end Repeats

end BearerIdentity.Operation
