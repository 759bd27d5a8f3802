import BearerIdentity.Cache.Basic
import BearerIdentity.Environment

set_option autoImplicit false

namespace BearerIdentity.Cache

variable {α : Type}

@[simp] theorem settle_ok (cache : Cache α) (value : α) (now : Instant) :
    cache.settle cache.generation (.ok value) now =
      { cache with epoch := cache.epoch + 1, value := some value, updatedAt := now, failure := none } := by
  simp [settle]

@[simp] theorem settle_error (cache : Cache α) (cause : Error) (now : Instant) :
    cache.settle cache.generation (.error cause) now =
      { cache with epoch := cache.epoch + 1, value := none, failure := some cause } := by
  simp [settle]

theorem settle_of_ne {cache : Cache α} {generation : Nat} (past : cache.generation ≠ generation)
    (outcome : Except Error α) (now : Instant) :
    cache.settle generation outcome now = { cache with epoch := cache.epoch + 1 } := by
  simp only [settle, past, ite_false]

@[simp] theorem generation_settle (cache : Cache α) (generation : Nat) (outcome : Except Error α)
    (now : Instant) : (cache.settle generation outcome now).generation = cache.generation := by
  unfold settle
  dsimp only
  split
  · cases outcome <;> rfl
  · rfl

@[simp] theorem epoch_settle (cache : Cache α) (generation : Nat) (outcome : Except Error α)
    (now : Instant) : (cache.settle generation outcome now).epoch = cache.epoch + 1 := by
  unfold settle
  dsimp only
  split
  · cases outcome <;> rfl
  · rfl

theorem reclaimed (cache : Cache α) :
    cache.reclaim?.getD cache = cache ∨
      cache.reclaim?.getD cache = { cache with value := none, updatedAt := .epoch } := by
  unfold reclaim?
  split
  · exact .inr rfl
  · exact .inl rfl

theorem unaged?_clear (cache : Cache α) (now : Instant) : cache.clear.unaged? now = none := by
  unfold unaged?
  split
  · rfl
  · split <;> rfl

theorem value_of_unaged? {cache : Cache α} {now : Instant} {value : α}
    (young : cache.unaged? now = some value) : cache.value = some value := by
  unfold unaged? at young
  split at young
  · exact young
  · split at young
    · cases young
    · exact young

theorem value_of_fresh? {cache : Cache α} {isStale : α → (updatedAt now : Instant) → Bool}
    {now : Instant} {value : α} (fresh : cache.fresh? isStale now = some value) :
    cache.value = some value :=
  value_of_unaged? (Option.filter_eq_some_iff.mp fresh).1

/-- Whatever the cache holds, value or failure, is a good outcome of a refresh. -/
structure Holding (good : Except Error α → Prop) (cache : Cache α) : Prop where
  value : ∀ value, cache.value = some value → good (.ok value)
  failure : ∀ failure, cache.failure = some failure → good (.error failure)

namespace Holding

variable {cache : Cache α} {good other : Except Error α → Prop}

theorem of_none (value : cache.value = none) (failure : cache.failure = none) :
    cache.Holding good where
  value := by
    intro found stored
    rw [value] at stored
    cases stored
  failure := by
    intro found stored
    rw [failure] at stored
    cases stored

theorem mono (holding : cache.Holding good) (weaker : ∀ outcome, good outcome → other outcome) :
    cache.Holding other :=
  ⟨fun value stored => weaker _ (holding.value value stored),
    fun failure stored => weaker _ (holding.failure failure stored)⟩

theorem reclaim (holding : cache.Holding good) : (cache.reclaim?.getD cache).Holding good := by
  rcases cache.reclaimed with same | freed
  · rw [same]
    exact holding
  · rw [freed]
    refine ⟨?_, holding.failure⟩
    intro value stored
    cases stored

theorem settle {generation : Nat} {outcome : Except Error α}
    (kept : cache.generation ≠ generation → cache.Holding good) (new : good outcome) (now : Instant) :
    (cache.settle generation outcome now).Holding good := by
  by_cases current : cache.generation = generation
  · subst current
    cases outcome with
    | ok value =>
      rw [settle_ok]
      refine ⟨?_, ?_⟩
      · rintro _ ⟨⟩
        exact new
      · rintro _ ⟨⟩
    | error cause =>
      rw [settle_error]
      refine ⟨?_, ?_⟩
      · rintro _ ⟨⟩
      · rintro _ ⟨⟩
        exact new
  · rw [settle_of_ne current]
    exact ⟨(kept current).value, (kept current).failure⟩

theorem of_shared? {seen : Nat} {result : Except Error α} (holding : cache.Holding good)
    (shared : cache.shared? seen = some result) :
    cache.epoch ≠ seen ∧ ∃ outcome, good outcome ∧ result = reported outcome := by
  unfold shared? at shared
  split at shared
  · cases shared
  · rename_i passed
    refine ⟨passed, ?_⟩
    split at shared
    · rename_i failure failed
      exact ⟨.error failure, holding.failure failure failed, (Option.some.inj shared).symm⟩
    · obtain ⟨value, stored, same⟩ := Option.map_eq_some_iff.mp shared
      exact ⟨.ok value, holding.value value stored, same.symm⟩

end Holding

def Holds (good : α → Environment → Prop) (cache : Cache α) (environment : Environment) : Prop :=
  cache.Holding fun outcome => ∀ value, outcome = .ok value → good value environment

namespace Holds

theorem anything (cache : Cache α) (environment : Environment) :
    cache.Holds (fun _ _ => True) environment :=
  Holding.mk (fun _ _ _ _ => trivial) fun _ _ _ _ => trivial

variable {cache : Cache α} {good : α → Environment → Prop} {environment later : Environment}

theorem value {value : α} (holds : cache.Holds good environment)
    (stored : cache.value = some value) : good value environment :=
  holds.1 value stored value rfl

theorem mono (holds : cache.Holds good environment)
    (lasts : ∀ value, good value environment → good value later) : cache.Holds good later :=
  Holding.mono holds fun _ fetched value same => lasts value (fetched value same)

theorem settle (holds : cache.Holds good environment) (generation : Nat)
    {outcome : Except Error α} (fetched : ∀ value, outcome = .ok value → good value environment)
    (now : Instant) : (cache.settle generation outcome now).Holds good environment :=
  Holding.settle (fun _ => holds) fetched now

theorem reclaim {freed : Cache α} (holds : cache.Holds good environment)
    (given : cache.reclaim? = some freed) : freed.Holds good environment := by
  have reclaimed := Holding.reclaim holds
  rw [given] at reclaimed
  exact reclaimed

end Holds

end BearerIdentity.Cache
