import BearerIdentity.Cache.Renewal
import BearerIdentity.Proofs.Cache.Holding
import BearerIdentity.Proofs.Operation.Invariant

set_option autoImplicit false

namespace BearerIdentity

namespace Renewal

open Operation

variable {σ α : Type} (renewal : Renewal σ α)

/-- A refresh is a fetch whose outcome is stored, unless an instant left the calendar. -/
theorem refresh_apply (cache : Cache α) (memory : σ) (environment : Environment) :
    renewal.refresh (cache, memory) environment =
      match observe renewal.kind renewal.fetch memory environment with
      | ⟨.ok value, memory, environment⟩ =>
        ⟨.ok value, (cache.settle cache.generation (.ok value) environment.now, memory), environment⟩
      | ⟨.error (.error cause), memory, environment⟩ =>
        ⟨.error (.error (.refresh cause)),
          (cache.settle cache.generation (.error cause) environment.now, memory), environment⟩
      | ⟨.error .calendar, memory, environment⟩ =>
        ⟨.error .calendar, (cache, memory), environment⟩ := by
  simp only [refresh, Bind.bind, andThen, Operation.memory, attempt, onSecond, onPart]
  rcases observe renewal.kind renewal.fetch memory environment with
    ⟨(_ | cause) | found, memory₁, environment₁⟩ <;> rfl

theorem refresh_eq_ok {cache : Cache α} {memory : σ} {environment environment' : Environment}
    {kept : Cache α × σ} {value : α} :
    renewal.refresh (cache, memory) environment = ⟨.ok value, kept, environment'⟩ ↔
      ∃ memory', observe renewal.kind renewal.fetch memory environment =
          ⟨.ok value, memory', environment'⟩ ∧
        (cache.settle cache.generation (.ok value) environment'.now, memory') = kept := by
  rw [refresh_apply]
  rcases observe renewal.kind renewal.fetch memory environment with
    ⟨(_ | cause) | found, memory₁, environment₁⟩
  · simp
  · simp
  · simp only [Outcome.mk.injEq, Except.ok.injEq]
    constructor
    · rintro ⟨rfl, rfl, rfl⟩
      exact ⟨memory₁, ⟨rfl, rfl, rfl⟩, rfl⟩
    · rintro ⟨_, ⟨rfl, rfl, rfl⟩, rfl⟩
      exact ⟨rfl, rfl, rfl⟩

theorem environment_refresh (cache : Cache α) (memory : σ) (environment : Environment) :
    ∃ flows, (renewal.refresh (cache, memory) environment).environment =
      { (renewal.fetch memory (environment.record renewal.kind .attempt)).environment with flows } := by
  obtain ⟨flows, observed⟩ := exists_observe renewal.kind renewal.fetch memory environment
  refine ⟨flows, ?_⟩
  rw [refresh_apply, observed]
  rcases renewal.fetch memory (environment.record renewal.kind .attempt) with
    ⟨(_ | cause) | value, memory₁, environment₁⟩
  · rfl
  · rfl
  · rfl

theorem sent_refresh (cache : Cache α) (memory : σ) (environment : Environment) :
    (renewal.refresh (cache, memory) environment).environment.sent =
      (renewal.fetch memory (environment.record renewal.kind .attempt)).environment.sent := by
  obtain ⟨flows, ends⟩ := renewal.environment_refresh cache memory environment
  rw [ends]

/-- A cache answers by itself with a value that is young enough and not stale. -/
theorem get_apply (cache : Cache α) (memory : σ) (environment : Environment) :
    renewal.get (cache, memory) environment =
      match cache.unaged? environment.now with
      | none => renewal.refresh (cache, memory) environment
      | some value =>
        match renewal.isStale value environment.now with
        | .ok true => renewal.refresh (cache, memory) environment
        | .ok false => ⟨.ok value, (cache, memory), environment⟩
        | .error (.error cause) => ⟨.error (.error cause), (cache, memory), environment⟩
        | .error .calendar => ⟨.error .calendar, (cache, memory), environment⟩ := by
  simp only [get, Bind.bind, andThen, Operation.memory, Operation.now]
  cases cache.unaged? environment.now with
  | none => rfl
  | some value =>
    dsimp only [andThen, ofDated]
    rcases renewal.isStale value environment.now with (_ | cause) | (_ | _) <;> rfl

theorem environment_get (cache : Cache α) (memory : σ) (environment : Environment) :
    (renewal.get (cache, memory) environment).environment = environment ∨
      renewal.get (cache, memory) environment = renewal.refresh (cache, memory) environment := by
  rw [get_apply]
  split
  · exact .inr rfl
  · split
    · exact .inr rfl
    · exact .inl rfl
    · exact .inl rfl
    · exact .inl rfl

theorem renew_apply (cache : Cache α) (memory : σ) (environment : Environment) :
    renewal.renew (cache, memory) environment =
      renewal.refresh (cache.clear, memory) environment := by
  show renewal.get (cache.clear, memory) environment = _
  rw [get_apply, Cache.unaged?_clear]

theorem get_eq_ok {cache : Cache α} {memory : σ} {environment environment' : Environment}
    {kept : Cache α × σ} {value : α}
    (given : renewal.get (cache, memory) environment = ⟨.ok value, kept, environment'⟩) :
    (cache.value = some value ∧ (cache, memory) = kept ∧ environment = environment') ∨
      renewal.refresh (cache, memory) environment = ⟨.ok value, kept, environment'⟩ := by
  rw [get_apply] at given
  split at given
  · exact .inr given
  · rename_i found young
    split at given
    · exact .inr given
    · simp only [Outcome.mk.injEq, Except.ok.injEq] at given
      obtain ⟨rfl, rfl, rfl⟩ := given
      exact .inl ⟨Cache.value_of_unaged? young, rfl, rfl⟩
    · cases given
    · cases given

section Invariant

variable {renewal}
variable {good : α → Environment → Prop} {kept : σ → Environment → Prop}

/-- What is known of a cache with a memory beside it. -/
def Sound (good : α → Environment → Prop) (kept : σ → Environment → Prop)
    (whole : Cache α × σ) (environment : Environment) : Prop :=
  whole.1.Holds good environment ∧ kept whole.2 environment

/-- What a fetch has to guarantee so that the cache holds good values only. -/
structure Fetches (renewal : Renewal σ α) (good : α → Environment → Prop)
    (kept : σ → Environment → Prop) : Prop where
  keeps : Keeps kept renewal.fetch
  proceeds : ∀ {memory : σ} {environment : Environment}, kept memory environment →
    environment.Proceeds (renewal.fetch memory environment).environment
  yields : ∀ {memory memory' : σ} {environment environment' : Environment} {value : α},
    kept memory environment →
    renewal.fetch memory environment = ⟨.ok value, memory', environment'⟩ → good value environment'
  lasting : Lasting kept
  yields_lasting : ∀ value earlier later,
    good value earlier → earlier.Extends later → good value later

namespace Fetches

theorem observe_proceeds (fetches : Fetches renewal good kept) {memory : σ}
    {environment : Environment} (known : kept memory environment) :
    environment.Proceeds (observe renewal.kind renewal.fetch memory environment).environment := by
  have begun := Environment.Proceeds.record environment renewal.kind .attempt
  have fetched := begun.trans (fetches.proceeds (fetches.lasting _ _ _ known begun))
  revert fetched
  rw [observe_apply]
  rcases renewal.fetch memory (environment.record renewal.kind .attempt) with
    ⟨(_ | cause) | value, memory₁, environment₁⟩
  · exact id
  · exact fun fetched => fetched.trans (.record _ _ _)
  · exact fun fetched => fetched.trans (.record _ _ _)

theorem observe_yields (fetches : Fetches renewal good kept) {memory memory' : σ}
    {environment environment' : Environment} {value : α} (known : kept memory environment)
    (observed : observe renewal.kind renewal.fetch memory environment =
      ⟨.ok value, memory', environment'⟩) : good value environment' := by
  obtain ⟨environment₁, fetched, rfl⟩ := observe_eq_ok.mp observed
  have begun := fetches.lasting _ _ _ known (.record environment renewal.kind .attempt)
  exact fetches.yields_lasting _ _ _ (fetches.yields begun fetched)
    (Environment.Proceeds.record _ _ _).toExtends

theorem refresh_keeps (fetches : Fetches renewal good kept) :
    Keeps (Sound good kept) renewal.refresh := by
  rintro ⟨cache, memory⟩ environment ⟨holds, known⟩
  have after := Keeps.observe fetches.lasting renewal.kind fetches.keeps memory environment known
  have grown := (fetches.observe_proceeds known).toExtends
  have later : cache.Holds good (observe renewal.kind renewal.fetch memory environment).environment :=
    holds.mono fun value found => fetches.yields_lasting value _ _ found grown
  rw [refresh_apply]
  cases run : observe renewal.kind renewal.fetch memory environment with
  | mk result memory₁ environment₁ =>
    rw [run] at after later
    rcases result with (_ | cause) | value
    · exact ⟨later, after⟩
    · have settled : (cache.settle cache.generation (.error cause) environment₁.now).Holds good
          environment₁ := by
        refine later.settle _ ?_ _
        intro value impossible
        cases impossible
      exact ⟨settled, after⟩
    · have fetched : good value environment₁ := fetches.observe_yields known run
      have settled : (cache.settle cache.generation (.ok value) environment₁.now).Holds good
          environment₁ := by
        refine later.settle _ ?_ _
        rintro _ ⟨⟩
        exact fetched
      exact ⟨settled, after⟩

theorem get_keeps (fetches : Fetches renewal good kept) :
    Keeps (Sound good kept) renewal.get := by
  rintro ⟨cache, memory⟩ environment sound
  have refreshed := fetches.refresh_keeps (cache, memory) environment sound
  rw [get_apply]
  split
  · exact refreshed
  · split
    · exact refreshed
    · exact sound
    · exact sound
    · exact sound

theorem renew_keeps (fetches : Fetches renewal good kept) :
    Keeps (Sound good kept) renewal.renew := by
  rintro ⟨cache, memory⟩ environment ⟨-, known⟩
  rw [renew_apply]
  exact fetches.refresh_keeps _ _ ⟨.of_none rfl rfl, known⟩

variable {cache : Cache α} {memory : σ} {environment environment' : Environment}
  {whole : Cache α × σ} {value : α}

theorem refresh_yields (fetches : Fetches renewal good kept) (known : kept memory environment)
    (refreshed : renewal.refresh (cache, memory) environment = ⟨.ok value, whole, environment'⟩) :
    good value environment' := by
  obtain ⟨memory', fetched, -⟩ := renewal.refresh_eq_ok.mp refreshed
  exact fetches.observe_yields known fetched

theorem get_yields (fetches : Fetches renewal good kept)
    (sound : Sound good kept (cache, memory) environment)
    (given : renewal.get (cache, memory) environment = ⟨.ok value, whole, environment'⟩) :
    good value environment' := by
  obtain ⟨stored, -, rfl⟩ | refreshed := renewal.get_eq_ok given
  · exact sound.1.value stored
  · exact fetches.refresh_yields sound.2 refreshed

end Fetches

end Invariant

end Renewal

end BearerIdentity
