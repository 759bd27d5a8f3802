import BearerIdentity.Proofs.Cache.Order

set_option autoImplicit false

/- What a cache holds, and since when. Until it is emptied, it has on record how refreshes have ended,
and shows the latest end: a value or a failure, and never both. Its date is that of the latest value on
record. So the value that it holds was stored then; but where a refresh has failed, the value is gone
and the date has stayed. -/

namespace BearerIdentity

namespace Cache

variable {α : Type}

structure Ending (α : Type) where
  outcome : Except Error α
  date : Instant

namespace Ending

def value? (ending : Ending α) : Option α :=
  match ending.outcome with
  | .ok value => some value
  | .error _ => none

def failure? (ending : Ending α) : Option Error :=
  match ending.outcome with
  | .ok _ => none
  | .error cause => some cause

def stored? (ending : Ending α) : Option Instant :=
  ending.value?.map fun _ => ending.date

theorem value?_eq_some {ending : Ending α} {value : α} :
    ending.value? = some value ↔ ending = ⟨.ok value, ending.date⟩ := by
  obtain ⟨_ | found, date⟩ := ending
  · simp [value?]
  · simp [value?]

theorem stored?_eq_none {ending : Ending α} : ending.stored? = none ↔ ending.value? = none :=
  Option.map_eq_none_iff

theorem failure?_eq_none {ending : Ending α} : ending.failure? = none ↔ ending.value? ≠ none := by
  obtain ⟨_ | found, date⟩ := ending
  · simp [value?, failure?]
  · simp [value?, failure?]

end Ending

/-- The date of the latest value among the endings, the latest of which comes first. -/
def lastStored (endings : List (Ending α)) : Instant :=
  (endings.findSome? Ending.stored?).getD .epoch

/-- A cache shows the latest of these endings, and the date of the latest value. -/
structure Shows (cache : Cache α) (endings : List (Ending α)) : Prop where
  value : cache.value = endings.head?.bind Ending.value?
  failure : cache.failure = endings.head?.bind Ending.failure?
  updatedAt : cache.updatedAt = lastStored endings

namespace Shows

variable {cache : Cache α} {endings : List (Ending α)}

theorem failure_eq_none (shows : cache.Shows endings) {value : α} (stored : cache.value = some value) :
    cache.failure = none := by
  rw [shows.value] at stored
  obtain ⟨latest, first, yielded⟩ := Option.bind_eq_some_iff.mp stored
  have unfailed : latest.failure? = none := Ending.failure?_eq_none.mpr (by simp [yielded])
  rw [shows.failure, first, Option.bind_some, unfailed]

theorem settle (shows : cache.Shows endings) (generation : Nat) (outcome : Except Error α)
    (now : Instant) :
    (cache.settle generation outcome now).Shows
      (if generation = cache.generation then ⟨outcome, now⟩ :: endings else endings) := by
  by_cases current : generation = cache.generation
  · subst current
    rw [if_pos rfl]
    cases outcome with
    | ok value =>
      rw [settle_ok]
      exact ⟨rfl, rfl, rfl⟩
    | error cause =>
      rw [settle_error]
      exact ⟨rfl, rfl, shows.updatedAt⟩
  · rw [if_neg current, settle_of_ne (Ne.symm current)]
    exact ⟨shows.value, shows.failure, shows.updatedAt⟩

theorem reclaim (shows : cache.Shows endings) :
    (cache.reclaim?.getD cache).Shows (if cache.reclaim?.isSome then [] else endings) := by
  cases given : cache.reclaim? with
  | none => exact shows
  | some freed =>
    unfold reclaim? at given
    split at given
    next value _ stored =>
      cases given
      exact ⟨rfl, shows.failure_eq_none stored, rfl⟩
    next => cases given

end Shows

/-- What the date of a cache tells, if these endings are on record. -/
structure Dated (cache : Cache α) (endings : List (Ending α)) : Prop where
  /-- A value and a failure never stand side by side. -/
  exclusive : cache.value = none ∨ cache.failure = none
  /-- A value was stored at the date, and no refresh has been put on record since. -/
  held : ∀ value, cache.value = some value →
    ∃ earlier, endings = ⟨.ok value, cache.updatedAt⟩ :: earlier
  /-- With neither a value nor a failure, there is no date. -/
  blank : cache.value = none → cache.failure = none → cache.updatedAt = .epoch
  /-- A cache without a value has the date of one exactly if that value was stored then, and only
  failures have been put on record since. -/
  outdated : ∀ date, date ≠ .epoch → (cache.value = none ∧ cache.updatedAt = date ↔
    ∃ failures value earlier, endings = failures ++ ⟨.ok value, date⟩ :: earlier ∧ failures ≠ [] ∧
      ∀ ending ∈ failures, ending.value? = none)

/-- The date of the latest value, if it was not stored at the very beginning. -/
theorem lastStored_eq_iff {endings : List (Ending α)} {date : Instant} (late : date ≠ .epoch) :
    lastStored endings = date ↔ ∃ failures value earlier,
      endings = failures ++ ⟨.ok value, date⟩ :: earlier ∧
        ∀ ending ∈ failures, ending.value? = none := by
  have found : lastStored endings = date ↔ endings.findSome? Ending.stored? = some date := by
    unfold lastStored
    cases endings.findSome? Ending.stored? with
    | none => simpa using late.symm
    | some stored => simp
  rw [found, List.findSome?_eq_some_iff]
  constructor
  · rintro ⟨failures, ending, earlier, rfl, stored, unstored⟩
    obtain ⟨value, yielded, rfl⟩ := Option.map_eq_some_iff.mp stored
    refine ⟨failures, value, earlier, ?_, fun other member => ?_⟩
    · rw [← Ending.value?_eq_some.mp yielded]
    · exact Ending.stored?_eq_none.mp (unstored other member)
  · rintro ⟨failures, value, earlier, rfl, failed⟩
    refine ⟨failures, _, earlier, rfl, rfl, fun other member => ?_⟩
    exact Ending.stored?_eq_none.mpr (failed other member)

theorem Shows.dated {cache : Cache α} {endings : List (Ending α)} (shows : cache.Shows endings) :
    cache.Dated endings where
  exclusive := by
    cases stored : cache.value with
    | none => exact .inl rfl
    | some value => exact .inr (shows.failure_eq_none stored)
  held := by
    intro value stored
    rw [shows.value] at stored
    obtain ⟨latest, first, yielded⟩ := Option.bind_eq_some_iff.mp stored
    obtain ⟨earlier, rfl⟩ := List.head?_eq_some_iff.mp first
    have dated : cache.updatedAt = latest.date := by
      rw [shows.updatedAt, lastStored, List.findSome?_cons, Ending.stored?, yielded]
      rfl
    rw [dated, ← Ending.value?_eq_some.mp yielded]
    exact ⟨earlier, rfl⟩
  blank := by
    intro unstored unfailed
    rw [shows.value] at unstored
    rw [shows.failure] at unfailed
    cases endings with
    | nil => exact shows.updatedAt
    | cons latest earlier => exact absurd unstored (Ending.failure?_eq_none.mp unfailed)
  outdated := by
    intro date late
    rw [shows.updatedAt, lastStored_eq_iff late, shows.value]
    constructor
    · rintro ⟨unstored, failures, value, earlier, rfl, failed⟩
      refine ⟨failures, value, earlier, rfl, ?_, failed⟩
      rintro rfl
      cases unstored
    · rintro ⟨failures, value, earlier, rfl, some, failed⟩
      refine ⟨?_, failures, value, earlier, rfl, failed⟩
      obtain ⟨latest, others, rfl⟩ := List.exists_cons_of_ne_nil some
      exact failed latest List.mem_cons_self

end Cache

namespace Flight

variable {α : Type} {flight : Flight α}

/-- The ending that a turn puts on record: that of a refresh which began in the present generation. -/
def recorded? (flight : Flight α) (turn : Turn α) : Option (Cache.Ending α) :=
  match turn.move with
  | .finish id outcome now =>
    if flight.refreshing? id = some flight.cache.generation then some ⟨outcome, now⟩ else none
  | _ => none

/-- Whether a turn empties the cache: it is cleared, or gives up a value. -/
def isEmptied (flight : Flight α) (turn : Turn α) : Bool :=
  match turn.move with
  | .clear => true
  | .reclaim => flight.cache.reclaim?.isSome
  | _ => false

def recordOf (flight : Flight α) (turn : Turn α) (endings : List (Cache.Ending α)) :
    List (Cache.Ending α) :=
  if flight.isEmptied turn then [] else (flight.recorded? turn).toList ++ endings

/-- What is on record after some turns: how refreshes have ended since the cache was last emptied, the
latest first. -/
def record (begun : Flight α) : (turns : List (Turn α)) → List (Cache.Ending α)
  | [] => []
  | turn :: earlier => (after begun earlier).recordOf turn (record begun earlier)

theorem Step.shows {endings : List (Cache.Ending α)}
    {isStale : α → (updatedAt now : Instant) → Bool} {move : Move α} {next : Flight α}
    {report : Report α} (made : flight.Step isStale move next report)
    (shows : flight.cache.Shows endings) :
    next.cache.Shows (flight.recordOf ⟨isStale, move⟩ endings) := by
  cases made with
  | pointless id outcome now idle =>
    have unrecorded : flight.recorded? ⟨isStale, .finish id outcome now⟩ = none := by
      simp [recorded?, idle]
    simpa [recordOf, isEmptied, unrecorded] using shows
  | finish id generation outcome now found =>
    have settled := shows.settle generation outcome now
    have refreshing : flight.refreshing? id = some generation := refreshing?_eq_some.mpr found
    have recorded : flight.recordOf ⟨isStale, .finish id outcome now⟩ endings =
        if generation = flight.cache.generation then ⟨outcome, now⟩ :: endings else endings := by
      simp only [recordOf, isEmptied, recorded?, refreshing, Option.some.injEq]
      by_cases current : generation = flight.cache.generation
      · simp [current]
      · simp [current]
    rw [recorded]
    exact settled
  | clear => exact ⟨rfl, rfl, rfl⟩
  | reclaim => exact shows.reclaim
  | _ => exact shows

/-- In every run, the date of the cache tells no more and no less than this. -/
theorem dated_after (maxAge : Option Int) (retention : Retention) (turns : List (Turn α)) :
    (after (ofCache (Cache.empty maxAge retention)) turns).cache.Dated
      (record (ofCache (Cache.empty maxAge retention)) turns) := by
  refine Cache.Shows.dated ?_
  induction turns with
  | nil => exact ⟨rfl, rfl, rfl⟩
  | cons turn earlier shows => exact (step_spec _ turn.isStale turn.move).shows shows

namespace Relapse

def always : Nat → (updatedAt now : Instant) → Bool := fun _ _ _ => true

def turns : List (Turn Nat) :=
  [⟨always, .finish 2 (.error (.invalidClient "down")) ⟨2000⟩⟩, ⟨always, .acquire 2⟩,
    ⟨always, .start 2 ⟨2000⟩⟩, ⟨always, .finish 1 (.ok 7) ⟨1000⟩⟩, ⟨always, .acquire 1⟩,
    ⟨always, .start 1 ⟨1000⟩⟩]

/-- An empty cache can have a date. -/
theorem not_always_undated : ¬ ∀ (maxAge : Option Int) (retention : Retention) (turns : List (Turn Nat)),
    (after (ofCache (Cache.empty maxAge retention)) turns).cache.value = none →
      (after (ofCache (Cache.empty maxAge retention)) turns).cache.updatedAt = .epoch := by
  intro always
  have undated := always none .strong turns rfl
  revert undated
  decide

end Relapse

end Flight

end BearerIdentity
