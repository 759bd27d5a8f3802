import BearerIdentity.Cache.Flight
import BearerIdentity.Proofs.Keyed

set_option autoImplicit false

/- Runs of overlapping calls. A run is a list of turns, latest first, and a turn is a move together with
the rule for stale values that is in force when it is made. What a single turn can do is said once, by
`Step`. -/

namespace BearerIdentity.Flight

variable {α : Type}

structure Turn (α : Type) where
  isStale : α → (updatedAt now : Instant) → Bool
  move : Move α

/-- A turn from a flight: what becomes of the flight, and what comes of it for the call. -/
def take (flight : Flight α) (turn : Turn α) : Flight α × Report α :=
  flight.step turn.isStale turn.move

/-- The flight after some turns, the latest of which comes first. -/
def after (begun : Flight α) : (turns : List (Turn α)) → Flight α
  | [] => begun
  | turn :: earlier => ((after begun earlier).take turn).1

/-- The call that makes a move and may be answered by it. -/
def caller? : Move α → Option Nat
  | .start id _ | .acquire id | .finish id _ _ => some id
  | .cancel _ | .clear | .reclaim => none

def refreshing? (flight : Flight α) (id : Nat) : Option Nat :=
  match flight.call? id with
  | some ⟨_, .refreshing generation⟩ => some generation
  | _ => none

/-- The outcome of the refresh that a turn ends, if it ends one. -/
def ends? (flight : Flight α) (turn : Turn α) : Option (Except Error α) :=
  match turn.move with
  | .finish id outcome _ => (flight.refreshing? id).map fun _ => outcome
  | _ => none

/-- The outcomes of the refreshes that have ended, the latest first. -/
def ended (begun : Flight α) : (turns : List (Turn α)) → List (Except Error α)
  | [] => []
  | turn :: earlier => ((after begun earlier).ends? turn).toList ++ ended begun earlier

/-- A call is under way from the beginning of a run to its end. -/
def IsUnderWay (begun : Flight α) (id : Nat) : (turns : List (Turn α)) → Prop
  | [] => (begun.call? id).isSome = true
  | turn :: earlier =>
    ((after begun (turn :: earlier)).call? id).isSome = true ∧ IsUnderWay begun id earlier

theorem after_append (begun : Flight α) (later earlier : List (Turn α)) :
    after begun (later ++ earlier) = after (after begun earlier) later := by
  induction later with
  | nil => rfl
  | cons turn later same => simp only [List.cons_append, after, same]

theorem ended_append (begun : Flight α) (later earlier : List (Turn α)) :
    ended begun (later ++ earlier) = ended (after begun earlier) later ++ ended begun earlier := by
  induction later with
  | nil => rfl
  | cons turn later same =>
    simp only [List.cons_append, ended, same, after_append, List.append_assoc]

theorem IsUnderWay.at_moment {begun : Flight α} {id : Nat} (later : List (Turn α))
    {earlier : List (Turn α)} (underWay : IsUnderWay begun id (later ++ earlier)) :
    ((after begun earlier).call? id).isSome = true := by
  induction later with
  | nil =>
    cases earlier with
    | nil => exact underWay
    | cons turn earlier => exact underWay.1
  | cons turn later moment => exact moment underWay.2

section Calls

variable (flight : Flight α) (id other : Nat)

theorem id_of_call? {flight : Flight α} {id : Nat} {call : Call} (found : flight.call? id = some call) :
    call.id = id := by
  have same := List.find?_some found
  exact beq_iff_eq.mp same

theorem mem_of_call? {flight : Flight α} {id : Nat} {call : Call}
    (found : flight.call? id = some call) : call ∈ flight.calls :=
  List.mem_of_find?_eq_some found

theorem isSome_call?_of_mem {flight : Flight α} {call : Call} (member : call ∈ flight.calls) :
    (flight.call? call.id).isSome = true := by
  rw [call?, List.find?_isSome]
  exact ⟨call, member, beq_self_eq_true _⟩

theorem call?_without :
    (flight.without other).call? id = if id = other then none else flight.call? id := by
  have found := Keyed.find?_without Call.id flight.calls other id
  simp only [beq_iff_eq, @eq_comm Nat other id] at found
  exact found

theorem call?_withStage (stage : Stage) :
    (flight.withStage other stage).call? id =
      (flight.call? id).map fun call => if call.id == other then { call with stage } else call := by
  unfold call? withStage
  rw [List.find?_map]
  congr 2
  funext call
  simp only [Function.comp_apply]
  split <;> rfl

theorem call?_append (stage : Stage) :
    (Flight.mk flight.cache (flight.calls ++ [⟨other, stage⟩])).call? id =
      (flight.call? id).or (if other = id then some ⟨other, stage⟩ else none) := by
  unfold call?
  rw [List.find?_append]
  congr 1
  simp only [List.find?_cons, List.find?_nil]
  by_cases same : other = id
  · simp [same]
  · simp [same, beq_eq_false_iff_ne.mpr same]

end Calls

section Refreshing

variable {flight : Flight α} {id generation : Nat}

theorem refreshing?_eq_some :
    flight.refreshing? id = some generation ↔ flight.call? id = some ⟨id, .refreshing generation⟩ := by
  unfold refreshing?
  constructor
  · intro found
    split at found
    · rename_i same other present
      cases found
      obtain rfl : same = id := id_of_call? present
      exact present
    · cases found
  · intro present
    rw [present]

theorem isSome_call?_of_refreshing (refreshing : flight.refreshing? id = some generation) :
    (flight.call? id).isSome = true :=
  Option.isSome_of_mem (refreshing?_eq_some.mp refreshing)

theorem refreshing?_of_without {other : Nat}
    (refreshing : (flight.without other).refreshing? id = some generation) :
    flight.refreshing? id = some generation := by
  rw [refreshing?_eq_some, call?_without] at refreshing
  split at refreshing
  · cases refreshing
  · exact refreshing?_eq_some.mpr refreshing

theorem refreshing?_of_append {other seen : Nat}
    (refreshing : (Flight.mk flight.cache (flight.calls ++ [⟨other, .waiting seen⟩])).refreshing? id =
      some generation) :
    flight.refreshing? id = some generation := by
  rw [refreshing?_eq_some, call?_append] at refreshing
  cases present : flight.call? id with
  | some call =>
    rw [present, Option.some_or] at refreshing
    rw [refreshing?_eq_some, present]
    exact refreshing
  | none =>
    rw [present, Option.none_or] at refreshing
    split at refreshing
    · cases refreshing
    · cases refreshing

theorem refreshing?_of_withStage {other present : Nat}
    (refreshing : (flight.withStage other (.refreshing present)).refreshing? id = some generation) :
    flight.refreshing? id = some generation ∨ id = other ∧ generation = present := by
  rw [refreshing?_eq_some, call?_withStage] at refreshing
  obtain ⟨before, found, same⟩ := Option.map_eq_some_iff.mp refreshing
  split at same
  · rename_i matching
    cases same
    exact .inr ⟨beq_iff_eq.mp matching, rfl⟩
  · subst same
    exact .inl (refreshing?_eq_some.mpr found)

end Refreshing

section Ends

variable {flight : Flight α} {turn : Turn α} {id : Nat} {outcome : Except Error α} {now : Instant}

theorem ends?_of_idle (made : turn.move = .finish id outcome now)
    (idle : flight.refreshing? id = none) : flight.ends? turn = none := by
  simp only [ends?, made, idle, Option.map_none]

theorem ends?_of_refreshing (made : turn.move = .finish id outcome now) {generation : Nat}
    (found : flight.call? id = some ⟨id, .refreshing generation⟩) :
    flight.ends? turn = some outcome := by
  simp only [ends?, made, refreshing?, found, Option.map_some]

end Ends

/-- What a move can do to a flight, with the condition for each. -/
inductive Step (flight : Flight α) (isStale : α → (updatedAt now : Instant) → Bool) :
    Move α → Flight α → Report α → Prop where
  | busy (id : Nat) (now : Instant) (present : (flight.call? id).isSome = true) :
      Step flight isStale (.start id now) flight .nothing
  | hit (id : Nat) (now : Instant) (value : α) (idle : flight.call? id = none)
      (fresh : flight.cache.fresh? isStale now = some value) :
      Step flight isStale (.start id now) flight (.answered (.ok value))
  | wait (id : Nat) (now : Instant) (idle : flight.call? id = none)
      (missed : flight.cache.fresh? isStale now = none) :
      Step flight isStale (.start id now)
        ⟨flight.cache, flight.calls ++ [⟨id, .waiting flight.cache.epoch⟩]⟩ .nothing
  | blocked (id : Nat)
      (taken : ∀ seen, flight.call? id = some ⟨id, .waiting seen⟩ → flight.isRefreshing = true) :
      Step flight isStale (.acquire id) flight .nothing
  | share (id seen : Nat) (result : Except Error α)
      (found : flight.call? id = some ⟨id, .waiting seen⟩)
      (shared : flight.cache.shared? seen = some result) :
      Step flight isStale (.acquire id) (flight.without id) (.answered result)
  | refresh (id seen : Nat) (found : flight.call? id = some ⟨id, .waiting seen⟩)
      (free : flight.isRefreshing = false) (unshared : flight.cache.shared? seen = none) :
      Step flight isStale (.acquire id) (flight.withStage id (.refreshing flight.cache.generation))
        .begun
  | pointless (id : Nat) (outcome : Except Error α) (now : Instant)
      (idle : flight.refreshing? id = none) :
      Step flight isStale (.finish id outcome now) flight .nothing
  | finish (id generation : Nat) (outcome : Except Error α) (now : Instant)
      (found : flight.call? id = some ⟨id, .refreshing generation⟩) :
      Step flight isStale (.finish id outcome now)
        ⟨flight.cache.settle generation outcome now, (flight.without id).calls⟩
        (.answered (Cache.reported outcome))
  | cancel (id : Nat) : Step flight isStale (.cancel id) (flight.without id) .nothing
  | clear : Step flight isStale .clear ⟨flight.cache.clear, flight.calls⟩ .nothing
  | reclaim :
      Step flight isStale .reclaim ⟨flight.cache.reclaim?.getD flight.cache, flight.calls⟩ .nothing

namespace Step

variable {flight next : Flight α} {isStale : α → (updatedAt now : Instant) → Bool} {move : Move α}
  {report : Report α}

/-- A refresh that is under way after a move was so before, or has just begun in the present
generation. -/
theorem refreshing (made : Step flight isStale move next report) {id generation : Nat}
    (refreshing : next.refreshing? id = some generation) :
    flight.refreshing? id = some generation ∨
      move = .acquire id ∧ report = .begun ∧ generation = flight.cache.generation := by
  cases made with
  | busy other now present => exact .inl refreshing
  | hit other now value idle fresh => exact .inl refreshing
  | wait other now idle missed => exact .inl (refreshing?_of_append refreshing)
  | blocked other taken => exact .inl refreshing
  | share other seen result found shared => exact .inl (refreshing?_of_without refreshing)
  | refresh other seen found free unshared =>
    rcases refreshing?_of_withStage refreshing with before | ⟨rfl, same⟩
    · exact .inl before
    · exact .inr ⟨rfl, rfl, same⟩
  | pointless other outcome now idle => exact .inl refreshing
  | finish other generation outcome now found => exact .inl (refreshing?_of_without refreshing)
  | cancel other => exact .inl (refreshing?_of_without refreshing)
  | clear => exact .inl refreshing
  | reclaim => exact .inl refreshing

end Step

/-- Every move does what `Step` says. -/
theorem step_spec (flight : Flight α) (isStale : α → (updatedAt now : Instant) → Bool)
    (move : Move α) :
    Step flight isStale move (flight.step isStale move).1 (flight.step isStale move).2 := by
  cases move with
  | start id now =>
    simp only [step]
    cases idle : flight.call? id with
    | some call => exact .busy id now (Option.isSome_of_mem idle)
    | none =>
      simp only [start]
      cases fresh : flight.cache.fresh? isStale now with
      | some value => exact .hit id now value idle fresh
      | none => exact .wait id now idle fresh
  | acquire id =>
    simp only [step]
    rcases found : flight.call? id with _ | ⟨same, seen | generation⟩
    · refine .blocked id fun seen waiting => ?_
      rw [found] at waiting
      cases waiting
    · obtain rfl : same = id := id_of_call? found
      dsimp only
      cases free : flight.isRefreshing with
      | true => exact .blocked same fun _ _ => free
      | false =>
        simp only [acquire]
        cases shared : flight.cache.shared? seen with
        | some result => exact .share same seen result found shared
        | none => exact .refresh same seen found free shared
    · refine .blocked id fun seen waiting => ?_
      rw [found] at waiting
      cases waiting
  | finish id outcome now =>
    simp only [step]
    rcases found : flight.call? id with _ | ⟨same, seen | generation⟩
    · exact .pointless id outcome now (by simp only [refreshing?, found])
    · exact .pointless id outcome now (by simp only [refreshing?, found])
    · obtain rfl : same = id := id_of_call? found
      exact .finish same generation outcome now found
  | cancel id => exact .cancel id
  | clear => exact .clear
  | reclaim => exact .reclaim

/-- The three ways for a call to be answered. -/
theorem answered_cases {flight : Flight α} {turn : Turn α} {id : Nat} {result : Except Error α}
    (caller : caller? turn.move = some id) (answered : (flight.take turn).2 = .answered result) :
    (∃ now value, turn.move = .start id now ∧
        flight.cache.fresh? turn.isStale now = some value ∧ result = .ok value) ∨
      (∃ seen, turn.move = .acquire id ∧ flight.call? id = some ⟨id, .waiting seen⟩ ∧
        flight.cache.shared? seen = some result) ∨
      ∃ generation outcome now, turn.move = .finish id outcome now ∧
        flight.call? id = some ⟨id, .refreshing generation⟩ ∧ result = Cache.reported outcome := by
  obtain ⟨isStale, move⟩ := turn
  have made := step_spec flight isStale move
  rw [show (flight.step isStale move).2 = .answered result from answered] at made
  generalize (flight.step isStale move).1 = next at made
  cases made with
  | hit other now value idle fresh =>
    cases caller
    exact .inl ⟨now, value, rfl, fresh, rfl⟩
  | share other seen result found shared =>
    cases caller
    exact .inr (.inl ⟨seen, rfl, found, shared⟩)
  | finish other generation outcome now found =>
    cases caller
    exact .inr (.inr ⟨generation, outcome, now, rfl, found, rfl⟩)

end BearerIdentity.Flight
