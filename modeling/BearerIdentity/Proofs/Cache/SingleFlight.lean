import BearerIdentity.Proofs.Cache.Order

set_option autoImplicit false

namespace BearerIdentity.Flight

variable {α : Type} {flight begun : Flight α}

/-- A call that is under way after a move was so before, perhaps at an earlier stage, or has just
started since the cache had no fresh value. -/
theorem Step.origin {isStale : α → (updatedAt now : Instant) → Bool} {move : Move α}
    {next : Flight α} {report : Report α} (made : flight.Step isStale move next report) {id : Nat}
    {call : Call} (found : next.call? id = some call) :
    (∃ before, flight.call? id = some before ∧
        (call.stage = before.stage ∨ ∃ generation, call.stage = .refreshing generation)) ∨
      ∃ now, move = .start id now ∧ flight.call? id = none ∧
        flight.cache.fresh? isStale now = none ∧ call.stage = .waiting flight.cache.epoch := by
  have without_case : ∀ other, (flight.without other).call? id = some call →
      ∃ before, flight.call? id = some before ∧
        (call.stage = before.stage ∨ ∃ generation, call.stage = .refreshing generation) := by
    intro other left
    rw [call?_without] at left
    split at left
    · cases left
    · exact ⟨call, left, .inl rfl⟩
  cases made with
  | busy other now present => exact .inl ⟨call, found, .inl rfl⟩
  | hit other now value idle fresh => exact .inl ⟨call, found, .inl rfl⟩
  | wait other now idle missed =>
    rw [call?_append] at found
    cases present : flight.call? id with
    | some before =>
      rw [present] at found
      cases found
      exact .inl ⟨_, rfl, .inl rfl⟩
    | none =>
      rw [present, Option.none_or] at found
      split at found
      · rename_i same
        subst same
        cases found
        exact .inr ⟨now, rfl, rfl, missed, rfl⟩
      · cases found
  | blocked other taken => exact .inl ⟨call, found, .inl rfl⟩
  | share other seen result waiting shared => exact .inl (without_case other found)
  | refresh other seen waiting free unshared =>
    rw [call?_withStage] at found
    obtain ⟨before, present, rfl⟩ := Option.map_eq_some_iff.mp found
    refine .inl ⟨before, present, ?_⟩
    split
    · exact .inr ⟨_, rfl⟩
    · exact .inl rfl
  | pointless other outcome now idle => exact .inl ⟨call, found, .inl rfl⟩
  | finish other generation outcome now refreshing => exact .inl (without_case other found)
  | cancel other => exact .inl (without_case other found)
  | clear => exact .inl ⟨call, found, .inl rfl⟩
  | reclaim => exact .inl ⟨call, found, .inl rfl⟩

/-- A call was idle, started without finding a fresh value, and has been under way ever since. -/
structure Origin (begun : Flight α) (id : Nat) (during : List (Turn α)) (start : Turn α)
    (earlier : List (Turn α)) : Prop where
  idle : (after begun earlier).call? id = none
  missed : ∃ now, start.move = .start id now ∧
    (after begun earlier).cache.fresh? start.isStale now = none
  waits : IsUnderWay (after begun (start :: earlier)) id during

/-- Every call that is under way started at some turn. While it waits, it has seen the epoch of then. -/
theorem origin_of_call? (fresh : begun.calls = []) (turns : List (Turn α)) {id : Nat} {call : Call}
    (found : (after begun turns).call? id = some call) :
    ∃ during start earlier, turns = during ++ start :: earlier ∧
      Origin begun id during start earlier ∧
      ∀ seen, call.stage = .waiting seen → seen = (after begun earlier).cache.epoch := by
  induction turns generalizing call with
  | nil =>
    have member := mem_of_call? found
    rw [after, fresh] at member
    cases member
  | cons turn earlier origins =>
    rcases (step_spec _ turn.isStale turn.move).origin found with
      ⟨before, present, stage⟩ | ⟨now, made, idle, missed, stage⟩
    · obtain ⟨during, start, origin, rfl, since, epoch⟩ := origins present
      have stays : IsUnderWay (after begun (start :: origin)) id (turn :: during) := by
        refine ⟨?_, since.waits⟩
        rw [← after_append]
        exact Option.isSome_of_mem found
      refine ⟨turn :: during, start, origin, rfl, { since with waits := stays }, ?_⟩
      intro seen waiting
      rcases stage with same | ⟨generation, refreshing⟩
      · exact epoch seen (same ▸ waiting)
      · rw [refreshing] at waiting
        cases waiting
    · refine ⟨[], turn, earlier, rfl, ?_, ?_⟩
      · exact ⟨idle, ⟨now, made, missed⟩, Option.isSome_of_mem found⟩
      · intro seen waiting
        rw [stage] at waiting
        cases waiting
        rfl

/-- Why a call may be answered with a result at a turn: it starts there and the value is fresh, or it
started earlier, found nothing fresh, and this is the outcome of the latest refresh that has ended
since. -/
inductive Answer (begun : Flight α) (turns : List (Turn α)) (turn : Turn α) (id : Nat) :
    Except Error α → Prop where
  | hit {now : Instant} {value : α} (made : turn.move = .start id now)
      (fresh : (after begun turns).cache.fresh? turn.isStale now = some value) :
      Answer begun turns turn id (.ok value)
  | refreshed {during earlier : List (Turn α)} {start : Turn α} {outcome : Except Error α}
      (split : turns = during ++ start :: earlier) (origin : Origin begun id during start earlier)
      (latest : (ended (after begun (start :: earlier)) (turn :: during)).head? = some outcome) :
      Answer begun turns turn id (Cache.reported outcome)

theorem ended_since {id : Nat} {during earlier : List (Turn α)} {start : Turn α}
    (origin : Origin begun id during start earlier) :
    ended begun (during ++ start :: earlier) =
      ended (after begun (start :: earlier)) during ++ ended begun earlier := by
  obtain ⟨now, made, -⟩ := origin.missed
  have endsNothing : (after begun earlier).ends? start = none := by
    simp only [ends?, made]
  rw [ended_append, ended, endsNothing]
  rfl

theorem latest_of_shared {turns : List (Turn α)}
    (orderly : (after begun turns).Orderly (ended begun turns)) {id seen : Nat}
    {during earlier : List (Turn α)} {start : Turn α} (split : turns = during ++ start :: earlier)
    (origin : Origin begun id during start earlier)
    (epoch : seen = (ended begun earlier).length) {result : Except Error α}
    (shared : (after begun turns).cache.shared? seen = some result) :
    ∃ outcome, result = Cache.reported outcome ∧
      (ended (after begun (start :: earlier)) during).head? = some outcome := by
  obtain ⟨passed, outcome, latest, same⟩ := orderly.holding.of_shared? shared
  have whole : ended begun turns =
      ended (after begun (start :: earlier)) during ++ ended begun earlier := by
    rw [split, ended_since origin]
  refine ⟨outcome, same, ?_⟩
  rw [orderly.epoch, whole, List.length_append, epoch] at passed
  rw [whole] at latest
  cases since : ended (after begun (start :: earlier)) during with
  | nil =>
    -- Nothing has ended, so the epoch would still be the one that was seen.
    rw [since, List.length_nil, Nat.zero_add] at passed
    exact absurd rfl passed
  | cons first others =>
    rw [since] at latest
    exact latest

theorem length_le_one {calls : List Call} (distinct : calls.Nodup)
    (same : ∀ first ∈ calls, ∀ second ∈ calls, first = second) : calls.length ≤ 1 := by
  cases calls with
  | nil => exact Nat.zero_le 1
  | cons first rest =>
    cases rest with
    | nil => exact Nat.le_refl 1
    | cons second others =>
      have equal := same first List.mem_cons_self second (List.mem_cons_of_mem _ List.mem_cons_self)
      rw [equal] at distinct
      exact absurd List.mem_cons_self (List.nodup_cons.mp distinct).1

theorem Orderly.countP_le_one {outcomes : List (Except Error α)} (orderly : flight.Orderly outcomes) :
    flight.calls.countP (·.isRefreshing) ≤ 1 := by
  have distinct : flight.calls.Nodup :=
    List.Pairwise.of_map (·.id) (fun _ _ different same => different (congrArg Call.id same))
      orderly.distinct
  rw [List.countP_eq_length_filter]
  apply length_le_one (distinct.sublist List.filter_sublist)
  intro first one second other
  obtain ⟨one, oneRefreshes⟩ := List.mem_filter.mp one
  obtain ⟨other, otherRefreshes⟩ := List.mem_filter.mp other
  exact orderly.single first one second other oneRefreshes otherRefreshes

/-- In every run from an empty cache, at most one call refreshes at a time, and every call is answered
with the value that was fresh when it started or with the outcome of the latest refresh that has
ended since. -/
theorem single_flight (maxAge : Option Int) (retention : Retention) (turns : List (Turn α)) :
    (after (ofCache (Cache.empty maxAge retention)) turns).calls.countP (·.isRefreshing) ≤ 1 ∧
      ∀ (turn : Turn α) (id : Nat) (result : Except Error α), caller? turn.move = some id →
        ((after (ofCache (Cache.empty maxAge retention)) turns).take turn).2 = .answered result →
        Answer (ofCache (Cache.empty maxAge retention)) turns turn id result := by
  have orderly := orderly_after maxAge retention turns
  refine ⟨orderly.countP_le_one, ?_⟩
  intro turn id result caller answered
  rcases answered_cases caller answered with ⟨now, value, made, fresh, rfl⟩ |
    ⟨seen, made, found, shared⟩ | ⟨generation, outcome, now, made, found, rfl⟩
  · exact .hit made fresh
  · obtain ⟨during, start, earlier, rfl, origin, epoch⟩ := origin_of_call? rfl turns found
    have count := (epoch seen rfl).trans (orderly_after maxAge retention earlier).epoch
    obtain ⟨outcome, rfl, latest⟩ := latest_of_shared orderly rfl origin count shared
    refine .refreshed rfl origin ?_
    simp only [ended, ends?, made, Option.toList_none, List.nil_append]
    exact latest
  · obtain ⟨during, start, earlier, rfl, origin, -⟩ := origin_of_call? rfl turns found
    refine .refreshed rfl origin ?_
    rw [ended, ← after_append, ends?_of_refreshing made found]
    rfl

namespace Sharing

def never : Nat → (updatedAt now : Instant) → Bool := fun _ _ _ => false

def turns : List (Turn Nat) :=
  [⟨never, .finish 1 (.ok 2) ⟨100⟩⟩, ⟨never, .start 2 ⟨100⟩⟩, ⟨never, .acquire 1⟩,
    ⟨never, .start 1 ⟨100⟩⟩, ⟨never, .finish 0 (.ok 1) ⟨0⟩⟩, ⟨never, .acquire 0⟩,
    ⟨never, .start 0 ⟨0⟩⟩]

/-- Two calls find the same aged value. The one that waits gets what the other one fetches. -/
theorem waiter_shares :
    ((after (ofCache (Cache.ageing 10)) turns).take ⟨never, .acquire 2⟩).2 = .answered (.ok 2) ∧
      Answer (ofCache (Cache.ageing 10)) turns ⟨never, .acquire 2⟩ 2 (.ok 2) :=
  ⟨rfl, (single_flight (some 10) .reclaimable turns).2 ⟨never, .acquire 2⟩ 2 (.ok 2) rfl rfl⟩

end Sharing

end BearerIdentity.Flight
