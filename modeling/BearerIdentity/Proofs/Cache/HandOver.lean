import BearerIdentity.Proofs.Cache.SharedOutcome

set_option autoImplicit false

namespace BearerIdentity.Flight

variable {α : Type} {flight next begun : Flight α} {outcomes : List (Except Error α)}
  {isStale : α → (updatedAt now : Instant) → Bool} {move : Move α} {report : Report α} {id : Nat}

theorem Step.not_begun (made : flight.Step isStale move next report)
    (taken : flight.isRefreshing = true) : report ≠ .begun := by
  cases made with
  | refresh id seen found free unshared =>
    rw [taken] at free
    cases free
  | _ => nofun

theorem Step.refreshing_stays (made : flight.Step isStale move next report) {generation : Nat}
    (refreshing : flight.refreshing? id = some generation)
    (present : (next.call? id).isSome = true) : next.refreshing? id = some generation := by
  have found := refreshing?_eq_some.mp refreshing
  rw [refreshing?_eq_some]
  cases made with
  | busy | hit | blocked | pointless | clear | reclaim => exact found
  | wait other now idle missed => rw [call?_append, found, Option.some_or]
  | share | finish | cancel => exact (call?_without_of_isSome present).trans found
  | refresh other seen waiting free unshared => exact absurd found (call?_ne_of_free free generation)

theorem refreshing_throughout {generation : Nat} (refreshing : flight.refreshing? id = some generation)
    {turns : List (Turn α)} (underWay : IsUnderWay flight id turns) :
    (after flight turns).refreshing? id = some generation := by
  induction turns with
  | nil => exact refreshing
  | cons turn earlier stays =>
    exact (step_spec _ turn.isStale turn.move).refreshing_stays (stays underWay.2) underWay.1

theorem Step.cache_eq (made : flight.Step isStale move next report) (orderly : flight.Orderly outcomes)
    (inTurn : flight.IsInTurn move) {generation : Nat}
    (refreshing : flight.refreshing? id = some generation)
    (present : (next.call? id).isSome = true) : next.cache = flight.cache := by
  cases made with
  | finish other generation' outcome now found =>
    -- No other refresh than the one of the call is there to end, and that one goes on.
    have made : flight.Step isStale (.finish other outcome now) _ _ :=
      .finish other generation' outcome now found
    have stays := made.refreshing_stays refreshing present
    have member := mem_of_call? (refreshing?_eq_some.mp stays)
    have idle := orderly.alone found _ member
    cases idle
  | clear => exact inTurn.elim
  | reclaim => exact inTurn.elim
  | _ => rfl

/-- A call got the guard at some turn and began a refresh, and has been under way ever since. -/
structure Beginning (begun : Flight α) (id : Nat) (during : List (Turn α)) (start : Turn α)
    (earlier : List (Turn α)) : Prop where
  acquires : start.move = .acquire id
  begins : ((after begun earlier).take start).2 = .begun
  underWay : IsUnderWay (after begun (start :: earlier)) id during

theorem cache_take_acquire (turn : Turn α) (acquires : turn.move = .acquire id) :
    (flight.take turn).1.cache = flight.cache := by
  rw [take, acquires]
  have made := step_spec flight turn.isStale (.acquire id)
  generalize (flight.step turn.isStale (.acquire id)).1 = next at made ⊢
  generalize (flight.step turn.isStale (.acquire id)).2 = report at made
  cases made <;> rfl

/-- Every refresh that is under way began at some turn, and the cache is as it was then. -/
theorem beginning_of_refreshing {maxAge : Option Int} {retention : Retention} {turns : List (Turn α)}
    (inOrder : InOrder (ofCache (Cache.empty maxAge retention)) turns) {generation : Nat}
    (refreshing : (after (ofCache (Cache.empty maxAge retention)) turns).refreshing? id =
      some generation) :
    ∃ during start earlier, turns = during ++ start :: earlier ∧
      Beginning (ofCache (Cache.empty maxAge retention)) id during start earlier ∧
      (after (ofCache (Cache.empty maxAge retention)) turns).cache =
        (after (ofCache (Cache.empty maxAge retention)) earlier).cache := by
  induction turns with
  | nil => cases refreshing
  | cons turn earlier beginning =>
    have made := step_spec (after (ofCache (Cache.empty maxAge retention)) earlier) turn.isStale turn.move
    have present := isSome_call?_of_refreshing refreshing
    rcases made.refreshing refreshing with before | ⟨acquires, begins, -⟩
    · obtain ⟨during, start, origin, rfl, since, same⟩ := beginning inOrder.2 before
      refine ⟨turn :: during, start, origin, rfl, { since with underWay := ⟨?_, since.underWay⟩ }, ?_⟩
      · rw [← after_append]
        exact present
      · exact (made.cache_eq (orderly_after maxAge retention _) inOrder.1 before present).trans same
    · exact ⟨[], turn, earlier, rfl, ⟨acquires, begins, present⟩, cache_take_acquire turn acquires⟩

def IsQuiet (begun : Flight α) : (turns : List (Turn α)) → Prop
  | [] => True
  | turn :: earlier => ((after begun earlier).take turn).2 ≠ .begun ∧ IsQuiet begun earlier

/-- What becomes of the calls that wait when a refresh is given up. -/
structure HandsOver (left : Flight α) : Prop where
  /-- As long as one of them is under way and no refresh has begun, exactly one of them can begin the next:
  the first that is still under way, when it gets the guard. -/
  next : ∀ later id, InOrder left later → IsQuiet left later → IsUnderWay left id later →
    ∃ first ∈ left.calls, (after left later).IsInTurn (.acquire first.id) ∧
      ∀ turn : Turn α, (after left later).IsInTurn turn.move →
        (((after left later).take turn).2 = .begun ↔ turn.move = .acquire first.id)
  /-- No other begins one before that refresh is over. -/
  alone : ∀ later id, ∀ turn : Turn α, turn.move = .acquire id →
    ((after left later).take turn).2 = .begun → ∀ more,
      IsUnderWay (after left (turn :: later)) id more → ∀ last : Turn α,
        ((after (after left (turn :: later)) more).take last).2 ≠ .begun
  /-- If nothing else happens, the first of them begins a refresh, and all others wait for it. -/
  served : ∀ first rest, left.calls = first :: rest → ∀ isStale now count,
    serveFor isStale now (count + 1) left [] =
      (⟨left.cache, ⟨first.id, .refreshing left.cache.generation⟩ :: rest⟩, [],
        [⟨.acquire first.id, .begun⟩])

/-- The guard is free, none of the calls under way has anything to share, and a call that waited when the
refresh was given up still does, behind others that did or as the first. -/
structure Orphaned (left : Flight α) (id : Nat) (flight : Flight α) : Prop where
  waits : ∀ call ∈ flight.calls, call.stage = .waiting flight.cache.epoch
  order : ∃ old new, flight.calls = old ++ new ∧ old.Sublist left.calls ∧ ∃ call ∈ old, call.id = id

namespace Orphaned

variable {left : Flight α} (orphaned : Orphaned left id flight)

include orphaned

theorem free : flight.isRefreshing = false :=
  isRefreshing_of_waits fun call member => ⟨_, orphaned.waits call member⟩

theorem unshared {call : Call} (member : call ∈ flight.calls) {seen : Nat}
    (waiting : call.stage = .waiting seen) : flight.cache.shared? seen = none := by
  have stage := orphaned.waits call member
  rw [waiting] at stage
  cases stage
  rw [Cache.shared?, if_pos rfl]

theorem exists_first : ∃ first rest, flight.calls = first :: rest ∧ first ∈ left.calls := by
  obtain ⟨old, new, calls, sublist, call, member, -⟩ := orphaned.order
  cases old with
  | nil => cases member
  | cons first old => exact ⟨first, old ++ new, calls, sublist.subset List.mem_cons_self⟩

theorem without {other : Nat} (different : id ≠ other) : Orphaned left id (flight.without other) where
  waits := fun call member => orphaned.waits call (mem_without.mp member).1
  order := by
    obtain ⟨old, new, calls, sublist, call, member, same⟩ := orphaned.order
    refine ⟨old.filter (·.id != other), new.filter (·.id != other), ?_,
      List.filter_sublist.trans sublist, call, ?_, same⟩
    · rw [Flight.without, calls, List.filter_append]
    · exact List.mem_filter.mpr ⟨member, bne_iff_ne.mpr (same ▸ different)⟩

theorem wait (other : Nat) :
    Orphaned left id ⟨flight.cache, flight.calls ++ [⟨other, .waiting flight.cache.epoch⟩]⟩ where
  waits := by
    intro call member
    rcases List.mem_append.mp member with present | new
    · exact orphaned.waits call present
    · rw [List.mem_singleton.mp new]
  order := by
    obtain ⟨old, new, calls, kept⟩ := orphaned.order
    exact ⟨old, new ++ _, by rw [calls, List.append_assoc], kept⟩

theorem step (made : flight.Step isStale move next report) (inTurn : flight.IsInTurn move)
    (quiet : report ≠ .begun) (present : (next.call? id).isSome = true) : Orphaned left id next := by
  cases made with
  | busy | hit | blocked | pointless => exact orphaned
  | wait other now idle missed => exact orphaned.wait other
  | share other seen result found shared =>
    -- No refresh has ended since any of the calls began to wait.
    rw [orphaned.unshared (mem_of_call? found) rfl] at shared
    cases shared
  | refresh => exact absurd rfl quiet
  | finish other generation outcome now found =>
    exact absurd found (call?_ne_of_free orphaned.free generation)
  | cancel other =>
    refine orphaned.without ?_
    rintro rfl
    rw [call?_without, if_pos rfl] at present
    cases present
  | clear => exact inTurn.elim
  | reclaim => exact inTurn.elim

theorem begun_iff {first : Call} {rest : List Call} (calls : flight.calls = first :: rest)
    (made : flight.Step isStale move next report) (inTurn : flight.IsInTurn move) :
    report = .begun ↔ move = .acquire first.id := by
  have waiting : flight.call? first.id = some ⟨first.id, .waiting flight.cache.epoch⟩ := by
    have stage := orphaned.waits first (calls ▸ List.mem_cons_self)
    rw [call?_first calls, ← stage]
  constructor
  · rintro rfl
    cases made with
    | refresh other seen found free unshared =>
      obtain ⟨call, others, same, rfl⟩ := inTurn free (Option.isSome_of_mem found)
      rw [calls] at same
      cases same
      rfl
  · rintro rfl
    cases made with
    | blocked _ taken =>
      have taken := taken _ waiting
      rw [orphaned.free] at taken
      cases taken
    | share _ seen result found shared =>
      rw [orphaned.unshared (mem_of_call? found) rfl] at shared
      cases shared
    | refresh => rfl

end Orphaned

theorem refreshing_of_begun {turn : Turn α} (acquires : turn.move = .acquire id)
    (begins : (flight.take turn).2 = .begun) :
    (flight.take turn).1.refreshing? id = some flight.cache.generation := by
  rw [take, acquires] at *
  have made := step_spec flight turn.isStale (.acquire id)
  rw [begins] at made
  generalize (flight.step turn.isStale (.acquire id)).1 = next at made ⊢
  cases made with
  | refresh _ seen found free unshared =>
    rw [refreshing?_eq_some, call?_withStage, found, Option.map_some, if_pos (beq_self_eq_true id)]

section Left

variable {left : Flight α}

theorem orphaned_after (waits : ∀ call ∈ left.calls, call.stage = .waiting left.cache.epoch)
    {later : List (Turn α)} (inOrder : InOrder left later) (quiet : IsQuiet left later)
    (underWay : IsUnderWay left id later) : Orphaned left id (after left later) := by
  induction later with
  | nil =>
    obtain ⟨call, found⟩ := Option.isSome_iff_exists.mp underWay
    exact ⟨waits, left.calls, [], (List.append_nil _).symm, .refl _, call, mem_of_call? found,
      id_of_call? found⟩
  | cons turn earlier orphaned =>
    exact (orphaned inOrder.2 quiet.2 underWay.2).step (step_spec _ turn.isStale turn.move) inOrder.1
      quiet.1 underWay.1

theorem serveFor_of_refreshing {call : Call} {rest : List Call} {generation : Nat}
    (first : flight.calls = call :: rest) (refreshing : call.stage = .refreshing generation)
    (isStale : α → (updatedAt now : Instant) → Bool) (now : Instant) (count : Nat) :
    serveFor isStale now count flight [] = (flight, [], []) := by
  cases count with
  | zero => rfl
  | succ count =>
    obtain ⟨id, stage⟩ := call
    obtain rfl : stage = .refreshing generation := refreshing
    simp only [serveFor, due?, first]

/-- Calls that have all seen the present epoch wait for the first of them. -/
theorem handsOver (distinct : (left.calls.map (·.id)).Nodup)
    (waits : ∀ call ∈ left.calls, call.stage = .waiting left.cache.epoch) : HandsOver left where
  next := by
    intro later id inOrder quiet underWay
    have orphaned := orphaned_after waits inOrder quiet underWay
    obtain ⟨first, rest, calls, waited⟩ := orphaned.exists_first
    refine ⟨first, waited, fun _ _ => ⟨first, rest, calls, rfl⟩, fun turn inTurn => ?_⟩
    exact orphaned.begun_iff calls (step_spec _ turn.isStale turn.move) inTurn
  alone := by
    intro later id turn acquires begins more underWay last
    have refreshing := refreshing_throughout (refreshing_of_begun acquires begins) underWay
    exact (step_spec _ last.isStale last.move).not_begun (isRefreshing_of_refreshing? refreshing)
  served := by
    intro first rest calls isStale now count
    have stage := waits first (calls ▸ List.mem_cons_self)
    have found : left.call? first.id = some ⟨first.id, .waiting left.cache.epoch⟩ := by
      rw [call?_first calls, ← stage]
    have free : left.isRefreshing = false :=
      isRefreshing_of_waits fun call member => ⟨_, waits call member⟩
    have unshared : left.cache.shared? left.cache.epoch = none := by
      rw [Cache.shared?, if_pos rfl]
    have moved : left.withStage first.id (.refreshing left.cache.generation) =
        ⟨left.cache, ⟨first.id, .refreshing left.cache.generation⟩ :: rest⟩ := by
      rw [← calls_withStage calls distinct]
      rfl
    have made : left.step isStale (.acquire first.id) =
        (⟨left.cache, ⟨first.id, .refreshing left.cache.generation⟩ :: rest⟩, .begun) := by
      simp only [step, found, free, acquire, unshared, moved, Bool.false_eq_true, ite_false]
    have due : left.due? [] now = some (.acquire first.id) := by
      obtain ⟨id, _⟩ := first
      cases stage
      simp only [due?, calls]
    rw [serveFor, due]
    simp only [made, Entry.remaining]
    rw [serveFor_of_refreshing rfl rfl]

end Left

/-- The refresh of a call ends with an outcome. The call reports it, and all others share it. -/
structure Completes (flight : Flight α) (leader : Nat) (outcome : Except Error α) (turn : Turn α) :
    Prop where
  reports : (flight.take turn).2 = .answered (Cache.reported outcome)
  others : ∀ id, id ≠ leader → (flight.call? id).isSome = true →
    ((flight.take turn).1.call? id).isSome = true
  shares : Shares (flight.take turn).1 outcome

/-- The refresh of a call is given up. The cache is as it was before the refresh began, and the next of the
other calls begins another one. -/
structure GivesUp (begun : Flight α) (turns : List (Turn α)) (leader : Nat) (turn : Turn α) : Prop where
  restored : ∃ during start earlier, turns = during ++ start :: earlier ∧
    Beginning begun leader during start earlier ∧
    (after begun (turn :: turns)).cache = (after begun earlier).cache
  others : ∀ id, id ≠ leader → ((after begun turns).call? id).isSome = true →
    ((after begun (turn :: turns)).call? id).isSome = true
  handsOver : HandsOver (after begun (turn :: turns))

section Ends

variable {leader generation : Nat} {turn : Turn α}

theorem Queued.completes (queued : flight.Queued) (orderly : flight.Orderly outcomes)
    (refreshing : flight.refreshing? leader = some generation) {outcome : Except Error α} {now : Instant}
    (finishes : turn.move = .finish leader outcome now) : Completes flight leader outcome turn := by
  have found := refreshing?_eq_some.mp refreshing
  have made : flight.take turn = flight.finish leader generation outcome now := by
    rw [take, finishes]
    simp only [Flight.step, found]
  refine ⟨by rw [made]; rfl, fun id other present => ?_, ?_⟩
  · rw [made]
    exact (call?_without flight id leader).trans (if_neg other) ▸ present
  · rw [made]
    exact (stocked_finish queued orderly found outcome now).shares

theorem Queued.handsOver (queued : flight.Queued) (orderly : flight.Orderly outcomes)
    (refreshing : flight.refreshing? leader = some generation) : HandsOver (flight.without leader) := by
  have found := refreshing?_eq_some.mp refreshing
  refine Flight.handsOver (orderly.without leader).distinct fun call member => ?_
  obtain ⟨seen, stage⟩ := exists_waiting (orderly.alone found call member)
  have present := mem_without.mp member
  rw [stage, queued.led (isRefreshing_of_refreshing? refreshing) call present.1 seen stage]
  rfl

end Ends

/-- In every run in order, the calls that wait for a refresh share its outcome if it ends, and start where it
started if it is given up. -/
theorem ends_or_passes_on (maxAge : Option Int) (retention : Retention) (turns : List (Turn α))
    (inOrder : InOrder (ofCache (Cache.empty maxAge retention)) turns) (leader generation : Nat)
    (refreshing : (after (ofCache (Cache.empty maxAge retention)) turns).refreshing? leader =
      some generation) :
    (∀ (turn : Turn α) (outcome : Except Error α) (now : Instant),
      turn.move = .finish leader outcome now →
        Completes (after (ofCache (Cache.empty maxAge retention)) turns) leader outcome turn) ∧
    ∀ turn : Turn α, turn.move = .cancel leader →
      GivesUp (ofCache (Cache.empty maxAge retention)) turns leader turn := by
  have orderly := orderly_after maxAge retention turns
  have queued := queued_after maxAge retention inOrder
  refine ⟨fun turn outcome now finishes => queued.completes orderly refreshing finishes, ?_⟩
  intro turn cancels
  have left : after (ofCache (Cache.empty maxAge retention)) (turn :: turns) =
      (after (ofCache (Cache.empty maxAge retention)) turns).without leader := by
    rw [after, take, cancels]
    rfl
  refine ⟨?_, fun id other present => ?_, left ▸ queued.handsOver orderly refreshing⟩
  · obtain ⟨during, start, earlier, split, beginning, same⟩ := beginning_of_refreshing inOrder refreshing
    refine ⟨during, start, earlier, split, beginning, ?_⟩
    rw [left]
    exact same
  · rw [left, call?_without, if_neg other]
    exact present

namespace Procession

def never : Nat → (updatedAt now : Instant) → Bool := fun _ _ _ => false

def turns : List (Turn Nat) :=
  [⟨never, .start 3 ⟨2⟩⟩, ⟨never, .start 2 ⟨1⟩⟩, ⟨never, .acquire 1⟩, ⟨never, .start 1 ⟨0⟩⟩]

def assembled : Flight Nat :=
  after (ofCache (Cache.empty none .strong)) turns

def ending : Turn Nat :=
  ⟨never, .finish 1 (.ok 7) ⟨5⟩⟩

def abandoning : Turn Nat :=
  ⟨never, .cancel 1⟩

theorem inOrder : InOrder (ofCache (Cache.empty none .strong)) turns :=
  ⟨trivial, trivial, fun _ _ => ⟨_, _, rfl, rfl⟩, trivial, trivial⟩

/-- Two calls wait for the refresh of a third. Either both get what it fetches, or one of them fetches.
-/
theorem shared_or_begun_again :
    InOrder (ofCache (Cache.empty none .strong)) turns ∧ assembled.refreshing? 1 = some 0 ∧
      (serveFor never ⟨6⟩ 2 (assembled.take ending).1 []).2.2 =
        [⟨.acquire 2, .answered (.ok 7)⟩, ⟨.acquire 3, .answered (.ok 7)⟩] ∧
      (serveFor never ⟨6⟩ 2 (assembled.take abandoning).1 []).2.2 = [⟨.acquire 2, .begun⟩] ∧
      Completes assembled 1 (.ok 7) ending ∧
      GivesUp (ofCache (Cache.empty none .strong)) turns 1 abandoning := by
  have refreshing : assembled.refreshing? 1 = some 0 := rfl
  have ends := ends_or_passes_on none .strong turns inOrder 1 0 refreshing
  have completes : Completes assembled 1 (.ok 7) ending := ends.1 ending (.ok 7) ⟨5⟩ rfl
  have givesUp := ends.2 abandoning rfl
  have both := completes.shares.served never ⟨6⟩ []
  have first := givesUp.handsOver.served _ _ rfl never ⟨6⟩ 1
  exact ⟨inOrder, refreshing, congrArg (·.2.2) both, congrArg (·.2.2) first, completes, givesUp⟩

end Procession

end BearerIdentity.Flight
