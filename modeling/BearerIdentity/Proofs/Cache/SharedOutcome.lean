import BearerIdentity.Proofs.Cache.Queue

set_option autoImplicit false

namespace BearerIdentity.Flight

variable {α : Type} {flight next : Flight α} {outcomes : List (Except Error α)}
  {isStale : α → (updatedAt now : Instant) → Bool} {move : Move α} {report : Report α} {id : Nat}

/-- The guard is free, nothing has changed in the cache since a refresh ended, and a call that waited then
still does. -/
structure Spared (done : Flight α) (id : Nat) (flight : Flight α) : Prop where
  same : flight.cache = done.cache
  free : flight.isRefreshing = false
  waits : ∃ seen < done.cache.epoch, flight.call? id = some ⟨id, .waiting seen⟩

/-- Nobody begins a refresh while a call is spared. -/
theorem Spared.not_begun {done : Flight α} (spared : Spared done id flight) (queued : flight.Queued)
    (made : flight.Step isStale move next report) (inTurn : flight.IsInTurn move) : report ≠ .begun := by
  cases made with
  | refresh other seen found free unshared =>
    -- The first call has seen no later epoch than the one that is spared, and so shares as well.
    obtain ⟨later, earlier, waits⟩ := spared.waits
    obtain ⟨call, rest, first, rfl⟩ := inTurn free (Option.isSome_of_mem found)
    rw [call?_first first] at found
    have waiting := congrArg Call.stage (Option.some.inj found)
    have present := queued.seen_of_unshared (first ▸ List.mem_cons_self) waiting unshared
    have order := queued.le_of_first first waiting (mem_of_call? waits) rfl
    rw [present, spared.same] at order
    exact absurd earlier (Nat.not_lt.mpr order)
  | _ => nofun

theorem Spared.step {done : Flight α} (spared : Spared done id flight) (queued : flight.Queued)
    (made : flight.Step isStale move next report) (inTurn : flight.IsInTurn move)
    (present : (next.call? id).isSome = true) : Spared done id next := by
  have left (other : Nat) (present : ((flight.without other).call? id).isSome = true) :
      Spared done id (flight.without other) := by
    obtain ⟨seen, earlier, waits⟩ := spared.waits
    exact ⟨spared.same, isRefreshing_without spared.free other, seen, earlier,
      (call?_without_of_isSome present).trans waits⟩
  cases made with
  | busy | hit | blocked | pointless => exact spared
  | wait other now idle missed =>
    obtain ⟨seen, earlier, waits⟩ := spared.waits
    refine ⟨spared.same, (isRefreshing_append other _).trans spared.free, seen, earlier, ?_⟩
    rw [call?_append, waits, Option.some_or]
  | share other seen result waiting shared => exact left other present
  | refresh other seen found free unshared =>
    have made : flight.Step isStale (.acquire other) _ _ := .refresh other seen found free unshared
    exact absurd rfl (spared.not_begun queued made inTurn)
  | finish other generation outcome now found =>
    exact absurd found (call?_ne_of_free spared.free generation)
  | cancel other => exact left other present
  | clear => exact inTurn.elim
  | reclaim => exact inTurn.elim

structure Shares (done : Flight α) (outcome : Except Error α) : Prop where
  /-- As long as one of them is under way, no call begins a refresh. -/
  unbegun : ∀ later id, InOrder done later → IsUnderWay done id later → ∀ turn : Turn α,
    (after done later).IsInTurn turn.move → ((after done later).take turn).2 ≠ .begun
  /-- Each of them gets the outcome as soon as it has the guard, -/
  acquires : ∀ later id, InOrder done later → IsUnderWay done id later → ∀ turn : Turn α,
    (after done later).IsInTurn turn.move → turn.move = .acquire id →
      ((after done later).take turn).2 = .answered (Cache.reported outcome)
  /-- and nothing else. -/
  answered : ∀ later id, InOrder done later → IsUnderWay done id later → ∀ turn : Turn α,
    (after done later).IsInTurn turn.move → caller? turn.move = some id →
      ∀ result, ((after done later).take turn).2 = .answered result → result = Cache.reported outcome
  /-- If nothing else happens, they are all answered one after another, and no outcome is needed. -/
  served : ∀ isStale now outcomes, serveFor isStale now done.calls.length done outcomes =
    (⟨done.cache, []⟩, outcomes,
      done.calls.map fun call => ⟨.acquire call.id, .answered (Cache.reported outcome)⟩)

structure Stocked (done : Flight α) (outcome : Except Error α) : Prop where
  queued : done.Queued
  orderly : ∃ outcomes, done.Orderly outcomes
  waits : ∀ call ∈ done.calls, ∃ seen < done.cache.epoch, call.stage = .waiting seen
  stored : ∀ seen < done.cache.epoch, done.cache.shared? seen = some (Cache.reported outcome)

/-- The outcome of a refresh that ends is there for all the calls that are left. -/
theorem stocked_finish (queued : flight.Queued) (orderly : flight.Orderly outcomes) {generation : Nat}
    (found : flight.call? id = some ⟨id, .refreshing generation⟩) (outcome : Except Error α)
    (now : Instant) :
    Stocked ⟨flight.cache.settle generation outcome now, (flight.without id).calls⟩ outcome where
  queued := queued.finish orderly found outcome now
  orderly := ⟨_, orderly.finish found outcome now⟩
  waits := by
    intro call member
    obtain ⟨seen, stage⟩ := exists_waiting (orderly.alone found call member)
    have bound := queued.bounded call (mem_without.mp member).1 seen stage
    rw [Cache.epoch_settle]
    exact ⟨seen, Nat.lt_succ_of_le bound, stage⟩
  stored := by
    intro seen earlier
    rw [Cache.epoch_settle] at earlier
    obtain rfl := queued.current _ (mem_of_call? found) generation rfl
    exact Cache.shared?_settle _ (Nat.le_of_lt_succ earlier) outcome now

section Stocked

variable {done : Flight α} {outcome : Except Error α}

/-- A call that is under way is spared. -/
theorem Stocked.spared (stocked : Stocked done outcome) {later : List (Turn α)}
    (inOrder : InOrder done later) (underWay : IsUnderWay done id later) :
    Spared done id (after done later) ∧ (after done later).Queued := by
  obtain ⟨outcomes, orderly⟩ := stocked.orderly
  refine ⟨?_, (stocked.queued.after orderly inOrder).1⟩
  induction later with
  | nil =>
    obtain ⟨call, found⟩ := Option.isSome_iff_exists.mp underWay
    obtain rfl := id_of_call? found
    obtain ⟨seen, earlier, stage⟩ := stocked.waits call (mem_of_call? found)
    refine ⟨rfl, isRefreshing_of_waits fun call member => ?_, seen, earlier, ?_⟩
    · obtain ⟨seen, -, stage⟩ := stocked.waits call member
      exact ⟨seen, stage⟩
    · rw [← stage]
      exact found
  | cons turn earlier spared =>
    exact (spared inOrder.2 underWay.2).step (stocked.queued.after orderly inOrder.2).1
      (step_spec _ turn.isStale turn.move) inOrder.1 underWay.1

/-- A call that is spared shares the outcome as soon as it has the guard. -/
theorem Spared.acquires (spared : Spared done id flight) (queued : flight.Queued)
    {result : Except Error α} (stored : ∀ seen < done.cache.epoch, done.cache.shared? seen = some result)
    (made : flight.Step isStale (.acquire id) next report) (inTurn : flight.IsInTurn (.acquire id)) :
    report = .answered result := by
  obtain ⟨seen, earlier, waits⟩ := spared.waits
  have begins := spared.not_begun queued made inTurn
  cases made with
  | blocked _ taken =>
    have taken := taken seen waits
    rw [spared.free] at taken
    cases taken
  | share _ seen' result' found shared =>
    rw [waits] at found
    cases found
    rw [spared.same, stored seen earlier] at shared
    cases shared
    rfl
  | refresh => exact absurd rfl begins

theorem serveFor_shared (isStale : α → (updatedAt now : Instant) → Bool) (now : Instant)
    (outcomes : List (Except Error α)) {cache : Cache α} {result : Except Error α} {calls : List Call}
    (distinct : (calls.map (·.id)).Nodup)
    (shares : ∀ call ∈ calls, ∃ seen, call.stage = .waiting seen ∧ cache.shared? seen = some result) :
    serveFor isStale now calls.length ⟨cache, calls⟩ outcomes =
      (⟨cache, []⟩, outcomes, calls.map fun call => ⟨.acquire call.id, .answered result⟩) := by
  induction calls with
  | nil => rfl
  | cons call rest ih =>
    obtain ⟨seen, stage, shared⟩ := shares call List.mem_cons_self
    obtain ⟨id, _⟩ := call
    subst stage
    have free : isRefreshing (⟨cache, ⟨id, .waiting seen⟩ :: rest⟩ : Flight α) = false :=
      isRefreshing_of_waits fun call member => (shares call member).imp fun _ waits => waits.1
    have left : without (⟨cache, ⟨id, .waiting seen⟩ :: rest⟩ : Flight α) id = ⟨cache, rest⟩ :=
      without_first distinct
    have found : call? (⟨cache, ⟨id, .waiting seen⟩ :: rest⟩ : Flight α) id =
        some ⟨id, .waiting seen⟩ := by simp [call?]
    have made : step isStale ⟨cache, ⟨id, .waiting seen⟩ :: rest⟩ (.acquire id) =
        (⟨cache, rest⟩, .answered result) := by
      simp [step, found, free, acquire, shared, left]
    have others := ih (List.nodup_cons.mp distinct).2 fun call member =>
      shares call (List.mem_cons_of_mem _ member)
    simp only [List.length_cons, serveFor, due?, made, Entry.remaining, others, List.map_cons]

theorem Stocked.shares (stocked : Stocked done outcome) : Shares done outcome where
  unbegun := by
    intro later id inOrder underWay turn inTurn
    obtain ⟨spared, queued⟩ := stocked.spared inOrder underWay
    exact spared.not_begun queued (step_spec _ turn.isStale turn.move) inTurn
  acquires := by
    intro later id inOrder underWay turn inTurn acquires
    obtain ⟨spared, queued⟩ := stocked.spared inOrder underWay
    rw [acquires] at inTurn
    rw [take, acquires]
    exact spared.acquires queued stocked.stored (step_spec _ turn.isStale (.acquire id)) inTurn
  answered := by
    intro later id inOrder underWay turn inTurn caller result answered
    obtain ⟨spared, queued⟩ := stocked.spared inOrder underWay
    have made := step_spec (after done later) turn.isStale turn.move
    obtain ⟨seen, -, waits⟩ := spared.waits
    rw [take] at answered
    generalize turn.move = move at *
    cases move with
    | start other now =>
      cases caller
      simp [step, waits] at answered
    | acquire other =>
      cases caller
      rw [spared.acquires queued stocked.stored made inTurn] at answered
      cases answered
      rfl
    | finish other ending now =>
      cases caller
      simp [step, waits] at answered
    | cancel | clear | reclaim => cases caller
  served := by
    intro isStale now outcomes
    obtain ⟨_, orderly⟩ := stocked.orderly
    refine serveFor_shared isStale now outcomes orderly.distinct fun call member => ?_
    obtain ⟨seen, earlier, stage⟩ := stocked.waits call member
    exact ⟨seen, stage, stocked.stored seen earlier⟩

end Stocked

end BearerIdentity.Flight
