import BearerIdentity.Proofs.Cache.Order

set_option autoImplicit false

namespace BearerIdentity.Flight

variable {α : Type} {flight cleared : Flight α}

/-- The calls that have begun to refresh, after a move and what came of it. -/
def joined (ids : List Nat) : Move α → Report α → List Nat
  | .acquire id, .begun => id :: ids
  | _, _ => ids

/-- The calls whose refresh began in these turns and is still under way. -/
def newcomers (begun : Flight α) : (turns : List (Turn α)) → List Nat
  | [] => []
  | turn :: earlier =>
    (joined (newcomers begun earlier) turn.move ((after begun earlier).take turn).2).filter fun id =>
      ((after begun (turn :: earlier)).refreshing? id).isSome

/-- The outcome that a move ends a refresh with, if the refresh is of one of these calls. -/
def counted (ids : List Nat) : Move α → Option (Except Error α) → List (Except Error α)
  | .finish id _ _, some outcome => if id ∈ ids then [outcome] else []
  | _, _ => []

/-- The outcomes of the refreshes that both began and ended in these turns, the latest first. -/
def completed (begun : Flight α) : (turns : List (Turn α)) → List (Except Error α)
  | [] => []
  | turn :: earlier =>
    counted (newcomers begun earlier) turn.move ((after begun earlier).ends? turn) ++
      completed begun earlier

theorem mem_joined {ids : List Nat} {id : Nat} (member : id ∈ ids) (move : Move α)
    (report : Report α) : id ∈ joined ids move report := by
  unfold joined
  split
  · exact List.mem_cons_of_mem _ member
  · exact member

/-- A flight some time after a clearing that opened a generation. The refreshes that began since are
those of the calls `fresh`, and `outcomes` are the ones they ended with; any other refresh is of an
older generation, and its call has been `lasting`. -/
structure Apart (opened : Nat) (lasting : Nat → Prop) (flight : Flight α) (fresh : List Nat)
    (outcomes : List (Except Error α)) : Prop where
  reached : opened ≤ flight.cache.generation
  began : ∀ id generation, flight.refreshing? id = some generation →
    id ∈ fresh ∨ generation < opened ∧ lasting id
  holding : flight.cache.Holding (· ∈ outcomes)

namespace Apart

variable {opened : Nat} {lasting : Nat → Prop} {fresh : List Nat} {outcomes : List (Except Error α)}
  (apart : Apart opened lasting flight fresh outcomes)

include apart

/-- A refresh that is not of a fresh call changes nothing but the epoch when it ends. -/
theorem settle_of_stale {id generation : Nat} (refreshing : flight.refreshing? id = some generation)
    (stale : id ∉ fresh) (outcome : Except Error α) (now : Instant) :
    flight.cache.settle generation outcome now =
      { flight.cache with epoch := flight.cache.epoch + 1 } := by
  have older := ((apart.began id generation refreshing).resolve_left stale).1
  have reached := apart.reached
  exact Cache.settle_of_ne (by omega) outcome now

/-- The end of a refresh counts if the refresh began after the clearing, and else is not stored. -/
theorem holding_settle {id generation : Nat} (refreshing : flight.refreshing? id = some generation)
    (outcome : Except Error α) (now : Instant) :
    (flight.cache.settle generation outcome now).Holding
      (· ∈ (if id ∈ fresh then [outcome] else []) ++ outcomes) := by
  by_cases new : id ∈ fresh
  · rw [if_pos new]
    refine .settle ?_ List.mem_cons_self now
    intro _
    exact apart.holding.mono fun _ member => List.mem_cons_of_mem _ member
  · rw [if_neg new, apart.settle_of_stale refreshing new]
    exact ⟨apart.holding.value, apart.holding.failure⟩

theorem holding_step {isStale : α → (updatedAt now : Instant) → Bool} {move : Move α}
    {next : Flight α} {report : Report α} (made : flight.Step isStale move next report) :
    next.cache.Holding (· ∈ counted fresh move (flight.ends? ⟨isStale, move⟩) ++ outcomes) := by
  cases made with
  | pointless id outcome now idle =>
    rw [ends?_of_idle rfl idle]
    exact apart.holding
  | finish id generation outcome now found =>
    rw [ends?_of_refreshing rfl found]
    exact apart.holding_settle (refreshing?_eq_some.mpr found) outcome now
  | clear => exact .of_none rfl rfl
  | reclaim => exact apart.holding.reclaim
  | _ => exact apart.holding

theorem step {isStale : α → (updatedAt now : Instant) → Bool} {move : Move α} {next : Flight α}
    {report : Report α} (made : flight.Step isStale move next report) :
    Apart opened (fun id => (next.call? id).isSome = true ∧ lasting id) next
      ((joined fresh move report).filter fun id => (next.refreshing? id).isSome)
      (counted fresh move (flight.ends? ⟨isStale, move⟩) ++ outcomes) where
  reached := Nat.le_trans apart.reached made.generation_le
  began := by
    intro id generation refreshing
    have present := Option.isSome_of_mem refreshing
    rcases made.refreshing refreshing with before | ⟨rfl, rfl, -⟩
    · rcases apart.began id generation before with new | ⟨older, underWay⟩
      · exact .inl (List.mem_filter.mpr ⟨mem_joined new move report, present⟩)
      · exact .inr ⟨older, isSome_call?_of_refreshing refreshing, underWay⟩
    · exact .inl (List.mem_filter.mpr ⟨List.mem_cons_self, present⟩)
  holding := apart.holding_step made

end Apart

theorem apart_after (old : ∀ id generation, cleared.refreshing? id = some generation →
      generation < cleared.cache.generation)
    (empty : cleared.cache.Holding fun _ => False) (since : List (Turn α)) :
    Apart cleared.cache.generation (IsUnderWay cleared · since) (after cleared since)
      (newcomers cleared since) (completed cleared since) := by
  induction since with
  | nil =>
    refine ⟨Nat.le_refl _, ?_, empty.mono fun _ impossible => impossible.elim⟩
    intro id generation refreshing
    exact .inr ⟨old id generation refreshing, isSome_call?_of_refreshing refreshing⟩
  | cons turn earlier apart => exact apart.step (step_spec _ turn.isStale turn.move)

def Starts (begun : Flight α) (turns : List (Turn α)) (id : Nat) : Prop :=
  ∃ during start earlier now, turns = during ++ start :: earlier ∧ start.move = .start id now ∧
    (after begun earlier).call? id = none

theorem IsUnderWay.not_starts {begun : Flight α} {turn : Turn α} {turns : List (Turn α)} {id : Nat}
    (underWay : IsUnderWay begun id turns) (other : ∀ now, turn.move ≠ .start id now) :
    ¬Starts begun (turn :: turns) id := by
  rintro ⟨during, start, earlier, now, split, made, idle⟩
  cases during with
  | nil =>
    rw [List.nil_append, List.cons.injEq] at split
    rw [← split.1] at made
    exact other now made
  | cons latest during =>
    rw [List.cons_append, List.cons.injEq] at split
    rw [split.2, List.append_cons] at underWay
    have present := underWay.at_moment
    rw [idle] at present
    cases present

/-- What has become of a cleared cache after some turns: only refreshes that began since count. -/
structure Forgets (cleared : Flight α) (since : List (Turn α)) : Prop where
  /-- The end of any other refresh changes nothing but the epoch. -/
  unstored : ∀ id generation, (after cleared since).refreshing? id = some generation →
    id ∉ newcomers cleared since → ∀ isStale outcome now,
      ((after cleared since).step isStale (.finish id outcome now)).1.cache =
        { (after cleared since).cache with epoch := (after cleared since).cache.epoch + 1 }
  /-- What the cache holds comes of such refreshes. -/
  holding : (after cleared since).cache.Holding (· ∈ completed cleared since)
  /-- A call that started since is answered with the outcome of such a refresh. -/
  answers : ∀ (turn : Turn α) (id : Nat) (result : Except Error α), caller? turn.move = some id →
    ((after cleared since).take turn).2 = .answered result → Starts cleared (turn :: since) id →
      ∃ outcome ∈ completed cleared (turn :: since), result = Cache.reported outcome

theorem Apart.forgets {since : List (Turn α)}
    (apart : Apart cleared.cache.generation (IsUnderWay cleared · since) (after cleared since)
      (newcomers cleared since) (completed cleared since)) : Forgets cleared since where
  unstored := by
    intro id generation refreshing stale isStale outcome now
    simp only [Flight.step, refreshing?_eq_some.mp refreshing]
    exact apart.settle_of_stale refreshing stale outcome now
  holding := apart.holding
  answers := by
    intro turn id result caller answered starts
    have earlier : ∀ outcome ∈ completed cleared since, outcome ∈ completed cleared (turn :: since) :=
      fun outcome member => List.mem_append_right _ member
    rcases answered_cases caller answered with ⟨now, value, -, fresh, rfl⟩ | ⟨seen, -, -, shared⟩ |
      ⟨generation, outcome, now, made, found, rfl⟩
    · exact ⟨.ok value, earlier _ (apart.holding.value value (Cache.value_of_fresh? fresh)), rfl⟩
    · obtain ⟨-, outcome, held, same⟩ := apart.holding.of_shared? shared
      exact ⟨outcome, earlier outcome held, same⟩
    · rcases apart.began _ _ (refreshing?_eq_some.mpr found) with fresh | ⟨-, underWay⟩
      · refine ⟨outcome, List.mem_append_left _ ?_, rfl⟩
        rw [ends?_of_refreshing made found, made]
        simp only [counted, if_pos fresh, List.mem_singleton]
      · -- A call that has been under way ever since the clearing did not start after it.
        refine absurd starts (underWay.not_starts ?_)
        intro now impossible
        rw [made] at impossible
        cases impossible

/-- After a cache has been cleared, only refreshes that began since count: no other is stored, and no
call that starts since is answered with another one's outcome. -/
theorem clear_forgets (maxAge : Option Int) (retention : Retention) (before since : List (Turn α))
    (isStale : α → (updatedAt now : Instant) → Bool) :
    Forgets (after (ofCache (Cache.empty maxAge retention)) (⟨isStale, .clear⟩ :: before)) since := by
  have orderly := orderly_after maxAge retention before
  refine (apart_after ?_ (.of_none rfl rfl) since).forgets
  intro id generation refreshing
  have member := mem_of_call? (refreshing?_eq_some.mp refreshing)
  exact Nat.lt_succ_of_le (orderly.bounded _ member generation rfl)

/-- A renewal that nothing interrupts, the latest move first: it clears the cache, finds nothing fresh,
and refreshes. -/
def renewing (isStale : α → (updatedAt now : Instant) → Bool) (id : Nat) (outcome : Except Error α)
    (asked received : Instant) : List (Turn α) :=
  [⟨isStale, .finish id outcome received⟩, ⟨isStale, .acquire id⟩, ⟨isStale, .start id asked⟩,
    ⟨isStale, .clear⟩]

theorem after_renewing (cache : Cache α) (isStale : α → (updatedAt now : Instant) → Bool) (id : Nat)
    (outcome : Except Error α) (asked received : Instant) :
    after (ofCache cache) (renewing isStale id outcome asked received) =
      ofCache (cache.clear.settle cache.clear.generation outcome received) := by
  have missed : cache.clear.fresh? isStale asked = none := by
    rw [Cache.fresh?, Cache.unaged?_clear, Option.filter_none]
  have unshared : cache.clear.shared? cache.clear.epoch = none := by
    rw [Cache.shared?, if_pos rfl]
  simp [renewing, after, take, step, ofCache, call?, start, missed, isRefreshing, acquire, unshared,
    withStage, finish, without, Call.isRefreshing]

end BearerIdentity.Flight
