import BearerIdentity.Proofs.Cache.Order

set_option autoImplicit false

/- Calls in a queue. As long as the guard is handed over in order of arrival and the cache is left
alone, only the first of the calls under way ever refreshes. Behind it the calls stand in the order of
the epochs that they have seen, and whatever refresh has ended since then is there to be shared. -/

namespace BearerIdentity

namespace Cache

variable {α : Type}

/-- The outcome of a refresh of the present generation is shared by all that saw an earlier epoch. -/
theorem shared?_settle (cache : Cache α) {seen : Nat} (earlier : seen ≤ cache.epoch)
    (outcome : Except Error α) (now : Instant) :
    (cache.settle cache.generation outcome now).shared? seen = some (reported outcome) := by
  have passed : cache.epoch + 1 ≠ seen := by omega
  cases outcome with
  | ok value => simp [shared?, passed, reported]
  | error cause => simp [shared?, passed, reported]

end Cache

namespace Flight

variable {α : Type} {flight next : Flight α} {outcomes : List (Except Error α)}

section Guard

variable {id other : Nat}

theorem isRefreshing_of_refreshing? {generation : Nat}
    (refreshing : flight.refreshing? id = some generation) : flight.isRefreshing = true :=
  List.any_eq_true.mpr ⟨_, mem_of_call? (refreshing?_eq_some.mp refreshing), rfl⟩

theorem call?_ne_of_free (free : flight.isRefreshing = false) (generation : Nat) :
    flight.call? id ≠ some ⟨id, .refreshing generation⟩ := by
  intro found
  rw [isRefreshing_of_refreshing? (refreshing?_eq_some.mpr found)] at free
  cases free

theorem isRefreshing_without (free : flight.isRefreshing = false) (other : Nat) :
    (flight.without other).isRefreshing = false :=
  List.any_eq_false.mpr fun _ member =>
    Bool.eq_false_iff.mp (not_isRefreshing_of_free free (mem_without.mp member).1)

theorem isRefreshing_append (other seen : Nat) :
    (Flight.mk flight.cache (flight.calls ++ [⟨other, .waiting seen⟩])).isRefreshing =
      flight.isRefreshing := by
  rw [isRefreshing, List.any_append]
  exact Bool.or_false _

theorem exists_waiting {call : Call} (idle : call.isRefreshing = false) :
    ∃ seen, call.stage = .waiting seen := by
  unfold Call.isRefreshing at idle
  cases stage : call.stage with
  | waiting seen => exact ⟨seen, rfl⟩
  | refreshing generation =>
    rw [stage] at idle
    cases idle

theorem isRefreshing_of_waits (waits : ∀ call ∈ flight.calls, ∃ seen, call.stage = .waiting seen) :
    flight.isRefreshing = false := by
  refine List.any_eq_false.mpr fun call member => ?_
  obtain ⟨seen, stage⟩ := waits call member
  simp [Call.isRefreshing, stage]

theorem call?_without_of_isSome (present : ((flight.without other).call? id).isSome = true) :
    (flight.without other).call? id = flight.call? id := by
  rw [call?_without] at present ⊢
  split
  · rename_i same
    rw [if_pos same] at present
    cases present
  · rfl

end Guard

section First

variable {call : Call} {rest : List Call}

theorem call?_first (first : flight.calls = call :: rest) :
    flight.call? call.id = some call := by
  simp [call?, first]

theorem calls_withStage (first : flight.calls = call :: rest)
    (distinct : (flight.calls.map (·.id)).Nodup) (stage : Stage) :
    (flight.withStage call.id stage).calls = ⟨call.id, stage⟩ :: rest := by
  rw [first, List.map_cons, List.nodup_cons] at distinct
  rw [withStage, first, List.map_cons, if_pos (beq_self_eq_true _), List.cons.injEq]
  refine ⟨rfl, (List.map_congr_left fun other member => if_neg ?_).trans (List.map_id rest)⟩
  intro same
  exact distinct.1 (List.mem_map.mpr ⟨other, member, beq_iff_eq.mp same⟩)

theorem without_first {cache : Cache α}
    (distinct : ((call :: rest).map (·.id)).Nodup) :
    without ⟨cache, call :: rest⟩ call.id = ⟨cache, rest⟩ := by
  rw [List.map_cons, List.nodup_cons] at distinct
  rw [without, List.filter_cons_of_neg (by simp), List.filter_eq_self.mpr]
  intro other member
  refine bne_iff_ne.mpr fun same => distinct.1 ?_
  exact List.mem_map.mpr ⟨other, member, same⟩

end First

/-- A move is in turn if it gives a free guard to nobody but the first call, and leaves the cache alone. -/
def IsInTurn (flight : Flight α) : Move α → Prop
  | .acquire id => flight.isRefreshing = false → (flight.call? id).isSome = true →
      ∃ call rest, flight.calls = call :: rest ∧ call.id = id
  | .clear | .reclaim => False
  | .start _ _ | .finish _ _ _ | .cancel _ => True

def InOrder (begun : Flight α) : (turns : List (Turn α)) → Prop
  | [] => True
  | turn :: earlier => (after begun earlier).IsInTurn turn.move ∧ InOrder begun earlier

/-- The later call waits, and the earlier one has not seen a later epoch. -/
def Precedes (earlier later : Call) : Prop :=
  ∃ seen, later.stage = .waiting seen ∧ ∀ before, earlier.stage = .waiting before → before ≤ seen

/-- What holds of a flight as long as the guard is handed over in order of arrival. -/
structure Queued (flight : Flight α) : Prop where
  behind : flight.calls.Pairwise Precedes
  bounded : ∀ call ∈ flight.calls, ∀ seen, call.stage = .waiting seen → seen ≤ flight.cache.epoch
  current : ∀ call ∈ flight.calls, ∀ generation, call.stage = .refreshing generation →
    generation = flight.cache.generation
  /-- Whoever waits for a refresh that is under way has seen the present epoch. -/
  led : flight.isRefreshing = true → ∀ call ∈ flight.calls, ∀ seen, call.stage = .waiting seen →
    seen = flight.cache.epoch
  settled : ∀ seen < flight.cache.epoch, (flight.cache.shared? seen).isSome = true

namespace Queued

theorem empty (maxAge : Option Int) (retention : Retention) :
    Queued (ofCache (Cache.empty maxAge retention) : Flight α) where
  behind := .nil
  bounded := fun _ impossible => by cases impossible
  current := fun _ impossible => by cases impossible
  led := fun _ _ impossible => by cases impossible
  settled := fun _ impossible => by cases impossible

variable (queued : flight.Queued)

include queued

theorem without (id : Nat) : (flight.without id).Queued where
  behind := queued.behind.sublist List.filter_sublist
  bounded := fun call member => queued.bounded call (mem_without.mp member).1
  current := fun call member => queued.current call (mem_without.mp member).1
  led := by
    intro refreshing call member
    obtain ⟨leader, present, refreshes⟩ := List.any_eq_true.mp refreshing
    exact queued.led (List.any_eq_true.mpr ⟨leader, (mem_without.mp present).1, refreshes⟩) call
      (mem_without.mp member).1
  settled := queued.settled

theorem wait (id : Nat) :
    Queued ⟨flight.cache, flight.calls ++ [⟨id, .waiting flight.cache.epoch⟩]⟩ where
  behind := by
    refine List.pairwise_append.mpr ⟨queued.behind, List.pairwise_singleton _ _, ?_⟩
    intro call member new same
    obtain rfl := List.mem_singleton.mp same
    exact ⟨_, rfl, queued.bounded call member⟩
  bounded := by
    intro call member seen waiting
    rcases List.mem_append.mp member with present | new
    · exact queued.bounded call present seen waiting
    · obtain rfl := List.mem_singleton.mp new
      cases waiting
      exact Nat.le_refl _
  current := by
    intro call member generation refreshing
    rcases List.mem_append.mp member with present | new
    · exact queued.current call present generation refreshing
    · obtain rfl := List.mem_singleton.mp new
      cases refreshing
  led := by
    intro refreshing call member seen waiting
    rw [isRefreshing_append] at refreshing
    rcases List.mem_append.mp member with present | new
    · exact queued.led refreshing call present seen waiting
    · obtain rfl := List.mem_singleton.mp new
      cases waiting
      rfl
  settled := queued.settled

theorem seen_of_unshared {call : Call} (member : call ∈ flight.calls) {seen : Nat}
    (waiting : call.stage = .waiting seen) (unshared : flight.cache.shared? seen = none) :
    seen = flight.cache.epoch := by
  rcases Nat.lt_or_eq_of_le (queued.bounded call member seen waiting) with earlier | present
  · have shared := queued.settled seen earlier
    rw [unshared] at shared
    cases shared
  · exact present

theorem le_of_first {call other : Call} {rest : List Call} (first : flight.calls = call :: rest)
    {seen later : Nat} (waiting : call.stage = .waiting seen) (member : other ∈ flight.calls)
    (waits : other.stage = .waiting later) : seen ≤ later := by
  have behind := queued.behind
  rw [first, List.pairwise_cons] at behind
  rw [first] at member
  rcases List.mem_cons.mp member with rfl | member
  · rw [waiting] at waits
    cases waits
    exact Nat.le_refl _
  · obtain ⟨_, same, order⟩ := behind.1 other member
    rw [waits] at same
    cases same
    exact order seen waiting

theorem refresh {call : Call} {rest : List Call} (first : flight.calls = call :: rest)
    (distinct : (flight.calls.map (·.id)).Nodup) {seen : Nat} (waiting : call.stage = .waiting seen)
    (unshared : flight.cache.shared? seen = none) :
    (flight.withStage call.id (.refreshing flight.cache.generation)).Queued := by
  have present := queued.seen_of_unshared (first ▸ List.mem_cons_self) waiting unshared
  have behind := queued.behind
  rw [first, List.pairwise_cons] at behind
  have calls := calls_withStage first distinct (.refreshing flight.cache.generation)
  have waits : ∀ other ∈ rest, other.stage = .waiting flight.cache.epoch := by
    intro other member
    obtain ⟨later, waits, -⟩ := behind.1 other member
    have listed : other ∈ flight.calls := first ▸ List.mem_cons_of_mem _ member
    have order := queued.le_of_first first waiting listed waits
    rw [waits, Nat.le_antisymm (queued.bounded other listed later waits) (present ▸ order)]
  have seen : ∀ other ∈ (flight.withStage call.id (.refreshing flight.cache.generation)).calls,
      ∀ later, other.stage = .waiting later → later = flight.cache.epoch := by
    intro other member later waiting
    rw [calls] at member
    rcases List.mem_cons.mp member with rfl | member
    · cases waiting
    · rw [waits other member] at waiting
      cases waiting
      rfl
  refine ⟨?_, ?_, ?_, fun _ => seen, queued.settled⟩
  · rw [calls]
    refine .cons (fun other member => ⟨_, waits other member, ?_⟩) behind.2
    intro before impossible
    cases impossible
  · exact fun other member later waiting => Nat.le_of_eq (seen other member later waiting)
  · intro other member generation refreshing
    rw [calls] at member
    rcases List.mem_cons.mp member with rfl | member
    · cases refreshing
      rfl
    · rw [waits other member] at refreshing
      cases refreshing

theorem finish (orderly : flight.Orderly outcomes) {id generation : Nat}
    (found : flight.call? id = some ⟨id, .refreshing generation⟩) (outcome : Except Error α)
    (now : Instant) :
    Queued ⟨flight.cache.settle generation outcome now, (flight.without id).calls⟩ := by
  have idle := orderly.alone found
  obtain rfl := queued.current _ (mem_of_call? found) generation rfl
  have others := queued.without id
  exact {
    behind := others.behind
    bounded := by
      intro call member seen waiting
      rw [Cache.epoch_settle]
      exact Nat.le_succ_of_le (others.bounded call member seen waiting)
    current := by
      intro call member generation refreshing
      rw [Cache.generation_settle]
      exact others.current call member generation refreshing
    led := by
      intro refreshing
      obtain ⟨call, member, refreshes⟩ := List.any_eq_true.mp refreshing
      rw [idle call member] at refreshes
      cases refreshes
    settled := by
      intro seen earlier
      rw [Cache.epoch_settle] at earlier
      rw [Cache.shared?_settle _ (Nat.le_of_lt_succ earlier)]
      rfl }

theorem step (orderly : flight.Orderly outcomes) {isStale : α → (updatedAt now : Instant) → Bool}
    {move : Move α} {report : Report α} (made : flight.Step isStale move next report)
    (inTurn : flight.IsInTurn move) : next.Queued := by
  cases made with
  | busy | hit | blocked | pointless => exact queued
  | wait id now idle missed => exact queued.wait id
  | share id seen result found shared => exact queued.without id
  | refresh id seen found free unshared =>
    obtain ⟨call, rest, first, rfl⟩ := inTurn free (Option.isSome_of_mem found)
    rw [call?_first first] at found
    exact queued.refresh first orderly.distinct
      (congrArg Call.stage (Option.some.inj found)) unshared
  | finish id generation outcome now found => exact queued.finish orderly found outcome now
  | cancel id => exact queued.without id
  | clear => exact inTurn.elim
  | reclaim => exact inTurn.elim

end Queued

theorem Queued.after (queued : flight.Queued) (orderly : flight.Orderly outcomes)
    {turns : List (Turn α)} (inOrder : InOrder flight turns) :
    (flight.after turns).Queued ∧ (flight.after turns).Orderly (ended flight turns ++ outcomes) := by
  induction turns with
  | nil => exact ⟨queued, orderly⟩
  | cons turn earlier before =>
    obtain ⟨queued, orderly⟩ := before inOrder.2
    have made := step_spec (flight.after earlier) turn.isStale turn.move
    have ordered := orderly.step made
    rw [← List.append_assoc] at ordered
    exact ⟨queued.step orderly made inOrder.1, ordered⟩

/-- Every run in order from an empty cache keeps the queue. -/
theorem queued_after (maxAge : Option Int) (retention : Retention) {turns : List (Turn α)}
    (inOrder : InOrder (ofCache (Cache.empty maxAge retention)) turns) :
    (after (ofCache (Cache.empty maxAge retention)) turns).Queued :=
  ((Queued.empty maxAge retention).after (.empty maxAge retention) inOrder).1

end Flight

end BearerIdentity
