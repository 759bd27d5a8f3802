import BearerIdentity.Proofs.Cache.Holding
import BearerIdentity.Proofs.Cache.Run
import BearerIdentity.Proofs.Operation.Success

set_option autoImplicit false

namespace BearerIdentity

namespace Flight

variable {α : Type} {flight : Flight α} {outcomes : List (Except Error α)}

section Members

variable {id : Nat} {stage : Stage} {call : Call}

theorem mem_without :
    call ∈ (flight.without id).calls ↔ call ∈ flight.calls ∧ call.id ≠ id := by
  simp only [without, List.mem_filter, bne_iff_ne]

theorem mem_withStage (member : call ∈ (flight.withStage id stage).calls) :
    call = ⟨id, stage⟩ ∨ call.id ≠ id ∧ call ∈ flight.calls := by
  simp only [withStage, List.mem_map] at member
  obtain ⟨before, present, rfl⟩ := member
  cases matching : before.id == id with
  | true =>
    rw [beq_iff_eq] at matching
    subst matching
    exact .inl rfl
  | false =>
    rw [beq_eq_false_iff_ne] at matching
    exact .inr ⟨matching, present⟩

theorem ids_withStage :
    (flight.withStage id stage).calls.map (·.id) = flight.calls.map (·.id) := by
  simp only [withStage, List.map_map]
  apply List.map_congr_left
  intro call _
  simp only [Function.comp_apply]
  split <;> rfl

theorem isRefreshing_iff :
    call.isRefreshing = true ↔ ∃ generation, call.stage = .refreshing generation := by
  unfold Call.isRefreshing
  cases call.stage with
  | waiting seen => simp
  | refreshing generation => simp

theorem not_isRefreshing_of_free (free : flight.isRefreshing = false) (member : call ∈ flight.calls) :
    call.isRefreshing = false :=
  Bool.eq_false_iff.mpr (List.any_eq_false.mp free call member)

end Members

theorem Step.generation_eq {isStale : α → (updatedAt now : Instant) → Bool} {move : Move α}
    {next : Flight α} {report : Report α} (made : flight.Step isStale move next report)
    (uncleared : move ≠ .clear) : next.cache.generation = flight.cache.generation := by
  cases made with
  | finish id generation outcome now found => exact Cache.generation_settle _ _ _ _
  | clear => exact absurd rfl uncleared
  | reclaim =>
    show (flight.cache.reclaim?.getD flight.cache).generation = _
    rcases flight.cache.reclaimed with same | freed
    · rw [same]
    · rw [freed]
  | _ => rfl

theorem Step.generation_le {isStale : α → (updatedAt now : Instant) → Bool} {move : Move α}
    {next : Flight α} {report : Report α} (made : flight.Step isStale move next report) :
    flight.cache.generation ≤ next.cache.generation := by
  by_cases cleared : move = .clear
  · subst cleared
    cases made
    exact Nat.le_succ _
  · exact Nat.le_of_eq (made.generation_eq cleared).symm

/-- What holds of a flight in which refreshes with these outcomes have ended, the latest first. -/
structure Orderly (flight : Flight α) (outcomes : List (Except Error α)) : Prop where
  distinct : (flight.calls.map (·.id)).Nodup
  single : ∀ first ∈ flight.calls, ∀ second ∈ flight.calls,
    first.isRefreshing = true → second.isRefreshing = true → first = second
  epoch : flight.cache.epoch = outcomes.length
  holding : flight.cache.Holding (outcomes.head? = some ·)
  bounded : ∀ call ∈ flight.calls, ∀ generation, call.stage = .refreshing generation →
    generation ≤ flight.cache.generation
  superseded : ∀ call ∈ flight.calls, ∀ generation, call.stage = .refreshing generation →
    generation ≠ flight.cache.generation →
      flight.cache.value = none ∧ flight.cache.failure = none

namespace Orderly

theorem empty (maxAge : Option Int) (retention : Retention) :
    Orderly (ofCache (Cache.empty maxAge retention) : Flight α) [] where
  distinct := List.nodup_nil
  single := fun _ impossible => by cases impossible
  epoch := rfl
  holding := .of_none rfl rfl
  bounded := fun _ impossible => by cases impossible
  superseded := fun _ impossible => by cases impossible

variable (orderly : flight.Orderly outcomes)

include orderly

theorem without (id : Nat) : (flight.without id).Orderly outcomes where
  distinct := orderly.distinct.sublist (List.Sublist.map _ List.filter_sublist)
  single := fun first one second other =>
    orderly.single first (mem_without.mp one).1 second (mem_without.mp other).1
  epoch := orderly.epoch
  holding := orderly.holding
  bounded := fun call member => orderly.bounded call (mem_without.mp member).1
  superseded := fun call member => orderly.superseded call (mem_without.mp member).1

theorem alone {id generation : Nat} (found : flight.call? id = some ⟨id, .refreshing generation⟩) :
    ∀ call ∈ (flight.without id).calls, call.isRefreshing = false := by
  intro call member
  obtain ⟨present, other⟩ := mem_without.mp member
  cases refreshing : call.isRefreshing with
  | false => rfl
  | true =>
    have same := orderly.single call present _ (mem_of_call? found) refreshing rfl
    exact absurd (congrArg Call.id same) other

theorem wait {id : Nat} (idle : flight.call? id = none) (seen : Nat) :
    Orderly ⟨flight.cache, flight.calls ++ [⟨id, .waiting seen⟩]⟩ outcomes := by
  have added : ∀ call ∈ flight.calls ++ [⟨id, .waiting seen⟩], call.isRefreshing = true →
      call ∈ flight.calls := by
    intro call member refreshing
    rcases List.mem_append.mp member with present | new
    · exact present
    · rw [List.mem_singleton.mp new] at refreshing
      cases refreshing
  have refreshes : ∀ call ∈ flight.calls ++ [⟨id, .waiting seen⟩], ∀ generation,
      call.stage = .refreshing generation → call ∈ flight.calls :=
    fun call member generation stage => added call member (isRefreshing_iff.mpr ⟨generation, stage⟩)
  refine { orderly with distinct := ?_, single := ?_, bounded := ?_, superseded := ?_ }
  · rw [List.map_append, List.nodup_append]
    refine ⟨orderly.distinct, by simp, ?_⟩
    intro first one second other same
    obtain ⟨call, member, rfl⟩ := List.mem_map.mp one
    simp only [List.map_cons, List.map_nil, List.mem_singleton] at other
    have present := isSome_call?_of_mem member
    rw [same, other, idle] at present
    cases present
  · intro first one second other oneRefreshes otherRefreshes
    exact orderly.single first (added first one oneRefreshes) second
      (added second other otherRefreshes) oneRefreshes otherRefreshes
  · intro call member generation stage
    exact orderly.bounded call (refreshes call member generation stage) generation stage
  · intro call member generation stage
    exact orderly.superseded call (refreshes call member generation stage) generation stage

/-- A call that begins a refresh is the only one that refreshes, and its generation is the present
one. -/
theorem refresh (free : flight.isRefreshing = false) (id : Nat) :
    (flight.withStage id (.refreshing flight.cache.generation)).Orderly outcomes := by
  have begun : ∀ call ∈ (flight.withStage id (.refreshing flight.cache.generation)).calls,
      call.isRefreshing = true → call = ⟨id, .refreshing flight.cache.generation⟩ := by
    intro call member refreshing
    rcases mem_withStage member with new | ⟨-, present⟩
    · exact new
    · rw [not_isRefreshing_of_free free present] at refreshing
      cases refreshing
  have current : ∀ call ∈ (flight.withStage id (.refreshing flight.cache.generation)).calls,
      ∀ generation, call.stage = .refreshing generation → generation = flight.cache.generation := by
    intro call member generation stage
    rw [begun call member (isRefreshing_iff.mpr ⟨generation, stage⟩)] at stage
    cases stage
    rfl
  refine { orderly with distinct := ?_, single := ?_, bounded := ?_, superseded := ?_ }
  · rw [ids_withStage]
    exact orderly.distinct
  · intro first one second other oneRefreshes otherRefreshes
    rw [begun first one oneRefreshes, begun second other otherRefreshes]
  · intro call member generation stage
    exact Nat.le_of_eq (current call member generation stage)
  · intro call member generation stage different
    exact absurd (current call member generation stage) different

theorem finish {id generation : Nat}
    (found : flight.call? id = some ⟨id, .refreshing generation⟩) (outcome : Except Error α)
    (now : Instant) :
    Orderly ⟨flight.cache.settle generation outcome now, (flight.without id).calls⟩
      (outcome :: outcomes) := by
  have rest := orderly.without id
  have idle := orderly.alone found
  have waits : ∀ call ∈ (flight.without id).calls, ∀ generation,
      call.stage ≠ .refreshing generation := by
    intro call member generation stage
    have refreshing := isRefreshing_iff.mpr ⟨generation, stage⟩
    rw [idle call member] at refreshing
    cases refreshing
  have holding : (flight.cache.settle generation outcome now).Holding
      ((outcome :: outcomes).head? = some ·) := by
    refine .settle ?_ List.head?_cons now
    intro past
    have empty := orderly.superseded _ (mem_of_call? found) generation rfl (Ne.symm past)
    exact .of_none empty.1 empty.2
  exact {
    distinct := rest.distinct
    single := rest.single
    epoch := by rw [Cache.epoch_settle, orderly.epoch, List.length_cons]
    holding
    bounded := fun call member generation stage => absurd stage (waits call member generation)
    superseded := fun call member generation stage => absurd stage (waits call member generation) }

theorem clear : Orderly ⟨flight.cache.clear, flight.calls⟩ outcomes := by
  refine { orderly with holding := .of_none rfl rfl, bounded := ?_, superseded := ?_ }
  · intro call member generation stage
    exact Nat.le_succ_of_le (orderly.bounded call member generation stage)
  · intro call member generation stage different
    exact ⟨rfl, rfl⟩

theorem reclaim : Orderly ⟨flight.cache.reclaim?.getD flight.cache, flight.calls⟩ outcomes := by
  have holding := orderly.holding.reclaim
  rcases flight.cache.reclaimed with same | freed
  · rw [same]
    exact orderly
  · rw [freed] at holding ⊢
    refine { orderly with holding, superseded := ?_ }
    intro call member generation stage different
    exact ⟨rfl, (orderly.superseded call member generation stage different).2⟩

theorem step {isStale : α → (updatedAt now : Instant) → Bool} {move : Move α} {next : Flight α}
    {report : Report α} (made : flight.Step isStale move next report) :
    next.Orderly ((flight.ends? ⟨isStale, move⟩).toList ++ outcomes) := by
  cases made with
  | busy id now present => exact orderly
  | hit id now value idle fresh => exact orderly
  | wait id now idle missed => exact orderly.wait idle _
  | blocked id taken => exact orderly
  | share id seen result found shared => exact orderly.without id
  | refresh id seen found free unshared => exact orderly.refresh free id
  | pointless id outcome now idle =>
    rw [ends?_of_idle rfl idle]
    exact orderly
  | finish id generation outcome now found =>
    rw [ends?_of_refreshing rfl found]
    exact orderly.finish found outcome now
  | cancel id => exact orderly.without id
  | clear => exact orderly.clear
  | reclaim => exact orderly.reclaim

end Orderly

theorem orderly_after (maxAge : Option Int) (retention : Retention) (turns : List (Turn α)) :
    (after (ofCache (Cache.empty maxAge retention)) turns).Orderly
      (ended (ofCache (Cache.empty maxAge retention)) turns) := by
  induction turns with
  | nil => exact Orderly.empty maxAge retention
  | cons turn earlier orderly => exact orderly.step (step_spec _ turn.isStale turn.move)

theorem exists_of_mem_ended {begun : Flight α} {turns : List (Turn α)} {outcome : Except Error α}
    (member : outcome ∈ ended begun turns) :
    ∃ turn ∈ turns, ∃ id now, turn.move = .finish id outcome now := by
  induction turns with
  | nil => cases member
  | cons turn earlier found =>
    rcases List.mem_append.mp member with last | before
    · refine ⟨turn, List.mem_cons_self, ?_⟩
      unfold ends? at last
      split at last
      · rename_i id ending now made
        obtain ⟨generation, -, rfl⟩ := Option.map_eq_some_iff.mp (Option.mem_toList.mp last)
        exact ⟨id, now, made⟩
      · cases last
    · obtain ⟨past, listed, made⟩ := found before
      exact ⟨past, List.mem_cons_of_mem _ listed, made⟩

section Errors

variable {next : Flight α} {good : Except Error α → Prop} {isStale : α → (updatedAt now : Instant) → Bool}
  {move : Move α} {report : Report α} {turns : List (Turn α)} {turn : Turn α} {cause : Error}

/-- What a cache holds after a move was there before, or is the outcome of a refresh that has just ended. -/
theorem holding_step (holding : flight.cache.Holding good) (made : flight.Step isStale move next report) :
    next.cache.Holding fun outcome =>
      outcome ∈ (flight.ends? ⟨isStale, move⟩).toList ∨ good outcome := by
  have kept : flight.cache.Holding fun outcome =>
      outcome ∈ (flight.ends? ⟨isStale, move⟩).toList ∨ good outcome :=
    holding.mono fun _ held => .inr held
  cases made with
  | finish id generation outcome now found =>
    refine .settle (fun _ => kept) (.inl ?_) now
    rw [ends?_of_refreshing rfl found]
    exact List.mem_singleton_self outcome
  | clear => exact .of_none rfl rfl
  | reclaim => exact kept.reclaim
  | _ => exact kept

theorem holding_after (holding : flight.cache.Holding good) (turns : List (Turn α)) :
    (after flight turns).cache.Holding fun outcome => outcome ∈ ended flight turns ∨ good outcome := by
  induction turns with
  | nil => exact holding.mono fun _ held => .inr held
  | cons turn earlier held =>
    refine (holding_step held (step_spec _ turn.isStale turn.move)).mono fun outcome origin => ?_
    rw [ended, List.mem_append, or_assoc]
    exact origin

/-- Whatever error a call is answered with, be it its own or shared, a refresh has failed with what it
reports, in these turns or before. -/
theorem failure_of_answered
    (answered : ((after flight turns).take turn).2 = .answered (.error cause)) :
    ∃ failure, cause = .refresh failure ∧
      (flight.cache.failure = some failure ∨ .error failure ∈ ended flight (turn :: turns)) := by
  have failed : flight.cache.Holding fun outcome =>
      ∀ failure, outcome = .error failure → flight.cache.failure = some failure := by
    refine ⟨?_, ?_⟩
    · rintro value - failure ⟨⟩
    · rintro failure stored _ ⟨⟩
      exact stored
  have holding := holding_after failed turns
  have made := step_spec (after flight turns) turn.isStale turn.move
  rw [show ((after flight turns).step turn.isStale turn.move).2 = _ from answered] at made
  generalize result : Except.error cause = failure at made
  generalize ((after flight turns).step turn.isStale turn.move).1 = next at made
  generalize same : turn.move = move at made
  cases made with
  | hit id now value idle fresh => cases result
  | share id seen _ found shared =>
    obtain ⟨-, outcome, origin, rfl⟩ := holding.of_shared? shared
    obtain ⟨failure, rfl, rfl⟩ := exists_of_mapError result.symm
    refine ⟨failure, rfl, ?_⟩
    rcases origin with past | before
    · exact .inr (List.mem_append_right _ past)
    · exact .inl (before failure rfl)
  | finish id generation outcome now found =>
    obtain ⟨failure, rfl, rfl⟩ := exists_of_mapError result.symm
    refine ⟨failure, rfl, .inr (List.mem_append_left _ ?_)⟩
    rw [ends?_of_refreshing same found]
    exact List.mem_singleton_self _

theorem exists_of_answered_error {maxAge : Option Int} {retention : Retention}
    (answered : ((after (ofCache (Cache.empty maxAge retention)) turns).take turn).2 =
      .answered (.error cause)) :
    ∃ origin, cause = .refresh origin ∧
      ∃ past ∈ turn :: turns, ∃ id now, past.move = .finish id (.error origin) now := by
  obtain ⟨origin, same, impossible | member⟩ := failure_of_answered answered
  · cases impossible
  · exact ⟨origin, same, exists_of_mem_ended member⟩

end Errors

end Flight

end BearerIdentity
