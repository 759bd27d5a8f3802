import BearerIdentity.Cache.Pressure
import BearerIdentity.Proofs.Cache.Order
import Mathlib.Data.List.Nodup

set_option autoImplicit false

namespace BearerIdentity

/-- How owners hold a cache with the calls for its value. -/
structure Custody (ρ α : Type) where
  flight : ρ → Flight α
  withCache : ρ → Cache α → ρ
  flight_withCache : ∀ owner cache, flight (withCache owner cache) = { flight owner with cache }

namespace Custody

variable {ρ α : Type} (custody : Custody ρ α) (owner : ρ)

def cache : Cache α :=
  (custody.flight owner).cache

def reclaim? : Option ρ :=
  (custody.cache owner).reclaim?.map (custody.withCache owner)

/-- The cache of an owner holds a value that may be given up. -/
def isLoaded : Bool :=
  (custody.cache owner).retention == .reclaimable && (custody.cache owner).value.isSome

def emptied : ρ :=
  custody.withCache owner { custody.cache owner with value := none, updatedAt := .epoch }

theorem flight_emptied : custody.flight (custody.emptied owner) =
    { custody.flight owner with
      cache := { custody.cache owner with value := none, updatedAt := .epoch } } :=
  custody.flight_withCache owner _

theorem cache_emptied : custody.cache (custody.emptied owner) =
    { custody.cache owner with value := none, updatedAt := .epoch } :=
  congrArg Flight.cache (custody.flight_emptied owner)

@[simp] theorem isLoaded_emptied : custody.isLoaded (custody.emptied owner) = false := by
  rw [isLoaded, cache_emptied]
  exact Bool.and_false _

theorem reclaim?_eq :
    custody.reclaim? owner = if custody.isLoaded owner then some (custody.emptied owner) else none := by
  unfold reclaim? isLoaded emptied Cache.reclaim?
  generalize custody.cache owner = cache
  obtain ⟨maxAge, _ | _, _ | value, updatedAt, failure, epoch, generation⟩ := cache
  · rfl
  · rfl
  · rfl
  · rfl

theorem not_isLoaded (spared : (custody.cache owner).retention = .strong ∨ (custody.cache owner).value = none) :
    custody.isLoaded owner = false := by
  rw [isLoaded]
  rcases spared with strong | empty
  · rw [strong]
    rfl
  · rw [empty]
    exact Bool.and_false _

end Custody

namespace Pressure

variable {ρ α : Type} {custody : Custody ρ α} {registry : Pressure} {pool : Pool ρ} {handle : Nat}
  {handles : List Nat} {owner : ρ}

def Pool.Distinct (pool : Pool ρ) : Prop :=
  (pool.map (·.1)).Nodup

theorem Pool.Distinct.lookup (distinct : pool.Distinct) (member : (handle, owner) ∈ pool) :
    List.lookup handle pool = some owner := by
  obtain ⟨before, later, rfl⟩ := List.append_of_mem member
  rw [Distinct, List.map_append, List.map_cons, List.nodup_append] at distinct
  refine List.lookup_eq_some_iff.mpr ⟨before, later, rfl, fun entry listed => bne_iff_ne.mpr fun same => ?_⟩
  exact distinct.2.2 _ (List.mem_map_of_mem listed) _ List.mem_cons_self same.symm

theorem mem_of_lookup (found : List.lookup handle pool = some owner) : (handle, owner) ∈ pool := by
  obtain ⟨before, later, rfl, -⟩ := List.lookup_eq_some_iff.mp found
  exact List.mem_append_right _ List.mem_cons_self

/-- An owner is asked through one of these handles, and has a value to give up. -/
def isEased (custody : Custody ρ α) (handles : List Nat) (entry : Nat × ρ) : Bool :=
  handles.contains entry.1 && custody.isLoaded entry.2

def eased (custody : Custody ρ α) (handles : List Nat) (entry : Nat × ρ) : Nat × ρ :=
  if isEased custody handles entry then (entry.1, custody.emptied entry.2) else entry

theorem fst_eased (entry : Nat × ρ) : (eased custody handles entry).1 = entry.1 := by
  unfold eased
  split <;> rfl

theorem handles_eased : (pool.map (eased custody handles)).map (·.1) = pool.map (·.1) := by
  rw [List.map_map]
  exact List.map_congr_left fun entry _ => fst_eased entry

theorem distinct_eased (distinct : pool.Distinct) :
    Pool.Distinct (pool.map (eased custody handles)) := by
  rw [Pool.Distinct, handles_eased]
  exact distinct

/-- An owner is asked once for each handle, but has a value to give up only once. -/
theorem eased_eased (entry : Nat × ρ) :
    eased custody handles (eased custody [handle] entry) = eased custody (handle :: handles) entry := by
  unfold eased isEased
  cases loaded : custody.isLoaded entry.2 with
  | false => simp [loaded]
  | true =>
    by_cases same : entry.1 = handle
    · simp [same]
    · simp [same, loaded]

theorem isEased_cons (entry : Nat × ρ) :
    (if isEased custody (handle :: handles) entry then 1 else 0) =
      (if isEased custody [handle] entry then 1 else 0) +
        if isEased custody handles (eased custody [handle] entry) then 1 else 0 := by
  unfold eased isEased
  cases loaded : custody.isLoaded entry.2 with
  | false => simp [loaded]
  | true =>
    by_cases same : entry.1 = handle
    · simp [same]
    · simp [same, loaded]

theorem countP_cons_handle :
    pool.countP (isEased custody (handle :: handles)) =
      pool.countP (isEased custody [handle]) +
        (pool.map (eased custody [handle])).countP (isEased custody handles) := by
  induction pool with
  | nil => rfl
  | cons entry rest counted =>
    rw [List.map_cons, List.countP_cons, List.countP_cons, List.countP_cons, isEased_cons, counted]
    omega

theorem eased_of_idle (idle : ∀ entry ∈ pool, isEased custody handles entry = false) :
    pool.countP (isEased custody handles) = 0 ∧ pool.map (eased custody handles) = pool := by
  constructor
  · exact List.countP_eq_zero.mpr fun entry member => by simp [idle entry member]
  · refine (List.map_congr_left fun entry member => ?_).trans (List.map_id pool)
    simp [eased, idle entry member]

theorem isEased_of_idle (distinct : pool.Distinct)
    (idle : (List.lookup handle pool).bind custody.reclaim? = none) :
    ∀ entry ∈ pool, isEased custody [handle] entry = false := by
  rintro ⟨other, owner⟩ member
  by_cases same : other = handle
  · subst same
    rw [distinct.lookup member, Option.bind_some, custody.reclaim?_eq] at idle
    cases loaded : custody.isLoaded owner with
    | false => simp [isEased, loaded]
    | true => simp [loaded] at idle
  · simp [isEased, same]

theorem replace_of_given {freed : ρ} (distinct : pool.Distinct)
    (given : (List.lookup handle pool).bind custody.reclaim? = some freed) :
    pool.replace handle freed = pool.map (eased custody [handle]) ∧
      pool.countP (isEased custody [handle]) = 1 := by
  obtain ⟨owner, found, gave⟩ := Option.bind_eq_some_iff.mp given
  rw [custody.reclaim?_eq] at gave
  obtain ⟨loaded, rfl⟩ := Option.ite_some_none_eq_some.mp gave
  have asked : ∀ entry ∈ pool, isEased custody [handle] entry = (entry.1 == handle) ∧
      (entry.1 = handle → entry.2 = owner) := by
    rintro ⟨other, present⟩ member
    by_cases same : other = handle
    · subst same
      rw [distinct.lookup member] at found
      cases found
      simp [isEased, loaded]
    · simp [isEased, same]
  constructor
  · refine List.map_congr_left fun entry member => ?_
    obtain ⟨eases, only⟩ := asked entry member
    rw [eased, eases]
    split
    · rename_i same
      rw [beq_iff_eq] at same
      rw [only same, same]
    · rfl
  · have member : handle ∈ pool.map (·.1) := List.mem_map.mpr ⟨_, mem_of_lookup found, rfl⟩
    rw [List.countP_congr fun entry listed => by rw [(asked entry listed).1]]
    have once := List.count_eq_one_of_mem distinct member
    rwa [List.count, List.countP_map] at once

theorem releaseAll_eq (distinct : pool.Distinct) (handles : List Nat) :
    releaseAll custody.reclaim? handles pool =
      (pool.countP (isEased custody handles), pool.map (eased custody handles)) := by
  induction handles generalizing pool with
  | nil =>
    have idle : ∀ entry ∈ pool, isEased custody [] entry = false := fun _ _ => rfl
    rw [releaseAll, (eased_of_idle idle).1, (eased_of_idle idle).2]
  | cons handle rest released =>
    have composed : pool.map (eased custody (handle :: rest)) =
        (pool.map (eased custody [handle])).map (eased custody rest) := by
      rw [List.map_map]
      exact List.map_congr_left fun entry _ => (eased_eased entry).symm
    rw [releaseAll, countP_cons_handle, composed]
    cases given : (List.lookup handle pool).bind custody.reclaim? with
    | none =>
      obtain ⟨uncounted, same⟩ := eased_of_idle (isEased_of_idle distinct given)
      rw [same, uncounted, Nat.zero_add]
      exact released distinct
    | some freed =>
      obtain ⟨replaced, once⟩ := replace_of_given distinct given
      dsimp only
      rw [replaced, once, released (distinct_eased distinct), Nat.add_comm]

theorem relieve_eq (distinct : pool.Distinct) (registry : Pressure) :
    relieve custody.reclaim? registry pool =
      (pool.countP (isEased custody registry.tracked), ⟨registry.tracked.filter pool.isAlive⟩,
        pool.map (eased custody registry.tracked)) := by
  rw [relieve, releaseAll_eq distinct]

theorem relieve_again (distinct : pool.Distinct) (registry : Pressure) :
    relieve custody.reclaim? ⟨registry.tracked.filter pool.isAlive⟩
        (pool.map (eased custody registry.tracked)) =
      (0, ⟨registry.tracked.filter pool.isAlive⟩, pool.map (eased custody registry.tracked)) := by
  have spent : ∀ entry ∈ pool.map (eased custody registry.tracked),
      isEased custody (registry.tracked.filter pool.isAlive) entry = false := by
    intro entry member
    obtain ⟨before, -, rfl⟩ := List.mem_map.mp member
    unfold eased
    split
    · simp [isEased]
    · rename_i idle
      refine Bool.eq_false_iff.mpr fun eases => idle ?_
      simp only [isEased, Bool.and_eq_true, List.contains_iff_mem] at eases ⊢
      exact ⟨(List.mem_filter.mp eases.1).1, eases.2⟩
  have alive : ∀ handle ∈ registry.tracked.filter pool.isAlive,
      Pool.isAlive (pool.map (eased custody registry.tracked)) handle = true := by
    intro handle member
    obtain ⟨entry, present, same⟩ := List.any_eq_true.mp (List.mem_filter.mp member).2
    exact List.any_eq_true.mpr ⟨_, List.mem_map_of_mem present, by rw [fst_eased]; exact same⟩
  rw [relieve_eq (distinct_eased distinct)]
  obtain ⟨uncounted, same⟩ := eased_of_idle spent
  exact Prod.ext uncounted (Prod.ext (congrArg Pressure.mk (List.filter_eq_self.mpr alive)) same)

end Pressure

namespace Flight

variable {α : Type} {flight : Flight α}

/-- As long as a cache is not cleared, a call that refreshes its present generation does so to the end. -/
theorem present_after {id : Nat}
    (present : ∀ generation, flight.refreshing? id = some generation → generation = flight.cache.generation)
    {turns : List (Turn α)} (uncleared : ∀ turn ∈ turns, turn.move ≠ .clear) (generation : Nat)
    (refreshing : (after flight turns).refreshing? id = some generation) :
    generation = (after flight turns).cache.generation := by
  induction turns generalizing generation with
  | nil => exact present generation refreshing
  | cons turn earlier before =>
    obtain ⟨latest, uncleared⟩ := List.forall_mem_cons.mp uncleared
    have made := step_spec (after flight earlier) turn.isStale turn.move
    have same : (after flight (turn :: earlier)).cache.generation = (after flight earlier).cache.generation :=
      made.generation_eq latest
    rw [same]
    rcases made.refreshing refreshing with already | ⟨-, -, began⟩
    · exact before uncleared generation already
    · exact began

/-- What becomes of the calls for a value that has been given up. -/
structure Resumes (before relieved : Flight α) : Prop where
  /-- They are where they were. -/
  calls : relieved.calls = before.calls
  /-- A refresh that is under way is stored when it succeeds, unless the cache is cleared. -/
  stores : ∀ id, before.refreshing? id = some before.cache.generation → ∀ turns : List (Turn α),
    (∀ turn ∈ turns, turn.move ≠ .clear) → ((after relieved turns).refreshing? id).isSome = true →
      ∀ isStale value now,
        ((after relieved turns).take ⟨isStale, .finish id (.ok value) now⟩).2 = .answered (.ok value) ∧
        ((after relieved turns).take ⟨isStale, .finish id (.ok value) now⟩).1.cache =
          { (after relieved turns).cache with
            value := some value
            updatedAt := now
            failure := none
            epoch := (after relieved turns).cache.epoch + 1 }
  /-- Where a call errs, a refresh has failed, after the value was given up or before. -/
  errs : ∀ turns turn cause, ((after relieved turns).take turn).2 = .answered (.error cause) →
    ∃ failure, cause = .refresh failure ∧
      (before.cache.failure = some failure ∨ .error failure ∈ ended relieved (turn :: turns))

theorem resumes_of_eq {before relieved : Flight α} (calls : relieved.calls = before.calls)
    (generation : relieved.cache.generation = before.cache.generation)
    (failure : relieved.cache.failure = before.cache.failure) : Resumes before relieved where
  calls := calls
  stores := by
    intro id refreshing turns uncleared underWay isStale value now
    have present : relieved.refreshing? id = some relieved.cache.generation := by
      rw [generation, ← refreshing]
      simp only [refreshing?, call?, calls]
    obtain ⟨current, refreshes⟩ := Option.isSome_iff_exists.mp underWay
    obtain rfl := present_after (fun other same => by rw [present] at same; exact (Option.some.inj same).symm)
      uncleared current refreshes
    simp only [take, step, refreshing?_eq_some.mp refreshes, finish, Cache.settle_ok]
    exact ⟨rfl, trivial⟩
  errs := by
    intro turns turn cause answered
    rw [← failure]
    exact failure_of_answered answered

end Flight

namespace Pressure

variable {ρ α : Type} {custody : Custody ρ α} {pool : Pool ρ}

/-- What relief does to the owners of a pool, some of whose handles are registered. -/
structure Relieves (custody : Custody ρ α) (registry : Pressure) (pool : Pool ρ)
    (outcome : Nat × Pressure × Pool ρ) : Prop where
  /-- As many caches are counted as are registered and alive, and hold a value that may be given up. -/
  count : outcome.1 = (pool.filter fun entry =>
    registry.tracked.contains entry.1 && custody.isLoaded entry.2).length
  /-- These are empty then. Nothing else changes in them. -/
  empties : ∀ handle owner, (handle, owner) ∈ pool → handle ∈ registry.tracked →
    (custody.cache owner).retention = .reclaimable → (custody.cache owner).value ≠ none →
      ∃ relieved, (handle, relieved) ∈ outcome.2.2 ∧
        custody.cache relieved = { custody.cache owner with value := none, updatedAt := .epoch }
  /-- Every other owner stays as it is. -/
  spares : ∀ handle owner, (handle, owner) ∈ pool →
    (handle ∉ registry.tracked ∨ (custody.cache owner).retention = .strong ∨
      (custody.cache owner).value = none) → (handle, owner) ∈ outcome.2.2
  /-- Nobody comes or goes. -/
  handles : outcome.2.2.map (·.1) = pool.map (·.1)
  /-- Exactly the handles of owners that are gone are forgotten. The others stay in their order. -/
  tracked : outcome.2.1.tracked = registry.tracked.filter fun handle => (pool.map (·.1)).contains handle
  /-- The next relief finds nothing to do. -/
  again : relieve custody.reclaim? outcome.2.1 outcome.2.2 = (0, outcome.2.1, outcome.2.2)
  /-- Refreshes that are under way go on, and no call errs for it. -/
  resumes : ∀ handle owner relieved, (handle, owner) ∈ pool → (handle, relieved) ∈ outcome.2.2 →
    Flight.Resumes (custody.flight owner) (custody.flight relieved)

/-- Relief of memory pressure. Every cache that is registered, alive and reclaimable gives up its value,
and is counted once however often it is registered. The other caches stay as they are, and so does
everything else in those that are emptied. Hence a refresh that is under way meanwhile is stored when it
succeeds, and a call errs only if a refresh has failed. -/
theorem relieve_relieves (custody : Custody ρ α) (registry : Pressure) {pool : Pool ρ}
    (distinct : pool.Distinct) :
    Relieves custody registry pool (relieve custody.reclaim? registry pool) := by
  rw [relieve_eq distinct]
  refine ⟨?_, ?_, ?_, handles_eased, ?_, relieve_again distinct registry, ?_⟩
  · exact List.countP_eq_length_filter
  · intro handle owner member registered reclaimable held
    have loaded : custody.isLoaded owner = true := by
      simp [Custody.isLoaded, reclaimable, Option.isSome_iff_ne_none, held]
    refine ⟨custody.emptied owner, List.mem_map.mpr ⟨_, member, ?_⟩, custody.cache_emptied owner⟩
    simp [eased, isEased, registered, loaded]
  · intro handle owner member spared
    refine List.mem_map.mpr ⟨_, member, ?_⟩
    rcases spared with unregistered | spared
    · simp [eased, isEased, unregistered]
    · simp [eased, isEased, custody.not_isLoaded owner spared]
  · refine List.filter_congr fun handle _ => ?_
    simp [Pool.isAlive, List.any_eq]
  · intro handle owner relieved member present
    obtain ⟨⟨other, before⟩, listed, same⟩ := List.mem_map.mp present
    obtain rfl : other = handle := (fst_eased (other, before)).symm.trans (congrArg Prod.fst same)
    obtain rfl : owner = before :=
      Option.some.inj ((distinct.lookup member).symm.trans (distinct.lookup listed))
    rw [eased] at same
    split at same
    · cases same
      rw [custody.flight_emptied]
      exact Flight.resumes_of_eq rfl rfl rfl
    · cases same
      exact Flight.resumes_of_eq rfl rfl rfl

end Pressure

namespace Shortage

open Pressure

def custody : Custody (Flight Nat) Nat where
  flight := id
  withCache := fun flight cache => { flight with cache }
  flight_withCache := fun _ _ => rfl

def cache (retention : Retention) (value : Option Nat) : Cache Nat :=
  { (Cache.empty (some 60000) retention : Cache Nat) with value, updatedAt := ⟨1000⟩, epoch := 1 }

def refreshed : Flight Nat :=
  ⟨cache .reclaimable (some 1), [⟨7, .refreshing 0⟩]⟩

def pool : Pool (Flight Nat) :=
  [(0, refreshed), (1, .ofCache (cache .strong (some 2))), (3, .ofCache (cache .reclaimable none))]

def registry : Pressure :=
  [0, 1, 0, 2, 3].foldl Pressure.register .empty

def relieved : Flight Nat :=
  custody.emptied refreshed

/-- Memory is short while the value of a cache is being refreshed. The cache is registered twice, beside
one that keeps its value, one that is gone and one that is empty. -/
theorem counted_once : pool.Distinct ∧ (relieve custody.reclaim? registry pool).1 = 1 ∧
    (relieve custody.reclaim? registry pool).2.1.tracked = [0, 1, 0, 3] ∧
    (relieved.take ⟨fun _ _ _ => false, .finish 7 (.ok 8) ⟨2000⟩⟩).1.cache.value = some 8 := by
  have distinct : pool.Distinct := by
    unfold Pool.Distinct
    decide
  have relieves := relieve_relieves custody registry distinct
  have resumes : Flight.Resumes refreshed relieved := by
    refine relieves.resumes 0 refreshed relieved List.mem_cons_self ?_
    rw [relieve_eq distinct]
    exact List.mem_map.mpr ⟨(0, refreshed), List.mem_cons_self, rfl⟩
  have stored := (resumes.stores 7 rfl [] (by simp) rfl (fun _ _ _ => false) 8 ⟨2000⟩).2
  exact ⟨distinct, relieves.count, relieves.tracked, congrArg Cache.value stored⟩

end Shortage

end BearerIdentity
