import BearerIdentity.Error
import BearerIdentity.Instant.Calendar
import BearerIdentity.Rendering

set_option autoImplicit false

namespace BearerIdentity

/-- Whether a value may be given up to free memory. -/
inductive Retention where
  | strong
  | reclaimable
  deriving DecidableEq, Repr

def Retention.describe : Retention → String
  | strong => "Strong"
  | reclaimable => "Reclaimable"

structure Cache (α : Type) where
  /-- The age in milliseconds beyond which a value is stale. -/
  maxAge : Option Int
  retention : Retention
  value : Option α
  /-- When the value was stored. -/
  updatedAt : Instant
  failure : Option Error
  /-- How many refreshes have ended. -/
  epoch : Nat
  /-- How often the cache was cleared. -/
  generation : Nat

namespace Cache

variable {α : Type}

def empty (maxAge : Option Int) (retention : Retention) : Cache α where
  maxAge := maxAge
  retention := retention
  value := none
  updatedAt := .epoch
  failure := none
  epoch := 0
  generation := 0

/-- A cache that keeps its value until it is stale. -/
def lasting : Cache α :=
  empty none .strong

/-- A cache whose value also ages and may be given up. -/
def ageing (maxAge : Int) : Cache α :=
  empty (some maxAge) .reclaimable

def unaged? (cache : Cache α) (now : Instant) : Option α :=
  match cache.maxAge with
  | none => cache.value
  | some maxAge => if maxAge < now.since cache.updatedAt then none else cache.value

def fresh? (isStale : α → (updatedAt now : Instant) → Bool) (cache : Cache α) (now : Instant) :
    Option α :=
  (cache.unaged? now).filter fun value => !isStale value cache.updatedAt now

/-- Forgets value and failure. Refreshes that have begun no longer count. -/
def clear (cache : Cache α) : Cache α :=
  { cache with
    value := none
    failure := none
    updatedAt := .epoch
    generation := cache.generation + 1 }

def reclaim? (cache : Cache α) : Option (Cache α) :=
  match cache.retention, cache.value with
  | .reclaimable, some _ => some { cache with value := none, updatedAt := .epoch }
  | _, _ => none

/-- The outcome that a waiting call shares: one of a refresh that ended after the epoch it saw. -/
def shared? (cache : Cache α) (seen : Nat) : Option (Except Error α) :=
  if cache.epoch = seen then none
  else
    match cache.failure with
    | some failure => some (.error (.refresh failure))
    | none => cache.value.map .ok

/-- Ends a refresh. Its outcome is stored if the cache was not cleared since it began. -/
def settle (cache : Cache α) (generation : Nat) (outcome : Except Error α) (now : Instant) :
    Cache α :=
  let ended := { cache with epoch := cache.epoch + 1 }
  if cache.generation = generation then
    match outcome with
    | .ok value => { ended with value := some value, updatedAt := now, failure := none }
    | .error failure => { ended with value := none, failure := some failure }
  else ended

def describe (cache : Cache α) : String :=
  Rendering.record "Memoized"
    [("max_age", Rendering.optional Instant.describeSpan cache.maxAge),
      ("retention", cache.retention.describe), ("cached", Rendering.flag cache.value.isSome),
      ("failed", Rendering.flag cache.failure.isSome), ("updated_at", cache.updatedAt.describe)]

def reported (outcome : Except Error α) : Except Error α :=
  outcome.mapError .refresh

end Cache

end BearerIdentity
