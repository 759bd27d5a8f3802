import BearerIdentity.Cache.Basic
import BearerIdentity.Operation

set_option autoImplicit false

namespace BearerIdentity

/-- How a resource is fetched, and when it has to be fetched again. -/
structure Renewal (σ α : Type) where
  kind : FlowKind
  isStale : α → Instant → Except (Fault Error) Bool
  fetch : Operation Error σ α

namespace Renewal

variable {σ α : Type}

def refresh (renewal : Renewal σ α) : Operation Error (Cache α × σ) α := do
  let (begun, _) ← Operation.memory
  let outcome ← Operation.attempt (Operation.onSecond (Operation.observe renewal.kind renewal.fetch))
  let now ← Operation.now
  Operation.revise fun (cache, memory) => (cache.settle begun.generation outcome now, memory)
  Operation.ofExcept (Cache.reported outcome)

/-- The resource in the cache, fetched first if there is none or a stale one. -/
def get (renewal : Renewal σ α) : Operation Error (Cache α × σ) α := do
  let (cache, _) ← Operation.memory
  let now ← Operation.now
  match cache.unaged? now with
  | none => renewal.refresh
  | some value =>
    if ← Operation.ofDated (renewal.isStale value now) then renewal.refresh
    else Operation.succeed value

def clear {ε : Type} : Operation ε (Cache α × σ) Unit :=
  Operation.revise fun (cache, memory) => (cache.clear, memory)

def renew (renewal : Renewal σ α) : Operation Error (Cache α × σ) α := do
  clear
  renewal.get

def describe (cache : Cache α) : String :=
  Rendering.record "Renewer" [("cache", cache.describe)]

end Renewal

end BearerIdentity
