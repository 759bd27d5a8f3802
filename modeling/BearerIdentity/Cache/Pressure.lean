import BearerIdentity.Cache.Basic
import BearerIdentity.Rendering

set_option autoImplicit false

namespace BearerIdentity

/-- The handles of registered caches, in order of registration. -/
structure Pressure where
  tracked : List Nat
  deriving DecidableEq, Repr

namespace Pressure

variable {ρ : Type}

def empty : Pressure :=
  ⟨[]⟩

def register (registry : Pressure) (handle : Nat) : Pressure :=
  ⟨registry.tracked ++ [handle]⟩

abbrev Pool (ρ : Type) := List (Nat × ρ)

namespace Pool

def isAlive (pool : Pool ρ) (handle : Nat) : Bool :=
  pool.any (·.1 == handle)

def replace (pool : Pool ρ) (handle : Nat) (owner : ρ) : Pool ρ :=
  pool.map fun entry => if entry.1 == handle then (handle, owner) else entry

end Pool

/-- Asks the caches with these handles, and counts those that gave up a value. -/
def releaseAll (release? : ρ → Option ρ) : List Nat → Pool ρ → Nat × Pool ρ
  | [], pool => (0, pool)
  | handle :: rest, pool =>
    match (pool.lookup handle).bind release? with
    | none => releaseAll release? rest pool
    | some owner =>
      let (count, pool) := releaseAll release? rest (pool.replace handle owner)
      (count + 1, pool)

/-- Asks every registered cache to give up its value and forgets those that are gone. -/
def relieve (release? : ρ → Option ρ) (registry : Pressure) (pool : Pool ρ) :
    Nat × Pressure × Pool ρ :=
  let (count, relieved) := releaseAll release? registry.tracked pool
  (count, ⟨registry.tracked.filter pool.isAlive⟩, relieved)

def aliveCount (registry : Pressure) (pool : Pool ρ) : Nat :=
  (registry.tracked.filter pool.isAlive).length

def isEmpty (registry : Pressure) (pool : Pool ρ) : Bool :=
  registry.aliveCount pool == 0

def describe (registry : Pressure) : String :=
  Rendering.record "PressureRegistry" [("tracked", toString registry.tracked.length)]

end Pressure

end BearerIdentity
