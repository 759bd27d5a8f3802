import BearerIdentity.Cache.Flight
import BearerIdentity.Cache.Pressure
import BearerIdentity.Flow

set_option autoImplicit false

namespace BearerIdentity

inductive StalenessRule where
  | never
  | always
  /-- Odd values are stale. -/
  | odd
  /-- Values of at least this age in milliseconds are stale. -/
  | older (millis : Int)
  deriving DecidableEq, Repr

structure ScriptedCache where
  name : String
  isNamed : Bool
  /-- Whether the cache holds a resource that is fetched. Its refreshes are recorded, and the age of
  its value is not looked at. -/
  isFetched : Bool
  rule : StalenessRule
  flight : Flight Int
  /-- How the next refreshes end. -/
  outcomes : List (Except Error Int)
  /-- How many refreshes have begun. -/
  refreshCount : Nat

namespace ScriptedCache

def isStale (scripted : ScriptedCache) (value : Int) (updatedAt now : Instant) : Bool :=
  match scripted.rule with
  | .never => false
  | .always => true
  | .odd => value % 2 != 0
  | .older millis => millis ≤ (if scripted.isFetched then 0 else now.since updatedAt)

def cache (scripted : ScriptedCache) : Cache Int :=
  scripted.flight.cache

def isFresh (scripted : ScriptedCache) (now : Instant) : Bool :=
  (scripted.cache.fresh? scripted.isStale now).isSome

def isAlive (scripted : ScriptedCache) : Bool :=
  scripted.isNamed || !scripted.flight.calls.isEmpty

def summary (scripted : ScriptedCache) (now : Instant) : Json.Value :=
  .ofMembers [
    ("peek", .ofOption .ofInt scripted.cache.value),
    ("fresh", .bool (scripted.isFresh now)),
    ("updated_ms", .ofInt scripted.cache.updatedAt.millis),
    ("calls", .ofNat scripted.refreshCount)]

def withCache (scripted : ScriptedCache) (cache : Cache Int) : ScriptedCache :=
  { scripted with flight := { scripted.flight with cache } }

def reclaim? (scripted : ScriptedCache) : Option ScriptedCache :=
  scripted.cache.reclaim?.map scripted.withCache

end ScriptedCache

structure CallResult where
  call : Nat
  result : Except Error Int

structure Simulation where
  now : Instant
  caches : List ScriptedCache
  pressure : Pressure
  /-- The names of all calls so far. Calls are numbered by their places. -/
  callNames : List String
  flows : Flows
  /-- The calls that ended since the last look, latest first. -/
  results : List CallResult

namespace Simulation

def ofCaches (now : Instant) (caches : List ScriptedCache) : Simulation where
  now := now
  caches := caches
  pressure := .empty
  callNames := []
  flows := []
  results := []

def callName (simulation : Simulation) (call : Nat) : String :=
  (simulation.callNames[call]?).getD ""

def index? (simulation : Simulation) (name : String) : Option Nat :=
  simulation.caches.findIdx? fun scripted => scripted.isNamed && scripted.name == name

def record (simulation : Simulation) (scripted : ScriptedCache) (outcome : FlowOutcome) :
    Simulation :=
  if scripted.isFetched then
    { simulation with flows := (.tokenRefresh, outcome) :: simulation.flows }
  else simulation

def withResult (simulation : Simulation) (call : Nat) (result : Except Error Int) : Simulation :=
  { simulation with results := ⟨call, result⟩ :: simulation.results }

def note (simulation : Simulation) (scripted : ScriptedCache) (entry : Flight.Entry Int) :
    Simulation × ScriptedCache :=
  match entry.move, entry.report with
  | .acquire _, .begun =>
    (simulation.record scripted .attempt,
      { scripted with refreshCount := scripted.refreshCount + 1 })
  | .finish call outcome _, .answered result =>
    ((simulation.record scripted (if outcome.isOk then .success else .failure)).withResult call
      result, scripted)
  | .acquire call, .answered result => (simulation.withResult call result, scripted)
  | .start call _, .answered result => (simulation.withResult call result, scripted)
  | _, _ => (simulation, scripted)

def setCache (simulation : Simulation) (index : Nat) (scripted : ScriptedCache) : Simulation :=
  { simulation with caches := simulation.caches.set index scripted }

def revise (simulation : Simulation) (index : Nat) (f : ScriptedCache → ScriptedCache) :
    Simulation :=
  { simulation with caches := simulation.caches.modify index f }

def move (simulation : Simulation) (index : Nat) (move : Move Int) : Simulation :=
  match simulation.caches[index]? with
  | none => simulation
  | some scripted =>
    let (flight, report) := scripted.flight.step scripted.isStale move
    let (simulation, scripted) := simulation.note { scripted with flight } ⟨move, report⟩
    simulation.setCache index scripted

def serveOne (simulation : Simulation) (scripted : ScriptedCache) : Simulation × ScriptedCache :=
  let (flight, outcomes, entries) :=
    scripted.flight.serve scripted.isStale scripted.outcomes simulation.now
  entries.foldl (fun (simulation, scripted) entry => simulation.note scripted entry)
    (simulation, { scripted with flight, outcomes })

def serveFrom (simulation : Simulation) : List ScriptedCache → Simulation × List ScriptedCache
  | [] => (simulation, [])
  | scripted :: rest =>
    let (simulation, scripted) := simulation.serveOne scripted
    let (simulation, rest) := simulation.serveFrom rest
    (simulation, scripted :: rest)

def serve (simulation : Simulation) : Simulation :=
  let (simulation, caches) := simulation.serveFrom simulation.caches
  { simulation with caches }

def call (simulation : Simulation) (index : Nat) (name : String) : Simulation :=
  let number := simulation.callNames.length
  { simulation with callNames := simulation.callNames ++ [name] }.move index
    (.start number simulation.now)

/-- Starts a call for a new value, where the cache holds a resource that is fetched. -/
def renew (simulation : Simulation) (index : Nat) (name : String) : Simulation :=
  match simulation.caches[index]? with
  | some scripted =>
    if scripted.isFetched then (simulation.move index .clear).call index name
    else simulation.call index name
  | none => simulation

def cancel (simulation : Simulation) (name : String) : Simulation :=
  let numbers := (List.range simulation.callNames.length).filter fun number =>
    simulation.callName number == name
  let cancelIn (scripted : ScriptedCache) : ScriptedCache :=
    let flight := numbers.foldl
      (fun flight number => (flight.step scripted.isStale (.cancel number)).1) scripted.flight
    { scripted with flight }
  { simulation with caches := simulation.caches.map cancelIn }

def push (simulation : Simulation) (index : Nat) (outcomes : List (Except Error Int)) :
    Simulation :=
  simulation.revise index fun scripted => { scripted with outcomes := scripted.outcomes ++ outcomes }

def drop (simulation : Simulation) (name : String) : Simulation :=
  match simulation.index? name with
  | some index => simulation.revise index fun scripted => { scripted with isNamed := false }
  | none => simulation

def pool (simulation : Simulation) : Pressure.Pool ScriptedCache :=
  (simulation.caches.mapIdx fun index scripted => (index, scripted)).filter (·.2.isAlive)

def register (simulation : Simulation) (index : Nat) : Simulation :=
  { simulation with pressure := simulation.pressure.register index }

def relieve (simulation : Simulation) : Nat × Simulation :=
  let (freed, pressure, pool) :=
    Pressure.relieve ScriptedCache.reclaim? simulation.pressure simulation.pool
  let caches := simulation.caches.mapIdx fun index scripted =>
    (List.lookup index pool).getD scripted
  (freed, { simulation with pressure, caches })

/-- The numbers of the calls under way, in the order of their start. -/
def pending (simulation : Simulation) : List Nat :=
  let numbers := simulation.caches.flatMap fun scripted => scripted.flight.calls.map (·.id)
  (List.range simulation.callNames.length).filter numbers.contains

end Simulation

end BearerIdentity
