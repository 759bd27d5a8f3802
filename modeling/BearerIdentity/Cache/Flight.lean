import BearerIdentity.Cache.Basic

set_option autoImplicit false

/- Calls for one cached value that overlap. A call that finds the value fresh is answered at once. The
others wait for a guard; the call that has it shares the outcome of a refresh that ended while it
waited, or else refreshes the value. -/

namespace BearerIdentity

inductive Stage where
  /-- The call waits for the guard and has seen this epoch. -/
  | waiting (seen : Nat)
  /-- The call holds the guard and refreshes the value of this generation. -/
  | refreshing (generation : Nat)
  deriving DecidableEq, Repr

structure Call where
  id : Nat
  stage : Stage
  deriving DecidableEq, Repr

def Call.isRefreshing (call : Call) : Bool :=
  match call.stage with
  | .waiting _ => false
  | .refreshing _ => true

/-- A cache and the calls under way, in order of arrival. -/
structure Flight (α : Type) where
  cache : Cache α
  calls : List Call

inductive Move (α : Type) where
  | start (id : Nat) (now : Instant)
  | acquire (id : Nat)
  | finish (id : Nat) (outcome : Except Error α) (now : Instant)
  | cancel (id : Nat)
  | clear
  | reclaim

inductive Report (α : Type) where
  | nothing
  | begun
  | answered (result : Except Error α)

namespace Flight

variable {α : Type}

def ofCache (cache : Cache α) : Flight α :=
  ⟨cache, []⟩

def call? (flight : Flight α) (id : Nat) : Option Call :=
  flight.calls.find? (·.id == id)

def isRefreshing (flight : Flight α) : Bool :=
  flight.calls.any (·.isRefreshing)

def without (flight : Flight α) (id : Nat) : Flight α :=
  { flight with calls := flight.calls.filter (·.id != id) }

def withStage (flight : Flight α) (id : Nat) (stage : Stage) : Flight α :=
  { flight with
    calls := flight.calls.map fun call => if call.id == id then { call with stage } else call }

variable (isStale : α → (updatedAt now : Instant) → Bool)

/-- A call for the value, or an additional wait for the guard. -/
def start (flight : Flight α) (id : Nat) (now : Instant) : Flight α × Report α :=
  match flight.cache.fresh? isStale now with
  | some value => (flight, .answered (.ok value))
  | none =>
    ({ flight with calls := flight.calls ++ [⟨id, .waiting flight.cache.epoch⟩] }, .nothing)

def acquire (flight : Flight α) (id : Nat) (seen : Nat) : Flight α × Report α :=
  match flight.cache.shared? seen with
  | some result => (flight.without id, .answered result)
  | none => (flight.withStage id (.refreshing flight.cache.generation), .begun)

def finish (flight : Flight α) (id generation : Nat) (outcome : Except Error α) (now : Instant) :
    Flight α × Report α :=
  ({ flight.without id with cache := flight.cache.settle generation outcome now },
    .answered (Cache.reported outcome))

/-- Makes a move. A move that is not possible changes nothing. -/
def step (flight : Flight α) : Move α → Flight α × Report α
  | .start id now =>
    if (flight.call? id).isSome then (flight, .nothing) else flight.start isStale id now
  | .acquire id =>
    match flight.call? id with
    | some ⟨_, .waiting seen⟩ =>
      if flight.isRefreshing then (flight, .nothing) else flight.acquire id seen
    | _ => (flight, .nothing)
  | .finish id outcome now =>
    match flight.call? id with
    | some ⟨_, .refreshing generation⟩ => flight.finish id generation outcome now
    | _ => (flight, .nothing)
  | .cancel id => (flight.without id, .nothing)
  | .clear => ({ flight with cache := flight.cache.clear }, .nothing)
  | .reclaim => ({ flight with cache := flight.cache.reclaim?.getD flight.cache }, .nothing)

/-- The move that is due when the guard is handed over in order of arrival and these are the
outcomes of refreshes to come. -/
def due? (flight : Flight α) (outcomes : List (Except Error α)) (now : Instant) :
    Option (Move α) :=
  match flight.calls, outcomes with
  | [], _ => none
  | ⟨id, .waiting _⟩ :: _, _ => some (.acquire id)
  | ⟨_, .refreshing _⟩ :: _, [] => none
  | ⟨id, .refreshing _⟩ :: _, outcome :: _ => some (.finish id outcome now)

structure Entry (α : Type) where
  move : Move α
  report : Report α

def Entry.remaining (move : Move α) (outcomes : List (Except Error α)) :
    List (Except Error α) :=
  match move with
  | .finish _ _ _ => outcomes.tail
  | _ => outcomes

/-- Makes at most `count` of the moves that are due. -/
def serveFor (now : Instant) : (count : Nat) → Flight α → List (Except Error α) →
    Flight α × List (Except Error α) × List (Entry α)
  | 0, flight, outcomes => (flight, outcomes, [])
  | count + 1, flight, outcomes =>
    match flight.due? outcomes now with
    | none => (flight, outcomes, [])
    | some move =>
      let (flight, report) := flight.step isStale move
      let (flight, outcomes, entries) :=
        serveFor now count flight (Entry.remaining move outcomes)
      (flight, outcomes, ⟨move, report⟩ :: entries)

/-- Serves the calls in order of arrival until one has to wait for its refresh. Each call takes at
most two moves. -/
def serve (flight : Flight α) (outcomes : List (Except Error α)) (now : Instant) :
    Flight α × List (Except Error α) × List (Entry α) :=
  serveFor isStale now (2 * flight.calls.length) flight outcomes

end Flight

end BearerIdentity
