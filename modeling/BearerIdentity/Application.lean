import BearerIdentity.Cache.Pressure
import BearerIdentity.Login.Basic
import BearerIdentity.Sasl.Registry

set_option autoImplicit false

namespace BearerIdentity

/-- An identity with its memory. -/
structure Owner where
  identity : ClientIdentity
  caches : Caches

namespace Owner

def reclaim? (owner : Owner) : Option Owner :=
  owner.caches.reclaim?.map fun caches => { owner with caches }

end Owner

inductive Recipe where
  | directly (mechanism : Mechanism)
  | byRegistry (name : String)
  deriving DecidableEq, Repr

structure Party (α : Type) where
  party : α
  recipe : Recipe
  /-- The handle of the identity that it uses, if any. -/
  owner : Option Nat

namespace Party

/-- The name of its stage, unless the registry made it, which does not tell. -/
def stageName? {α : Type} (name : α → String) (party : Party α) : Option String :=
  match party.recipe with
  | .directly _ => some (name party.party)
  | .byRegistry _ => none

end Party

namespace Recipe

variable {σ : Type}

def client (context : ClientContext σ) : Recipe → Except SaslError (SaslClient σ)
  | directly mechanism => .ok (context.client mechanism)
  | byRegistry name => MechanismRegistry.standard.client name context

def server (verifier : TokenVerifier σ) : Recipe → Except SaslError (SaslServer σ)
  | directly mechanism => .ok (verifier.server mechanism)
  | byRegistry name => MechanismRegistry.standard.server name verifier

end Recipe

structure Application where
  environment : Environment
  owners : Pressure.Pool Owner
  /-- How many identities there have been. They are numbered as handles. -/
  ownerCount : Nat
  current : Option Nat
  pressure : Pressure
  subject : Subject
  clients : List (String × Party (SaslClient Caches))
  servers : List (String × Party (SaslServer Caches))

namespace Application

def ofEnvironment (environment : Environment) : Application where
  environment := environment
  owners := []
  ownerCount := 0
  current := none
  pressure := .empty
  subject := .empty
  clients := []
  servers := []

def owner? (application : Application) (handle : Option Nat) : Option Owner :=
  handle.bind fun handle => List.lookup handle application.owners

def identity? (application : Application) : Option ClientIdentity :=
  (application.owner? application.current).map (·.identity)

def describe (application : Application) : List String :=
  match application.owner? application.current with
  | some ⟨identity, caches⟩ =>
    [identity.describe caches, application.subject.describe, identity.describeLogin caches,
      identity.resource.describe]
  | none => [application.subject.describe]

/-- The memory of an identity. A party without one has none to speak of. -/
def caches (application : Application) (handle : Option Nat) : Caches :=
  (application.owner? handle).elim .empty (·.caches)

def withCaches (application : Application) (handle : Option Nat) (caches : Caches) :
    Application :=
  match handle, application.owner? handle with
  | some handle, some owner =>
    { application with owners := application.owners.replace handle { owner with caches } }
  | _, _ => application

def handlesInUse (application : Application) : List Nat :=
  application.current.toList ++ application.clients.filterMap (·.2.owner)
    ++ application.servers.filterMap (·.2.owner)

/-- Forgets the identities that nobody uses. -/
def prune (application : Application) : Application :=
  { application with
    owners := application.owners.filter fun entry =>
      application.handlesInUse.contains entry.1 }

variable {α : Type}

def run (application : Application) (handle : Option Nat) (operation : Operation Error Caches α) :
    Except (Fault Error) α × Application :=
  let outcome := operation (application.caches handle) application.environment
  (outcome.result,
    { application.withCaches handle outcome.memory with environment := outcome.environment })

def runLogin (application : Application)
    (operation : Operation Error (Subject × Caches) α) : Except (Fault Error) α × Application :=
  let handle := application.current
  let outcome := operation (application.subject, application.caches handle) application.environment
  (outcome.result,
    { application.withCaches handle outcome.memory.2 with
      environment := outcome.environment
      subject := outcome.memory.1 })

/-- Runs an operation that needs no memory. -/
def runBare {ε : Type} (application : Application) (operation : Operation ε Unit α) :
    Except (Fault ε) α × Application :=
  let outcome := operation () application.environment
  (outcome.result, { application with environment := outcome.environment })

/-- Puts an identity in force, or none. -/
def withIdentity (application : Application) : Option ClientIdentity → Application
  | none => { application with current := none }
  | some identity =>
    { application with
      owners := application.owners ++ [(application.ownerCount, ⟨identity, .empty⟩)]
      current := some application.ownerCount
      ownerCount := application.ownerCount + 1 }

/-- Registers the identity in force with those that give up values. -/
def register (application : Application) : Application :=
  match application.current with
  | some handle => { application with pressure := application.pressure.register handle }
  | none => application

def relieve (application : Application) : Nat × Application :=
  let (freed, pressure, owners) :=
    Pressure.relieve Owner.reclaim? application.pressure application.owners
  (freed, { application with pressure, owners })

def putParty {β : Type} (parties : List (String × β)) (id : String) (party : β) :
    List (String × β) :=
  (id, party) :: parties.filter (·.1 != id)

def withClient (application : Application) (id : String) (client : Party (SaslClient Caches)) :
    Application :=
  { application with clients := putParty application.clients id client }

def withServer (application : Application) (id : String) (server : Party (SaslServer Caches)) :
    Application :=
  { application with servers := putParty application.servers id server }

def beginClient (application : Application) (id : String) (recipe : Recipe)
    (context : ClientContext Caches) (owner : Option Nat) : Except SaslError Application :=
  (recipe.client context).map fun client => application.withClient id ⟨client, recipe, owner⟩

def beginServer (application : Application) (id : String) (recipe : Recipe)
    (verifier : TokenVerifier Caches) (owner : Option Nat) : Except SaslError Application :=
  (recipe.server verifier).map fun server => application.withServer id ⟨server, recipe, owner⟩

def respond (application : Application) (id : String) (party : Party (SaslClient Caches))
    (challenge : Bytes) : Except (Fault Error) Bytes × Party (SaslClient Caches) × Application :=
  let outcome := SaslClient.respond challenge (party.party, application.caches party.owner)
    application.environment
  let party := { party with party := outcome.memory.1 }
  (outcome.result, party,
    { (application.withCaches party.owner outcome.memory.2).withClient id party with
      environment := outcome.environment })

def challenge (application : Application) (id : String) (party : Party (SaslServer Caches))
    (response : Bytes) : Except (Fault Error) Bytes × Party (SaslServer Caches) × Application :=
  let outcome := SaslServer.challenge response (party.party, application.caches party.owner)
    application.environment
  let party := { party with party := outcome.memory.1 }
  (outcome.result, party,
    { (application.withCaches party.owner outcome.memory.2).withServer id party with
      environment := outcome.environment })

end Application

end BearerIdentity
