import BearerIdentity.Sasl.SealedClient
import BearerIdentity.Sasl.SealedServer

set_option autoImplicit false

namespace BearerIdentity

inductive SaslClient (σ : Type) where
  | plain (client : BearerClient σ)
  | sealed (client : SealedClient σ)

namespace SaslClient

variable {σ : Type}

def mechanism : SaslClient σ → Mechanism
  | plain _ => .plain
  | sealed _ => .sealed

def isComplete : SaslClient σ → Bool
  | plain client => client.isComplete
  | sealed client => client.isComplete

def stageName : SaslClient σ → String
  | plain client => client.stage.describe
  | sealed client => client.stage.describe

def respond (challenge : Bytes) : Operation Error (SaslClient σ × σ) Bytes :=
  fun (client, memory) environment =>
    match client with
    | plain client =>
      let outcome := BearerClient.respond challenge (client, memory) environment
      ⟨outcome.result, (plain outcome.memory.1, outcome.memory.2), outcome.environment⟩
    | sealed client =>
      let outcome := SealedClient.respond challenge (client, memory) environment
      ⟨outcome.result, (sealed outcome.memory.1, outcome.memory.2), outcome.environment⟩

end SaslClient

inductive SaslServer (σ : Type) where
  | plain (server : BearerServer σ)
  | sealed (server : SealedServer σ)

namespace SaslServer

variable {σ : Type}

def mechanism : SaslServer σ → Mechanism
  | plain _ => .plain
  | sealed _ => .sealed

def isComplete : SaslServer σ → Bool
  | plain server => server.isComplete
  | sealed server => server.isComplete

def stageName : SaslServer σ → String
  | plain server => server.stage.describe
  | sealed server => server.stage.describe

def authorizationId : SaslServer σ → Except Error String
  | plain server => server.authorizationId
  | sealed server => server.authorizationId

def verifiedToken : SaslServer σ → Option SignedToken
  | plain server => server.token
  | sealed server => server.inner.token

def challenge (response : Bytes) : Operation Error (SaslServer σ × σ) Bytes :=
  fun (server, memory) environment =>
    match server with
    | plain server =>
      let outcome := BearerServer.challenge response (server, memory) environment
      ⟨outcome.result, (plain outcome.memory.1, outcome.memory.2), outcome.environment⟩
    | sealed server =>
      let outcome := SealedServer.challenge response (server, memory) environment
      ⟨outcome.result, (sealed outcome.memory.1, outcome.memory.2), outcome.environment⟩

end SaslServer

/-- The only quality of protection: authentication. -/
def qualityOfProtection : String := "auth"

/-- Messages are not protected after the exchange. -/
def protect (operation : Protection) (_ : Bytes) : Except SaslError Bytes :=
  .error (.unsupported operation)

/-- What a client is made from. -/
structure ClientContext (σ : Type) where
  source : TicketSource σ
  target : String
  host : String
  authzid : Option String

namespace ClientContext

variable {σ : Type}

def plainClient (context : ClientContext σ) : BearerClient σ :=
  .new context.source context.target context.host context.authzid

def client (context : ClientContext σ) : Mechanism → SaslClient σ
  | .plain => .plain context.plainClient
  | .sealed => .sealed (.new context.plainClient)

def describe (context : ClientContext σ) : String :=
  Rendering.record "ClientContext"
    [("source", Rendering.quoted context.source.name),
      ("target", Rendering.quoted context.target), ("host", Rendering.quoted context.host),
      ("authzid", Rendering.optional Rendering.quoted context.authzid)]

end ClientContext

def TokenVerifier.server {σ : Type} (verifier : TokenVerifier σ) : Mechanism → SaslServer σ
  | .plain => .plain (.new verifier)
  | .sealed => .sealed (.new (.new verifier))

/-- Makers of clients and servers, sorted by name. -/
structure MechanismRegistry (σ : Type) where
  clients : List (String × (ClientContext σ → SaslClient σ))
  servers : List (String × (TokenVerifier σ → SaslServer σ))

namespace MechanismRegistry

variable {σ : Type}

def empty : MechanismRegistry σ :=
  ⟨[], []⟩

def registerClient (registry : MechanismRegistry σ) (name : String)
    (maker : ClientContext σ → SaslClient σ) : MechanismRegistry σ :=
  { registry with clients := Json.insertSorted name maker registry.clients }

def registerServer (registry : MechanismRegistry σ) (name : String)
    (maker : TokenVerifier σ → SaslServer σ) : MechanismRegistry σ :=
  { registry with servers := Json.insertSorted name maker registry.servers }

def registerMechanism (registry : MechanismRegistry σ) (mechanism : Mechanism) :
    MechanismRegistry σ :=
  (registry.registerClient mechanism.name (·.client mechanism)).registerServer mechanism.name
    (·.server mechanism)

def standard : MechanismRegistry σ :=
  (empty.registerMechanism .plain).registerMechanism .sealed

def clientNames (registry : MechanismRegistry σ) : List String :=
  registry.clients.map (·.1)

def serverNames (registry : MechanismRegistry σ) : List String :=
  registry.servers.map (·.1)

def unavailable (name : String) : SaslError :=
  match Mechanism.ofName name with
  | .error cause => cause
  | .ok _ => .unknownMechanism name

def client (registry : MechanismRegistry σ) (name : String) (context : ClientContext σ) :
    Except SaslError (SaslClient σ) :=
  match registry.clients.lookup name with
  | some maker => .ok (maker context)
  | none => .error (unavailable name)

def server (registry : MechanismRegistry σ) (name : String) (verifier : TokenVerifier σ) :
    Except SaslError (SaslServer σ) :=
  match registry.servers.lookup name with
  | some maker => .ok (maker verifier)
  | none => .error (unavailable name)

def describe (registry : MechanismRegistry σ) : String :=
  Rendering.record "MechanismRegistry"
    [("clients", Rendering.list Rendering.quoted registry.clientNames),
      ("servers", Rendering.list Rendering.quoted registry.serverNames)]

end MechanismRegistry

end BearerIdentity
