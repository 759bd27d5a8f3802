import BearerIdentity.Sasl.Message
import BearerIdentity.Sasl.Mechanism
import BearerIdentity.Sasl.Party

set_option autoImplicit false

namespace BearerIdentity

inductive ClientStage where
  | ready
  /-- A ticket was requested. The client stays here if it got none. -/
  | requested
  | complete
  deriving DecidableEq, Repr

def ClientStage.describe : ClientStage → String
  | ready => "Init"
  | requested => "SentInitial"
  | complete => "Complete"

structure BearerClient (σ : Type) where
  source : TicketSource σ
  target : String
  /-- The host that the client announces. -/
  host : String
  authzid : Option String
  stage : ClientStage

namespace BearerClient

variable {σ : Type}

def new (source : TicketSource σ) (target host : String) (authzid : Option String) :
    BearerClient σ where
  source := source
  target := target
  host := host
  authzid := authzid
  stage := .ready

def isComplete (client : BearerClient σ) : Bool :=
  client.stage == .complete

def message (client : BearerClient σ) (ticket : AccessTicket) : BearerMessage where
  authzid := client.authzid
  host := some client.host
  token := ticket.token.raw
  extensions := []

def moveTo {ε : Type} (stage : ClientStage) : Operation ε (BearerClient σ × σ) Unit :=
  Operation.revise fun (client, memory) => ({ client with stage }, memory)

def sendTicket (client : BearerClient σ) : Operation Error (BearerClient σ × σ) Bytes := do
  moveTo .requested
  let ticket ← Operation.onSecond (client.source.request client.target)
  moveTo .complete
  Operation.succeed (client.message ticket).encode

def respond (challenge : Bytes) : Operation Error (BearerClient σ × σ) Bytes :=
  Operation.observe .sasl do
    let (client, _) ← Operation.memory
    match client.stage with
    | .ready =>
      if challenge.isEmpty then client.sendTicket
      else Operation.fail (.sasl .unexpectedChallenge)
    | .requested => Operation.fail (.sasl .failed)
    | .complete => Operation.fail (.sasl .alreadyComplete)

def describe (client : BearerClient σ) : String :=
  Rendering.record "OAuthBearerClient"
    [("source", Rendering.quoted client.source.name), ("target", Rendering.quoted client.target),
      ("host", Rendering.quoted client.host),
      ("authzid", Rendering.optional Rendering.quoted client.authzid),
      ("state", client.stage.describe)]

end BearerClient

end BearerIdentity
