import BearerIdentity.Sasl.Client
import BearerIdentity.Sasl.KeyExchange

set_option autoImplicit false

namespace BearerIdentity

inductive SealedClientStage where
  | ready
  /-- The client's public value was sent. The keys are used once. -/
  | keySent (keys : Option KeyPair)
  | keyAgreed (session : Session)
  | complete (session : Session)
  deriving DecidableEq, Repr

def SealedClientStage.describe : SealedClientStage → String
  | ready => "Init"
  | keySent _ => "AwaitServerKey"
  | keyAgreed _ => "KeyExchanged"
  | complete _ => "Complete"

structure SealedClient (σ : Type) where
  inner : BearerClient σ
  stage : SealedClientStage

namespace SealedClient

variable {σ : Type}

def new (inner : BearerClient σ) : SealedClient σ where
  inner := inner
  stage := .ready

def isComplete (client : SealedClient σ) : Bool :=
  match client.stage with
  | .complete _ => true
  | _ => false

def moveTo {ε : Type} (stage : SealedClientStage) : Operation ε (SealedClient σ × σ) Unit :=
  Operation.revise fun (client, memory) => ({ client with stage }, memory)

def onInner {ε α : Type} (operation : Operation ε (BearerClient σ × σ) α) :
    Operation ε (SealedClient σ × σ) α :=
  Operation.onPart (fun (client, memory) => (client.inner, memory))
    (fun (inner, memory) (client, _) => ({ client with inner }, memory)) operation

/-- Lets the inner client respond and encrypts its response. -/
def relay (session : Session) (challenge : Bytes) : Operation Error (SealedClient σ × σ) Bytes := do
  let response ← onInner (BearerClient.respond challenge)
  let frame ← (session.encrypt response).mapError .sasl
  let (client, _) ← Operation.memory
  if client.inner.isComplete then moveTo (.complete session)
  Operation.succeed frame

def sendKey : Operation Error (SealedClient σ × σ) Bytes := do
  let keys ← KeyPair.generate
  moveTo (.keySent (some keys))
  Operation.succeed keys.publicKey

def agree (keys : Option KeyPair) (peer : Bytes) : Operation Error (SealedClient σ × σ) Bytes := do
  let keys ← Operation.ofOption (.sasl .failed) keys
  moveTo (.keySent none)
  let session ← (Operation.ofExcept (keys.agree peer)).mapError .sasl
  moveTo (.keyAgreed session)
  relay session []

def respond (challenge : Bytes) : Operation Error (SealedClient σ × σ) Bytes :=
  Operation.observe .sasl do
    let (client, _) ← Operation.memory
    match client.stage with
    | .ready =>
      if challenge.isEmpty then sendKey else Operation.fail (.sasl .unexpectedChallenge)
    | .keySent keys => agree keys challenge
    | .keyAgreed session =>
      let challenge ← (Operation.ofExcept (session.decrypt challenge)).mapError .sasl
      relay session challenge
    | .complete _ => Operation.fail (.sasl .alreadyComplete)

end SealedClient

end BearerIdentity
