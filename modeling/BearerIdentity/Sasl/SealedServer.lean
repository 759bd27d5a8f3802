import BearerIdentity.Sasl.KeyExchange
import BearerIdentity.Sasl.Server

set_option autoImplicit false

namespace BearerIdentity

inductive SealedServerStage where
  | waiting
  | keyAgreed (session : Session)
  | complete (session : Session)
  | failed
  deriving DecidableEq, Repr

def SealedServerStage.describe : SealedServerStage → String
  | waiting => "AwaitClientKey"
  | keyAgreed _ => "KeyExchanged"
  | complete _ => "Complete"
  | failed => "Failed"

structure SealedServer (σ : Type) where
  inner : BearerServer σ
  stage : SealedServerStage

namespace SealedServer

variable {σ : Type}

def new (inner : BearerServer σ) : SealedServer σ where
  inner := inner
  stage := .waiting

def isComplete (server : SealedServer σ) : Bool :=
  match server.stage with
  | .complete _ => true
  | _ => false

def moveTo {ε : Type} (stage : SealedServerStage) : Operation ε (SealedServer σ × σ) Unit :=
  Operation.revise fun (server, memory) => ({ server with stage }, memory)

def onInner {ε α : Type} (operation : Operation ε (BearerServer σ × σ) α) :
    Operation ε (SealedServer σ × σ) α :=
  Operation.onPart (fun (server, memory) => (server.inner, memory))
    (fun (inner, memory) (server, _) => ({ server with inner }, memory)) operation

/-- Lets the inner server answer a frame and encrypts its answer. An empty answer is sent as it
is. -/
def relay (session : Session) (frame : Bytes) : Operation Error (SealedServer σ × σ) Bytes := do
  let response ← (Operation.ofExcept (session.decrypt frame)).mapError .sasl
  let challenge ← onInner (BearerServer.challenge response)
  if challenge.isEmpty then Operation.succeed []
  else (session.encrypt challenge).mapError .sasl

def agree (peer : Bytes) : Operation Error (SealedServer σ × σ) Bytes := do
  let keys ← KeyPair.generate
  match keys.agree peer with
  | .error cause =>
    moveTo .failed
    Operation.fail (.sasl cause)
  | .ok session =>
    moveTo (.keyAgreed session)
    Operation.succeed keys.publicKey

def stageAfter (session : Session) (inner : BearerServer σ) :
    Except Error Bytes → SealedServerStage
  | .ok challenge =>
    if inner.isComplete then .complete session
    else if challenge.isEmpty then .keyAgreed session
    else .failed
  | .error _ => .failed

def judge (session : Session) (frame : Bytes) : Operation Error (SealedServer σ × σ) Bytes := do
  let result ← Operation.attempt (relay session frame)
  Operation.revise fun (server, memory) =>
    ({ server with stage := stageAfter session server.inner result }, memory)
  Operation.ofExcept result

def challenge (response : Bytes) : Operation Error (SealedServer σ × σ) Bytes :=
  Operation.observe .sasl do
    let (server, _) ← Operation.memory
    match server.stage with
    | .waiting => agree response
    | .keyAgreed session => judge session response
    | .complete _ => Operation.fail (.sasl .alreadyComplete)
    | .failed => Operation.fail (.sasl .failed)

def authorizationId (server : SealedServer σ) : Except Error String :=
  if server.isComplete then server.inner.authorizationId else .error (.sasl .notComplete)

end SealedServer

end BearerIdentity
