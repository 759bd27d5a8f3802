import BearerIdentity.Sasl.Message
import BearerIdentity.Sasl.Mechanism
import BearerIdentity.Sasl.Party

set_option autoImplicit false

namespace BearerIdentity

inductive ServerStage where
  | waiting
  | complete
  | failed
  deriving DecidableEq, Repr

def ServerStage.describe : ServerStage → String
  | waiting => "AwaitResponse"
  | complete => "Complete"
  | failed => "Failed"

structure BearerServer (σ : Type) where
  verifier : TokenVerifier σ
  stage : ServerStage
  /-- The token that was accepted. -/
  token : Option SignedToken

namespace BearerServer

variable {σ : Type}

def new (verifier : TokenVerifier σ) : BearerServer σ where
  verifier := verifier
  stage := .waiting
  token := none

def isComplete (server : BearerServer σ) : Bool :=
  server.stage == .complete

def fail {ε : Type} : Operation ε (BearerServer σ × σ) Unit :=
  Operation.revise fun (server, memory) => ({ server with stage := .failed }, memory)

def complete {ε : Type} (token : SignedToken) : Operation ε (BearerServer σ × σ) Unit :=
  Operation.revise fun (server, memory) =>
    ({ server with stage := .complete, token := some token }, memory)

/-- The token in a message, if the message can be read and the token is good. -/
def verifyMessage (server : BearerServer σ) (response : Bytes) :
    Operation Error σ SignedToken := do
  let message ← (Operation.ofExcept (BearerMessage.parse response)).mapError .sasl
  server.verifier.verify message.token

def judge (server : BearerServer σ) (response : Bytes) :
    Operation Error (BearerServer σ × σ) Bytes := do
  match ← Operation.attempt (Operation.onSecond (server.verifyMessage response)) with
  | .ok token =>
    complete token
    Operation.succeed []
  | .error _ =>
    fail
    Operation.succeed BearerMessage.invalidToken

/-- Answers a response. An abort counts at any time. -/
def challenge (response : Bytes) : Operation Error (BearerServer σ × σ) Bytes :=
  Operation.observe .sasl do
    let (server, _) ← Operation.memory
    if response = BearerMessage.abort then
      fail
      Operation.fail (.sasl .aborted)
    else
      match server.stage with
      | .waiting => server.judge response
      | .complete => Operation.fail (.sasl .alreadyComplete)
      | .failed => Operation.fail (.sasl .failed)

def authorizationId (server : BearerServer σ) : Except Error String :=
  match server.token with
  | none => .error (.sasl .notComplete)
  | some token => server.verifier.nameOf token

def describe (server : BearerServer σ) : String :=
  Rendering.partialRecord "OAuthBearerServer"
    [("state", server.stage.describe), ("uma_aware", Rendering.flag server.verifier.isUmaAware)]

end BearerServer

end BearerIdentity
