import BearerIdentity.Proofs.Sasl.SingleVerdict
import Mathlib.Data.List.Forall2

set_option autoImplicit false

namespace BearerIdentity

namespace BearerMessage

def SameToken (left right : Bytes) : Prop :=
  ∃ one other, parse left = .ok one ∧ parse right = .ok other ∧ one.token = other.token

theorem ne_abort_of_parse {bytes : Bytes} {message : BearerMessage} (read : parse bytes = .ok message) :
    bytes ≠ abort := by
  rintro rfl
  cases read

end BearerMessage

namespace BearerServer

open Operation
open Dialogue (Run)

variable {σ : Type}

/-- While a server waits, the token in a message decides, and nothing else in the message. -/
theorem judge_read (server : BearerServer σ) {response : Bytes} {message : BearerMessage}
    (read : BearerMessage.parse response = .ok message) (memory : σ) (environment : Environment) :
    server.judge response (server, memory) environment =
      match server.verifier.verify message.token memory environment with
      | ⟨.ok token, memory, environment⟩ =>
        ⟨.ok [], ({ server with stage := .complete, token := some token }, memory), environment⟩
      | ⟨.error (.error _), memory, environment⟩ =>
        ⟨.ok BearerMessage.invalidToken, ({ server with stage := .failed }, memory), environment⟩
      | ⟨.error .calendar, memory, environment⟩ => ⟨.error .calendar, (server, memory), environment⟩ := by
  rewrite [judge_apply, verifyMessage_apply, read]
  rfl

/-- Whatever the stage of a server, it does the same with two messages that carry the same token. -/
theorem challenge_congr {left right : Bytes} (same : BearerMessage.SameToken left right)
    (server : BearerServer σ) (memory : σ) (environment : Environment) :
    challenge left (server, memory) environment = challenge right (server, memory) environment := by
  obtain ⟨one, other, readLeft, readRight, token⟩ := same
  rw [challenge_apply, challenge_apply, if_neg (BearerMessage.ne_abort_of_parse readLeft),
    if_neg (BearerMessage.ne_abort_of_parse readRight)]
  cases server.stage with
  | waiting =>
    dsimp only
    rw [observe_apply, observe_apply, judge_read server readLeft, judge_read server readRight, token]
  | complete => rfl
  | failed => rfl

/-- Two steps that differ at most in what the message claims beside its token. -/
structure Matches (one other : Step σ) : Prop where
  message : one.message = other.message ∨ BearerMessage.SameToken one.message other.message
  memory : one.memory = other.memory
  environment : one.environment = other.environment

namespace Matches

variable {one other : Step σ}

theorem outcome (alike : Matches one other) (party : one.party = other.party) :
    one.outcome challenge = other.outcome challenge := by
  rw [Dialogue.Step.outcome, Dialogue.Step.outcome, party, alike.memory, alike.environment]
  rcases alike.message with same | same
  · rw [same]
  · exact challenge_congr same _ _ _

theorem asked (alike : Matches one other) (party : one.party = other.party) :
    BearerServer.asked one = BearerServer.asked other := by
  rw [BearerServer.asked, BearerServer.asked, party, alike.memory, alike.environment]
  rcases alike.message with same | same
  · rw [same]
  · rw [challenge_congr same]

end Matches

/-- Two steps look the same from outside: the answers are equal, what the server says of itself
afterwards is, and so is what the verifier is asked and everything that it leaves behind. -/
structure Indistinct (one other : Step σ) : Prop where
  answer : one.result challenge = other.result challenge
  stage : (one.next challenge).stage = (other.next challenge).stage
  complete : (one.next challenge).isComplete = (other.next challenge).isComplete
  token : (one.next challenge).token = (other.next challenge).token
  authorizationId : (one.next challenge).authorizationId = (other.next challenge).authorizationId
  asked : BearerServer.asked one = BearerServer.asked other
  memory : (one.outcome challenge).memory.2 = (other.outcome challenge).memory.2
  environment : (one.outcome challenge).environment = (other.outcome challenge).environment

theorem Matches.indistinct {one other : Step σ} (alike : Matches one other)
    (party : one.party = other.party) : Indistinct one other := by
  have outcome := alike.outcome party
  have next : one.next challenge = other.next challenge := by
    rw [Dialogue.Step.next, outcome, Dialogue.Step.next]
  exact {
    answer := congrArg Outcome.result outcome
    stage := congrArg BearerServer.stage next
    complete := congrArg isComplete next
    token := congrArg BearerServer.token next
    authorizationId := congrArg BearerServer.authorizationId next
    asked := alike.asked party
    memory := by rw [outcome]
    environment := by rw [outcome] }

/-- Two runs from the same server whose steps match lead to the same server, and look the same at every
step. -/
theorem indistinct_of_runs {server last last' : BearerServer σ} {steps others : List (Step σ)}
    (run : Run challenge server steps last) (run' : Run challenge server others last')
    (alike : List.Forall₂ Matches steps others) :
    last = last' ∧ List.Forall₂ Indistinct steps others := by
  induction alike generalizing last last' with
  | nil =>
    cases run
    cases run'
    exact ⟨rfl, .nil⟩
  | cons alike earlier indistinct =>
    cases run with
    | step one run answered =>
      cases run' with
      | step other run' answered' =>
        obtain ⟨party, looks⟩ := indistinct run run'
        refine ⟨?_, .cons (alike.indistinct party) looks⟩
        rw [Dialogue.Step.next, alike.outcome party, Dialogue.Step.next]

/-- Two new servers with the same verifier are given messages with the same token, in the same
circumstances. They cannot be told apart then, nor by anything that they are given later, as long as that
differs in claims only. -/
theorem indistinct_of_sameToken (verifier : TokenVerifier σ) {left right : Bytes}
    {first second : BearerMessage} (readLeft : BearerMessage.parse left = .ok first)
    (readRight : BearerMessage.parse right = .ok second) (token : first.token = second.token)
    (memory : σ) (environment : Environment) :
    Indistinct ⟨.new verifier, left, memory, environment⟩ ⟨.new verifier, right, memory, environment⟩ ∧
      ∀ steps others last last',
        Run challenge (Dialogue.Step.next challenge ⟨.new verifier, left, memory, environment⟩) steps
          last →
        Run challenge (Dialogue.Step.next challenge ⟨.new verifier, right, memory, environment⟩) others
          last' →
        List.Forall₂ Matches steps others → last = last' ∧ List.Forall₂ Indistinct steps others := by
  have alike : Matches (⟨.new verifier, left, memory, environment⟩ : Step σ)
      ⟨.new verifier, right, memory, environment⟩ :=
    ⟨.inr ⟨first, second, readLeft, readRight, token⟩, rfl, rfl⟩
  refine ⟨alike.indistinct rfl, fun steps others last last' run run' matching => ?_⟩
  have next : Dialogue.Step.next challenge ⟨.new verifier, right, memory, environment⟩ =
      Dialogue.Step.next challenge ⟨.new verifier, left, memory, environment⟩ := by
    rw [Dialogue.Step.next, ← alike.outcome rfl, Dialogue.Step.next]
  rw [next] at run'
  exact indistinct_of_runs run run' matching

end BearerServer

namespace Pretence

open BearerServer

def token : String :=
  "eyJhbGciOiJIUzI1NiJ9.eyJpc3MiOiJodHRwczovL2lkcC5leGFtcGxlIiwiYXpwIjoic3ZjIn0."

def modest : BearerMessage where
  authzid := none
  host := none
  token := token
  extensions := []

def pretentious : BearerMessage where
  authzid := some "oidc://admin@idp.example"
  host := some "admin.example"
  token := token
  extensions := [("port", "9092")]

/-- The header of this one also announces that channels could be bound. -/
def pretentiousBytes : Bytes :=
  121 :: pretentious.encode.tail

def step (message : Bytes) : BearerServer.Step Unit :=
  ⟨.new (.trusting false), message, (), LateAbort.environment⟩

theorem read_modest : BearerMessage.parse modest.encode = .ok modest := by
  decide +kernel

theorem read_pretentious : BearerMessage.parse pretentiousBytes = .ok pretentious := by
  decide +kernel

theorem named : ((step modest.encode).next challenge).authorizationId.toOption =
    some "oidc://svc@idp.example" := by
  decide +kernel

/-- A client that says nothing of itself, and one that has the same token and wants to act for an
administrator. Both are accepted, as the client that the token names. -/
theorem pretence_ignored : modest.token = pretentious.token ∧
    BearerMessage.parse modest.encode = .ok modest ∧
    BearerMessage.parse pretentiousBytes = .ok pretentious ∧
    Indistinct (step modest.encode) (step pretentiousBytes) ∧
    ((step pretentiousBytes).next challenge).authorizationId.toOption =
      some "oidc://svc@idp.example" := by
  have same : Indistinct (step modest.encode) (step pretentiousBytes) :=
    (indistinct_of_sameToken (.trusting false) read_modest read_pretentious rfl ()
      LateAbort.environment).1
  exact ⟨rfl, read_modest, read_pretentious, same, by rw [← same.authorizationId, named]⟩

end Pretence

end BearerIdentity
