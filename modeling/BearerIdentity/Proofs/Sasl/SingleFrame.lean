import BearerIdentity.Proofs.Sasl.SealedExchange

set_option autoImplicit false

namespace BearerIdentity

/-- No abort leaves the calendar. -/
theorem BearerServer.Reacts.unaborted_of_calendar {σ : Type} {step : BearerServer.Step σ}
    {next : BearerServer σ} {tokens : List String}
    (reaction : BearerServer.Reacts step (.error .calendar) next tokens) :
    step.message ≠ BearerMessage.abort := by
  cases reaction with
  | interrupted unaborted waiting read ended => exact unaborted

namespace SealedServer

open Operation KeyExchange
open Dialogue (Run)
open BearerServer (Accepts Rejects)

variable {σ : Type}

abbrev Step (σ : Type) : Type :=
  Dialogue.Step (SealedServer σ) σ

/-- A server with the same keys around one whose verifier takes notes. -/
def noting (server : SealedServer σ) : SealedServer (List String × σ) where
  inner := server.inner.noting
  stage := server.stage

def asked (step : Step σ) : List String :=
  (challenge step.message (step.party.noting, ([], step.memory)) step.environment).memory.2.1

/-- The step of the server inside, which is given the text of a frame. -/
def inside (step : Step σ) (text : Bytes) : BearerServer.Step σ :=
  ⟨step.party.inner, text, step.memory, step.environment.record .sasl .attempt⟩

/-- The keys that a server draws to answer a public value. -/
def keys (step : Step σ) : KeyPair :=
  .ofBytes (step.environment.draw exponentLength).1

/-- A server is closed once it is complete or has failed. -/
def IsClosed (server : SealedServer σ) : Prop :=
  (∃ session, server.stage = .complete session) ∨ server.stage = .failed

/-- How a server may react to a message: its answer, what becomes of it, and which tokens its verifier
is asked about. -/
inductive Reacts (step : Step σ) :
    Except (Fault Error) Bytes → SealedServer σ → List String → Prop where
  | agreed {session : Session} (waiting : step.party.stage = .waiting)
      (agreed : (keys step).agree step.message = .ok session) :
      Reacts step (.ok (keys step).publicKey) { step.party with stage := .keyAgreed session } []
  | disagreed {cause : SaslError} (waiting : step.party.stage = .waiting)
      (refused : (keys step).agree step.message = .error cause) :
      Reacts step (.error (.error (.sasl cause))) { step.party with stage := .failed } []
  | shut {session : Session} {cause : SaslError} (keyed : step.party.stage = .keyAgreed session)
      (unopened : session.decrypt step.message = .error cause) :
      Reacts step (.error (.error (.sasl cause))) { step.party with stage := .failed } []
  | accepted {session : Session} {text : Bytes} {token : SignedToken}
      (keyed : step.party.stage = .keyAgreed session)
      (opened : session.decrypt step.message = .ok text)
      (accepts : Accepts step.party.inner.verifier (inside step text) token) :
      Reacts step (.ok [])
        ⟨{ step.party.inner with stage := .complete, token := some token }, .complete session⟩
        (BearerServer.asked (inside step text))
  | rejected {session : Session} {text nonce : Bytes} (keyed : step.party.stage = .keyAgreed session)
      (opened : session.decrypt step.message = .ok text)
      (rejects : Rejects step.party.inner.verifier (inside step text)) :
      Reacts step (.ok (session.sealed nonce BearerMessage.invalidToken))
        ⟨{ step.party.inner with stage := .failed }, .failed⟩ (BearerServer.asked (inside step text))
  | erred {session : Session} {text : Bytes} {cause : Error} {inner : BearerServer σ}
      (keyed : step.party.stage = .keyAgreed session)
      (opened : session.decrypt step.message = .ok text)
      (unaccepted : ∀ token, ¬ Accepts step.party.inner.verifier (inside step text) token)
      (kept : inner = step.party.inner ∨ inner = { step.party.inner with stage := .failed }) :
      Reacts step (.error (.error cause)) ⟨inner, .failed⟩ (BearerServer.asked (inside step text))
  | interrupted {session : Session} {text : Bytes} {inner : BearerServer σ}
      (keyed : step.party.stage = .keyAgreed session)
      (opened : session.decrypt step.message = .ok text)
      (ended : (inside step text).result BearerServer.challenge = .error .calendar) :
      Reacts step (.error .calendar) ⟨inner, .keyAgreed session⟩ (BearerServer.asked (inside step text))
  | closed {cause : SaslError} (closed : step.party.IsClosed) :
      Reacts step (.error (.error (.sasl cause))) step.party []

/-- A frame that opens is left to the server inside. -/
theorem memory_challenge {inner : BearerServer σ} {session : Session} {frame text : Bytes}
    (opened : session.decrypt frame = .ok text) (memory : σ) (environment : Environment) :
    (challenge frame (⟨inner, .keyAgreed session⟩, memory) environment).memory.2 =
      (BearerServer.challenge text (inner, memory) (environment.record .sasl .attempt)).memory.2 := by
  rw [challenge_apply, observe_apply]
  simp only [judge_apply, relay_apply, opened]
  rcases BearerServer.challenge text (inner, memory) (environment.record .sasl .attempt) with
    ⟨(_ | cause) | answer, ⟨inner', memory'⟩, environment'⟩
  · rfl
  · rfl
  · by_cases empty : answer.isEmpty = true
    · simp only [empty, ite_true]
    · by_cases long : Frame.payloadLimit < answer.length
      · simp only [empty, long, ite_true]
        rfl
      · simp only [empty, long, ite_false]
        rfl

theorem challenge_refused {inner : BearerServer σ} {peer : Bytes} {cause : SaslError}
    {environment : Environment}
    (refused : (KeyPair.ofBytes (environment.draw exponentLength).1).agree peer = .error cause)
    (memory : σ) :
    challenge peer (⟨inner, .waiting⟩, memory) environment =
      ⟨.error (.error (.sasl cause)), (⟨inner, .failed⟩, memory),
        ((environment.record .sasl .attempt).draw exponentLength).2.record .sasl .failure⟩ := by
  have same : ((environment.record .sasl .attempt).draw exponentLength).1 =
      (environment.draw exponentLength).1 := rfl
  rw [challenge_apply, observe_apply]
  simp only [agree, KeyPair.generate, Bind.bind, andThen, Operation.draw, succeed, same, refused]
  rfl

theorem challenge_unopened {inner : BearerServer σ} {session : Session} {frame : Bytes}
    {cause : SaslError} (unopened : session.decrypt frame = .error cause) (memory : σ)
    (environment : Environment) :
    challenge frame (⟨inner, .keyAgreed session⟩, memory) environment =
      ⟨.error (.error (.sasl cause)), (⟨inner, .failed⟩, memory),
        (environment.record .sasl .attempt).record .sasl .failure⟩ := by
  rw [challenge_apply, observe_apply]
  simp only [judge_apply, relay_apply, unopened]

theorem challenge_opened_error {inner inner' : BearerServer σ} {session : Session} {frame text : Bytes}
    {cause : Error} {memory memory' : σ} {environment environment' : Environment}
    (opened : session.decrypt frame = .ok text)
    (said : BearerServer.challenge text (inner, memory) (environment.record .sasl .attempt) =
      ⟨.error (.error cause), (inner', memory'), environment'⟩) :
    challenge frame (⟨inner, .keyAgreed session⟩, memory) environment =
      ⟨.error (.error cause), (⟨inner', .failed⟩, memory'), environment'.record .sasl .failure⟩ := by
  rw [challenge_apply, observe_apply]
  simp only [judge_apply, relay_apply, opened, said]

def Refuses (step : Step σ) : Prop :=
  ∃ cause : SaslError, step.outcome challenge =
    ⟨.error (.error (.sasl cause)), (step.party, step.memory),
      (step.environment.record .sasl .attempt).record .sasl .failure⟩

theorem IsClosed.refuses {step : Step σ} (closed : step.party.IsClosed) : Refuses step := by
  obtain ⟨session, complete⟩ | failed := closed
  · refine ⟨.alreadyComplete, ?_⟩
    rw [Dialogue.Step.outcome, challenge_apply, complete, observe_apply]
    rfl
  · refine ⟨.failed, ?_⟩
    rw [Dialogue.Step.outcome, challenge_apply, failed, observe_apply]
    rfl

section Reactions

variable {step : Step σ} {session : Session}

theorem reacts_of_waiting (waiting : step.party.stage = .waiting) :
    Reacts step (step.result challenge) (step.next challenge) (asked step) := by
  obtain ⟨⟨inner, stage⟩, frame, memory, environment⟩ := step
  obtain rfl : stage = .waiting := waiting
  cases agreed : (KeyPair.ofBytes (environment.draw exponentLength).1).agree frame with
  | ok session =>
    simp only [Dialogue.Step.result, Dialogue.Step.next, Dialogue.Step.outcome, asked, noting,
      challenge_waiting agreed]
    exact .agreed rfl agreed
  | error cause =>
    simp only [Dialogue.Step.result, Dialogue.Step.next, Dialogue.Step.outcome, asked, noting,
      challenge_refused agreed]
    exact .disagreed rfl agreed

theorem reacts_of_unopened {cause : SaslError} (keyed : step.party.stage = .keyAgreed session)
    (unopened : session.decrypt step.message = .error cause) :
    Reacts step (step.result challenge) (step.next challenge) (asked step) := by
  obtain ⟨⟨inner, stage⟩, frame, memory, environment⟩ := step
  obtain rfl : stage = .keyAgreed session := keyed
  simp only [Dialogue.Step.result, Dialogue.Step.next, Dialogue.Step.outcome, asked, noting,
    challenge_unopened unopened]
  exact .shut rfl unopened

/-- Where a frame opens, the server inside decides. -/
theorem reacts_of_opened {text : Bytes} (keyed : step.party.stage = .keyAgreed session)
    (opened : session.decrypt step.message = .ok text) :
    Reacts step (step.result challenge) (step.next challenge) (asked step) := by
  obtain ⟨⟨inner, stage⟩, frame, memory, environment⟩ := step
  obtain rfl : stage = .keyAgreed session := keyed
  have tokens : asked (⟨⟨inner, .keyAgreed session⟩, frame, memory, environment⟩ : Step σ) =
      BearerServer.asked (inside ⟨⟨inner, .keyAgreed session⟩, frame, memory, environment⟩ text) :=
    congrArg Prod.fst (memory_challenge opened ([], memory) environment)
  have reaction := BearerServer.reacts
    (inside ⟨⟨inner, .keyAgreed session⟩, frame, memory, environment⟩ text)
  rw [tokens]
  rcases said : BearerServer.challenge text (inner, memory) (environment.record .sasl .attempt) with
    ⟨result, ⟨inner', memory'⟩, environment'⟩
  simp only [inside, Dialogue.Step.result, Dialogue.Step.next, Dialogue.Step.outcome, said] at reaction
  obtain ⟨token, accepts, rfl, rfl⟩ | ⟨rejects, rfl, rfl⟩ | ⟨unaccepted, unrejected, ⟨fault, rfl⟩, kept⟩ :=
    reaction.kinds
  · simp only [Dialogue.Step.result, Dialogue.Step.next, Dialogue.Step.outcome,
      challenge_opened opened said]
    exact .accepted rfl opened accepts
  · have short : BearerMessage.invalidToken.length ≤ Frame.payloadLimit := by decide
    simp only [Dialogue.Step.result, Dialogue.Step.next, Dialogue.Step.outcome,
      challenge_opened_text opened BearerMessage.invalidToken_ne_nil short said]
    exact .rejected rfl opened rejects
  cases fault with
  | error cause =>
    simp only [Dialogue.Step.result, Dialogue.Step.next, Dialogue.Step.outcome,
      challenge_opened_error opened said]
    exact .erred rfl opened unaccepted kept
  | calendar =>
    simp only [Dialogue.Step.result, Dialogue.Step.next, Dialogue.Step.outcome,
      challenge_opened_calendar opened said]
    exact .interrupted rfl opened (congrArg Outcome.result said)

theorem reacts_of_isClosed (closed : step.party.IsClosed) :
    Reacts step (step.result challenge) (step.next challenge) (asked step) := by
  obtain ⟨⟨inner, stage⟩, frame, memory, environment⟩ := step
  obtain ⟨session, rfl⟩ | rfl : (∃ session, stage = .complete session) ∨ stage = .failed := closed
  · simp only [Dialogue.Step.result, Dialogue.Step.next, Dialogue.Step.outcome, asked, noting,
      challenge_apply, observe_apply, Operation.fail]
    exact .closed (.inl ⟨session, rfl⟩)
  · simp only [Dialogue.Step.result, Dialogue.Step.next, Dialogue.Step.outcome, asked, noting,
      challenge_apply, observe_apply, Operation.fail]
    exact .closed (.inr rfl)

end Reactions

/-- Every step is one of these reactions. -/
theorem reacts (step : Step σ) :
    Reacts step (step.result challenge) (step.next challenge) (asked step) := by
  cases stage : step.party.stage with
  | waiting => exact reacts_of_waiting stage
  | keyAgreed session =>
    cases opened : session.decrypt step.message with
    | error cause => exact reacts_of_unopened stage opened
    | ok text => exact reacts_of_opened stage opened
  | complete session => exact reacts_of_isClosed (.inl ⟨session, stage⟩)
  | failed => exact reacts_of_isClosed (.inr stage)

theorem not_isClosed_of_waiting {server : SealedServer σ} (waiting : server.stage = .waiting) :
    ¬ server.IsClosed := by
  rintro (⟨session, complete⟩ | failed)
  · rw [waiting] at complete
    cases complete
  · rw [waiting] at failed
    cases failed

theorem not_isClosed_of_keyAgreed {server : SealedServer σ} {session : Session}
    (keyed : server.stage = .keyAgreed session) : ¬ server.IsClosed := by
  rintro (⟨session, complete⟩ | failed)
  · rw [keyed] at complete
    cases complete
  · rw [keyed] at failed
    cases failed

namespace Reacts

variable {step : Step σ} {result : Except (Fault Error) Bytes} {next : SealedServer σ}
  {tokens : List String} {session : Session}

/-- The verifier is asked about one token at most, and not any more once the server is closed. -/
theorem tokens_of (reaction : Reacts step result next tokens) :
    tokens.length ≤ 1 ∧ (step.party.IsClosed → tokens = []) := by
  cases reaction with
  | agreed waiting agreed => simp
  | disagreed waiting refused => simp
  | shut keyed unopened => simp
  | accepted keyed opened accepts =>
    exact ⟨(BearerServer.reacts _).tokens_of.1, fun closed => absurd closed (not_isClosed_of_keyAgreed keyed)⟩
  | rejected keyed opened rejects =>
    exact ⟨(BearerServer.reacts _).tokens_of.1, fun closed => absurd closed (not_isClosed_of_keyAgreed keyed)⟩
  | erred keyed opened unaccepted kept =>
    exact ⟨(BearerServer.reacts _).tokens_of.1, fun closed => absurd closed (not_isClosed_of_keyAgreed keyed)⟩
  | interrupted keyed opened ended =>
    exact ⟨(BearerServer.reacts _).tokens_of.1, fun closed => absurd closed (not_isClosed_of_keyAgreed keyed)⟩
  | closed closed => simp

/-- Once the keys agree, an answer closes the server. -/
theorem closes (reaction : Reacts step result next tokens) (keyed : step.party.stage = .keyAgreed session)
    (answered : result ≠ .error .calendar) : next.IsClosed := by
  cases reaction with
  | agreed waiting agreed =>
    rw [keyed] at waiting
    cases waiting
  | disagreed waiting refused => exact .inr rfl
  | shut keyed unopened => exact .inr rfl
  | accepted keyed opened accepts => exact .inl ⟨_, rfl⟩
  | rejected keyed opened rejects => exact .inr rfl
  | erred keyed opened unaccepted kept => exact .inr rfl
  | interrupted keyed opened ended => exact absurd rfl answered
  | closed closed => exact closed

/-- The keys agree only in a step in which the server was sent a public value that it agrees with. -/
theorem agreed_of (reaction : Reacts step result next tokens) (answered : result ≠ .error .calendar)
    (keyed : next.stage = .keyAgreed session) :
    step.party.stage = .waiting ∧ (keys step).agree step.message = .ok session ∧
      result = .ok (keys step).publicKey := by
  cases reaction with
  | agreed waiting agreed =>
    cases keyed
    exact ⟨waiting, agreed, rfl⟩
  | interrupted keyed opened ended => exact absurd rfl answered
  | closed closed => exact absurd closed (not_isClosed_of_keyAgreed keyed)
  | disagreed waiting refused => cases keyed
  | shut keyed unopened => cases keyed
  | accepted keyed opened accepts => cases keyed
  | rejected keyed opened rejects => cases keyed
  | erred keyed opened unaccepted kept => cases keyed

/-- Whoever has failed has given an answer. -/
theorem answered_of_failed (reaction : Reacts step result next tokens) (failed : next.stage = .failed) :
    result ≠ .error .calendar := by
  rintro rfl
  cases reaction with
  | interrupted keyed opened ended => cases failed

end Reacts

/-- What the steps so far have made of a server whose verifier was asked about these tokens. -/
structure Trace (verifier : TokenVerifier σ) (tokens : List String) (server : SealedServer σ) :
    Prop where
  fresh : ¬ server.IsClosed → server.inner = .new verifier ∧ tokens = []
  inner : server.isComplete = server.inner.isComplete
  token : server.isComplete = server.inner.token.isSome
  asked : tokens.length ≤ 1

namespace Trace

variable {verifier : TokenVerifier σ} {before : List String} {server : SealedServer σ}

theorem new (verifier : TokenVerifier σ) : Trace verifier [] (.new (.new verifier)) where
  fresh := fun _ => ⟨rfl, rfl⟩
  inner := rfl
  token := rfl
  asked := Nat.zero_le 1

/-- A server that has failed holds no token if it has just been as new inside. -/
theorem of_failed {inner : BearerServer σ} (asked : before.length ≤ 1)
    (kept : inner = .new verifier ∨ inner = { BearerServer.new verifier with stage := .failed }) :
    Trace verifier before ⟨inner, .failed⟩ where
  fresh := fun unclosed => absurd (.inr rfl) unclosed
  inner := by rcases kept with rfl | rfl <;> rfl
  token := by rcases kept with rfl | rfl <;> rfl
  asked := asked

variable {step : Step σ} {result : Except (Fault Error) Bytes} {next : SealedServer σ}
  {tokens : List String}

/-- Even if the step is not answered, the verifier is asked about one token at most. -/
theorem asked_append (trace : Trace verifier before step.party)
    (reaction : Reacts step result next tokens) : (tokens ++ before).length ≤ 1 := by
  by_cases closed : step.party.IsClosed
  · rw [reaction.tokens_of.2 closed, List.nil_append]
    exact trace.asked
  · rw [(trace.fresh closed).2, List.append_nil]
    exact reaction.tokens_of.1

theorem after (trace : Trace verifier before step.party) (reaction : Reacts step result next tokens)
    (answered : result ≠ .error .calendar) : Trace verifier (tokens ++ before) next := by
  have asked := trace.asked_append reaction
  cases reaction with
  | agreed waiting agreed =>
    obtain ⟨inner, none⟩ := trace.fresh (not_isClosed_of_waiting waiting)
    refine ⟨fun _ => ⟨inner, none⟩, ?_, ?_, asked⟩
    · rw [inner]
      rfl
    · rw [inner]
      rfl
  | disagreed waiting refused =>
    exact of_failed asked (.inl (trace.fresh (not_isClosed_of_waiting waiting)).1)
  | shut keyed unopened =>
    exact of_failed asked (.inl (trace.fresh (not_isClosed_of_keyAgreed keyed)).1)
  | accepted keyed opened accepts =>
    exact ⟨fun unclosed => absurd (.inl ⟨_, rfl⟩) unclosed, rfl, rfl, asked⟩
  | rejected keyed opened rejects =>
    have inner := (trace.fresh (not_isClosed_of_keyAgreed keyed)).1
    rw [inner]
    exact of_failed asked (.inr rfl)
  | erred keyed opened unaccepted kept =>
    have inner := (trace.fresh (not_isClosed_of_keyAgreed keyed)).1
    rw [inner] at kept
    exact of_failed asked kept
  | interrupted keyed opened ended => exact absurd rfl answered
  | closed closed => exact trace

end Trace

def allAsked (steps : List (Step σ)) : List String :=
  steps.flatMap asked

section Run

variable {verifier : TokenVerifier σ} {steps : List (Step σ)} {server : SealedServer σ}

theorem trace_of_run (run : Run challenge (.new (.new verifier)) steps server) :
    Trace verifier (allAsked steps) server := by
  induction run with
  | start => exact .new verifier
  | step step run answered trace =>
    rw [allAsked, List.flatMap_cons]
    exact trace.after (reacts step) (Dialogue.Step.isAnswered_iff.mp answered)

/-- A closed server stays as it is, whatever it is sent. -/
theorem same_of_run {last : SealedServer σ} {later : List (Step σ)} (closed : server.IsClosed)
    (run : Run challenge server later last) : last = server ∧ ∀ step ∈ later, step.party = server := by
  refine run.keeps (fun party => party = server) rfl fun step same => ?_
  have unmoved : step.party.IsClosed := same ▸ closed
  obtain ⟨cause, refused⟩ := unmoved.refuses
  rw [Dialogue.Step.next, refused]
  exact same

end Run

/-- A step that the server cannot make up for: the frame does not open, or the text in it is an abort or
is rejected. -/
inductive Fumbles (session : Session) (step : Step σ) : Prop where
  | shut {cause : SaslError} (unopened : session.decrypt step.message = .error cause)
  | aborted (opened : session.decrypt step.message = .ok BearerMessage.abort)
  | rejected {text : Bytes} (opened : session.decrypt step.message = .ok text)
      (rejects : Rejects step.party.inner.verifier (inside step text))

namespace Fumbles

variable {step : Step σ} {session : Session}

/-- The text in the frame is neither accepted nor left undecided. -/
theorem of_opened {text : Bytes} (fumbles : Fumbles session step)
    (opened : session.decrypt step.message = .ok text) :
    (∀ token, ¬ Accepts step.party.inner.verifier (inside step text) token) ∧
      (inside step text).result BearerServer.challenge ≠ .error .calendar := by
  have reaction := BearerServer.reacts (inside step text)
  cases fumbles with
  | shut unopened =>
    rw [opened] at unopened
    cases unopened
  | aborted same =>
    rw [opened] at same
    cases same
    refine ⟨fun token accepts => accepts.unaborted rfl, fun ended => ?_⟩
    rw [ended] at reaction
    exact reaction.unaborted_of_calendar rfl
  | rejected same rejects =>
    rw [opened] at same
    cases same
    refine ⟨fun token accepts => accepts.not_rejects rejects, fun ended => ?_⟩
    have answer := reaction.rejects_iff.mpr rejects
    rw [ended] at answer
    cases answer

/-- Such a step fails the server. -/
theorem failed {result : Except (Fault Error) Bytes} {next : SealedServer σ} {tokens : List String}
    (fumbles : Fumbles session step) (keyed : step.party.stage = .keyAgreed session)
    (reaction : Reacts step result next tokens) : next.stage = .failed := by
  have unclosed := not_isClosed_of_keyAgreed keyed
  cases reaction with
  | agreed waiting agreed =>
    rw [keyed] at waiting
    cases waiting
  | disagreed waiting refused => rfl
  | shut keyed unopened => rfl
  | accepted same opened accepts =>
    rw [keyed] at same
    cases same
    exact absurd accepts ((fumbles.of_opened opened).1 _)
  | rejected keyed opened rejects => rfl
  | erred keyed opened unaccepted kept => rfl
  | interrupted same opened ended =>
    rw [keyed] at same
    cases same
    exact absurd ended (fumbles.of_opened opened).2
  | closed closed => exact absurd closed unclosed

end Fumbles

/-- The keys agreed in a step in which the server waited. -/
def Agrees (session : Session) (step : Step σ) : Prop :=
  step.party.stage = .waiting ∧ (keys step).agree step.message = .ok session ∧
    step.result challenge = .ok (keys step).publicKey

/-- How a server behaves that has come so far. -/
structure Conduct (verifier : TokenVerifier σ) (steps : List (Step σ)) (server : SealedServer σ) :
    Prop where
  /-- It is complete exactly if the server inside is. -/
  inner : (SaslServer.sealed server).isComplete = server.inner.isComplete
  /-- It is complete exactly if it holds a token. -/
  token : (SaslServer.sealed server).isComplete = (SaslServer.sealed server).verifiedToken.isSome
  /-- It names a client only if it is complete. -/
  named : ∀ name, (SaslServer.sealed server).authorizationId = .ok name →
    (SaslServer.sealed server).isComplete = true
  /-- If the keys agree, they have been agreed on in a step, and the server inside still waits. -/
  keyed : ∀ session, server.stage = .keyAgreed session →
    server.inner.stage = .waiting ∧ ∃ step ∈ steps, Agrees session step
  /-- Even with one more step, the verifier is asked about one token at most. -/
  asked : ∀ step : Step σ, step.party = server → (allAsked (step :: steps)).length ≤ 1
  /-- Complete or failed, it stays as it is, and all it answers is errors. -/
  closed : server.IsClosed → ∀ later last, Run challenge server later last →
    last = server ∧ (∀ step ∈ later, Refuses step) ∧ ∀ step : Step σ, step.party = last → Refuses step
  /-- Once the keys agree, the next answer leaves it complete or failed. -/
  decides : ∀ session, server.stage = .keyAgreed session → ∀ step : Step σ, step.party = server →
    step.isAnswered challenge = true → (step.next challenge).IsClosed
  /-- After a frame that does not open, or that holds an abort or something that is rejected, it never
  accepts anything. -/
  lost : ∀ session, server.stage = .keyAgreed session → ∀ step : Step σ, step.party = server →
    Fumbles session step → ∀ later last, Run challenge (step.next challenge) later last →
      (SaslServer.sealed last).isComplete = false ∧ (SaslServer.sealed last).verifiedToken = none

variable {verifier : TokenVerifier σ} {steps : List (Step σ)} {server : SealedServer σ}

/-- Keys that agree were agreed on in a step. -/
theorem agrees_of_run (run : Run challenge (.new (.new verifier)) steps server) {session : Session}
    (keyed : server.stage = .keyAgreed session) : ∃ step ∈ steps, Agrees session step := by
  cases run with
  | start => cases keyed
  | step step run answered =>
    have answered := Dialogue.Step.isAnswered_iff.mp answered
    exact ⟨step, List.mem_cons_self, (reacts step).agreed_of answered keyed⟩

/-- What a server has come to when a step fails it, it does not recover from. -/
theorem lost_of_fumbles {before : List String} {step : Step σ} {session : Session}
    (trace : Trace verifier before step.party) (keyed : step.party.stage = .keyAgreed session)
    (fumbles : Fumbles session step) {later : List (Step σ)} {last : SealedServer σ}
    (run : Run challenge (step.next challenge) later last) :
    (SaslServer.sealed last).isComplete = false ∧ (SaslServer.sealed last).verifiedToken = none := by
  have failed := fumbles.failed keyed (reacts step)
  have after := trace.after (reacts step) ((reacts step).answered_of_failed failed)
  have incomplete : (step.next challenge).isComplete = false := by
    rw [isComplete, failed]
  rw [(same_of_run (.inr failed) run).1]
  refine ⟨incomplete, Option.isNone_iff_eq_none.mp (Option.isSome_eq_false_iff.mp ?_)⟩
  exact after.token.symm.trans incomplete

/-- However a server has been spoken to, one frame decides, and whatever it has decided is final. -/
theorem frame_decides (run : Run challenge (.new (.new verifier)) steps server) :
    Conduct verifier steps server := by
  have trace := trace_of_run run
  exact {
    inner := trace.inner
    token := trace.token
    named := by
      intro name named
      cases complete : server.isComplete with
      | true => exact complete
      | false => simp [SaslServer.authorizationId, authorizationId, complete] at named
    keyed := by
      intro session keyed
      have fresh := trace.fresh (not_isClosed_of_keyAgreed keyed)
      exact ⟨congrArg BearerServer.stage fresh.1, agrees_of_run run keyed⟩
    asked := by
      rintro step rfl
      rw [allAsked, List.flatMap_cons]
      exact trace.asked_append (reacts step)
    closed := by
      intro closed later last run
      obtain ⟨rfl, unmoved⟩ := same_of_run closed run
      refine ⟨rfl, fun step listed => ?_, fun step here => ?_⟩
      · exact IsClosed.refuses (unmoved step listed ▸ closed)
      · exact IsClosed.refuses (here ▸ closed)
    decides := by
      rintro session keyed step rfl answered
      exact (reacts step).closes keyed (Dialogue.Step.isAnswered_iff.mp answered)
    lost := by
      rintro session keyed step rfl fumbles later last run
      exact lost_of_fumbles trace keyed fumbles run }

end SealedServer

namespace Garbled

open Dialogue (Run)
open SealedServer
open Whisper (near client_sound)

def opening : SealedServer.Step Unit :=
  near.welcome

def frame : Bytes :=
  near.session.sealed (List.replicate Frame.nonceLength 0) LateAbort.message.encode

def sending (message : Bytes) (server : SealedServer Unit) : SealedServer.Step Unit :=
  ⟨server, message, (), Whisper.environment []⟩

theorem sound : near.clientKeys.IsSound :=
  client_sound

theorem keyed : (opening.next challenge).stage = .keyAgreed near.session := by
  rw [opening, Dialogue.Step.next, SealedExchange.welcome_outcome sound]

theorem fumbled (server : SealedServer Unit) : Fumbles near.session (sending [] server) :=
  .shut rfl

theorem opened : near.session.decrypt frame = .ok LateAbort.message.encode := by
  have short : LateAbort.message.encode.length ≤ Frame.payloadLimit := by decide +kernel
  rw [frame]
  exact Session.decrypt_sealed SealedExchange.length_session_key List.length_replicate short

theorem run_opening : Run challenge (.new (.new near.verifier)) [opening] (opening.next challenge) := by
  refine .step opening .start (Dialogue.Step.isAnswered_iff.mpr ?_)
  rw [opening, Dialogue.Step.result, SealedExchange.welcome_outcome sound]
  simp

theorem run_retry {server : SealedServer Unit} (failed : server.stage = .failed) :
    Run challenge server [sending frame server] ((sending frame server).next challenge) := by
  refine .step (sending frame server) .start (Dialogue.Step.isAnswered_iff.mpr ?_)
  obtain ⟨cause, refused⟩ : Refuses (sending frame server) := IsClosed.refuses (.inr failed)
  rw [Dialogue.Step.result, refused]
  simp

theorem lost_to_garbage {steps : List (SealedServer.Step Unit)} {server : SealedServer Unit}
    (conduct : Conduct near.verifier steps server) (keyed : server.stage = .keyAgreed near.session) :
    ((sending frame ((sending [] server).next challenge)).next challenge).isComplete = false := by
  have failed : ((sending [] server).next challenge).stage = .failed :=
    (fumbled server).failed keyed (reacts (sending [] server))
  exact (conduct.lost near.session keyed (sending [] server) rfl (fumbled server) _ _
    (run_retry failed)).1

/-- A server that is sent garbage once the keys agree. A frame that would have been accepted then comes
too late. -/
theorem garbage_is_final :
    near.session.decrypt frame = .ok LateAbort.message.encode ∧
      ((sending frame ((sending [] (opening.next challenge)).next challenge)).next challenge).isComplete =
        false ∧
      Conduct near.verifier [opening] (opening.next challenge) := by
  have conduct := frame_decides run_opening
  exact ⟨opened, lost_to_garbage conduct keyed, conduct⟩

end Garbled

end BearerIdentity
