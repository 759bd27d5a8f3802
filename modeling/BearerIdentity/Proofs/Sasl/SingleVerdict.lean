import BearerIdentity.Proofs.Operation.Success
import BearerIdentity.Proofs.Sasl.Dialogue
import BearerIdentity.Sasl.Server

set_option autoImplicit false

namespace BearerIdentity

open Operation

namespace TokenVerifier

variable {σ : Type}

/-- The verifier, which also notes in its memory which tokens it is asked about. -/
def noting (verifier : TokenVerifier σ) : TokenVerifier (List String × σ) where
  verify := fun raw => do
    Operation.revise fun (asked, memory) => (asked ++ [raw], memory)
    Operation.onSecond (verifier.verify raw)
  isUmaAware := verifier.isUmaAware

/-- Taking notes changes nothing but the notes. -/
theorem verify_noting (verifier : TokenVerifier σ) (raw : String) (asked : List String) (memory : σ)
    (environment : Environment) :
    verifier.noting.verify raw (asked, memory) environment =
      let outcome := verifier.verify raw memory environment
      ⟨outcome.result, (asked ++ [raw], outcome.memory), outcome.environment⟩ := rfl

end TokenVerifier

namespace BearerMessage

theorem invalidToken_ne_nil : invalidToken ≠ [] := by
  decide

end BearerMessage

namespace BearerServer

open Dialogue (Run)

variable {σ : Type}

abbrev Step (σ : Type) : Type :=
  Dialogue.Step (BearerServer σ) σ

theorem verifyMessage_apply (server : BearerServer σ) (response : Bytes) (memory : σ)
    (environment : Environment) :
    server.verifyMessage response memory environment =
      match BearerMessage.parse response with
      | .error flaw => ⟨.error (.error (.sasl flaw)), memory, environment⟩
      | .ok message => server.verifier.verify message.token memory environment := by
  unfold verifyMessage
  cases BearerMessage.parse response <;> rfl

theorem judge_apply (server : BearerServer σ) (response : Bytes) (kept : BearerServer σ) (memory : σ)
    (environment : Environment) :
    server.judge response (kept, memory) environment =
      match server.verifyMessage response memory environment with
      | ⟨.ok token, memory, environment⟩ =>
        ⟨.ok [], ({ kept with stage := .complete, token := some token }, memory), environment⟩
      | ⟨.error (.error _), memory, environment⟩ =>
        ⟨.ok BearerMessage.invalidToken, ({ kept with stage := .failed }, memory), environment⟩
      | ⟨.error .calendar, memory, environment⟩ =>
        ⟨.error .calendar, (kept, memory), environment⟩ := by
  simp only [judge, Bind.bind, andThen, attempt, onSecond, onPart]
  rcases server.verifyMessage response memory environment with
    ⟨(_ | cause) | token, memory₁, environment₁⟩ <;> rfl

/-- An answer depends on the message, on the stage, and, while the server waits, on the verdict. -/
theorem challenge_apply (server : BearerServer σ) (response : Bytes) (memory : σ)
    (environment : Environment) :
    challenge response (server, memory) environment =
      if response = BearerMessage.abort then
        ⟨.error (.error (.sasl .aborted)), ({ server with stage := .failed }, memory),
          (environment.record .sasl .attempt).record .sasl .failure⟩
      else
        match server.stage with
        | .waiting =>
          observe .sasl (server.judge response) (server, memory) environment
        | .complete =>
          ⟨.error (.error (.sasl .alreadyComplete)), (server, memory),
            (environment.record .sasl .attempt).record .sasl .failure⟩
        | .failed =>
          ⟨.error (.error (.sasl .failed)), (server, memory),
            (environment.record .sasl .attempt).record .sasl .failure⟩ := by
  rw [challenge, observe_apply]
  simp only [Bind.bind, andThen, Operation.memory]
  by_cases abort : response = BearerMessage.abort
  · simp only [abort, ite_true]
    rfl
  · simp only [abort, ite_false]
    cases server.stage with
    | waiting => simp only [observe_apply]
    | complete => rfl
    | failed => rfl

def noting (server : BearerServer σ) : BearerServer (List String × σ) where
  verifier := server.verifier.noting
  stage := server.stage
  token := server.token

def asked (step : Step σ) : List String :=
  (challenge step.message (step.party.noting, ([], step.memory)) step.environment).memory.2.1

def verdict (verifier : TokenVerifier σ) (step : Step σ) (raw : String) :
    Except (Fault Error) SignedToken :=
  (verifier.verify raw step.memory (step.environment.record .sasl .attempt)).result

/-- How a server may react to a message: its answer, what becomes of it, and which tokens it asks its
verifier about. -/
inductive Reacts (step : Step σ) :
    Except (Fault Error) Bytes → BearerServer σ → List String → Prop where
  | aborted (abort : step.message = BearerMessage.abort) :
      Reacts step (.error (.error (.sasl .aborted))) { step.party with stage := .failed } []
  | closed {cause : SaslError} (unaborted : step.message ≠ BearerMessage.abort)
      (spent : step.party.stage ≠ .waiting) :
      Reacts step (.error (.error (.sasl cause))) step.party []
  | unread {flaw : SaslError} (unaborted : step.message ≠ BearerMessage.abort)
      (waiting : step.party.stage = .waiting)
      (unreadable : BearerMessage.parse step.message = .error flaw) :
      Reacts step (.ok BearerMessage.invalidToken) { step.party with stage := .failed } []
  | refused {message : BearerMessage} {cause : Error}
      (unaborted : step.message ≠ BearerMessage.abort) (waiting : step.party.stage = .waiting)
      (read : BearerMessage.parse step.message = .ok message)
      (refused : verdict step.party.verifier step message.token = .error (.error cause)) :
      Reacts step (.ok BearerMessage.invalidToken) { step.party with stage := .failed }
        [message.token]
  | accepted {message : BearerMessage} {token : SignedToken}
      (unaborted : step.message ≠ BearerMessage.abort) (waiting : step.party.stage = .waiting)
      (read : BearerMessage.parse step.message = .ok message)
      (verified : verdict step.party.verifier step message.token = .ok token) :
      Reacts step (.ok []) { step.party with stage := .complete, token := some token }
        [message.token]
  | interrupted {message : BearerMessage} (unaborted : step.message ≠ BearerMessage.abort)
      (waiting : step.party.stage = .waiting)
      (read : BearerMessage.parse step.message = .ok message)
      (ended : verdict step.party.verifier step message.token = .error .calendar) :
      Reacts step (.error .calendar) step.party [message.token]

/-- Every step is one of these reactions. -/
theorem reacts (step : Step σ) :
    Reacts step (step.result challenge) (step.next challenge) (asked step) := by
  obtain ⟨server, response, memory, environment⟩ := step
  simp only [Dialogue.Step.result, Dialogue.Step.next, Dialogue.Step.outcome, asked, challenge_apply]
  by_cases abort : response = BearerMessage.abort
  · simp only [abort, ite_true]
    exact .aborted rfl
  · simp only [abort, ite_false]
    cases stage : server.stage with
    | complete =>
      simp only [noting, stage]
      exact .closed abort (by simp [stage])
    | failed =>
      simp only [noting, stage]
      exact .closed abort (by simp [stage])
    | waiting =>
      simp only [noting, stage, observe_apply, judge_apply, verifyMessage_apply]
      cases read : BearerMessage.parse response with
      | error flaw => exact .unread abort stage read
      | ok message =>
        simp only [TokenVerifier.verify_noting]
        rcases said :
            server.verifier.verify message.token memory (environment.record .sasl .attempt) with
          ⟨(_ | cause) | token, memory₁, environment₁⟩
        · exact .interrupted abort stage read (congrArg Outcome.result said)
        · exact .refused abort stage read (congrArg Outcome.result said)
        · exact .accepted abort stage read (congrArg Outcome.result said)

/-- A server accepts a token in a step: it has been waiting, and the message is no abort but can be
read, and the verifier yields this token for the one in the message. -/
structure Accepts (verifier : TokenVerifier σ) (step : Step σ) (token : SignedToken) : Prop where
  waiting : step.party.stage = .waiting
  unaborted : step.message ≠ BearerMessage.abort
  verified : ∃ message, BearerMessage.parse step.message = .ok message ∧
    verdict verifier step message.token = .ok token

/-- A server rejects a message: it has been waiting, and the message is no abort but cannot be read, or
the verifier refuses the token in it. -/
structure Rejects (verifier : TokenVerifier σ) (step : Step σ) : Prop where
  waiting : step.party.stage = .waiting
  unaborted : step.message ≠ BearerMessage.abort
  refused : (∃ flaw, BearerMessage.parse step.message = .error flaw) ∨
    ∃ message cause, BearerMessage.parse step.message = .ok message ∧
      verdict verifier step message.token = .error (.error cause)

section Step

variable {verifier : TokenVerifier σ} {step : Step σ} {token : SignedToken}
  {result : Except (Fault Error) Bytes} {next : BearerServer σ} {tokens : List String}

/-- At most one token is accepted in a step. -/
theorem Accepts.unique {other : SignedToken} (accepts : Accepts verifier step token)
    (again : Accepts verifier step other) : token = other := by
  obtain ⟨message, read, verified⟩ := accepts.verified
  obtain ⟨message', read', verified'⟩ := again.verified
  rw [read] at read'
  cases read'
  rw [verified] at verified'
  exact Except.ok.inj verified'

/-- What is accepted is not rejected. -/
theorem Accepts.not_rejects (accepts : Accepts verifier step token) : ¬ Rejects verifier step := by
  intro rejects
  obtain ⟨message, read, verified⟩ := accepts.verified
  rcases rejects.refused with ⟨flaw, unreadable⟩ | ⟨other, cause, same, refused⟩
  · rw [read] at unreadable
    cases unreadable
  · rw [read] at same
    cases same
    rw [verified] at refused
    cases refused

namespace Reacts

/-- A reaction is an acceptance, a rejection, or an error. -/
theorem kinds (reaction : Reacts step result next tokens) :
    (∃ token, Accepts step.party.verifier step token ∧ result = .ok [] ∧
        next = { step.party with stage := .complete, token := some token }) ∨
      (Rejects step.party.verifier step ∧ result = .ok BearerMessage.invalidToken ∧
        next = { step.party with stage := .failed }) ∨
      ((∀ token, ¬ Accepts step.party.verifier step token) ∧ ¬ Rejects step.party.verifier step ∧
        (∃ fault, result = .error fault) ∧
        (next = step.party ∨ next = { step.party with stage := .failed })) := by
  cases reaction with
  | aborted abort =>
    refine .inr (.inr ⟨?_, ?_, ⟨_, rfl⟩, .inr rfl⟩)
    · exact fun token accepts => accepts.unaborted abort
    · exact fun rejects => rejects.unaborted abort
  | closed unaborted spent =>
    refine .inr (.inr ⟨?_, ?_, ⟨_, rfl⟩, .inl rfl⟩)
    · exact fun token accepts => spent accepts.waiting
    · exact fun rejects => spent rejects.waiting
  | unread unaborted waiting unreadable =>
    exact .inr (.inl ⟨⟨waiting, unaborted, .inl ⟨_, unreadable⟩⟩, rfl, rfl⟩)
  | refused unaborted waiting read refused =>
    exact .inr (.inl ⟨⟨waiting, unaborted, .inr ⟨_, _, read, refused⟩⟩, rfl, rfl⟩)
  | accepted unaborted waiting read verified =>
    exact .inl ⟨_, ⟨waiting, unaborted, _, read, verified⟩, rfl, rfl⟩
  | interrupted unaborted waiting read ended =>
    refine .inr (.inr ⟨?_, ?_, ⟨_, rfl⟩, .inl rfl⟩)
    · intro token accepts
      obtain ⟨message, same, verified⟩ := accepts.verified
      rw [read] at same
      cases same
      rw [ended] at verified
      cases verified
    · intro rejects
      rcases rejects.refused with ⟨flaw, unreadable⟩ | ⟨other, cause, same, refused⟩
      · rw [read] at unreadable
        cases unreadable
      · rw [read] at same
        cases same
        rw [ended] at refused
        cases refused

/-- An empty answer is an acceptance. -/
theorem accepts_iff (reaction : Reacts step result next tokens) :
    result = .ok [] ↔ ∃ token, Accepts step.party.verifier step token := by
  obtain ⟨token, accepts, answer, -⟩ | ⟨rejects, answer, -⟩ | ⟨none, -, ⟨fault, answer⟩, -⟩ :=
    reaction.kinds
  · exact ⟨fun _ => ⟨token, accepts⟩, fun _ => answer⟩
  · constructor
    · intro empty
      rw [answer] at empty
      exact absurd (Except.ok.inj empty) BearerMessage.invalidToken_ne_nil
    · rintro ⟨token, accepts⟩
      exact absurd rejects accepts.not_rejects
  · constructor
    · intro empty
      rw [answer] at empty
      cases empty
    · rintro ⟨token, accepts⟩
      exact absurd accepts (none token)

/-- The answer that a token is invalid is a rejection. -/
theorem rejects_iff (reaction : Reacts step result next tokens) :
    result = .ok BearerMessage.invalidToken ↔ Rejects step.party.verifier step := by
  obtain ⟨token, accepts, answer, -⟩ | ⟨rejects, answer, -⟩ | ⟨-, none, ⟨fault, answer⟩, -⟩ :=
    reaction.kinds
  · constructor
    · intro invalid
      rw [answer] at invalid
      exact absurd (Except.ok.inj invalid).symm BearerMessage.invalidToken_ne_nil
    · intro rejects
      exact absurd rejects accepts.not_rejects
  · exact ⟨fun _ => rejects, fun _ => answer⟩
  · constructor
    · intro invalid
      rw [answer] at invalid
      cases invalid
    · intro rejects
      exact absurd rejects none

/-- What is neither accepted nor rejected is answered with an error. -/
theorem errs (reaction : Reacts step result next tokens)
    (unaccepted : ∀ token, ¬ Accepts step.party.verifier step token)
    (unrejected : ¬ Rejects step.party.verifier step) : ∃ fault, result = .error fault := by
  obtain ⟨token, accepts, -, -⟩ | ⟨rejects, -, -⟩ | ⟨-, -, erred, -⟩ := reaction.kinds
  · exact absurd accepts (unaccepted token)
  · exact absurd rejects unrejected
  · exact erred

/-- The verifier is asked about one token at most, and only while the server waits. -/
theorem tokens_of (reaction : Reacts step result next tokens) :
    tokens.length ≤ 1 ∧ (step.party.stage ≠ .waiting → tokens = []) := by
  cases reaction with
  | aborted abort => simp
  | closed unaborted spent => simp
  | unread unaborted waiting unreadable => simp
  | refused unaborted waiting read refused => simp [waiting]
  | accepted unaborted waiting read verified => simp [waiting]
  | interrupted unaborted waiting read ended => simp [waiting]

/-- After an answer, the server does not wait any more. -/
theorem settled (reaction : Reacts step result next tokens) (answered : result ≠ .error .calendar) :
    next.stage ≠ .waiting := by
  cases reaction with
  | aborted abort => simp
  | closed unaborted spent => exact spent
  | unread unaborted waiting unreadable => simp
  | refused unaborted waiting read refused => simp
  | accepted unaborted waiting read verified => simp
  | interrupted unaborted waiting read ended => exact absurd rfl answered

/-- A server that has failed answers with errors and stays as it is. -/
theorem of_failed (reaction : Reacts step result next tokens) (failed : step.party.stage = .failed) :
    (∃ fault, result = .error fault) ∧ next.stage = .failed := by
  obtain ⟨token, accepts, -, -⟩ | ⟨rejects, -, -⟩ | ⟨-, -, erred, same | lost⟩ := reaction.kinds
  · rw [accepts.waiting] at failed
    cases failed
  · rw [rejects.waiting] at failed
    cases failed
  · exact ⟨erred, by rw [same, failed]⟩
  · exact ⟨erred, by rw [lost]⟩

theorem verifier_eq (reaction : Reacts step result next tokens) :
    next.verifier = step.party.verifier := by
  cases reaction <;> rfl

end Reacts

end Step

def allAsked (steps : List (Step σ)) : List String :=
  steps.flatMap asked

/-- What a run leaves behind. -/
structure Trace (verifier : TokenVerifier σ) (steps : List (Step σ)) (server : BearerServer σ) :
    Prop where
  verifier_eq : server.verifier = verifier
  untouched : server.stage = .waiting → steps = []
  token : ∀ token, server.token = some token ↔ ∃ step ∈ steps, Accepts verifier step token
  complete : server.stage = .complete → ∃ token, server.token = some token
  asked : (allAsked steps).length ≤ 1

namespace Trace

variable {verifier : TokenVerifier σ} {steps : List (Step σ)} {server : BearerServer σ}

theorem new (verifier : TokenVerifier σ) : Trace verifier [] (.new verifier) where
  verifier_eq := rfl
  untouched := fun _ => rfl
  token := fun token => by simp [BearerServer.new]
  complete := fun impossible => by cases impossible
  asked := Nat.zero_le 1

/-- Whoever has been asked about a token is not asked again: a server that still waits has not
taken any step. -/
theorem asked_cons {step : Step σ} (trace : Trace verifier steps step.party) :
    (allAsked (step :: steps)).length ≤ 1 := by
  have tokens := (reacts step).tokens_of
  rw [allAsked, List.flatMap_cons]
  by_cases waiting : step.party.stage = .waiting
  · rw [trace.untouched waiting, List.flatMap_nil, List.append_nil]
    exact tokens.1
  · rw [tokens.2 waiting, List.nil_append]
    exact trace.asked

theorem step {step : Step σ} (trace : Trace verifier steps step.party)
    (answered : step.result challenge ≠ .error .calendar) :
    Trace verifier (step :: steps) (step.next challenge) := by
  have reaction := reacts step
  have settled := reaction.settled answered
  have kinds := reaction.kinds
  rw [trace.verifier_eq] at kinds
  refine ⟨reaction.verifier_eq.trans trace.verifier_eq, fun waiting => absurd waiting settled, ?_, ?_,
    trace.asked_cons⟩
  · intro token
    simp only [List.mem_cons, exists_eq_or_imp]
    obtain ⟨found, accepts, -, next⟩ | ⟨rejects, -, next⟩ | ⟨none, -, -, same | lost⟩ := kinds
    · rw [next, trace.untouched accepts.waiting]
      constructor
      · intro same
        cases same
        exact .inl accepts
      · rintro (again | ⟨_, listed, -⟩)
        · rw [accepts.unique again]
        · cases listed
    · have refused : ¬ Accepts verifier step token := fun accepts => accepts.not_rejects rejects
      rw [next, or_iff_right refused]
      exact trace.token token
    · rw [same, or_iff_right (none token)]
      exact trace.token token
    · rw [lost, or_iff_right (none token)]
      exact trace.token token
  · intro complete
    obtain ⟨found, -, -, next⟩ | ⟨-, -, next⟩ | ⟨-, -, -, same | lost⟩ := kinds
    · exact ⟨found, by rw [next]⟩
    · rw [next] at complete
      cases complete
    · rw [same] at complete ⊢
      exact trace.complete complete
    · rw [lost] at complete
      cases complete

theorem of_run (run : Run challenge (.new verifier) steps server) : Trace verifier steps server := by
  induction run with
  | start => exact new verifier
  | step step run answered trace => exact trace.step (Dialogue.Step.isAnswered_iff.mp answered)

end Trace

/-- How a server behaves that has come so far. -/
structure Conduct (verifier : TokenVerifier σ) (steps : List (Step σ)) (server : BearerServer σ) :
    Prop where
  /-- The tokens that it holds are those that it has accepted. -/
  token : ∀ token, server.token = some token ↔ ∃ step ∈ steps, Accepts verifier step token
  /-- If it is complete, it has accepted a token. -/
  complete : server.isComplete = true → ∃ token, server.token = some token
  /-- Even with one more step, the verifier is asked about one token at most. -/
  asked : ∀ step : Step σ, step.party = server → (allAsked (step :: steps)).length ≤ 1
  /-- It becomes complete only in a step in which it accepts a token, which it then holds. -/
  completes : ∀ step : Step σ, step.party = server → server.isComplete = false →
    (step.next challenge).isComplete = true →
      ∃ token, Accepts verifier step token ∧ (step.next challenge).token = some token
  accepts : ∀ step : Step σ, step.party = server →
    (step.result challenge = .ok [] ↔ ∃ token, Accepts verifier step token)
  rejects : ∀ step : Step σ, step.party = server →
    (step.result challenge = .ok BearerMessage.invalidToken ↔ Rejects verifier step)
  errs : ∀ step : Step σ, step.party = server → (∀ token, ¬ Accepts verifier step token) →
    ¬ Rejects verifier step → ∃ fault, step.result challenge = .error fault
  /-- Once failed, it stays so, and all it answers is errors. -/
  lost : server.stage = .failed → ∀ later last, Run challenge server later last →
    last.isComplete = false ∧ (∀ step ∈ later, ∃ fault, step.result challenge = .error fault) ∧
      ∀ step : Step σ, step.party = last → ∃ fault, step.result challenge = .error fault

/-- A failure lasts. -/
theorem failed_of_run {server last : BearerServer σ} {later : List (Step σ)}
    (failed : server.stage = .failed) (run : Run challenge server later last) :
    last.stage = .failed ∧ ∀ step ∈ later, step.party.stage = .failed :=
  run.keeps (fun party : BearerServer σ => party.stage = .failed) failed fun step failed =>
    ((reacts step).of_failed failed).2

/-- However a server has been spoken to, it has decided at most once, and will never decide again. -/
theorem conduct_of_run {verifier : TokenVerifier σ} {steps : List (Step σ)} {server : BearerServer σ}
    (run : Run challenge (.new verifier) steps server) : Conduct verifier steps server := by
  have trace := Trace.of_run run
  have reaction : ∀ step : Step σ, step.party = server →
      Reacts step (step.result challenge) (step.next challenge) (asked step) ∧
        step.party.verifier = verifier :=
    fun step here => ⟨reacts step, here ▸ trace.verifier_eq⟩
  exact {
    token := trace.token
    complete := fun complete => trace.complete (beq_iff_eq.mp complete)
    asked := by
      rintro step rfl
      exact trace.asked_cons
    completes := by
      rintro step rfl incomplete complete
      obtain ⟨found, accepts, -, next⟩ | ⟨-, -, next⟩ | ⟨-, -, -, same | lost⟩ := (reacts step).kinds
      · rw [trace.verifier_eq] at accepts
        exact ⟨found, accepts, by rw [next]⟩
      · rw [next] at complete
        cases complete
      · rw [same, incomplete] at complete
        cases complete
      · rw [lost] at complete
        cases complete
    accepts := by
      intro step here
      obtain ⟨reaction, same⟩ := reaction step here
      rw [← same]
      exact reaction.accepts_iff
    rejects := by
      intro step here
      obtain ⟨reaction, same⟩ := reaction step here
      rw [← same]
      exact reaction.rejects_iff
    errs := by
      intro step here
      obtain ⟨reaction, same⟩ := reaction step here
      rw [← same]
      exact reaction.errs
    lost := by
      intro failed later last run
      have lasting := failed_of_run failed run
      have incomplete : last.isComplete = false := by
        rw [isComplete, lasting.1]
        rfl
      refine ⟨incomplete, fun step listed => ?_, ?_⟩
      · exact ((reacts step).of_failed (lasting.2 step listed)).1
      · rintro step rfl
        exact ((reacts step).of_failed lasting.1).1 }

end BearerServer

namespace LateAbort

open BearerServer Dialogue

def verifier : TokenVerifier Unit :=
  .trusting false

def message : BearerMessage where
  authzid := none
  host := some "api.example"
  token := "eyJhbGciOiJIUzI1NiJ9.e30."
  extensions := []

def environment : Environment where
  now := .epoch
  network := fun _ _ => .error (.io "closed")
  sent := []
  entropy := []
  flows := []

def first : BearerServer.Step Unit :=
  ⟨.new verifier, message.encode, (), environment⟩

def second : BearerServer.Step Unit :=
  ⟨first.next challenge, BearerMessage.abort, (), environment⟩

theorem run : Run challenge (.new verifier) [second, first] (second.next challenge) := by
  have begun : Run challenge (.new verifier) [first] (first.next challenge) :=
    .step first .start (by decide +kernel)
  exact begun.onward BearerMessage.abort () environment (by decide +kernel)

/-- A client whose token is accepted, and which then aborts: the server fails, and still holds the
token. -/
theorem aborted_after_acceptance :
    (first.next challenge).isComplete = true ∧ (second.next challenge).stage = .failed ∧
      (second.next challenge).token.isSome = true ∧
      Conduct verifier [second, first] (second.next challenge) :=
  ⟨by decide +kernel, by decide +kernel, by decide +kernel, conduct_of_run run⟩

end LateAbort

end BearerIdentity
