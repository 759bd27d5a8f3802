import BearerIdentity.Proofs.Operation.Success
import BearerIdentity.Proofs.Sasl.Session
import BearerIdentity.Proofs.Sasl.SingleVerdict
import BearerIdentity.Sasl.SealedClient
import BearerIdentity.Sasl.SealedServer

set_option autoImplicit false

namespace BearerIdentity

open Operation KeyExchange

variable {σ : Type}

namespace BearerClient

theorem sendTicket_apply (client kept : BearerClient σ) (memory : σ) (environment : Environment) :
    client.sendTicket (kept, memory) environment =
      match client.source.request client.target memory environment with
      | ⟨.ok ticket, memory, environment⟩ =>
        ⟨.ok (client.message ticket).encode, ({ kept with stage := .complete }, memory), environment⟩
      | ⟨.error fault, memory, environment⟩ =>
        ⟨.error fault, ({ kept with stage := .requested }, memory), environment⟩ := by
  simp only [sendTicket, Bind.bind, andThen, moveTo, revise, onSecond, onPart]
  rcases client.source.request client.target memory environment with
    ⟨fault | ticket, memory₁, environment₁⟩ <;> rfl

/-- A response depends on the stage and, while the client is ready, on the challenge. -/
theorem respond_apply (client : BearerClient σ) (challenge : Bytes) (memory : σ)
    (environment : Environment) :
    respond challenge (client, memory) environment =
      observe .sasl
        (match client.stage with
        | .ready =>
          if challenge.isEmpty then client.sendTicket
          else Operation.fail (.sasl .unexpectedChallenge)
        | .requested => Operation.fail (.sasl .failed)
        | .complete => Operation.fail (.sasl .alreadyComplete))
        (client, memory) environment := by
  rw [respond, observe_apply, observe_apply]
  rfl

/-- A client that is ready answers the empty challenge with the ticket that it is given. -/
theorem respond_ready {client : BearerClient σ} (ready : client.stage = .ready) {memory memory' : σ}
    {environment environment' : Environment} {ticket : AccessTicket}
    (given : client.source.request client.target memory (environment.record .sasl .attempt) =
      ⟨.ok ticket, memory', environment'⟩) :
    respond [] (client, memory) environment =
      ⟨.ok (client.message ticket).encode, ({ client with stage := .complete }, memory'),
        environment'.record .sasl .success⟩ := by
  rw [respond_apply, ready]
  simp only [List.isEmpty_nil, ite_true, observe_apply, sendTicket_apply, given]

def refusal : ClientStage → SaslError
  | .ready => .unexpectedChallenge
  | .requested => .failed
  | .complete => .alreadyComplete

/-- Only a client that is ready responds, and only to the empty challenge. -/
theorem respond_refused {client : BearerClient σ} {challenge : Bytes}
    (closed : ¬ (client.stage = .ready ∧ challenge = [])) (memory : σ) (environment : Environment) :
    respond challenge (client, memory) environment =
      ⟨.error (.error (.sasl (refusal client.stage))), (client, memory),
        (environment.record .sasl .attempt).record .sasl .failure⟩ := by
  rw [respond_apply, observe_apply]
  cases stage : client.stage with
  | ready =>
    have filled : challenge.isEmpty = false := by
      rw [List.isEmpty_eq_false_iff]
      exact fun empty => closed ⟨stage, empty⟩
    rw [filled]
    rfl
  | requested => rfl
  | complete => rfl

end BearerClient

namespace SealedClient

theorem relay_apply (session : Session) (challenge : Bytes) (client : SealedClient σ) (memory : σ)
    (environment : Environment) :
    relay session challenge (client, memory) environment =
      match BearerClient.respond challenge (client.inner, memory) environment with
      | ⟨.error fault, (inner, memory), environment⟩ =>
        ⟨.error fault, ({ client with inner }, memory), environment⟩
      | ⟨.ok response, (inner, memory), environment⟩ =>
        if Frame.payloadLimit < response.length then
          ⟨.error (.error (.sasl (.frame .payloadTooLong))), ({ client with inner }, memory),
            environment⟩
        else
          ⟨.ok (session.sealed (environment.draw Frame.nonceLength).1 response),
            (⟨inner, if inner.isComplete then .complete session else client.stage⟩, memory),
            (environment.draw Frame.nonceLength).2⟩ := by
  simp only [relay, Bind.bind, andThen, onInner, onPart, mapError]
  rcases BearerClient.respond challenge (client.inner, memory) environment with
    ⟨fault | response, ⟨inner, memory₁⟩, environment₁⟩
  · rfl
  · by_cases long : Frame.payloadLimit < response.length
    · simp only [Session.encrypt_of_long long, long, ite_true]
      rfl
    · simp only [Session.encrypt_apply (Nat.le_of_not_lt long), long, ite_false, mapError_ok,
        Operation.memory]
      cases complete : inner.isComplete
      · rfl
      · rfl

/-- A response depends on the stage, the challenge, and on what the client inside says. -/
theorem respond_apply (client : SealedClient σ) (challenge : Bytes) (memory : σ)
    (environment : Environment) :
    respond challenge (client, memory) environment =
      observe .sasl
        (match client.stage with
        | .ready =>
          if challenge.isEmpty then sendKey else Operation.fail (.sasl .unexpectedChallenge)
        | .keySent keys => agree keys challenge
        | .keyAgreed session => do
          let challenge ← (Operation.ofExcept (session.decrypt challenge)).mapError .sasl
          relay session challenge
        | .complete _ => Operation.fail (.sasl .alreadyComplete))
        (client, memory) environment := by
  rw [respond, observe_apply, observe_apply]
  rfl

/-- A client that is ready answers the empty challenge with a new public value. -/
theorem respond_ready (inner : BearerClient σ) (memory : σ) (environment : Environment) :
    respond [] (⟨inner, .ready⟩, memory) environment =
      let keys := KeyPair.ofBytes (environment.draw exponentLength).1
      ⟨.ok keys.publicKey, (⟨inner, .keySent (some keys)⟩, memory),
        ((environment.record .sasl .attempt).draw exponentLength).2.record .sasl .success⟩ := by
  rw [respond_apply, observe_apply]
  rfl

/-- Once the keys agree, the client inside speaks first. -/
theorem agree_apply {keys : KeyPair} {peer : Bytes} {session : Session}
    (agreed : keys.agree peer = .ok session) (client : SealedClient σ) (memory : σ)
    (environment : Environment) :
    agree (some keys) peer (client, memory) environment =
      relay session [] ({ client with stage := .keyAgreed session }, memory) environment := by
  simp only [agree, Operation.ofOption, succeed, Bind.bind, andThen, moveTo, revise, agreed,
    Operation.ofExcept, mapError, mapError_ok]

section KeySent

variable {inner inner' : BearerClient σ} {keys : KeyPair} {peer response : Bytes} {session : Session}
  {memory memory' : σ} {environment environment' : Environment}

/-- Once the keys agree, the response of the client inside is sent in a frame. -/
theorem respond_keySent (agreed : keys.agree peer = .ok session)
    (said : BearerClient.respond [] (inner, memory) (environment.record .sasl .attempt) =
      ⟨.ok response, (inner', memory'), environment'⟩)
    (fits : response.length ≤ Frame.payloadLimit) :
    respond peer (⟨inner, .keySent (some keys)⟩, memory) environment =
      ⟨.ok (session.sealed (environment'.draw Frame.nonceLength).1 response),
        (⟨inner', if inner'.isComplete then .complete session else .keyAgreed session⟩, memory'),
        (environment'.draw Frame.nonceLength).2.record .sasl .success⟩ := by
  rw [respond_apply, observe_apply]
  simp only [agree_apply agreed, relay_apply, said, Nat.not_lt.mpr fits, ite_false]

/-- A response that does not fit into a frame is withheld. -/
theorem respond_keySent_of_long (agreed : keys.agree peer = .ok session)
    (said : BearerClient.respond [] (inner, memory) (environment.record .sasl .attempt) =
      ⟨.ok response, (inner', memory'), environment'⟩)
    (long : Frame.payloadLimit < response.length) :
    respond peer (⟨inner, .keySent (some keys)⟩, memory) environment =
      ⟨.error (.error (.sasl (.frame .payloadTooLong))), (⟨inner', .keyAgreed session⟩, memory'),
        environment'.record .sasl .failure⟩ := by
  rw [respond_apply, observe_apply]
  simp only [agree_apply agreed, relay_apply, said, long, ite_true]

end KeySent

/-- Once the keys have been used and the client inside has spoken, nothing is left that could complete
the client. -/
theorem respond_spent {client : SealedClient σ} {session : Session}
    (agreed : client.stage = .keyAgreed session) (spoken : client.inner.stage = .complete)
    (challenge : Bytes) (memory : σ) (environment : Environment) :
    (respond challenge (client, memory) environment).memory.1 = client := by
  rw [respond_apply, agreed, observe_apply]
  cases opened : session.decrypt challenge with
  | error cause =>
    simp [Operation.ofExcept, opened, mapError, Operation.fail, Fault.map, Bind.bind, andThen]
  | ok text =>
    have closed : ¬ (client.inner.stage = .ready ∧ text = []) := fun opens => by simp [spoken] at opens
    simp [Operation.ofExcept, opened, mapError, succeed, Bind.bind, andThen, relay_apply,
      BearerClient.respond_refused closed]

end SealedClient

namespace SealedServer

theorem relay_apply (session : Session) (frame : Bytes) (server : SealedServer σ) (memory : σ)
    (environment : Environment) :
    relay session frame (server, memory) environment =
      match session.decrypt frame with
      | .error cause => ⟨.error (.error (.sasl cause)), (server, memory), environment⟩
      | .ok response =>
        match BearerServer.challenge response (server.inner, memory) environment with
        | ⟨.error fault, (inner, memory), environment⟩ =>
          ⟨.error fault, ({ server with inner }, memory), environment⟩
        | ⟨.ok challenge, (inner, memory), environment⟩ =>
          if challenge.isEmpty then ⟨.ok [], ({ server with inner }, memory), environment⟩
          else if Frame.payloadLimit < challenge.length then
            ⟨.error (.error (.sasl (.frame .payloadTooLong))), ({ server with inner }, memory),
              environment⟩
          else
            ⟨.ok (session.sealed (environment.draw Frame.nonceLength).1 challenge),
              ({ server with inner }, memory), (environment.draw Frame.nonceLength).2⟩ := by
  unfold relay
  cases session.decrypt frame with
  | error cause => rfl
  | ok response =>
    simp only [Operation.ofExcept, mapError, succeed, mapError_ok, Bind.bind, andThen, onInner, onPart]
    rcases BearerServer.challenge response (server.inner, memory) environment with
      ⟨fault | challenge, ⟨inner, memory₁⟩, environment₁⟩
    · rfl
    · dsimp only
      by_cases empty : challenge.isEmpty = true
      · rw [if_pos empty, if_pos empty]
        rfl
      · by_cases long : Frame.payloadLimit < challenge.length
        · rw [if_neg empty, if_neg empty, if_pos long, mapError, Session.encrypt_of_long long]
          rfl
        · rw [if_neg empty, if_neg empty, if_neg long, mapError,
            Session.encrypt_apply (Nat.le_of_not_lt long)]
          rfl

theorem judge_apply (session : Session) (frame : Bytes) (server : SealedServer σ) (memory : σ)
    (environment : Environment) :
    judge session frame (server, memory) environment =
      match relay session frame (server, memory) environment with
      | ⟨.ok answer, (server, memory), environment⟩ =>
        ⟨.ok answer,
          ({ server with stage := stageAfter session server.inner (.ok answer) }, memory), environment⟩
      | ⟨.error (.error cause), (server, memory), environment⟩ =>
        ⟨.error (.error cause), ({ server with stage := .failed }, memory), environment⟩
      | ⟨.error .calendar, memory, environment⟩ => ⟨.error .calendar, memory, environment⟩ := by
  simp only [judge, Bind.bind, andThen, attempt]
  rcases relay session frame (server, memory) environment with
    ⟨(_ | cause) | answer, ⟨server₁, memory₁⟩, environment₁⟩ <;> rfl

/-- An answer depends on the stage, the response, and on what the server inside says. -/
theorem challenge_apply (server : SealedServer σ) (response : Bytes) (memory : σ)
    (environment : Environment) :
    challenge response (server, memory) environment =
      observe .sasl
        (match server.stage with
        | .waiting => agree response
        | .keyAgreed session => judge session response
        | .complete _ => Operation.fail (.sasl .alreadyComplete)
        | .failed => Operation.fail (.sasl .failed))
        (server, memory) environment := by
  rw [challenge, observe_apply, observe_apply]
  rfl

/-- A server that waits answers a public value that it agrees with by one of its own. -/
theorem challenge_waiting {inner : BearerServer σ} {peer : Bytes} {session : Session}
    {environment : Environment}
    (agreed : (KeyPair.ofBytes (environment.draw exponentLength).1).agree peer = .ok session)
    (memory : σ) :
    challenge peer (⟨inner, .waiting⟩, memory) environment =
      ⟨.ok (KeyPair.ofBytes (environment.draw exponentLength).1).publicKey,
        (⟨inner, .keyAgreed session⟩, memory),
        ((environment.record .sasl .attempt).draw exponentLength).2.record .sasl .success⟩ := by
  have same : ((environment.record .sasl .attempt).draw exponentLength).1 =
      (environment.draw exponentLength).1 := rfl
  rw [challenge_apply, observe_apply]
  simp only [agree, KeyPair.generate, Bind.bind, andThen, Operation.draw, succeed, same, agreed]
  rfl

section Opened

variable {inner inner' : BearerServer σ} {session : Session} {frame response : Bytes}
  {memory memory' : σ} {environment environment' : Environment}

/-- Once the keys agree, what the server inside says to the text in a frame decides. An empty answer
is handed on. -/
theorem challenge_opened (opened : session.decrypt frame = .ok response)
    (said : BearerServer.challenge response (inner, memory)
      (environment.record .sasl .attempt) = ⟨.ok [], (inner', memory'), environment'⟩) :
    challenge frame (⟨inner, .keyAgreed session⟩, memory) environment =
      ⟨.ok [], (⟨inner', stageAfter session inner' (.ok [])⟩, memory'),
        environment'.record .sasl .success⟩ := by
  rw [challenge_apply, observe_apply]
  simp only [judge_apply, relay_apply, opened, said, List.isEmpty_nil, ite_true]

/-- A text goes back in a frame. -/
theorem challenge_opened_text (opened : session.decrypt frame = .ok response) {text : Bytes}
    (present : text ≠ []) (fits : text.length ≤ Frame.payloadLimit)
    (said : BearerServer.challenge response (inner, memory)
      (environment.record .sasl .attempt) = ⟨.ok text, (inner', memory'), environment'⟩) :
    challenge frame (⟨inner, .keyAgreed session⟩, memory) environment =
      let answer := session.sealed (environment'.draw Frame.nonceLength).1 text
      ⟨.ok answer, (⟨inner', stageAfter session inner' (.ok answer)⟩, memory'),
        (environment'.draw Frame.nonceLength).2.record .sasl .success⟩ := by
  have filled : text.isEmpty = false := List.isEmpty_eq_false_iff.mpr present
  rw [challenge_apply, observe_apply]
  simp only [judge_apply, relay_apply, opened, said, filled, Bool.false_eq_true, ite_false,
    Nat.not_lt.mpr fits]

/-- Where the server inside leaves the calendar, nothing is decided. -/
theorem challenge_opened_calendar (opened : session.decrypt frame = .ok response)
    (said : BearerServer.challenge response (inner, memory)
      (environment.record .sasl .attempt) = ⟨.error .calendar, (inner', memory'), environment'⟩) :
    challenge frame (⟨inner, .keyAgreed session⟩, memory) environment =
      ⟨.error .calendar, (⟨inner', .keyAgreed session⟩, memory'), environment'⟩ := by
  rw [challenge_apply, observe_apply]
  simp only [judge_apply, relay_apply, opened, said]

end Opened

end SealedServer

end BearerIdentity
