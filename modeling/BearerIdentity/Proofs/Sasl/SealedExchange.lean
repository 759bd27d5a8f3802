import BearerIdentity.Proofs.Sasl.Sealing
import BearerIdentity.Proofs.Text.Utf8
import BearerIdentity.Sasl.Registry

set_option autoImplicit false

namespace BearerIdentity

open Operation KeyExchange

variable {σ τ : Type}

namespace BearerMessage

/-- A message is longer than the host in it. -/
theorem length_host_lt {message : BearerMessage} {host : String} (announced : message.host = some host) :
    host.toList.length < message.encode.length := by
  have whole := Utf8.length_le_length_encode message.encodeText
  have text : host.toList.length < message.encodeText.length := by
    simp only [encodeText, announced, Option.elim, encodeAttribute, List.length_append, List.length_cons]
    omega
  exact Nat.lt_of_lt_of_le text whole

/-- A message begins with its header, an abort does not. -/
theorem encode_ne_abort (message : BearerMessage) : message.encode ≠ abort := by
  intro same
  have first : message.encode.head? = some 110 := rfl
  rw [same] at first
  cases first

end BearerMessage

namespace BearerServer

/-- A server that waits errs on a message that is no abort only where the verifier leaves the calendar,
and then stays as it is. -/
theorem Reacts.interrupted_of_error {step : Step σ} {fault : Fault Error} {next : BearerServer σ}
    {tokens : List String} (reaction : Reacts step (.error fault) next tokens)
    (waiting : step.party.stage = .waiting) (unaborted : step.message ≠ BearerMessage.abort) :
    fault = .calendar ∧ next = step.party := by
  cases reaction with
  | aborted abort => exact absurd abort unaborted
  | closed unaborted spent => exact absurd waiting spent
  | interrupted unaborted waiting read ended => exact ⟨rfl, rfl⟩

end BearerServer

/-- Two honest parties of the sealed mechanism, and the memory and the environment that each of them
finds at its turns. -/
structure SealedExchange (σ τ : Type) where
  context : ClientContext σ
  verifier : TokenVerifier τ
  greetedIn : σ × Environment
  welcomedIn : τ × Environment
  presentedIn : σ × Environment
  judgedIn : τ × Environment

namespace Dialogue.Step

def reply (manner : Manner τ σ) (step : Step τ σ) : Bytes :=
  match step.result manner with
  | .ok bytes => bytes
  | .error _ => []

end Dialogue.Step

namespace SealedExchange

open Dialogue (Run)
open BearerServer (Accepts Rejects)

variable (exchange : SealedExchange σ τ)

/-- The client is given the empty challenge. -/
def greeting : Dialogue.Step (SealedClient σ) σ :=
  ⟨.new exchange.context.plainClient, [], exchange.greetedIn.1, exchange.greetedIn.2⟩

/-- The server is given the client's public value. -/
def welcome : Dialogue.Step (SealedServer τ) τ :=
  ⟨.new (.new exchange.verifier), exchange.greeting.reply SealedClient.respond, exchange.welcomedIn.1,
    exchange.welcomedIn.2⟩

/-- The client is given the server's public value. -/
def presentation : Dialogue.Step (SealedClient σ) σ :=
  ⟨exchange.greeting.next SealedClient.respond, exchange.welcome.reply SealedServer.challenge,
    exchange.presentedIn.1, exchange.presentedIn.2⟩

/-- The server is given the client's frame. -/
def judgement : Dialogue.Step (SealedServer τ) τ :=
  ⟨exchange.welcome.next SealedServer.challenge, exchange.presentation.reply SealedClient.respond,
    exchange.judgedIn.1, exchange.judgedIn.2⟩

def offer : Dialogue.Step (BearerClient σ) σ :=
  ⟨exchange.context.plainClient, [], exchange.presentedIn.1,
    exchange.presentedIn.2.record .sasl .attempt⟩

/-- A plain server in the place of the sealed one. It is given the response of the plain client. -/
def ruling : BearerServer.Step τ :=
  ⟨.new exchange.verifier, exchange.offer.reply BearerClient.respond, exchange.judgedIn.1,
    exchange.judgedIn.2.record .sasl .attempt⟩

def clientKeys : KeyPair :=
  .ofBytes (exchange.greetedIn.2.draw exponentLength).1

def serverKeys : KeyPair :=
  .ofBytes (exchange.welcomedIn.2.draw exponentLength).1

def session : Session :=
  exchange.clientKeys.session exchange.serverKeys

/-- The source has a ticket when the plain client asks for it. -/
def Given (ticket : AccessTicket) : Prop :=
  (exchange.context.source.request exchange.context.target exchange.presentedIn.1
    (exchange.offer.environment.record .sasl .attempt)).result = .ok ticket

def response (ticket : AccessTicket) : Bytes :=
  (exchange.context.plainClient.message ticket).encode

/-- A sealed server says of its client what a plain server says. -/
structure Agrees (server : SealedServer τ) (plain : BearerServer τ) : Prop where
  isComplete : (SaslServer.sealed server).isComplete = (SaslServer.plain plain).isComplete
  verifiedToken : (SaslServer.sealed server).verifiedToken = (SaslServer.plain plain).verifiedToken
  authorizationId :
    (SaslServer.sealed server).authorizationId = (SaslServer.plain plain).authorizationId

/-- A sealed server decides on a frame as a plain server does on the text in it. -/
structure Mirrors (session : Session) (plain : BearerServer.Step τ)
    (frame : Dialogue.Step (SealedServer τ) τ) : Prop where
  agrees : Agrees (frame.next SealedServer.challenge) (plain.next BearerServer.challenge)
  accepts : ∀ token, Accepts plain.party.verifier plain token →
    frame.result SealedServer.challenge = .ok []
  rejects : Rejects plain.party.verifier plain →
    ∃ answer, frame.result SealedServer.challenge = .ok answer ∧ answer ≠ [] ∧
      session.decrypt answer = .ok BearerMessage.invalidToken
  /-- There is no third answer. Only where the verifier leaves the calendar, there is none at all. -/
  decides : (∃ token, Accepts plain.party.verifier plain token) ∨ Rejects plain.party.verifier plain ∨
    plain.result BearerServer.challenge = .error .calendar ∧
      frame.result SealedServer.challenge = .error .calendar

theorem mirrors {session : Session} (width : session.key.length = cipherKeyLength)
    {verifier : TokenVerifier τ} {response frame : Bytes}
    (opened : session.decrypt frame = .ok response) (unaborted : response ≠ BearerMessage.abort)
    (memory : τ) (environment : Environment) :
    Mirrors session ⟨.new verifier, response, memory, environment.record .sasl .attempt⟩
      ⟨⟨.new verifier, .keyAgreed session⟩, frame, memory, environment⟩ := by
  have reaction := BearerServer.reacts
    (⟨.new verifier, response, memory, environment.record .sasl .attempt⟩ : BearerServer.Step τ)
  rcases said : BearerServer.challenge response (.new verifier, memory)
      (environment.record .sasl .attempt) with ⟨result, ⟨inner, memory'⟩, environment'⟩
  simp only [Dialogue.Step.result, Dialogue.Step.next, Dialogue.Step.outcome, said] at reaction
  obtain ⟨token, accepts, rfl, rfl⟩ | ⟨rejects, rfl, rfl⟩ | ⟨unaccepted, unrejected, ⟨fault, rfl⟩, -⟩ :=
    reaction.kinds
  · have sealed := SealedServer.challenge_opened opened said
    refine ⟨?_, fun token accepts => ?_, fun rejects => ?_, .inl ⟨token, accepts⟩⟩
    · simp only [Dialogue.Step.next, Dialogue.Step.outcome, said, sealed]
      exact ⟨rfl, rfl, rfl⟩
    · simp only [Dialogue.Step.result, Dialogue.Step.outcome, sealed]
    · exact absurd rejects accepts.not_rejects
  · have short : BearerMessage.invalidToken.length ≤ Frame.payloadLimit := by decide
    have sealed := SealedServer.challenge_opened_text opened BearerMessage.invalidToken_ne_nil short
      said
    refine ⟨?_, fun token accepts => ?_, fun rejects => ?_, .inr (.inl rejects)⟩
    · simp only [Dialogue.Step.next, Dialogue.Step.outcome, said, sealed]
      exact ⟨rfl, rfl, rfl⟩
    · exact absurd rejects accepts.not_rejects
    · simp only [Dialogue.Step.result, Dialogue.Step.outcome, sealed]
      exact ⟨_, rfl, session.sealed_ne_nil _ _,
        Session.decrypt_sealed width (environment'.length_draw _) short⟩
  · obtain ⟨rfl, rfl⟩ := reaction.interrupted_of_error rfl unaborted
    have sealed := SealedServer.challenge_opened_calendar opened said
    refine ⟨?_, fun token accepts => ?_, fun rejects => ?_, .inr (.inr ⟨?_, ?_⟩)⟩
    · simp only [Dialogue.Step.next, Dialogue.Step.outcome, said, sealed]
      exact ⟨rfl, rfl, rfl⟩
    · exact absurd accepts (unaccepted token)
    · exact absurd rejects unrejected
    · simp only [Dialogue.Step.result, Dialogue.Step.outcome, said]
    · simp only [Dialogue.Step.result, Dialogue.Step.outcome, sealed]

section Rounds

variable {exchange}

theorem length_session_key : exchange.session.key.length = cipherKeyLength :=
  KeyPair.length_session_key _ _

theorem client_agrees (soundPeer : exchange.serverKeys.IsSound) :
    exchange.clientKeys.agree exchange.serverKeys.publicKey = .ok exchange.session :=
  exchange.clientKeys.agree_publicKey soundPeer

theorem server_agrees (sound : exchange.clientKeys.IsSound) :
    exchange.serverKeys.agree exchange.clientKeys.publicKey = .ok exchange.session := by
  rw [exchange.serverKeys.agree_publicKey sound, KeyPair.session_comm, session]

theorem greeting_outcome : exchange.greeting.outcome SealedClient.respond =
    ⟨.ok exchange.clientKeys.publicKey,
      (⟨exchange.context.plainClient, .keySent (some exchange.clientKeys)⟩, exchange.greetedIn.1),
      ((exchange.greetedIn.2.record .sasl .attempt).draw exponentLength).2.record .sasl .success⟩ :=
  SealedClient.respond_ready _ _ _

/-- Both parties agree on the same session. -/
theorem welcome_outcome (sound : exchange.clientKeys.IsSound) :
    exchange.welcome.outcome SealedServer.challenge =
      ⟨.ok exchange.serverKeys.publicKey,
        (⟨.new exchange.verifier, .keyAgreed exchange.session⟩, exchange.welcomedIn.1),
        ((exchange.welcomedIn.2.record .sasl .attempt).draw exponentLength).2.record .sasl .success⟩ := by
  have agreed := server_agrees sound
  have sent : exchange.greeting.reply SealedClient.respond = exchange.clientKeys.publicKey := by
    rw [Dialogue.Step.reply, Dialogue.Step.result, greeting_outcome]
  rw [serverKeys] at agreed ⊢
  rw [welcome, sent, Dialogue.Step.outcome, SealedServer.new, SealedServer.challenge_waiting agreed]

/-- What the plain client says, and what becomes of it. -/
theorem offer_outcome {ticket : AccessTicket} (given : exchange.Given ticket) :
    ∃ memory environment,
      BearerClient.respond [] (exchange.context.plainClient, exchange.presentedIn.1)
        (exchange.presentedIn.2.record .sasl .attempt) = ⟨.ok (exchange.response ticket),
        ({ exchange.context.plainClient with stage := .complete }, memory), environment⟩ :=
  ⟨_, _, BearerClient.respond_ready rfl (Outcome.eq_of_result given)⟩

theorem presentation_outcome (sound : exchange.clientKeys.IsSound) :
    exchange.presentation.outcome SealedClient.respond =
      SealedClient.respond exchange.serverKeys.publicKey
        (⟨exchange.context.plainClient, .keySent (some exchange.clientKeys)⟩, exchange.presentedIn.1)
        exchange.presentedIn.2 := by
  rw [presentation, Dialogue.Step.next, greeting_outcome, Dialogue.Step.reply, Dialogue.Step.result,
    welcome_outcome sound, Dialogue.Step.outcome]

/-- A response that fits is sent in a frame, and the client is complete. -/
theorem presentation_of_fits (sound : exchange.clientKeys.IsSound)
    (soundPeer : exchange.serverKeys.IsSound) {ticket : AccessTicket} (given : exchange.Given ticket)
    (fits : (exchange.response ticket).length ≤ Frame.payloadLimit) :
    ∃ frame, exchange.presentation.result SealedClient.respond = .ok frame ∧
      exchange.session.decrypt frame = .ok (exchange.response ticket) ∧
      (exchange.presentation.next SealedClient.respond).stage = .complete exchange.session := by
  obtain ⟨memory, environment, offered⟩ := offer_outcome given
  have outcome := SealedClient.respond_keySent (client_agrees soundPeer) offered fits
  rw [Dialogue.Step.result, Dialogue.Step.next, presentation_outcome sound, outcome]
  exact ⟨_, rfl, Session.decrypt_sealed length_session_key (environment.length_draw _) fits, rfl⟩

/-- A response that does not fit is withheld, and the client inside is spent. -/
theorem presentation_of_long (sound : exchange.clientKeys.IsSound)
    (soundPeer : exchange.serverKeys.IsSound) {ticket : AccessTicket} (given : exchange.Given ticket)
    (long : Frame.payloadLimit < (exchange.response ticket).length) :
    exchange.presentation.result SealedClient.respond =
        .error (.error (.sasl (.frame .payloadTooLong))) ∧
      (exchange.presentation.next SealedClient.respond).stage = .keyAgreed exchange.session ∧
      (exchange.presentation.next SealedClient.respond).inner.stage = .complete := by
  obtain ⟨memory, environment, offered⟩ := offer_outcome given
  have outcome := SealedClient.respond_keySent_of_long (client_agrees soundPeer) offered long
  rw [Dialogue.Step.result, Dialogue.Step.next, presentation_outcome sound, outcome]
  exact ⟨rfl, rfl, rfl⟩

end Rounds

/-- An exchange that carries the plain one through: the client is complete after the second round and
not before, and the server decides as a plain server does that is given the response directly. -/
structure Completes : Prop where
  greeted : exchange.greeting.result SealedClient.respond = .ok exchange.clientKeys.publicKey
  unfinished : (exchange.greeting.next SealedClient.respond).isComplete = false
  welcomed : exchange.welcome.result SealedServer.challenge = .ok exchange.serverKeys.publicKey
  presented : ∃ frame, exchange.presentation.result SealedClient.respond = .ok frame
  finished : (exchange.presentation.next SealedClient.respond).isComplete = true
  agreed : (exchange.presentation.next SealedClient.respond).stage = .complete exchange.session
  mirrors : Mirrors exchange.session exchange.ruling exchange.judgement

/-- An exchange that the client gives up: it sends no frame, and whatever it is told afterwards, it does
not become complete. -/
structure GivesUp : Prop where
  unfinished : (exchange.greeting.next SealedClient.respond).isComplete = false
  withheld : exchange.presentation.result SealedClient.respond =
    .error (.error (.sasl (.frame .payloadTooLong)))
  never : ∀ later last,
    Run SealedClient.respond (exchange.presentation.next SealedClient.respond) later last →
      last.isComplete = false

/-- The sealed exchange refines the plain one as far as frames reach. -/
theorem carries_plain {ticket : AccessTicket} (given : exchange.Given ticket)
    (sound : exchange.clientKeys.IsSound) (soundPeer : exchange.serverKeys.IsSound) :
    exchange.offer.result BearerClient.respond = .ok (exchange.response ticket) ∧
      ((exchange.response ticket).length ≤ Frame.payloadLimit → exchange.Completes) ∧
      (Frame.payloadLimit < (exchange.response ticket).length → exchange.GivesUp) := by
  obtain ⟨_, _, offered⟩ := offer_outcome given
  have response : exchange.offer.result BearerClient.respond = .ok (exchange.response ticket) := by
    simp only [Dialogue.Step.result, Dialogue.Step.outcome, offer, offered]
  have unfinished : (exchange.greeting.next SealedClient.respond).isComplete = false := by
    rw [Dialogue.Step.next, greeting_outcome]
    rfl
  refine ⟨response, fun fits => ?_, fun long => ?_⟩
  · obtain ⟨frame, presented, opened, agreed⟩ := presentation_of_fits sound soundPeer given fits
    have waits : exchange.welcome.next SealedServer.challenge =
        ⟨.new exchange.verifier, .keyAgreed exchange.session⟩ := by
      rw [Dialogue.Step.next, welcome_outcome sound]
    have offer : exchange.offer.reply BearerClient.respond = exchange.response ticket := by
      rw [Dialogue.Step.reply, response]
    have sent : exchange.presentation.reply SealedClient.respond = frame := by
      rw [Dialogue.Step.reply, presented]
    exact {
      greeted := by rw [Dialogue.Step.result, greeting_outcome]
      unfinished
      welcomed := by rw [Dialogue.Step.result, welcome_outcome sound]
      presented := ⟨frame, presented⟩
      finished := by rw [SealedClient.isComplete, agreed]
      agreed
      mirrors := by
        rw [ruling, judgement, offer, sent, waits]
        exact mirrors length_session_key opened (BearerMessage.encode_ne_abort _) _ _ }
  · obtain ⟨withheld, agreed, spent⟩ := presentation_of_long sound soundPeer given long
    refine ⟨unfinished, withheld, fun later last run => ?_⟩
    have kept : last.stage = .keyAgreed exchange.session ∧ last.inner.stage = .complete := by
      refine (run.keeps (fun client : SealedClient σ =>
        client.stage = .keyAgreed exchange.session ∧ client.inner.stage = .complete)
        ⟨agreed, spent⟩ ?_).1
      rintro step ⟨agreed, spent⟩
      rw [Dialogue.Step.next, Dialogue.Step.outcome, SealedClient.respond_spent agreed spent]
      exact ⟨agreed, spent⟩
    rw [SealedClient.isComplete, kept.1]

end SealedExchange

namespace Whisper

open Dialogue.Step

def environment (entropy : Bytes) : Environment where
  now := .epoch
  network := fun _ _ => .error (.io "closed")
  sent := []
  entropy := entropy
  flows := []

def exchange (host : String) : SealedExchange Unit Unit where
  context := {
    source := .fixed "alice" (some "eyJhbGciOiJIUzI1NiJ9.e30.")
    target := "api"
    host := host
    authzid := none }
  verifier := .trusting false
  greetedIn := ((), environment [])
  welcomedIn := ((), environment [1])
  presentedIn := ((), environment [])
  judgedIn := ((), environment [])

theorem client_sound : (KeyPair.ofBytes ((environment []).draw exponentLength).1).IsSound := by
  rw [KeyPair.IsSound]
  decide +kernel

theorem server_sound : (KeyPair.ofBytes ((environment [1]).draw exponentLength).1).IsSound := by
  rw [KeyPair.IsSound]
  decide +kernel

/-- The source has a ticket whatever the host is. -/
theorem given (host : String) : ∃ ticket, (exchange host).Given ticket := by
  obtain ⟨token, parsed⟩ : ∃ token, SignedToken.parse "eyJhbGciOiJIUzI1NiJ9.e30." = .ok token :=
    exists_ok_of_isOk (by decide +kernel)
  refine ⟨{ holder := "alice", target := "api", grantType := defaultGrantType, token }, ?_⟩
  simp only [SealedExchange.Given, exchange, TicketSource.fixed, parsed, Operation.ofExcept, mapError,
    succeed, Bind.bind, andThen, mapError_ok]

def hostOf (letters : Nat) : String :=
  String.ofList (List.replicate letters 'a')

theorem length_hostOf (letters : Nat) : (hostOf letters).toList.length = letters := by
  rw [hostOf, String.toList_ofList, List.length_replicate]

def near : SealedExchange Unit Unit :=
  exchange "api.example"

def far : SealedExchange Unit Unit :=
  exchange (hostOf Frame.partLimit)

/-- Two parties that draw different keys. A message with a short host goes through, and a server that
trusts everybody accepts it. A message whose host is as long as a frame may be does not fit into one. -/
theorem short_carried_long_withheld :
    near.Completes ∧ (near.judgement.next SealedServer.challenge).isComplete = true ∧ far.GivesUp := by
  obtain ⟨ticket, nearTicket⟩ := given "api.example"
  have ⟨response, carried, _⟩ := near.carries_plain nearTicket client_sound server_sound
  have short : (near.offer.reply BearerClient.respond).length ≤ Frame.payloadLimit := by
    decide +kernel
  have accepted : (near.ruling.next BearerServer.challenge).isComplete = true := by
    decide +kernel
  rw [reply, response] at short
  have completes := carried short
  obtain ⟨ticket, farTicket⟩ := given (hostOf Frame.partLimit)
  have ⟨_, _, withheld⟩ := far.carries_plain farTicket client_sound server_sound
  have announced : (far.context.plainClient.message ticket).host = some (hostOf Frame.partLimit) := rfl
  have long := BearerMessage.length_host_lt announced
  rw [length_hostOf] at long
  exact ⟨completes, completes.mirrors.agrees.isComplete.trans accepted,
    withheld (Nat.lt_of_le_of_lt (Nat.sub_le _ _) long)⟩

end Whisper

end BearerIdentity
