import BearerIdentity.Login.Basic
import BearerIdentity.Proofs.Sasl.ClaimedIdentity
import BearerIdentity.Proofs.Sasl.Exposure
import BearerIdentity.Proofs.Sasl.Message.RoundTrip

set_option autoImplicit false

/- A token may be presented at login, or to a server of the plain mechanism in a message that carries
nothing else. Where the verifier says the same both times, a login succeeds exactly if the server
becomes complete and can name the client, and the names are equal. A token that is verified but names
nobody completes the server, which then has no name for the client, and it fails a login. -/

namespace BearerIdentity

namespace BearerMessage

def ofToken (token : String) : BearerMessage where
  authzid := none
  host := none
  token := token
  extensions := []

/-- A token that a message can carry as it is. -/
structure Portable (token : String) : Prop where
  solid : ∃ c ∈ token.toList, Blank.isBlank c = false
  bare : Blank.Bare token.toList
  undelimited : delimiter ∉ token.toList

/-- It is enough to look at both ends of a token, and for the delimiter. -/
theorem Portable.of_ends {token : String} {first last : Char} (head : token.toList.head? = some first)
    (tail : token.toList.getLast? = some last) (solid : Blank.isBlank first = false)
    (bare : Blank.isBlank last = false) (undelimited : delimiter ∉ token.toList) : Portable token := by
  refine ⟨⟨first, List.mem_of_mem_head? head, solid⟩, ⟨?_, ?_⟩, undelimited⟩
  · intro c leads
    rw [head] at leads
    cases leads
    exact solid
  · intro c ends_
    rw [tail] at ends_
    cases ends_
    exact bare

theorem Portable.writable {token : String} (portable : Portable token) : Writable (ofToken token) where
  solid := portable.solid
  bare := portable.bare
  token := portable.undelimited
  host := by
    intro host announced
    cases announced
  extensions := by
    intro key value listed
    cases listed

theorem Portable.read {token : String} (portable : Portable token) :
    parse (ofToken token).encode = .ok (ofToken token) :=
  portable.writable.derives.parse_eq_ok portable.writable.means

end BearerMessage

namespace TokenVerifier

open Operation

variable {σ : Type} {verifier : TokenVerifier σ} {raw : String}

def admitted (verifier : TokenVerifier σ) :
    Except (Fault Error) SignedToken → Except (Fault Error) Principal
  | .ok token => ((verifier.nameOf token).map fun name => ⟨name, token⟩).mapError .error
  | .error (.error cause) => .error (.error (.authentication "bearer token rejected" (some cause)))
  | .error .calendar => .error .calendar

def settled (verifier : TokenVerifier σ) : Except (Fault Error) SignedToken → BearerServer σ
  | .ok token => ⟨verifier, .complete, some token⟩
  | .error (.error _) => ⟨verifier, .failed, none⟩
  | .error .calendar => .new verifier

/-- A login goes by what the verifier says. -/
theorem result_authenticate (verifier : TokenVerifier σ) (raw : String) (memory : σ)
    (environment : Environment) :
    (verifier.authenticate (.bearer raw) memory environment).result =
      verifier.admitted (verifier.verify raw memory environment).result := by
  simp only [authenticate, principal, Bind.bind, andThen, mapError]
  rcases verifier.verify raw memory environment with ⟨(_ | cause) | token, memory₁, environment₁⟩
  · rfl
  · rfl
  · simp only [mapError_ok, ofExcept_apply, admitted]
    cases verifier.nameOf token <;> rfl

/-- So does a new server that is given the token. -/
theorem next_ofToken (portable : BearerMessage.Portable raw) (memory : σ) (environment : Environment) :
    Dialogue.Step.next BearerServer.challenge
        ⟨.new verifier, (BearerMessage.ofToken raw).encode, memory, environment⟩ =
      verifier.settled (verifier.verify raw memory (environment.record .sasl .attempt)).result := by
  have read := portable.read
  have unaborted := BearerMessage.ne_abort_of_parse read
  have judged := (BearerServer.new verifier).judge_read read memory (environment.record .sasl .attempt)
  rw [Dialogue.Step.next, Dialogue.Step.outcome, BearerServer.challenge_apply, if_neg unaborted]
  simp only [BearerServer.new] at judged ⊢
  rw [observe_apply, judged]
  simp only [BearerMessage.ofToken]
  rcases verifier.verify raw memory (environment.record .sasl .attempt) with
    ⟨(_ | cause) | token, memory₁, environment₁⟩ <;> rfl

/-- A verified token that does not name the client has no authorization id. -/
theorem nameOf_error {token : SignedToken} {cause : Error} (nameless : verifier.nameOf token = .error cause) :
    token.authorizationId? verifier.isUmaAware = none ∧ cause = .verification (.missingClaim "azp") := by
  unfold nameOf at nameless
  cases named : token.authorizationId? verifier.isUmaAware with
  | some name =>
    rw [named] at nameless
    cases nameless
  | none =>
    rw [named] at nameless
    cases nameless
    exact ⟨rfl, rfl⟩

/-- How a login and a server agree about a token. -/
structure Agrees (verdict : Except (Fault Error) SignedToken) (login : Except (Fault Error) Principal)
    (server : BearerServer σ) : Prop where
  /-- The login succeeds exactly if the server becomes complete and has a name for the client. -/
  succeeds : (∃ principal, login = .ok principal) ↔
    server.isComplete = true ∧ ∃ name, server.authorizationId = .ok name
  /-- The principal has the name that the server has for the client, and the token that it holds. -/
  principal : ∀ principal, login = .ok principal → server.isComplete = true ∧
    server.authorizationId = .ok principal.name ∧ server.token = some principal.token
  /-- A server that is complete without a name for the client lacks what the login has missed. -/
  nameless : server.isComplete = true → ∀ cause, server.authorizationId = .error cause →
    cause = .verification (.missingClaim "azp") ∧ login = .error (.error cause)
  /-- The server becomes complete exactly if the token is verified. -/
  complete : server.isComplete = true ↔ ∃ token, verdict = .ok token
  /-- The login tells why a token is rejected. -/
  rejected : ∀ cause, verdict = .error (.error cause) → server.isComplete = false ∧
    login = .error (.error (.authentication "bearer token rejected" (some cause)))

theorem agrees_of_verified (token : SignedToken) :
    Agrees (.ok token) (verifier.admitted (.ok token)) (verifier.settled (.ok token)) := by
  have complete : (verifier.settled (.ok token)).isComplete = true := rfl
  have identity : (verifier.settled (.ok token)).authorizationId = verifier.nameOf token :=
    BearerServer.authorizationId_of_token rfl
  have login : verifier.admitted (.ok token) =
      ((verifier.nameOf token).map fun name => ⟨name, token⟩).mapError .error := rfl
  refine ⟨?_, ?_, ?_, ?_, ?_⟩
  · rw [identity, login]
    cases verifier.nameOf token with
    | ok name => exact ⟨fun _ => ⟨complete, name, rfl⟩, fun _ => ⟨⟨name, token⟩, rfl⟩⟩
    | error cause =>
      constructor
      · rintro ⟨principal, impossible⟩
        cases impossible
      · rintro ⟨-, name, impossible⟩
        cases impossible
  · intro principal admitted
    rw [login] at admitted
    rw [identity]
    cases named : verifier.nameOf token with
    | ok name =>
      rw [named] at admitted
      cases admitted
      exact ⟨complete, rfl, rfl⟩
    | error cause =>
      rw [named] at admitted
      cases admitted
  · intro _ cause nameless
    rw [identity] at nameless
    rw [login, nameless]
    exact ⟨(nameOf_error nameless).2, rfl⟩
  · exact ⟨fun _ => ⟨token, rfl⟩, fun _ => complete⟩
  · intro cause impossible
    cases impossible

theorem agrees_of_unverified (fault : Fault Error) :
    Agrees (.error fault) (verifier.admitted (.error fault)) (verifier.settled (.error fault)) := by
  have incomplete : (verifier.settled (.error fault)).isComplete = false := by
    cases fault <;> rfl
  have refused : ∀ principal, verifier.admitted (.error fault) ≠ .ok principal := by
    intro principal admitted
    cases fault <;> cases admitted
  refine ⟨?_, ?_, ?_, ?_, ?_⟩
  · constructor
    · rintro ⟨principal, admitted⟩
      exact absurd admitted (refused principal)
    · rintro ⟨complete, -⟩
      rw [incomplete] at complete
      cases complete
  · intro principal admitted
    exact absurd admitted (refused principal)
  · intro complete
    rw [incomplete] at complete
    cases complete
  · rw [incomplete]
    constructor
    · intro complete
      cases complete
    · rintro ⟨token, impossible⟩
      cases impossible
  · intro cause same
    cases same
    exact ⟨rfl, rfl⟩

/-- A login with a token and a new server that is given the token agree, if the verifier says the same
of it on both occasions. The server notes its attempt before it asks. -/
theorem login_agrees_with_server (verifier : TokenVerifier σ) {raw : String}
    (portable : BearerMessage.Portable raw) {memory memory' : σ} {environment environment' : Environment}
    (same : (verifier.verify raw memory environment).result =
      (verifier.verify raw memory' (environment'.record .sasl .attempt)).result) :
    Agrees (verifier.verify raw memory environment).result
      (verifier.authenticate (.bearer raw) memory environment).result
      (Dialogue.Step.next BearerServer.challenge
        ⟨.new verifier, (BearerMessage.ofToken raw).encode, memory', environment'⟩) := by
  rw [result_authenticate, next_ofToken portable, ← same]
  cases (verifier.verify raw memory environment).result with
  | ok token => exact agrees_of_verified token
  | error fault => exact agrees_of_unverified fault

end TokenVerifier

namespace Nobody

open BearerMessage TokenVerifier

def verifier : TokenVerifier Unit :=
  .trusting false

def environment : Environment :=
  LateAbort.environment

/-- What this verifier says of a token depends on nothing else. -/
theorem verify_result (raw : String) (memory : Unit) (environment : Environment) :
    (verifier.verify raw memory environment).result =
      ((SignedToken.parse raw).mapError Error.verification).mapError .error := by
  show (Operation.mapError _ (Operation.ofExcept _) memory environment).result = _
  rw [Operation.mapError_ofExcept, Operation.ofExcept_apply]

theorem concurs (raw : String) (memory memory' : Unit) (environment environment' : Environment) :
    (verifier.verify raw memory environment).result =
      (verifier.verify raw memory' environment').result := by
  rw [verify_result, verify_result]

def server (raw : String) : BearerServer Unit :=
  Dialogue.Step.next BearerServer.challenge ⟨.new verifier, (ofToken raw).encode, (), environment⟩

theorem portable_named : Portable Pretence.token :=
  .of_ends (by decide +kernel : _ = some 'e') (by decide +kernel : _ = some '.') rfl rfl
    (by decide +kernel)

/-- A token that names a client is good for a login and for a server. -/
theorem named_agrees : Portable Pretence.token ∧
    Agrees (verifier.verify Pretence.token () environment).result
      (verifier.authenticate (.bearer Pretence.token) () environment).result (server Pretence.token) ∧
    (server Pretence.token).isComplete = true ∧
    (server Pretence.token).authorizationId.toOption = some "oidc://svc@idp.example" :=
  ⟨portable_named, login_agrees_with_server verifier portable_named (concurs _ _ _ _ _), by decide +kernel,
    Pretence.named⟩

def raw : String :=
  LateAbort.message.token

theorem portable : Portable raw :=
  .of_ends (by decide +kernel : _ = some 'e') (by decide +kernel : _ = some '.') rfl rfl
    (by decide +kernel)

/-- A token that names nobody fails the login and completes the server. -/
theorem observed : (verifier.authenticate (.bearer raw) () environment).result.isOk = false ∧
    (server raw).isComplete = true := by
  decide +kernel

/-- So it is not true of every token that a login succeeds exactly if a server becomes complete. -/
theorem complete_without_login : ¬ ∀ (verifier : TokenVerifier Unit) (raw : String) (memory : Unit)
    (environment environment' : Environment), Portable raw →
      (verifier.verify raw memory environment).result =
        (verifier.verify raw memory (environment'.record .sasl .attempt)).result →
      ((∃ principal, (verifier.authenticate (.bearer raw) memory environment).result = .ok principal) ↔
        (Dialogue.Step.next BearerServer.challenge
          ⟨.new verifier, (ofToken raw).encode, memory, environment'⟩).isComplete = true) := by
  intro always
  obtain ⟨principal, admitted⟩ :=
    (always verifier raw () environment environment portable (concurs _ _ _ _ _)).mpr observed.2
  have refused := observed.1
  rw [admitted] at refused
  cases refused

end Nobody

end BearerIdentity
