import BearerIdentity.Proofs.Sasl.SingleVerdict

set_option autoImplicit false

/- What a server of the plain mechanism exposes. It holds a token exactly if it has accepted one, and
never gives it up. An abort counts at any time, and ends the completeness of a server that has accepted.
So the one incomplete server that exposes an identity is the server of a client that was accepted and
then aborted. -/

namespace BearerIdentity

namespace BearerServer

open Dialogue (Run)

variable {σ : Type} {verifier : TokenVerifier σ} {steps : List (Step σ)} {server : BearerServer σ}

def HasAccepted (verifier : TokenVerifier σ) (steps : List (Step σ)) : Prop :=
  ∃ step ∈ steps, ∃ token, Accepts verifier step token

/-- The client was accepted in one of these steps, and has aborted in a later one. -/
def HasRecanted (verifier : TokenVerifier σ) (steps : List (Step σ)) : Prop :=
  ∃ later abort earlier, steps = later ++ abort :: earlier ∧ abort.message = BearerMessage.abort ∧
    HasAccepted verifier earlier

theorem hasAccepted_cons (verifier : TokenVerifier σ) (step : Step σ) (steps : List (Step σ)) :
    HasAccepted verifier (step :: steps) ↔
      (∃ token, Accepts verifier step token) ∨ HasAccepted verifier steps := by
  simp only [HasAccepted, List.mem_cons, exists_eq_or_imp]

theorem hasRecanted_cons (verifier : TokenVerifier σ) (step : Step σ) (steps : List (Step σ)) :
    HasRecanted verifier (step :: steps) ↔
      step.message = BearerMessage.abort ∧ HasAccepted verifier steps ∨ HasRecanted verifier steps := by
  constructor
  · rintro ⟨later, abort, earlier, parted, aborted, accepted⟩
    cases later with
    | nil =>
      cases parted
      exact .inl ⟨aborted, accepted⟩
    | cons last later =>
      cases parted
      exact .inr ⟨later, abort, earlier, rfl, aborted, accepted⟩
  · rintro (⟨aborted, accepted⟩ | ⟨later, abort, earlier, rfl, aborted, accepted⟩)
    · exact ⟨[], step, steps, rfl, aborted, accepted⟩
    · exact ⟨step :: later, abort, earlier, rfl, aborted, accepted⟩

/-- Only who was accepted can recant. -/
theorem HasRecanted.hasAccepted (recanted : HasRecanted verifier steps) : HasAccepted verifier steps := by
  obtain ⟨later, abort, earlier, rfl, -, step, listed, accepts⟩ := recanted
  exact ⟨step, List.mem_append_right _ (List.mem_cons_of_mem _ listed), accepts⟩

namespace Reacts

variable {step : Step σ} {result : Except (Fault Error) Bytes} {next : BearerServer σ}
  {tokens : List String}

theorem failed_of_abort (reaction : Reacts step result next tokens)
    (abort : step.message = BearerMessage.abort) : next.stage = .failed := by
  cases reaction with
  | aborted => rfl
  | closed unaborted => exact absurd abort unaborted
  | unread unaborted => exact absurd abort unaborted
  | refused unaborted => exact absurd abort unaborted
  | accepted unaborted => exact absurd abort unaborted
  | interrupted unaborted => exact absurd abort unaborted

/-- After a message, a server is complete if it has accepted the message, or if it was complete before
and the message is no abort. -/
theorem complete_iff (reaction : Reacts step result next tokens) :
    next.stage = .complete ↔ (∃ token, Accepts step.party.verifier step token) ∨
      step.party.stage = .complete ∧ step.message ≠ BearerMessage.abort := by
  rw [← reaction.accepts_iff]
  cases reaction with
  | aborted abort => simp [abort]
  | closed unaborted spent => simp [unaborted]
  | unread unaborted waiting unreadable => simp [BearerMessage.invalidToken_ne_nil, waiting]
  | refused unaborted waiting read refused => simp [BearerMessage.invalidToken_ne_nil, waiting]
  | accepted unaborted waiting read verified => simp
  | interrupted unaborted waiting read ended => simp [waiting]

end Reacts

/-- Whether a server is complete, by what has happened. -/
structure Standing (verifier : TokenVerifier σ) (steps : List (Step σ)) (server : BearerServer σ) :
    Prop where
  complete : server.stage = .complete ↔ HasAccepted verifier steps ∧ ¬ HasRecanted verifier steps
  recanted : HasRecanted verifier steps → server.stage = .failed

namespace Standing

theorem new (verifier : TokenVerifier σ) : Standing verifier [] (.new verifier) where
  complete := by simp [BearerServer.new, HasAccepted]
  recanted := fun recanted => by simpa [HasAccepted] using recanted.hasAccepted

/-- A message that is accepted is the first one to be, and comes before any abort of a client that was
accepted. -/
theorem step {step : Step σ} (trace : Trace verifier steps step.party)
    (standing : Standing verifier steps step.party) :
    Standing verifier (step :: steps) (step.next challenge) := by
  have reaction := reacts step
  have complete := reaction.complete_iff
  rw [trace.verifier_eq] at complete
  have unrecanted : (∃ token, Accepts verifier step token) → ¬ HasRecanted verifier (step :: steps) := by
    rintro ⟨token, accepts⟩ recanted
    have untouched := trace.untouched accepts.waiting
    subst untouched
    obtain ⟨aborted, -⟩ | recanted := (hasRecanted_cons verifier step []).mp recanted
    · exact accepts.unaborted aborted
    · obtain ⟨_, listed, -⟩ := recanted.hasAccepted
      cases listed
  refine ⟨?_, ?_⟩
  · rw [complete, standing.complete, hasAccepted_cons]
    constructor
    · rintro (accepts | ⟨⟨accepted, lasting⟩, unaborted⟩)
      · exact ⟨.inl accepts, unrecanted accepts⟩
      · refine ⟨.inr accepted, fun recanted => ?_⟩
        obtain ⟨aborted, -⟩ | recanted := (hasRecanted_cons verifier step steps).mp recanted
        · exact unaborted aborted
        · exact lasting recanted
    · rintro ⟨accepts | accepted, lasting⟩
      · exact .inl accepts
      · rw [hasRecanted_cons, not_or] at lasting
        exact .inr ⟨⟨accepted, lasting.2⟩, fun aborted => lasting.1 ⟨aborted, accepted⟩⟩
  · rw [hasRecanted_cons]
    rintro (⟨aborted, -⟩ | recanted)
    · exact reaction.failed_of_abort aborted
    · exact (reaction.of_failed (standing.recanted recanted)).2

theorem of_run (run : Run challenge (.new verifier) steps server) : Standing verifier steps server := by
  induction run with
  | start => exact new verifier
  | step step run answered standing => exact standing.step (Trace.of_run run)

end Standing

/-- What a server exposes that has come so far. -/
structure Exposes (verifier : TokenVerifier σ) (steps : List (Step σ)) (server : BearerServer σ) :
    Prop where
  /-- It holds a token exactly if it has accepted one. -/
  verified : server.token.isSome = true ↔ HasAccepted verifier steps
  /-- It names the client exactly if the token that it holds does. -/
  names : ∀ name, server.authorizationId = .ok name ↔
    ∃ token, server.token = some token ∧ verifier.nameOf token = .ok name
  /-- It is complete exactly if it has accepted a token and the client has not aborted since. -/
  complete : server.isComplete = true ↔ HasAccepted verifier steps ∧ ¬ HasRecanted verifier steps
  /-- Unless the client has aborted after it was accepted, only a complete server exposes an identity. -/
  timely : ¬ HasRecanted verifier steps →
    (server.token.isSome = true → server.isComplete = true) ∧
      ∀ name, server.authorizationId = .ok name → server.isComplete = true
  /-- A server that has failed without accepting a token exposes nothing. -/
  spent : server.stage = .failed → ¬ HasAccepted verifier steps →
    server.token = none ∧ server.authorizationId = .error (.sasl .notComplete)
  /-- The server of a client that has aborted after it was accepted has failed and still holds its
  token. -/
  recanted : HasRecanted verifier steps →
    server.stage = .failed ∧ ∃ token, server.token = some token ∧
      server.authorizationId = verifier.nameOf token

theorem authorizationId_of_token {token : SignedToken} (held : server.token = some token) :
    server.authorizationId = server.verifier.nameOf token := by
  rw [authorizationId, held]

theorem authorizationId_of_none (none : server.token = none) :
    server.authorizationId = .error (.sasl .notComplete) := by
  rw [authorizationId, none]

theorem authorizationId_eq_ok_iff {name : String} : server.authorizationId = .ok name ↔
    ∃ token, server.token = some token ∧ server.verifier.nameOf token = .ok name := by
  cases held : server.token with
  | none => simp [authorizationId_of_none held]
  | some token => simp [authorizationId_of_token held]

/-- However a server has been spoken to, it exposes the identity of the client that it has accepted, and
does so while it is complete, and after the client has aborted. -/
theorem exposes_of_run (run : Run challenge (.new verifier) steps server) :
    Exposes verifier steps server := by
  have trace := Trace.of_run run
  have standing := Standing.of_run run
  have held : server.token.isSome = true ↔ HasAccepted verifier steps := by
    simp only [Option.isSome_iff_exists, trace.token, HasAccepted]
    exact ⟨fun ⟨token, step, listed, accepts⟩ => ⟨step, listed, token, accepts⟩,
      fun ⟨step, listed, token, accepts⟩ => ⟨token, step, listed, accepts⟩⟩
  have complete : server.isComplete = true ↔
      HasAccepted verifier steps ∧ ¬ HasRecanted verifier steps := by
    rw [isComplete, beq_iff_eq, standing.complete]
  have names : ∀ name, server.authorizationId = .ok name ↔
      ∃ token, server.token = some token ∧ verifier.nameOf token = .ok name := by
    intro name
    rw [authorizationId_eq_ok_iff, trace.verifier_eq]
  refine ⟨held, names, complete, fun lasting => ⟨?_, ?_⟩, ?_, ?_⟩
  · exact fun some => complete.mpr ⟨held.mp some, lasting⟩
  · intro name named
    obtain ⟨token, holds, -⟩ := (names name).mp named
    exact complete.mpr ⟨held.mp (by rw [holds]; rfl), lasting⟩
  · intro failed unaccepted
    have none : server.token = none := by
      rw [← Option.not_isSome_iff_eq_none, held]
      exact unaccepted
    exact ⟨none, authorizationId_of_none none⟩
  · intro recanted
    obtain ⟨token, holds⟩ := Option.isSome_iff_exists.mp (held.mpr recanted.hasAccepted)
    refine ⟨standing.recanted recanted, token, holds, ?_⟩
    rw [authorizationId_of_token holds, trace.verifier_eq]

end BearerServer

namespace Recantation

open BearerServer Dialogue

def verifier : TokenVerifier Unit :=
  .trusting false

def message : BearerMessage where
  authzid := none
  host := some "api.example"
  token := "eyJhbGciOiJIUzI1NiJ9.eyJpc3MiOiJodHRwczovL2lkcC5leGFtcGxlIiwiYXpwIjoic3ZjIn0."
  extensions := []

def first : BearerServer.Step Unit :=
  ⟨.new verifier, message.encode, (), LateAbort.environment⟩

def second : BearerServer.Step Unit :=
  ⟨first.next challenge, BearerMessage.abort, (), LateAbort.environment⟩

theorem begun : Run challenge (.new verifier) [first] (first.next challenge) :=
  .step first .start (by decide +kernel)

theorem run : Run challenge (.new verifier) [second, first] (second.next challenge) :=
  begun.onward BearerMessage.abort () LateAbort.environment (by decide +kernel)

/-- The server has accepted the client, then failed, and it names the client all the same. -/
theorem observed : (first.next challenge).token.isSome = true ∧
    (second.next challenge).isComplete = false ∧ (second.next challenge).token.isSome = true ∧
    (second.next challenge).authorizationId.toOption = some "oidc://svc@idp.example" := by
  decide +kernel

/-- A client whose token names it, and which aborts after it was accepted. -/
theorem failed_and_exposed : HasRecanted verifier [second, first] ∧
    (second.next challenge).stage = .failed ∧ ∃ token,
      (second.next challenge).token = some token ∧
        (second.next challenge).authorizationId = verifier.nameOf token := by
  have accepted : HasAccepted verifier [first] := (exposes_of_run begun).verified.mp observed.1
  have recanted : HasRecanted verifier [second, first] := ⟨[], second, [first], rfl, rfl, accepted⟩
  exact ⟨recanted, (exposes_of_run run).recanted recanted⟩

/-- So it is not true of every run that only a complete server holds a token or names a client. -/
theorem incomplete_exposes : ¬ ∀ (steps : List (BearerServer.Step Unit)) (server : BearerServer Unit),
    Run challenge (.new verifier) steps server →
      (server.token.isSome = true → server.isComplete = true) ∧
        ((∃ name, server.authorizationId = .ok name) → server.isComplete = true) := by
  intro always
  have complete := (always [second, first] (second.next challenge) run).1 observed.2.2.1
  rw [observed.2.1] at complete
  cases complete

end Recantation

end BearerIdentity
