import BearerIdentity.Client.Identity
import BearerIdentity.Proofs.Cache.Renewal
import BearerIdentity.Proofs.Client.Incident
import BearerIdentity.Proofs.Json.Record
import BearerIdentity.Proofs.Operation.Answering
import BearerIdentity.Proofs.Token.Calendar

set_option autoImplicit false

namespace BearerIdentity

open Operation

namespace Exchange

variable {σ α : Type} {decoder : Json.Decoder α}

theorem fetch_answers (refusal : Response → Error) (request : Request) :
    Answers (fetch decoder refusal request : Operation Error σ α) := by
  refine .bind (.mapError (.send request)) fun response => ?_
  split
  · exact .mapError (.ofExcept _)
  · exact .fail _

theorem postForm_answers (request : Request) :
    Answers (postForm decoder request : Operation Error σ α) :=
  fetch_answers _ request

end Exchange

namespace Renewal

variable {σ α : Type} {renewal : Renewal σ α}

theorem refresh_answers (fetched : Answers renewal.fetch) : Answers renewal.refresh := by
  intro ⟨cache, memory⟩ environment left
  have observed := fetched.observe renewal.kind memory environment
  revert left observed
  rw [refresh_apply]
  rcases observe renewal.kind renewal.fetch memory environment with
    ⟨(_ | cause) | value, memory₁, environment₁⟩
  · intro left observed
    exact observed rfl
  · intro left
    cases left
  · intro left
    cases left

theorem result_get_eq_calendar_iff (fetched : Answers renewal.fetch) {cache : Cache α} {memory : σ}
    {environment : Environment} :
    (renewal.get (cache, memory) environment).result = .error .calendar ↔
      ∃ value, cache.unaged? environment.now = some value ∧
        renewal.isStale value environment.now = .error .calendar := by
  have refreshed := refresh_answers fetched (cache, memory) environment
  rw [get_apply]
  cases cache.unaged? environment.now with
  | none => simpa using refreshed
  | some value =>
    simp only [Option.some.injEq, exists_eq_left']
    rcases renewal.isStale value environment.now with (_ | cause) | (_ | _)
    · simp
    · simp
    · simp
    · simpa using refreshed

theorem renew_answers (fetched : Answers renewal.fetch) : Answers renewal.renew := by
  intro ⟨cache, memory⟩ environment
  rw [renew_apply]
  exact refresh_answers fetched _ environment

end Renewal

namespace KeySource

variable {source : KeySource}

theorem fetch_answers {σ : Type} : Answers (source.fetch : Operation Error σ KeySet) :=
  .bind (Exchange.fetch_answers _ _) fun _ => .mapError (.ofExcept _)

theorem keys_answers : Answers source.keys := by
  refine .mapError (.onPart _ _ ?_)
  intro ⟨cache, memory⟩ environment left
  obtain ⟨value, -, stale⟩ := (Renewal.result_get_eq_calendar_iff fetch_answers).mp left
  cases stale

theorem newKeys_answers : Answers source.newKeys :=
  .mapError (.onPart _ _ (Renewal.renew_answers fetch_answers))

theorem find_answers (kid : String) : Answers (source.find kid) := by
  refine .bind keys_answers fun keys => .bind .now fun now => ?_
  split
  · exact .succeed _
  · refine .bind .memory fun cache => ?_
    split
    · exact .fail _
    · exact .bind newKeys_answers fun keys => .ofOption _ _

theorem check_answers (token : SignedToken) : Answers (source.check token) :=
  .bind (.ofOption _ _) fun kid => .bind (.ofOption _ _) fun _ => .bind (find_answers kid) fun _ =>
    .ofExcept _

end KeySource

theorem Issuer.check_answers (issuer : Issuer) (token : SignedToken) : Answers (issuer.check token) :=
  .bind (.ofExcept _) fun _ => .bind .now fun _ => .bind (.ofExcept _) fun _ =>
    .bind (.ofOption _ _) fun _ => KeySource.check_answers token

theorem TokenResource.fetch_answers (resource : TokenResource) : Answers resource.fetch :=
  .bind (Exchange.postForm_answers _) fun _ => .bind (.ofExcept _) fun token =>
    .bind (.mapError (resource.issuer.check_answers token)) fun _ => .succeed _

namespace ClientIdentity

variable {identity : ClientIdentity} {raw : String} {token : SignedToken} {caches : Caches}
  {environment : Environment}

theorem checkIssuer_answers (token : SignedToken) : Answers (identity.checkIssuer token) :=
  .mapError (.onPart _ _ (identity.issuer.check_answers token))

theorem introspect_answers (raw : String) : Answers (identity.introspect raw) := by
  refine .bind (.ofOption _ _) fun endpoint => .bind (Exchange.postForm_answers _) fun answer => ?_
  split
  · exact .succeed _
  · exact .fail _

theorem result_checkClaims_eq_calendar_iff :
    (identity.checkClaims token caches environment).result = .error .calendar ↔
      token.claims.Overruns identity.config.requiredClaims environment.now := by
  rw [← Claims.check_eq_calendar_iff]
  show (mapError _ (ofDated _) caches environment).result = _ ↔ _
  rw [result_mapError_eq_calendar_iff]
  exact Iff.rfl

/-- A verification has no answer for a token that the issuer has vouched for and whose claims lead out
of the calendar, and for no other text. -/
theorem result_verifyToken_eq_calendar_iff :
    (identity.verifyToken raw caches environment).result = .error .calendar ↔
      ∃ token caches₁ environment₁, SignedToken.parse raw = .ok token ∧
        identity.checkIssuer token caches environment = ⟨.ok (), caches₁, environment₁⟩ ∧
        token.claims.Overruns identity.config.requiredClaims environment₁.now := by
  unfold verifyToken
  have rest (token : SignedToken) : Answers (do
      if identity.config.verification = .byIntrospection then identity.introspect raw
      Operation.succeed token : Operation Error Caches SignedToken) := by
    split
    · exact .bind (introspect_answers raw) fun _ => .succeed _
    · exact .succeed _
  constructor
  · intro left
    rcases result_bind_eq_calendar_iff.mp left with unread | ⟨token, _, _, read, left⟩
    · exact absurd unread (Answers.mapError (.ofExcept _) _ _)
    · simp only [mapError_eq_ok, ofExcept_eq_ok] at read
      obtain ⟨read, rfl, rfl⟩ := read
      rcases result_bind_eq_calendar_iff.mp left with left | ⟨_, caches₁, environment₁, issued, left⟩
      · exact absurd left (checkIssuer_answers token _ _)
      · rcases result_bind_eq_calendar_iff.mp left with left | ⟨_, _, _, -, left⟩
        · exact ⟨token, caches₁, environment₁, read, issued, result_checkClaims_eq_calendar_iff.mp left⟩
        · exact absurd left (rest token _ _)
  · intro vouched
    obtain ⟨token, caches₁, environment₁, read, issued, overruns⟩ := vouched
    refine result_bind_eq_calendar_iff.mpr (.inr ⟨token, caches, environment, ?_, ?_⟩)
    · simp [read]
    refine result_bind_eq_calendar_iff.mpr (.inr ⟨(), caches₁, environment₁, issued, ?_⟩)
    exact result_bind_eq_calendar_iff.mpr (.inl (result_checkClaims_eq_calendar_iff.mpr overruns))

theorem result_token_eq_calendar_iff :
    (identity.token caches environment).result = .error .calendar ↔
      ∃ token, caches.tokens.unaged? environment.now = some token ∧
        Claims.NamesFirstMinute token.claims.expiry := by
  show (identity.resource.renewal.get (caches.tokens, caches.keys) environment).result = _ ↔ _
  rw [Renewal.result_get_eq_calendar_iff identity.resource.fetch_answers]
  refine exists_congr fun token => and_congr_right fun _ => ?_
  exact SignedToken.needsRefresh_eq_calendar_iff

/-- Which dates leave a token without an answer, for those who check its claims, who test whether it has
to be replaced, and who verify it or hold it. -/
structure AnswersWithin (identity : ClientIdentity) (token : SignedToken) (required : List String)
    (now : Instant) : Prop where
  checked : token.claims.check required now = .error .calendar ↔ token.claims.Overruns required now
  /-- The claims are accepted otherwise, or rejected for a reason. -/
  judged : ¬ token.claims.Overruns required now →
    token.claims.check required now = .ok () ∨
      ∃ cause, token.claims.check required now = .error (.error cause)
  tested : (token.needsRefresh now : Except (Fault Error) Bool) = .error .calendar ↔
    Claims.NamesFirstMinute token.claims.expiry
  decided : ¬ Claims.NamesFirstMinute token.claims.expiry →
    ∃ isDue, (token.needsRefresh now : Except (Fault Error) Bool) = .ok isDue
  /-- Nobody makes a verification fail in this way but the issuer. -/
  verified : ∀ raw caches environment, SignedToken.parse raw = .ok token →
    ((identity.verifyToken raw caches environment).result = .error .calendar ↔
      ∃ caches₁ environment₁,
        identity.checkIssuer token caches environment = ⟨.ok (), caches₁, environment₁⟩ ∧
        token.claims.Overruns identity.config.requiredClaims environment₁.now)
  held : ∀ caches environment, caches.tokens.unaged? environment.now = some token →
    ((identity.token caches environment).result = .error .calendar ↔
      Claims.NamesFirstMinute token.claims.expiry)

/-- Whatever a token claims and whatever is required of it, only dates within a minute of the two ends of
the calendar leave it without an answer. -/
theorem answers_within_calendar (identity : ClientIdentity) (token : SignedToken)
    (required : List String) (now : Instant) : identity.AnswersWithin token required now where
  checked := Claims.check_eq_calendar_iff
  judged := by
    intro within
    have answered : token.claims.check required now ≠ .error .calendar :=
      mt Claims.check_eq_calendar_iff.mp within
    cases result : token.claims.check required now with
    | ok _ => exact .inl rfl
    | error fault =>
      cases fault with
      | calendar => exact absurd result answered
      | error cause => exact .inr ⟨cause, rfl⟩
  tested := SignedToken.needsRefresh_eq_calendar_iff
  decided := by
    intro within
    have answered : token.needsRefresh now ≠ .error (Fault.calendar : Fault Error) :=
      mt SignedToken.needsRefresh_eq_calendar_iff.mp within
    cases result : (token.needsRefresh now : Except (Fault Error) Bool) with
    | ok isDue => exact ⟨isDue, rfl⟩
    | error fault =>
      cases fault with
      | calendar => exact absurd result answered
      | error cause => exact absurd result (TokenResource.needsRefresh_ne_error token now cause)
  verified := by
    intro raw caches environment read
    rw [result_verifyToken_eq_calendar_iff]
    constructor
    · intro left
      obtain ⟨other, caches₁, environment₁, found, issued, overruns⟩ := left
      rw [read] at found
      cases found
      exact ⟨caches₁, environment₁, issued, overruns⟩
    · intro vouched
      obtain ⟨caches₁, environment₁, issued, overruns⟩ := vouched
      exact ⟨token, caches₁, environment₁, read, issued, overruns⟩
  held := by
    intro caches environment young
    rw [result_token_eq_calendar_iff, young]
    simp

end ClientIdentity

namespace Brink

def now : Instant :=
  ⟨1700000000000⟩

def document : Bytes :=
  Utf8.ofString "\x7b\"typ\":\"Bearer\",\"exp\":253402300799\x7d"

def raw : String :=
  "eyJhbGciOiJIUzI1NiIsImtpZCI6ImsxIiwidHlwIjoiSldUIn0.eyJleHAiOi0zNzc3MDUxMTY4MDB9.c2ln"

theorem document_decoded : ∃ claims, Json.decodeAll Claims.decoder document = .ok claims ∧
    claims.type = some "Bearer" ∧ claims.expiry.bind Claims.secondOf? = some 253402300799 := by
  obtain ⟨claims, decoded, parts⟩ := Json.exists_of_map_toOption
    (show (Json.decodeAll Claims.decoder document).toOption.map
      (fun claims => (claims.type, claims.expiry.bind Claims.secondOf?)) =
        some (some "Bearer", some 253402300799) by decide +kernel)
  exact ⟨claims, decoded, Prod.mk.inj parts⟩

theorem raw_parsed : ∃ token, SignedToken.parse raw = .ok token ∧
    token.claims.expiry.bind Claims.secondOf? = some (-377705116800) :=
  Json.exists_of_map_toOption (by decide +kernel)

/-- Neither the check of claims nor the test for a refresh always has an answer. -/
theorem not_always_answered :
    (¬ ∀ (document : Bytes) (claims : Claims) (required : List String) (now : Instant),
      Json.decodeAll Claims.decoder document = .ok claims → now.isInCalendar = true →
        claims.check required now = .ok () ∨
          ∃ cause, claims.check required now = .error (.error cause)) ∧
    ¬ ∀ (raw : String) (token : SignedToken) (now : Instant),
      SignedToken.parse raw = .ok token → now.isInCalendar = true →
        ∃ isDue, (token.needsRefresh now : Except (Fault Error) Bool) = .ok isDue := by
  have present : now.isInCalendar = true := by decide
  constructor
  · intro always
    obtain ⟨claims, decoded, type, expiry⟩ := document_decoded
    have overruns : claims.Overruns [] now :=
      ⟨⟨"Bearer", type, by decide⟩, nofun, .inl ⟨_, expiry, by omega, by omega⟩⟩
    rcases always document claims [] now decoded present with answer | ⟨cause, answer⟩
    · rw [Claims.check_eq_calendar_iff.mpr overruns] at answer
      cases answer
    · rw [Claims.check_eq_calendar_iff.mpr overruns] at answer
      cases answer
  · intro always
    obtain ⟨token, parsed, expiry⟩ := raw_parsed
    obtain ⟨isDue, answer⟩ := always raw token now parsed present
    rw [SignedToken.needsRefresh_eq_calendar_iff.mpr ⟨_, expiry, by omega, by omega⟩] at answer
    cases answer

end Brink

end BearerIdentity
