import BearerIdentity.Proofs.Client.Introspection
import BearerIdentity.Proofs.Client.Life
import BearerIdentity.Proofs.Http.Body
import BearerIdentity.Proofs.Token.Transcript
import BearerIdentity.Proofs.Token.Validity

set_option autoImplicit false

namespace BearerIdentity

open Operation

theorem Introspection.formValue?_request (endpoint : Url) (clientId : String)
    (clientSecret : Secret) (raw : String) :
    (Introspection.request endpoint clientId clientSecret raw).formValue? "token" = some raw := rfl

namespace ClientIdentity

/-- The issuer has said, in answer to a request with this very token after those in `since`, that the
token is active. -/
structure Confirmed (identity : ClientIdentity) (raw : String) (since : List Request)
    (environment : Environment) (endpoint : Url) (request : Request) (response : Response)
    (answer : Introspection) : Prop where
  known : identity.issuer.metadata.endpoints.introspection = some endpoint
  endpoint : request.url = endpoint
  carries : request.formValue? "token" = some raw
  answered : environment.Answered since request response
  success : 200 ≤ response.status ∧ response.status < 300
  read : response.json Introspection.decoder = .ok answer
  active : answer.active = true
  affirms : Introspection.Affirms response.body

/-- Everything that is known of a token that is accepted between two moments. -/
structure Accepts (identity : ClientIdentity) (raw : String) (token : SignedToken)
    (before after : Environment) : Prop where
  read : SignedToken.parse raw = .ok token
  transcribes : token.Transcribes raw
  unaltered : token.raw = raw
  issuer : ∃ issuer, identity.config.issuer = some issuer ∧ token.claims.issuer = some issuer
  issued : ∃ issued, token.claims.issuedAt? = some issued ∧ issued ≤ before.now
  endorsed : ∃ source, identity.issuer.keySource? = some source ∧ source.Endorses token after
  type : ∃ type, token.claims.type = some type ∧ Ascii.sameFold type "Bearer" = true
  required : ∀ name ∈ identity.config.requiredClaims, token.claims.has name = true
  unexpired : token.claims.expiry.isSome = true →
    ∃ expiry, token.claims.expiresAt? = some expiry ∧ before.now.millis < expiry.millis + 60000
  started : token.claims.startDate.isSome = true →
    ∃ start, token.claims.notBefore? = some start ∧ start.millis - 60000 ≤ before.now.millis
  confirmed : identity.config.verification = .byIntrospection →
    ∃ endpoint request response answer,
      identity.Confirmed raw before.sent after endpoint request response answer
  proceeds : before.Proceeds after

variable {identity : ClientIdentity} {raw : String} {token : SignedToken}
  {caches caches' : Caches} {environment environment' : Environment}

theorem confirmed_of_introspect
    (done : identity.introspect raw caches environment = ⟨.ok (), caches', environment'⟩) :
    ∃ endpoint request response answer,
      identity.Confirmed raw environment.sent environment' endpoint request response answer := by
  simp only [introspect, Exchange.postForm, bind_eq_ok, ofOption_eq_ok, Exchange.fetch_eq_ok] at done
  obtain ⟨endpoint, _, _, ⟨known, rfl, rfl⟩, answer, _, _, ⟨response, answered, success, read, rfl,
    rfl⟩, rest⟩ := done
  cases active : answer.active with
  | false => simp [active] at rest
  | true =>
    simp only [active, ite_true, succeed_eq_ok] at rest
    obtain ⟨-, -, rfl⟩ := rest
    exact ⟨endpoint, _, response, answer, {
      known
      endpoint := rfl
      carries := Introspection.formValue?_request _ _ _ _
      answered := Environment.answered_exchange answered
      success := by simpa [Response.isSuccess] using success
      read
      active
      affirms := Introspection.affirms_of_decoded (Response.json_eq_ok.mp read) active }⟩

/-- The steps of a verification that succeeds. -/
theorem verifyToken_eq_ok :
    identity.verifyToken raw caches environment = ⟨.ok token, caches', environment'⟩ ↔
      SignedToken.parse raw = .ok token ∧ ∃ caches₁ environment₁,
        identity.checkIssuer token caches environment = ⟨.ok (), caches₁, environment₁⟩ ∧
        token.claims.check identity.config.requiredClaims environment₁.now = .ok () ∧
        if identity.config.verification = .byIntrospection then
          identity.introspect raw caches₁ environment₁ = ⟨.ok (), caches', environment'⟩
        else caches₁ = caches' ∧ environment₁ = environment' := by
  simp only [verifyToken, checkClaims, bind_eq_ok, mapError_eq_ok, ofExcept_eq_ok, now_eq_ok,
    ofDated_eq_ok]
  constructor
  · rintro ⟨found, _, _, ⟨read, rfl, rfl⟩, _, caches₁, environment₁, checked, _, _, _,
      ⟨_, _, _, ⟨rfl, rfl, rfl⟩, claims, rfl, rfl⟩, rest⟩
    split at rest
    · rename_i mode
      simp only [bind_eq_ok, succeed_eq_ok] at rest
      obtain ⟨_, _, _, confirmed, rfl, rfl, rfl⟩ := rest
      refine ⟨read, caches₁, environment₁, checked, claims, ?_⟩
      rw [if_pos mode]
      exact confirmed
    · rename_i mode
      simp only [succeed_eq_ok] at rest
      obtain ⟨rfl, same⟩ := rest
      refine ⟨read, caches₁, environment₁, checked, claims, ?_⟩
      rw [if_neg mode]
      exact same
  · rintro ⟨read, caches₁, environment₁, checked, claims, rest⟩
    refine ⟨token, _, _, ⟨read, rfl, rfl⟩, (), caches₁, environment₁, checked, (), caches₁,
      environment₁, ⟨_, _, _, ⟨rfl, rfl, rfl⟩, claims, rfl, rfl⟩, ?_⟩
    split at rest
    · rename_i mode
      rw [if_pos mode]
      exact bind_eq_ok.mpr ⟨(), _, _, rest, succeed_eq_ok.mpr ⟨rfl, rfl, rfl⟩⟩
    · rename_i mode
      rw [if_neg mode]
      exact succeed_eq_ok.mpr ⟨rfl, rest⟩

theorem checkIssuer_eq_ok :
    identity.checkIssuer token caches environment = ⟨.ok (), caches', environment'⟩ ↔
      ∃ keys, identity.issuer.check token caches.keys environment = ⟨.ok (), keys, environment'⟩ ∧
        { caches with keys } = caches' := by
  simp only [checkIssuer, Caches.onKeys, mapError_eq_ok, onPart_eq_ok]

theorem Confirmed.since {since earlier : List Request} {endpoint : Url} {request : Request}
    {response : Response} {answer : Introspection}
    (confirmed : identity.Confirmed raw since environment endpoint request response answer)
    (begins : earlier <+: since) :
    identity.Confirmed raw earlier environment endpoint request response answer :=
  { confirmed with answered := confirmed.answered.since begins }

/-- No token is accepted unless every check of it succeeds, at any moment of the identity's life. -/
theorem verifyToken_accepts (life : identity.Life caches environment)
    (verified : (identity.verifyToken raw caches environment).result = .ok token) :
    identity.Accepts raw token environment (identity.verifyToken raw caches environment).environment := by
  have whole := Outcome.eq_of_result verified
  have proceeds := (verifyToken_keeps raw caches environment life.backed.tended).2
  generalize (identity.verifyToken raw caches environment).memory = caches' at whole
  generalize (identity.verifyToken raw caches environment).environment = environment' at whole proceeds ⊢
  obtain ⟨read, caches₁, environment₁, issued, claims, rest⟩ := verifyToken_eq_ok.mp whole
  have tended := checkIssuer_keeps token caches environment life.backed.tended
  rw [issued] at tended
  have still := tended.2
  obtain ⟨keys, checked, rfl⟩ := checkIssuer_eq_ok.mp issued
  obtain ⟨name, date, source, known, signed⟩ := Issuer.check_eq_ok.mp checked
  obtain ⟨type, required, expiry, start⟩ := Claims.check_eq_ok.mp claims
  have endorsed := KeySource.endorses_of_backed (life.backed source known) signed
  rw [still.now] at expiry start
  have later : environment₁.Proceeds environment' ∧
      (identity.config.verification = .byIntrospection →
        ∃ endpoint request response answer,
          identity.Confirmed raw environment.sent environment' endpoint request response answer) := by
    split at rest
    · have onward := (introspect_keeps raw _ _ tended.1.tended).2
      rw [rest] at onward
      obtain ⟨endpoint, request, response, answer, confirmed⟩ := confirmed_of_introspect rest
      exact ⟨onward, fun _ => ⟨endpoint, request, response, answer, confirmed.since still.sent⟩⟩
    · rename_i mode
      obtain ⟨-, rfl⟩ := rest
      exact ⟨.refl _, fun wanted => absurd wanted mode⟩
  exact {
    read
    transcribes := SignedToken.transcribes_of_parse read
    unaltered := (SignedToken.transcribes_of_parse read).kept
    issuer := ⟨_, life.fits.issuer, name⟩
    issued := date
    endorsed := ⟨source, known, endorsed.later later.1⟩
    type := Claims.type_of_checkType type
    required := Claims.has_of_checkRequired required
    unexpired := Claims.expiry_of_checkExpiry expiry
    started := Claims.start_of_checkStart start
    confirmed := later.2
    proceeds }

end ClientIdentity

namespace Visit

def place (name : String) : Url where
  scheme := "https"
  username := ""
  password := none
  host := some (.domain "id.example")
  port := none
  path := .rooted [name]
  query := none
  fragment := none

def options : ClientOptions :=
  { ClientOptions.blank with
    issuer := some "i"
    clientId := some "api"
    clientSecret := some "sesame"
    oidcDiscovery := some (.enabled false)
    tokenEndpoint := some (place "token")
    introspectionEndpoint := some (place "introspect")
    jwksEndpoint := some (place "keys")
    verification := .byIntrospection
    requiredClaims := some ["exp", "iat"] }

def network : Network := fun _ request =>
  .ok <| .ofValue <| .ofMembers <|
    match request.method with
    | .get =>
      [("keys", .array [.ofMembers
        [("kty", .string "oct"), ("kid", .string "k"), ("k", .string "c2VjcmV0")]])]
    | .post => [("active", .bool true)]

def arrival : Environment where
  now := ⟨60000⟩
  network := network
  sent := []
  entropy := []
  flows := []

def raw : String :=
  "eyJhbGciOiJIUzI1NiIsImtpZCI6ImsifQ." ++
    "eyJpc3MiOiJpIiwiaWF0Ijo1LCJ0eXAiOiJiZWFyZXIiLCJleHAiOjl9." ++
    "fwfXaMRYrU7nG5E2fs4rYP-Ll5SDt1-yLE3cyGGdJNY"

def metadata : IssuerMetadata :=
  .ofIssuer "i" (options.resolveWith none).endpoints

def identity : ClientIdentity where
  config := options.resolveWith none
  issuer := ⟨metadata⟩
  resource :=
    { issuer := ⟨metadata⟩
      endpoint := place "token"
      grant :=
        { clientId := "api"
          clientSecret := ⟨"sesame"⟩
          grantType := defaultGrantType
          scope := none
          authParams := [] } }

theorem configured :
    (ClientIdentity.configure options : Operation Error Unit _) () arrival =
      ⟨.ok identity, (), arrival⟩ := rfl

/-- A token that expired less than a minute ago, presented to an identity that has just been configured
and asks the issuer about every token. -/
theorem token_accepted :
    ∃ token, (identity.verifyToken raw Caches.empty arrival).result = .ok token ∧
      identity.Accepts raw token arrival
        (identity.verifyToken raw Caches.empty arrival).environment := by
  have life : identity.Life Caches.empty arrival := .configured configured
  have passed : (identity.verifyToken raw Caches.empty arrival).result.isOk = true := by
    decide +kernel
  obtain ⟨token, verified⟩ := exists_ok_of_isOk passed
  exact ⟨token, verified, ClientIdentity.verifyToken_accepts life verified⟩

end Visit

end BearerIdentity
