import BearerIdentity.Client.Caches
import BearerIdentity.Issuer.Basic

set_option autoImplicit false

namespace BearerIdentity

structure TokenResponse where
  accessToken : Option String
  tokenType : Option String
  /-- The lifetime in seconds. -/
  lifetime : Option Int
  scope : Option String
  deriving DecidableEq, Repr

namespace TokenResponse

def fields : List (Json.Field TokenResponse) :=
  [.optional "access_token" (.option .string) fun accessToken response =>
      { response with accessToken },
    .optional "token_type" (.option .string) fun tokenType response => { response with tokenType },
    .optional "expires_in" (.option .int64) fun lifetime response => { response with lifetime },
    .optional "scope" (.option .string) fun scope response => { response with scope }]

def decoder : Json.Decoder TokenResponse :=
  Json.Record.decoder fields ⟨none, none, none, none⟩

def token (response : TokenResponse) : Except Error SignedToken :=
  match response.accessToken.filter (!·.isEmpty) with
  | none => .error (.malformedResponse "missing `access_token`")
  | some raw => (SignedToken.parse raw).mapError .verification

def describe (response : TokenResponse) : String :=
  let optional := Rendering.optional Rendering.quoted
  Rendering.record "TokenResponse"
    [("access_token", optional (response.accessToken.map fun _ => Rendering.redacted)),
      ("token_type", optional response.tokenType),
      ("expires_in", Rendering.optional toString response.lifetime),
      ("scope", optional response.scope)]

end TokenResponse

structure TokenGrant where
  clientId : String
  clientSecret : Secret
  grantType : String
  scope : Option String
  /-- Further parameters of the request. -/
  authParams : List (String × String)
  deriving DecidableEq

namespace TokenGrant

def describe (grant : TokenGrant) : String :=
  Rendering.record "TokenGrant"
    [("client_id", Rendering.quoted grant.clientId),
      ("client_secret", grant.clientSecret.describe),
      ("grant_type", Rendering.quoted grant.grantType),
      ("scope", Rendering.optional Rendering.quoted grant.scope),
      ("auth_params", Rendering.pairs grant.authParams)]

end TokenGrant

structure TokenResource where
  issuer : Issuer
  endpoint : Url
  grant : TokenGrant
  deriving DecidableEq

namespace TokenResource

def form (resource : TokenResource) : List (String × String) :=
  ("grant_type", resource.grant.grantType)
    :: (resource.grant.scope.elim [] fun scope => [("scope", scope)])
    ++ resource.grant.authParams

def request (resource : TokenResource) : Request :=
  (Request.postForm resource.endpoint resource.form).withBasic resource.grant.clientId
    resource.grant.clientSecret.exposed

def describe (resource : TokenResource) : String :=
  Rendering.partialRecord "TokenResource"
    [("endpoint", Rendering.quoted resource.endpoint.text), ("grant", resource.grant.describe)]

/-- Requests a token, which has to come from the issuer. -/
def fetch (resource : TokenResource) : Operation Error (Cache KeySet) SignedToken := do
  let response ← Exchange.postForm TokenResponse.decoder resource.request
  let token ← Operation.ofExcept response.token
  (resource.issuer.check token).mapError .verification
  Operation.succeed token

def renewal (resource : TokenResource) : Renewal (Cache KeySet) SignedToken where
  kind := .tokenRefresh
  isStale := SignedToken.needsRefresh
  fetch := resource.fetch

end TokenResource

end BearerIdentity
