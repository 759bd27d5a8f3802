import BearerIdentity.Client.Config
import BearerIdentity.Client.Introspection
import BearerIdentity.Client.TokenResource
import BearerIdentity.Token.Validity

set_option autoImplicit false

namespace BearerIdentity

structure ClientIdentity where
  config : ClientConfig
  issuer : Issuer
  resource : TokenResource
  deriving DecidableEq

namespace ClientIdentity

/-- A client at an issuer that is known, if the configuration suffices. -/
def ofParts (config : ClientConfig) (metadata : IssuerMetadata) :
    Except ConfigError ClientIdentity := do
  config.validate metadata
  match metadata.endpoints.token with
  | none => .error (.missingOption .tokenEndpoint)
  | some endpoint =>
    let issuer : Issuer := ⟨metadata⟩
    let grant : TokenGrant :=
      { clientId := config.clientId
        clientSecret := config.clientSecret
        grantType := config.grantType
        scope := config.scope
        authParams := config.authParams }
    return { config, issuer, resource := { issuer, endpoint, grant } }

def configure {σ : Type} (options : ClientOptions) : Operation Error σ ClientIdentity := do
  let config ← (Operation.ofExcept options.resolve).mapError .config
  let metadata ← config.discover
  (Operation.ofExcept (ofParts config metadata)).mapError .config

def isUma (identity : ClientIdentity) : Bool :=
  identity.config.uma

def name (identity : ClientIdentity) : String :=
  let scheme : IdentityScheme := if identity.isUma then .uma2 else .oidc
  scheme.name ++ "://" ++ identity.config.clientId ++ "@"
    ++ identity.issuer.metadata.host?.getD ""

def summary (identity : ClientIdentity) : Json.Value :=
  .ofMembers [
    ("name", .string identity.name),
    ("uma", .bool identity.isUma),
    ("metadata", identity.issuer.metadata.toValue),
    ("jwks", .ofOption Url.toValue (identity.issuer.keySource?.map (·.endpoint))),
    ("token_endpoint", identity.resource.endpoint.toValue)]

def describe (identity : ClientIdentity) (caches : Caches) : String :=
  Rendering.partialRecord "ClientIdentity"
    [("config", identity.config.describe), ("issuer", identity.issuer.describe caches.keys),
      ("bearer", Rendering.record "BearerAuth" [("tokens", Renewal.describe caches.tokens)])]

def token (identity : ClientIdentity) : Operation Error Caches SignedToken :=
  Caches.onTokens identity.resource.renewal.get

def renew (identity : ClientIdentity) : Operation Error Caches SignedToken :=
  Caches.onTokens identity.resource.renewal.renew

def authenticate (identity : ClientIdentity) (request : Request) :
    Operation Error Caches Request := do
  let token ← identity.token
  Operation.succeed (request.withBearer token.raw)

def clearToken : Operation Error Caches Unit :=
  Operation.revise fun caches => { caches with tokens := caches.tokens.clear }

def clearKeys : Operation Error Caches Unit :=
  Operation.revise fun caches => { caches with keys := caches.keys.clear }

def logout : Operation Error Caches Unit := do
  clearToken
  clearKeys

/-- Confirms the credentials by fetching a token. -/
def loginSelf (identity : ClientIdentity) : Operation Error Caches SignedToken :=
  Operation.observe .login <| identity.renew.mapError fun cause =>
    .authentication s!"client `{identity.config.clientId}` could not obtain a token" (some cause)

def introspect (identity : ClientIdentity) (raw : String) : Operation Error Caches Unit := do
  let endpoint ← Operation.ofOption
    (.config (.missingOption .introspectionEndpoint))
    identity.issuer.metadata.endpoints.introspection
  let answer ← Exchange.postForm Introspection.decoder
    (Introspection.request endpoint identity.config.clientId identity.config.clientSecret raw)
  if answer.active then Operation.succeed () else Operation.fail (.verification .inactive)

/-- Checks issuer, issue date and signature of a token. -/
def checkIssuer (identity : ClientIdentity) (token : SignedToken) :
    Operation Error Caches Unit :=
  (Caches.onKeys (identity.issuer.check token)).mapError .verification

def checkSignature (identity : ClientIdentity) (token : SignedToken) :
    Operation Error Caches Unit := do
  let source ← Operation.ofOption (.verification (.keySetUnavailable .noEndpoint))
    identity.issuer.keySource?
  (Caches.onKeys (source.check token)).mapError .verification

def checkClaims (identity : ClientIdentity) (token : SignedToken) :
    Operation Error Caches Unit := do
  let now ← Operation.now
  (Operation.ofDated (token.claims.check identity.config.requiredClaims now)).mapError
    .verification

/-- Verifies the token of somebody else. -/
def verifyToken (identity : ClientIdentity) (raw : String) :
    Operation Error Caches SignedToken := do
  let token ← (Operation.ofExcept (SignedToken.parse raw)).mapError .verification
  identity.checkIssuer token
  identity.checkClaims token
  if identity.config.verification = .byIntrospection then identity.introspect raw
  Operation.succeed token

end ClientIdentity

end BearerIdentity
