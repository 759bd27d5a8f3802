import BearerIdentity.Client.IdentityUri
import BearerIdentity.Client.Options
import BearerIdentity.Issuer.Metadata
import BearerIdentity.Token.Secret

set_option autoImplicit false

namespace BearerIdentity

structure ClientConfig where
  scheme : IdentityScheme
  issuer : Option String
  /-- Blank if there is none. -/
  clientId : String
  /-- Blank if there is none. -/
  clientSecret : Secret
  grantType : String
  scope : Option String
  uma : Bool
  oidcDiscovery : Discovery
  uma2Discovery : Discovery
  endpoints : Endpoints
  verification : VerificationMode
  requiredClaims : List String
  /-- Further parameters of token requests. -/
  authParams : List (String × String)
  deriving DecidableEq

def defaultGrantType : String := "client_credentials"

namespace ClientOptions

def identityUri? (options : ClientOptions) : Except ConfigError (Option IdentityUri) :=
  match options.identity with
  | none => .ok none
  | some identity => (IdentityUri.parse identity).map some

/-- Sets a parameter in the last place. -/
def withParam (params : List (String × String)) (param : String × String) :
    List (String × String) :=
  params.filter (·.1 != param.1) ++ [param]

/-- The parameters of the URI that have no setting of their own, and then those that are set. -/
def resolveParams (options : ClientOptions) (uri : Option IdentityUri) :
    List (String × String) :=
  let seeded := (uri.elim [] (·.params)).filter fun (name, _) =>
    name != "scope" && name != "grant_type"
  options.authParams.foldl withParam seeded

/-- What is set wins over what the URI says, which wins over the defaults. -/
def resolveWith (options : ClientOptions) (uri : Option IdentityUri) : ClientConfig :=
  let scheme := uri.elim .oidc (·.scheme)
  let uma := options.uma.getD (scheme == .uma2)
  { scheme
    issuer := options.issuer.or (uri.bind (·.issuer?))
    clientId := (options.clientId.or (uri.bind (·.clientId))).getD ""
    clientSecret := ⟨(options.clientSecret.or (uri.bind (·.clientSecret))).getD ""⟩
    grantType := (options.grantType.or (uri.bind (·.param? "grant_type"))).getD defaultGrantType
    scope := options.scope.or (uri.bind (·.param? "scope"))
    uma
    oidcDiscovery := options.oidcDiscovery.getD (.enabled true)
    uma2Discovery := options.uma2Discovery.getD (.enabled uma)
    endpoints :=
      { token := options.tokenEndpoint
        introspection := options.introspectionEndpoint
        userinfo := options.userinfoEndpoint
        jwks := options.jwksEndpoint }
    verification := options.verification
    requiredClaims := options.requiredClaims.getD ["exp"]
    authParams := options.resolveParams uri }

def resolve (options : ClientOptions) : Except ConfigError ClientConfig :=
  options.identityUri?.map options.resolveWith

end ClientOptions

namespace ClientConfig

def missingSetting? (config : ClientConfig) (metadata : IssuerMetadata) : Option Setting :=
  let endpoints := metadata.endpoints
  if config.issuer.all (·.isEmpty) then some .issuer
  else if config.clientId.isEmpty then some .clientId
  else if config.clientSecret.exposed.isEmpty then some .clientSecret
  else if endpoints.token.isNone then some .tokenEndpoint
  else if endpoints.jwks.isNone then some .jwksEndpoint
  else if config.verification == .byIntrospection && endpoints.introspection.isNone then
    some .introspectionEndpoint
  else none

def validate (config : ClientConfig) (metadata : IssuerMetadata) : Except ConfigError Unit :=
  match config.missingSetting? metadata with
  | some setting => .error (.missingOption setting)
  | none => .ok ()

/-- The configuration as JSON, with the secret. -/
def toValue (config : ClientConfig) : Json.Value :=
  .ofMembers [
    ("scheme", .string config.scheme.name),
    ("issuer", .ofText? config.issuer),
    ("client_id", .string config.clientId),
    ("client_secret", .string config.clientSecret.exposed),
    ("grant_type", .string config.grantType),
    ("scope", .ofText? config.scope),
    ("uma", .bool config.uma),
    ("oidc_discovery", config.oidcDiscovery.toValue),
    ("uma2_discovery", config.uma2Discovery.toValue),
    ("endpoints", config.endpoints.toValue),
    ("verification", .string config.verification.name),
    ("required_claims", .ofTexts config.requiredClaims),
    ("auth_params", .ofPairs config.authParams)]

/-- The diagnostic text, without the secret. -/
def describe (config : ClientConfig) : String :=
  let text := Rendering.optional Rendering.quoted
  Rendering.record "ResolvedConfig"
    [("scheme", config.scheme.describe), ("issuer", text config.issuer),
      ("client_id", Rendering.quoted config.clientId),
      ("client_secret", config.clientSecret.describe),
      ("grant_type", Rendering.quoted config.grantType), ("scope", text config.scope),
      ("uma", Rendering.flag config.uma), ("oidc_discovery", config.oidcDiscovery.describe),
      ("uma2_discovery", config.uma2Discovery.describe), ("endpoints", config.endpoints.describe),
      ("verification", config.verification.describe),
      ("required_claims", Rendering.list Rendering.quoted config.requiredClaims),
      ("auth_params", Rendering.pairs config.authParams)]

variable {ε σ : Type}

/-- Looks for a document unless this is switched off. -/
def configureKind (metadata : IssuerMetadata) (kind : DiscoveryKind) (discovery : Discovery) :
    Operation ε σ IssuerMetadata := do
  if discovery.isEnabled then
    let (metadata, _) ← metadata.configure kind discovery.location?
    Operation.succeed metadata
  else Operation.succeed metadata

/-- Looks for the documents of the issuer. Failures are noted in the result. -/
def discover (config : ClientConfig) : Operation ε σ IssuerMetadata := do
  let metadata := IssuerMetadata.ofIssuer (config.issuer.getD "") config.endpoints
  if config.issuer.isNone then Operation.succeed metadata
  else
    let metadata ← configureKind metadata .oidc config.oidcDiscovery
    configureKind metadata .uma2 config.uma2Discovery

end ClientConfig

end BearerIdentity
