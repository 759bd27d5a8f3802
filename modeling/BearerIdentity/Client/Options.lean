import BearerIdentity.Issuer.Discovery

set_option autoImplicit false

namespace BearerIdentity

inductive VerificationMode where
  | locally
  /-- The issuer is asked as well. -/
  | byIntrospection
  deriving DecidableEq, Repr

namespace VerificationMode

def name : VerificationMode → String
  | locally => "local"
  | byIntrospection => "introspection"

def ofName? (name : String) : Option VerificationMode :=
  if name = "local" then some locally
  else if name = "introspection" then some byIntrospection
  else none

def describe : VerificationMode → String
  | locally => "Local"
  | byIntrospection => "Introspection"

end VerificationMode

structure ClientOptions where
  identity : Option String
  issuer : Option String
  clientId : Option String
  clientSecret : Option String
  grantType : Option String
  scope : Option String
  uma : Option Bool
  oidcDiscovery : Option Discovery
  uma2Discovery : Option Discovery
  tokenEndpoint : Option Url
  introspectionEndpoint : Option Url
  userinfoEndpoint : Option Url
  jwksEndpoint : Option Url
  verification : VerificationMode
  requiredClaims : Option (List String)
  authParams : List (String × String)
  deriving DecidableEq, Repr

namespace ClientOptions

def blank : ClientOptions where
  identity := none
  issuer := none
  clientId := none
  clientSecret := none
  grantType := none
  scope := none
  uma := none
  oidcDiscovery := none
  uma2Discovery := none
  tokenEndpoint := none
  introspectionEndpoint := none
  userinfoEndpoint := none
  jwksEndpoint := none
  verification := .locally
  requiredClaims := none
  authParams := []

def pairDecoder : Json.Decoder (String × String) :=
  .filterMap (.list .string) fun
    | [name, value] => some (name, value)
    | _ => none

def fields : List (Json.Field ClientOptions) :=
  [.optional "identity" (.option .string) fun identity options => { options with identity },
    .optional "issuer" (.option .string) fun issuer options => { options with issuer },
    .optional "client_id" (.option .string) fun clientId options => { options with clientId },
    .optional "client_secret" (.option .string) fun clientSecret options =>
      { options with clientSecret },
    .optional "grant_type" (.option .string) fun grantType options => { options with grantType },
    .optional "scope" (.option .string) fun scope options => { options with scope },
    .optional "uma" (.option .bool) fun uma options => { options with uma },
    .optional "oidc_discovery" (.option Discovery.decoder) fun oidcDiscovery options =>
      { options with oidcDiscovery },
    .optional "uma2_discovery" (.option Discovery.decoder) fun uma2Discovery options =>
      { options with uma2Discovery },
    .optional "token_endpoint" (.option Url.decoder) fun tokenEndpoint options =>
      { options with tokenEndpoint },
    .optional "introspection_endpoint" (.option Url.decoder) fun introspectionEndpoint options =>
      { options with introspectionEndpoint },
    .optional "userinfo_endpoint" (.option Url.decoder) fun userinfoEndpoint options =>
      { options with userinfoEndpoint },
    .optional "jwks_endpoint" (.option Url.decoder) fun jwksEndpoint options =>
      { options with jwksEndpoint },
    .optional "verification" (.word VerificationMode.ofName?) fun verification options =>
      { options with verification },
    .optional "required_claims" (.option (.list .string)) fun requiredClaims options =>
      { options with requiredClaims },
    .optional "auth_params" (.list pairDecoder) fun authParams options =>
      { options with authParams }]

def decoder : Json.Decoder ClientOptions :=
  Json.Record.decoder fields blank

/-- The options as JSON that reads back as them. -/
def toValue (options : ClientOptions) : Json.Value :=
  .ofMembers [
    ("identity", .ofText? options.identity),
    ("issuer", .ofText? options.issuer),
    ("client_id", .ofText? options.clientId),
    ("client_secret", .ofText? options.clientSecret),
    ("grant_type", .ofText? options.grantType),
    ("scope", .ofText? options.scope),
    ("uma", .ofOption .bool options.uma),
    ("oidc_discovery", .ofOption Discovery.toValue options.oidcDiscovery),
    ("uma2_discovery", .ofOption Discovery.toValue options.uma2Discovery),
    ("token_endpoint", .ofOption Url.toValue options.tokenEndpoint),
    ("introspection_endpoint", .ofOption Url.toValue options.introspectionEndpoint),
    ("userinfo_endpoint", .ofOption Url.toValue options.userinfoEndpoint),
    ("jwks_endpoint", .ofOption Url.toValue options.jwksEndpoint),
    ("verification", .string options.verification.name),
    ("required_claims", .ofOption .ofTexts options.requiredClaims),
    ("auth_params", .ofPairs options.authParams)]

def describe (options : ClientOptions) : String :=
  let text := Rendering.optional Rendering.quoted
  let url := Rendering.optional Url.describe
  let discovery := Rendering.optional Discovery.describe
  Rendering.record "ClientOptions"
    [("identity", text (options.identity.map fun _ => Rendering.redacted)),
      ("issuer", text options.issuer), ("client_id", text options.clientId),
      ("client_secret", text (options.clientSecret.map fun _ => Rendering.redacted)),
      ("grant_type", text options.grantType), ("scope", text options.scope),
      ("uma", Rendering.optional Rendering.flag options.uma),
      ("oidc_discovery", discovery options.oidcDiscovery),
      ("uma2_discovery", discovery options.uma2Discovery),
      ("token_endpoint", url options.tokenEndpoint),
      ("introspection_endpoint", url options.introspectionEndpoint),
      ("userinfo_endpoint", url options.userinfoEndpoint),
      ("jwks_endpoint", url options.jwksEndpoint),
      ("verification", options.verification.describe),
      ("required_claims", Rendering.optional (Rendering.list Rendering.quoted)
        options.requiredClaims),
      ("auth_params", Rendering.pairs options.authParams)]

end ClientOptions

end BearerIdentity
