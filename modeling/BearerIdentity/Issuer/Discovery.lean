import BearerIdentity.Http.Exchange
import BearerIdentity.Issuer.Endpoints
import BearerIdentity.Text.Blank

set_option autoImplicit false

namespace BearerIdentity

inductive DiscoveryKind where
  | oidc
  | uma2
  deriving DecidableEq, Repr

namespace DiscoveryKind

def name : DiscoveryKind → String
  | oidc => "oidc"
  | uma2 => "uma2"

def describe : DiscoveryKind → String
  | oidc => "Oidc"
  | uma2 => "Uma2"

def all : List DiscoveryKind :=
  [oidc, uma2]

def wellKnownPath : DiscoveryKind → String
  | oidc => ".well-known/openid-configuration"
  | uma2 => ".well-known/uma2-configuration"

def wellKnownUrl (kind : DiscoveryKind) (issuer : String) : Except ConfigError Url :=
  let base := String.ofList (Blank.dropEnd (· == '/') issuer.toList)
  let value := base ++ "/" ++ kind.wellKnownPath
  match Url.parse? value with
  | some url => .ok url
  | none => .error (.invalidUrl "issuer" value)

end DiscoveryKind

/-- Whether a document is looked for, and where if not below the issuer. -/
inductive Discovery where
  | enabled (isEnabled : Bool)
  | location (url : Url)
  deriving DecidableEq, Repr

namespace Discovery

def isEnabled : Discovery → Bool
  | enabled isEnabled => isEnabled
  | location _ => true

def location? : Discovery → Option Url
  | enabled _ => none
  | location url => some url

def ofValue? : Json.Value → Option Discovery
  | .bool isEnabled => some (enabled isEnabled)
  | .string text => (Url.parse? text).map location
  | _ => none

def decoder : Json.Decoder Discovery :=
  .ofValue? ofValue?

def toValue : Discovery → Json.Value
  | enabled isEnabled => .bool isEnabled
  | location url => .string url.text

def describe : Discovery → String
  | enabled isEnabled => Rendering.tuple "Enabled" [Rendering.flag isEnabled]
  | location url => Rendering.tuple "At" [url.describe]

end Discovery

structure DiscoveryDocument where
  issuer : String
  tokenEndpoint : Option Url
  introspectionEndpoint : Option Url
  userinfoEndpoint : Option Url
  jwksUri : Option Url
  grantTypes : List String
  deriving DecidableEq, Repr

namespace DiscoveryDocument

def fields : List (Json.Field DiscoveryDocument) :=
  [.required "issuer" .string fun issuer document => { document with issuer },
    .optional "token_endpoint" (.option Url.decoder) fun tokenEndpoint document =>
      { document with tokenEndpoint },
    .optional "introspection_endpoint" (.option Url.decoder) fun introspectionEndpoint document =>
      { document with introspectionEndpoint },
    .optional "userinfo_endpoint" (.option Url.decoder) fun userinfoEndpoint document =>
      { document with userinfoEndpoint },
    .optional "jwks_uri" (.option Url.decoder) fun jwksUri document =>
      { document with jwksUri },
    .optional "grant_types_supported" (.list .string) fun grantTypes document =>
      { document with grantTypes }]

def decoder : Json.Decoder DiscoveryDocument :=
  Json.Record.decoder fields ⟨"", none, none, none, none, []⟩

def toValue (document : DiscoveryDocument) : Json.Value :=
  .ofMembers [
    ("issuer", .string document.issuer),
    ("token_endpoint", .ofOption Url.toValue document.tokenEndpoint),
    ("introspection_endpoint", .ofOption Url.toValue document.introspectionEndpoint),
    ("userinfo_endpoint", .ofOption Url.toValue document.userinfoEndpoint),
    ("jwks_uri", .ofOption Url.toValue document.jwksUri),
    ("grant_types_supported", .ofTexts document.grantTypes)]

def endpoints (document : DiscoveryDocument) : Endpoints where
  token := document.tokenEndpoint
  introspection := document.introspectionEndpoint
  userinfo := document.userinfoEndpoint
  jwks := document.jwksUri

def describe (document : DiscoveryDocument) : String :=
  let url := Rendering.optional Url.describe
  Rendering.record "DiscoveryDocument"
    [("issuer", Rendering.quoted document.issuer), ("token_endpoint", url document.tokenEndpoint),
      ("introspection_endpoint", url document.introspectionEndpoint),
      ("userinfo_endpoint", url document.userinfoEndpoint), ("jwks_uri", url document.jwksUri),
      ("grant_types_supported", Rendering.list Rendering.quoted document.grantTypes)]

variable {σ : Type}

/-- Fetches the document at a location, which has to be the expected issuer's. -/
def fetch (location : Url) (expected : String) : Operation Error σ DiscoveryDocument :=
  Operation.observe .discovery do
    let document ← Exchange.getJson decoder location
    if document.issuer = expected then Operation.succeed document
    else Operation.fail (VerifyError.issuerMismatch expected document.issuer)

end DiscoveryDocument

end BearerIdentity
