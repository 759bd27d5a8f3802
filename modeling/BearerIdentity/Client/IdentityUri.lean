import BearerIdentity.Error
import BearerIdentity.Rendering
import BearerIdentity.Text.Ascii
import BearerIdentity.Text.Blank
import BearerIdentity.Url.Form
import BearerIdentity.Url.Parser

set_option autoImplicit false

namespace BearerIdentity

inductive IdentityScheme where
  | oidc
  | uma2
  deriving DecidableEq, Repr

namespace IdentityScheme

def name : IdentityScheme → String
  | oidc => "oidc"
  | uma2 => "uma2"

def ofName? (name : String) : Option IdentityScheme :=
  if Ascii.sameFold name "oidc" then some oidc
  else if Ascii.sameFold name "uma2" then some uma2
  else none

def describe : IdentityScheme → String
  | oidc => "Oidc"
  | uma2 => "Uma2"

end IdentityScheme

structure IdentityUri where
  scheme : IdentityScheme
  clientId : Option String
  clientSecret : Option String
  host : Option String
  port : Option Nat
  /-- The path of the issuer, without slashes at its end. -/
  path : String
  params : List (String × String)
  deriving DecidableEq, Repr

namespace IdentityUri

/-- A URI as it may be shown: without its password. -/
def shown (value : String) : String :=
  match Url.parse? value with
  | some url => url.withoutPassword.text
  | none => "<unparseable>"

def decodeCredential (text : String) : Except ConfigError String :=
  match Utf8.decode (Percent.decode (Utf8.ofString text)) with
  | some decoded => .ok (String.ofList decoded)
  | none => .error (.invalidIdentity "<credentials>" .credentials)

def decodeCredential? : Option String → Except ConfigError (Option String)
  | none => .ok none
  | some text => (decodeCredential text).map some

def parse (value : String) : Except ConfigError IdentityUri :=
  match Url.parse? value with
  | none => .error (.invalidUrl "identity" (shown value))
  | some url =>
    match IdentityScheme.ofName? url.scheme with
    | none => .error (.invalidIdentity (shown value) .scheme)
    | some scheme => do
      let user ← decodeCredential url.username
      let clientSecret ← decodeCredential? url.password
      return {
        scheme
        clientId := if user.isEmpty then none else some user
        clientSecret
        host := url.hostText?
        port := url.port
        path := String.ofList (Blank.dropEnd (· == '/') url.path.text.toList)
        params := url.query.elim [] Form.decode }

def issuer? (uri : IdentityUri) : Option String :=
  uri.host.map fun host =>
    "https://" ++ host ++ (uri.port.map fun port => s!":{port}").getD "" ++ uri.path

def param? (uri : IdentityUri) (name : String) : Option String :=
  uri.params.lookup name

def paramValues (uri : IdentityUri) (name : String) : List String :=
  (uri.params.filter (·.1 == name)).map (·.2)

def toValue (uri : IdentityUri) : Json.Value :=
  .ofMembers [
    ("scheme", .string uri.scheme.name),
    ("client_id", .ofText? uri.clientId),
    ("client_secret", .ofText? uri.clientSecret),
    ("host", .ofText? uri.host),
    ("port", .ofOption .ofNat uri.port),
    ("path", .string uri.path),
    ("params", .ofPairs uri.params),
    ("issuer", .ofText? uri.issuer?)]

def describe (uri : IdentityUri) : String :=
  let optional := Rendering.optional Rendering.quoted
  Rendering.record "IdentityUri"
    [("scheme", uri.scheme.describe), ("client_id", optional uri.clientId),
      ("client_secret", optional (uri.clientSecret.map fun _ => Rendering.redacted)),
      ("host", optional uri.host), ("port", Rendering.optional toString uri.port),
      ("path", Rendering.quoted uri.path), ("params", Rendering.pairs uri.params)]

end IdentityUri

end BearerIdentity
