import BearerIdentity.Error
import BearerIdentity.Operation
import BearerIdentity.Text.Base64
import BearerIdentity.Text.Split
import BearerIdentity.Token.Claims
import BearerIdentity.Token.Secret
import BearerIdentity.Url.Parser

set_option autoImplicit false

namespace BearerIdentity

structure TokenHeader where
  algorithm : String
  keyId : Option String
  type : Option String
  deriving DecidableEq, Repr

namespace TokenHeader

def fields : List (Json.Field TokenHeader) :=
  [.required "alg" .string fun algorithm header => { header with algorithm },
    .optional "kid" (.option .string) fun keyId header => { header with keyId },
    .optional "typ" (.option .string) fun type header => { header with type }]

def decoder : Json.Decoder TokenHeader :=
  Json.Record.decoder fields ⟨"", none, none⟩

def toValue (header : TokenHeader) : Json.Value :=
  .ofMembers ([("alg", .string header.algorithm)]
    ++ (header.keyId.toList.map fun keyId => ("kid", .string keyId))
    ++ (header.type.toList.map fun type => ("typ", .string type)))

def describe (header : TokenHeader) : String :=
  let text := Rendering.optional Rendering.quoted
  Rendering.record "TokenHeader"
    [("alg", Rendering.quoted header.algorithm), ("kid", text header.keyId),
      ("typ", text header.type)]

end TokenHeader

structure SignedToken where
  secret : Secret
  header : TokenHeader
  claims : Claims

namespace SignedToken

def raw (token : SignedToken) : String :=
  token.secret.exposed

/-- The diagnostic text, without the token as it was received. -/
def describe (token : SignedToken) : String :=
  Rendering.record "SignedToken"
    [("raw", token.secret.describe), ("header", token.header.describe),
      ("claims", token.claims.describe)]

/-- Removes padding and decodes the segment. -/
def segmentBytes? (segment : List Char) : Option Bytes :=
  Base64.decode Base64.urlSafe (Blank.dropEnd (· == '=') segment)

def decodeSegment {α : Type} (decoder : Json.Decoder α) (part : TokenPart) (segment : List Char) :
    Except TokenFlaw α :=
  match segmentBytes? segment with
  | none => .error (.notBase64 part)
  | some bytes => (Json.decodeAll decoder bytes).mapError fun _ => .notJson part

def segments (raw : String) : List (List Char) :=
  Split.onEvery (· == '.') raw.toList

def parse (raw : String) : Except VerifyError SignedToken :=
  match segments raw with
  | [header, claims, _] => Except.mapError VerifyError.malformed do
    let header ← decodeSegment TokenHeader.decoder .header header
    let claims ← decodeSegment Claims.decoder .claims claims
    return { secret := ⟨raw⟩, header, claims }
  | _ => .error (.malformed .segments)

/-- The name of the client that the token was issued to, at its issuer. A token with permissions
names a client that manages resources, for those who know such clients. -/
def authorizationId? (token : SignedToken) (isUmaAware : Bool) : Option String := do
  let party ← token.claims.authorizedParty
  let issuer ← token.claims.issuer
  let url ← Url.parse? issuer
  let host ← url.hostText?
  let scheme := if isUmaAware && token.claims.authorization.isSome then "uma2" else "oidc"
  return s!"{scheme}://{party}@{host}"

/-- How long before its expiry a token is replaced, in seconds. -/
def refreshMargin : Nat := 60

/-- Whether a token is about to expire. One without a readable expiry always is. -/
def needsRefresh {ε : Type} (token : SignedToken) (now : Instant) : Except (Fault ε) Bool :=
  match token.claims.expiresAt? with
  | none => .ok true
  | some expiry =>
    match expiry.shift? (-refreshMargin) with
    | none => .error .calendar
    | some deadline => .ok (deadline ≤ now)

end SignedToken

end BearerIdentity
