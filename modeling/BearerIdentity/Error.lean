import BearerIdentity.Json.Decode
import BearerIdentity.Url.Basic

set_option autoImplicit false

namespace BearerIdentity

/-- The settings without which an identity cannot work. -/
inductive Setting where
  | issuer
  | clientId
  | clientSecret
  | tokenEndpoint
  | jwksEndpoint
  | introspectionEndpoint
  deriving DecidableEq, Repr

namespace Setting

def name : Setting → String
  | issuer => "issuer"
  | clientId => "client_id"
  | clientSecret => "client_secret"
  | tokenEndpoint => "token_endpoint"
  | jwksEndpoint => "jwks_endpoint"
  | introspectionEndpoint => "introspection_endpoint"

def remedy : Setting → String
  | issuer => "set it directly or through an `identity` URI"
  | clientId => "set it directly or as the user of an `identity` URI"
  | clientSecret => "set it directly or as the password of an `identity` URI"
  | tokenEndpoint => "set it directly or enable `oidc_discovery` or `uma2_discovery`"
  | jwksEndpoint => "set it directly or enable `oidc_discovery`"
  | introspectionEndpoint => "set it directly or enable `uma2_discovery` or `oidc_discovery`"

end Setting

inductive IdentityFlaw where
  | scheme
  | credentials
  deriving DecidableEq, Repr

def IdentityFlaw.text : IdentityFlaw → String
  | scheme => "scheme must be `oidc` or `uma2`"
  | credentials => "credentials are not valid UTF-8"

inductive ConfigError where
  | httpClientBuild (source : String)
  | missingOption (setting : Setting)
  | invalidUrl (option value : String)
  | invalidIdentity (value : String) (flaw : IdentityFlaw)
  deriving DecidableEq, Repr

namespace ConfigError

def message : ConfigError → String
  | httpClientBuild _ => "HTTP client could not be constructed."
  | missingOption setting => s!"Option `{setting.name}` is required; {setting.remedy}."
  | invalidUrl option value => s!"Option `{option}` is not a valid URL: {value}."
  | invalidIdentity value flaw => s!"Identity URI `{value}` is invalid: {flaw.text}."

def code : ConfigError → String
  | httpClientBuild _ => "http_client_build"
  | missingOption _ => "missing_option"
  | invalidUrl _ _ => "invalid_url"
  | invalidIdentity _ _ => "invalid_identity"

def sources : ConfigError → List String
  | httpClientBuild source => [source]
  | invalidUrl _ _ => ["invalid URL"]
  | _ => []

end ConfigError

/-- Failures that may pass when the request is made again. -/
inductive TransientError where
  | unexpectedResponse (summary : String) (status : Nat) (retryAfter : Option Int)
  | responseParse (flaw : Json.Flaw) (status : Nat)
  deriving DecidableEq, Repr

namespace TransientError

def message : TransientError → String
  | unexpectedResponse summary _ _ => s!"Endpoint returned an unexpected response: {summary}."
  | responseParse _ _ => "Endpoint returned malformed JSON."

def code : TransientError → String
  | unexpectedResponse _ _ _ => "unexpected_response"
  | responseParse _ _ => "response_parse"

def sources : TransientError → List String
  | unexpectedResponse _ _ _ => []
  | responseParse .malformed _ => ["malformed JSON"]
  | responseParse (.mismatch path) _ => [Json.Flaw.pathText path]

end TransientError

inductive TransportError where
  | network (url source : String)
  | io (source : String)
  deriving DecidableEq, Repr

namespace TransportError

def message : TransportError → String
  | network url _ => s!"Network error occurred while calling {url}."
  | io _ => "I/O error occurred during transport."

def code : TransportError → String
  | network _ _ => "network"
  | io _ => "io"

def sources : TransportError → List String
  | network _ source => [source]
  | io source => [source]

end TransportError

inductive TokenPart where
  | header
  | claims
  deriving DecidableEq, Repr

def TokenPart.name : TokenPart → String
  | header => "header"
  | claims => "claims"

inductive TokenFlaw where
  | segments
  | notBase64 (part : TokenPart)
  | notJson (part : TokenPart)
  deriving DecidableEq, Repr

/-- The name of an encoding ends the text, so that a reader's own words may follow. -/
def TokenFlaw.text : TokenFlaw → String
  | segments => "expected three dot-separated segments."
  | notBase64 part => s!"{part.name} is not base64url"
  | notJson part => s!"{part.name} is not valid JSON"

inductive KeySetFlaw where
  | noEndpoint
  | noKeysArray
  | noSignatureKeys
  | refreshFailed (report : String)
  deriving DecidableEq, Repr

def KeySetFlaw.text : KeySetFlaw → String
  | noEndpoint => "no JWKS endpoint is resolved"
  | noKeysArray => "document has no `keys` array"
  | noSignatureKeys => "no signature keys"
  | refreshFailed report => report

inductive VerifyError where
  | malformed (flaw : TokenFlaw)
  | issuerMismatch (expected actual : String)
  | issuedAt
  | expired
  | notYetValid
  | missingClaim (claim : String)
  | tokenType (actual : String)
  | missingKeyId
  | unknownKey (kid : String)
  | unsupportedAlgorithm (algorithm : String)
  | algorithmMismatch (kid algorithm : String)
  | keyMaterial (kid : String)
  | signature
  | keySetUnavailable (flaw : KeySetFlaw)
  | inactive
  deriving DecidableEq, Repr

namespace VerifyError

def message : VerifyError → String
  | malformed flaw => s!"Token is malformed: {flaw.text}"
  | issuerMismatch expected actual => s!"Token issuer `{actual}` does not match `{expected}`."
  | issuedAt => "Token issued-at instant is missing or in the future."
  | expired => "Token has expired."
  | notYetValid => "Token is not valid yet."
  | missingClaim claim => s!"Token is missing the required claim `{claim}`."
  | tokenType actual => s!"Token type `{actual}` is not Bearer."
  | missingKeyId => "Token header carries no key id."
  | unknownKey kid => s!"No signature key matches key id `{kid}`."
  | unsupportedAlgorithm algorithm => s!"Signing algorithm `{algorithm}` is not supported."
  | algorithmMismatch kid algorithm => s!"Key `{kid}` cannot verify `{algorithm}` signatures."
  | keyMaterial kid => s!"Key `{kid}` is unusable."
  | signature => "Token signature is invalid."
  | keySetUnavailable flaw => s!"Signature keys are unavailable: {flaw.text}."
  | inactive => "Token is not active according to the introspection endpoint."

def code : VerifyError → String
  | malformed _ => "malformed"
  | issuerMismatch _ _ => "issuer_mismatch"
  | issuedAt => "issued_at"
  | expired => "expired"
  | notYetValid => "not_yet_valid"
  | missingClaim _ => "missing_claim"
  | tokenType _ => "token_type"
  | missingKeyId => "missing_key_id"
  | unknownKey _ => "unknown_key"
  | unsupportedAlgorithm _ => "unsupported_algorithm"
  | algorithmMismatch _ _ => "algorithm_mismatch"
  | keyMaterial _ => "key_material"
  | signature => "signature"
  | keySetUnavailable _ => "key_set_unavailable"
  | inactive => "inactive"

end VerifyError

inductive MessageFlaw where
  | notUtf8
  | noHeader
  | channelBinding
  | headerFlag
  | headerOpen
  | authzid
  | authzidEscape
  | notDelimited
  | notKeyValue
  | noScheme
  | notBearer
  | blankToken
  | noAuth
  deriving DecidableEq, Repr

def MessageFlaw.text : MessageFlaw → String
  | notUtf8 => "message is not UTF-8"
  | noHeader => "GS2 header is missing"
  | channelBinding => "channel binding is not supported"
  | headerFlag => "GS2 header flag is invalid"
  | headerOpen => "GS2 header is not terminated"
  | authzid => "GS2 authzid is invalid"
  | authzidEscape => "GS2 authzid escape is invalid"
  | notDelimited => "attributes are not delimited"
  | notKeyValue => "attribute is not a key=value pair"
  | noScheme => "`auth` attribute has no scheme"
  | notBearer => "`auth` scheme is not Bearer"
  | blankToken => "bearer token is blank"
  | noAuth => "`auth` attribute is missing"

/-- Why bytes are no encrypted frame, or a text does not fit into one. -/
inductive FrameFlaw where
  | noLength
  | nonceTooLong
  | noCipherText
  | cipherTextTooLong
  | nonceLength
  | payloadTooLong
  deriving DecidableEq, Repr

def FrameFlaw.text : FrameFlaw → String
  | noLength => "frame is shorter than its length prefix"
  | nonceTooLong => "declared IV length exceeds 16 KiB"
  | noCipherText => "frame carries no ciphertext"
  | cipherTextTooLong => "ciphertext exceeds 16 KiB"
  | nonceLength => "IV must be 16 bytes"
  | payloadTooLong => "payload exceeds 16 KiB"

inductive Protection where
  | wrap
  | unwrap
  deriving DecidableEq, Repr

def Protection.name : Protection → String
  | wrap => "wrap"
  | unwrap => "unwrap"

inductive SaslError where
  | alreadyComplete
  | notComplete
  | failed
  | aborted
  | unexpectedChallenge
  | malformed (flaw : MessageFlaw)
  | unsupported (operation : Protection)
  | unknownMechanism (name : String)
  | unsupportedKeySize (bits : Nat)
  | invalidPublicKey
  | frame (flaw : FrameFlaw)
  | cipher
  deriving DecidableEq, Repr

namespace SaslError

def message : SaslError → String
  | alreadyComplete => "SASL exchange is already complete."
  | notComplete => "SASL exchange is not complete."
  | failed => "SASL exchange previously failed."
  | aborted => "SASL exchange aborted by the client."
  | unexpectedChallenge => "Unexpected SASL challenge: initial challenge must be empty."
  | malformed flaw => s!"Malformed OAUTHBEARER message: {flaw.text}."
  | unsupported operation =>
    s!"SASL operation `{operation.name}` is not supported; only the `auth` QOP is offered."
  | unknownMechanism name => s!"Unknown SASL mechanism `{name}`."
  | unsupportedKeySize bits => s!"Diffie-Hellman key size {bits} is not supported."
  | invalidPublicKey => "Peer Diffie-Hellman public key is invalid."
  | frame flaw => s!"Encrypted frame rejected: {flaw.text}."
  | cipher => "Encrypted frame could not be processed."

def code : SaslError → String
  | alreadyComplete => "already_complete"
  | notComplete => "not_complete"
  | failed => "failed"
  | aborted => "aborted"
  | unexpectedChallenge => "unexpected_challenge"
  | malformed _ => "malformed"
  | unsupported _ => "unsupported"
  | unknownMechanism _ => "unknown_mechanism"
  | unsupportedKeySize _ => "unsupported_key_size"
  | invalidPublicKey => "invalid_public_key"
  | frame _ => "frame"
  | cipher => "cipher"

end SaslError

inductive Error where
  | config (cause : ConfigError)
  | transient (cause : TransientError)
  | transport (cause : TransportError)
  | verification (cause : VerifyError)
  | sasl (cause : SaslError)
  | insufficientScope (reason : String)
  | invalidGrant (reason : String)
  | invalidClient (reason : String)
  | authentication (reason : String) (cause : Option Error)
  | missingAudience (target : String)
  | malformedResponse (reason : String)
  | unsupported (what : String)
  /-- A failed refresh, reported to every call that waited for it. -/
  | refresh (cause : Error)
  deriving Repr

namespace Error

def message : Error → String
  | config cause => cause.message
  | transient cause => cause.message
  | transport cause => cause.message
  | verification cause => cause.message
  | sasl cause => cause.message
  | insufficientScope reason => s!"Token lacks the required scopes: {reason}."
  | invalidGrant reason => s!"Provider rejected the grant: {reason}."
  | invalidClient reason => s!"Client authentication failed: {reason}."
  | authentication reason _ => s!"Authentication failed: {reason}."
  | missingAudience target => s!"Access target `{target}` is missing an audience."
  | malformedResponse reason => s!"Token endpoint response is malformed: {reason}."
  | unsupported what => s!"Unsupported: {what}."
  | refresh cause => s!"Cached resource refresh failed: {cause.message}"

def code : Error → String
  | config cause => "config." ++ cause.code
  | transient cause => "transient." ++ cause.code
  | transport cause => "transport." ++ cause.code
  | verification cause => "verify." ++ cause.code
  | sasl cause => "sasl." ++ cause.code
  | insufficientScope _ => "insufficient_scope"
  | invalidGrant _ => "invalid_grant"
  | invalidClient _ => "invalid_client"
  | authentication _ _ => "authentication"
  | missingAudience _ => "missing_audience"
  | malformedResponse _ => "malformed_response"
  | unsupported _ => "unsupported"
  | refresh _ => "refresh"

def transientDetails : TransientError → List (String × Json.Value)
  | .unexpectedResponse _ status retryAfter =>
    [("status", .ofNat status), ("retry_after", .ofOption .ofInt retryAfter)]
  | .responseParse .malformed status => [("status", .ofNat status)]
  | .responseParse (.mismatch path) status =>
    [("status", .ofNat status), ("path", .string (Json.Flaw.pathText path))]

def reportMembers : Error → List (String × Json.Value)
  | transient cause =>
    ("error", .string ("transient." ++ cause.code)) :: ("message", .string cause.message)
      :: transientDetails cause
  | authentication reason none =>
    [("error", .string "authentication"),
      ("message", .string (authentication reason none).message), ("cause", .null)]
  | authentication reason (some cause) =>
    [("error", .string "authentication"),
      ("message", .string (authentication reason (some cause)).message),
      ("cause", .ofMembers cause.reportMembers)]
  | refresh cause =>
    [("error", .string "refresh"), ("message", .string (refresh cause).message),
      ("cause", .ofMembers cause.reportMembers)]
  | error => [("error", .string error.code), ("message", .string error.message)]

def report (error : Error) : Json.Value :=
  .ofMembers error.reportMembers

/-- The messages of the causes below an error, nearest first. -/
def sources : Error → List String
  | config cause => cause.sources
  | transient cause => cause.sources
  | transport cause => cause.sources
  | authentication _ (some cause) => cause.message :: cause.sources
  | refresh cause => cause.message :: cause.sources
  | _ => []

end Error

instance : Coe ConfigError Error := ⟨.config⟩

instance : Coe TransientError Error := ⟨.transient⟩

instance : Coe TransportError Error := ⟨.transport⟩

instance : Coe VerifyError Error := ⟨.verification⟩

instance : Coe SaslError Error := ⟨.sasl⟩

end BearerIdentity
