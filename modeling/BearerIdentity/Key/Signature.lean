import BearerIdentity.Key.Algorithm
import BearerIdentity.Json.Decode
import BearerIdentity.Text.Base64
import BearerIdentity.Text.Split

set_option autoImplicit false

/- The signature of a token. Its header is read here more strictly than elsewhere: every registered
parameter must have its type, and no segment may be padded. -/

namespace BearerIdentity.Signature

def checked {α σ : Type} (name : String) (decoder : Json.Decoder α) : Json.Field σ :=
  .optional name decoder fun _ record => record

/-- A member that has to be there and readable, and is not kept. -/
def present {α σ : Type} (name : String) (decoder : Json.Decoder α) : Json.Field σ :=
  .required name decoder fun _ record => record

def oneOf (words : List String) : Json.Decoder Unit :=
  .word fun word => if words.contains word then some () else none

/-- Any word. Where an object holds it, that may say nothing about the word with an empty object. -/
def anyWord : Json.Decoder Unit :=
  fun depth node =>
    let plain :=
      match node with
      | .object [(name, .object [] true)] true => .object [(name, .null)] true
      | node => node
    Json.Decoder.word (fun _ => some ()) depth plain

def commonParameters : List (Json.Field Unit) :=
  [checked "use" (.option .string), checked "key_ops" (.option (.list .string)),
    checked "alg" (.option anyWord), checked "kid" (.option .string), checked "x5u" (.option .string),
    checked "x5c" (.option (.list .string)), checked "x5t" (.option .string),
    checked "x5t#S256" (.option .string)]

def typedParameters : List (List (Json.Field Unit)) :=
  [[present "kty" (oneOf ["EC"]), present "crv" (oneOf ["P-256", "P-384", "P-521", "Ed25519"]),
      present "x" .string, present "y" .string],
    [present "kty" (oneOf ["RSA"]), present "n" .string, present "e" .string],
    [present "kty" (oneOf ["oct"]), present "k" .string],
    [present "kty" (oneOf ["OKP"]), present "crv" (oneOf ["P-256", "P-384", "P-521", "Ed25519"]),
      present "x" .string]]

/-- A key inside a header. It is read as a whole first, so that no part of it may be at fault. -/
def embeddedKey : Json.Decoder Unit :=
  fun depth node => do
    discard (Json.decodeValue depth node)
    Json.Record.ofObject commonParameters Json.Record.ignore () depth node
    if typedParameters.any fun fields =>
        (Json.Record.ofObject fields Json.Record.ignore () depth node).isOk
    then .ok ()
    else Json.mismatch

/-- The header parameters. Only the algorithm is kept. -/
def headerFields : List (Json.Field (Option Algorithm)) :=
  [checked "typ" (.option .string),
    .required "alg" (.word Algorithm.ofName?) fun algorithm _ => some algorithm,
    checked "cty" (.option .string), checked "jku" (.option .string),
    checked "jwk" (.option embeddedKey), checked "kid" (.option .string),
    checked "x5u" (.option .string), checked "x5c" (.option (.list .string)),
    checked "x5t" (.option .string), checked "x5t#S256" (.option .string)]

def declaredAlgorithm? (segment : List Char) : Option Algorithm := do
  let bytes ← Base64.decode Base64.urlSafe segment
  match Json.decodeAll (Json.Record.ofObject headerFields Json.Record.ignore none) bytes with
  | .ok algorithm => algorithm
  | .error _ => none

/-- A date may be any scalar. Of arrays and objects only empty ones are passed over. -/
def isReadableDate : Json.Value → Bool
  | .array items => items.isEmpty
  | .object members => members.isEmpty
  | _ => true

/-- Whether the claims can be read. Nothing in them is compared with anything. -/
def areReadableClaims (segment : List Char) : Bool :=
  match Base64.decode Base64.urlSafe segment with
  | none => false
  | some bytes =>
    match Json.decodeAll Json.decodeValue bytes with
    | .ok claims =>
      ["exp", "nbf"].all fun name => (claims.member? name).all isReadableDate
    | .error _ => false

/-- Whether the key validates the signature of a token under an algorithm, which has to be the one
that the header declares. -/
def isValid (raw : String) (algorithm : Algorithm) (key : VerificationKey) : Bool :=
  match Split.onEvery (· == '.') raw.toList with
  | [header, claims, signature] =>
    match Base64.decode Base64.urlSafe signature with
    | none => false
    | some signature =>
      declaredAlgorithm? header == some algorithm
        && key.validates algorithm (Utf8.encode (header ++ '.' :: claims)) signature
        && areReadableClaims claims
  | _ => false

end BearerIdentity.Signature
