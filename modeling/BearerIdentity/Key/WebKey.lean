import BearerIdentity.Error
import BearerIdentity.Instant
import BearerIdentity.Key.Algorithm
import BearerIdentity.Rendering
import BearerIdentity.Text.Base64
import BearerIdentity.Text.Blank

set_option autoImplicit false

namespace BearerIdentity

structure WebKey where
  type : String
  id : Option String
  /-- The only algorithm the key is for, where one is declared. -/
  algorithm : Option String
  usage : Option String
  modulus : Option String
  exponent : Option String
  curve : Option String
  x : Option String
  y : Option String
  secret : Option String
  /-- The second at which the key expires. -/
  expiry : Option Int
  deriving DecidableEq, Repr

namespace WebKey

def blank : WebKey where
  type := ""
  id := none
  algorithm := none
  usage := none
  modulus := none
  exponent := none
  curve := none
  x := none
  y := none
  secret := none
  expiry := none

def fields : List (Json.Field WebKey) :=
  [.required "kty" .string fun type key => { key with type },
    .optional "kid" (.option .string) fun id key => { key with id },
    .optional "alg" (.option .string) fun algorithm key => { key with algorithm },
    .optional "use" (.option .string) fun usage key => { key with usage },
    .optional "n" (.option .string) fun modulus key => { key with modulus },
    .optional "e" (.option .string) fun exponent key => { key with exponent },
    .optional "crv" (.option .string) fun curve key => { key with curve },
    .optional "x" (.option .string) fun x key => { key with x },
    .optional "y" (.option .string) fun y key => { key with y },
    .optional "k" (.option .string) fun secret key => { key with secret },
    .optional "exp" (.option .int64) fun expiry key => { key with expiry }]

def decoder : Json.Decoder WebKey :=
  Json.Record.decoder fields blank

/-- A key without expiry is always valid. -/
def isValidAt (key : WebKey) (now : Instant) : Bool :=
  match key.expiry with
  | none => true
  | some expiry => now.seconds < expiry

def isForSignatures (key : WebKey) : Bool :=
  match key.usage with
  | none => true
  | some usage => usage == "sig"

def describe (key : WebKey) : String :=
  let optional := Rendering.optional Rendering.quoted
  Rendering.partialRecord "Jwk"
    [("kty", Rendering.quoted key.type), ("kid", optional key.id), ("alg", optional key.algorithm),
      ("use", optional key.usage), ("crv", optional key.curve),
      ("exp", Rendering.optional toString key.expiry)]

def family? (key : WebKey) : Option KeyFamily :=
  match key.type with
  | "oct" => some .secret
  | "RSA" => some .rsa
  | "EC" =>
    if key.curve = some "P-256" then some .p256
    else if key.curve = some "P-384" then some .p384
    else none
  | "OKP" => if key.curve = some "Ed25519" then some .ed25519 else none
  | _ => none

/-- Whether the key is declared for no algorithm or for this one. -/
def allows (key : WebKey) (algorithm : Algorithm) : Bool :=
  match key.algorithm with
  | none => true
  | some name => Algorithm.ofName? name == some algorithm

def part? (text : Option String) : Option Bytes :=
  text.bind fun text => Base64.decode Base64.urlSafe text.toList

/-- The material of the key for a family. Only secrets may be padded. -/
def material? (key : WebKey) : KeyFamily → Option VerificationKey
  | .secret => do
    let text ← key.secret
    let bytes ← Base64.decode Base64.urlSafe (Blank.dropEnd (· == '=') text.toList)
    return .secret bytes
  | .rsa => return .rsa (← part? key.modulus) (← part? key.exponent)
  | .p256 | .p384 => return .elliptic (4 :: (← part? key.x) ++ (← part? key.y))
  | .ed25519 => return .edwards (← part? key.x)

def verificationKey (key : WebKey) (kid : String) (algorithm : Algorithm) :
    Except VerifyError VerificationKey :=
  if !key.allows algorithm || key.family? ≠ some algorithm.family then
    .error (.algorithmMismatch kid algorithm.name)
  else
    match key.material? algorithm.family with
    | some material => .ok material
    | none => .error (.keyMaterial kid)

end WebKey

end BearerIdentity
