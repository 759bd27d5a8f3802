import BearerIdentity.Crypto.Ecdsa
import BearerIdentity.Crypto.Ed25519
import BearerIdentity.Crypto.Hmac
import BearerIdentity.Crypto.Rsa

set_option autoImplicit false

namespace BearerIdentity

inductive KeyFamily where
  | secret
  | rsa
  | p256
  | p384
  | ed25519
  deriving DecidableEq, Repr

inductive DigestSize where
  | bits256
  | bits384
  | bits512
  deriving DecidableEq, Repr

namespace DigestSize

def variant : DigestSize → Sha2.Variant
  | bits256 => Sha2.sha256
  | bits384 => Sha2.sha384
  | bits512 => Sha2.sha512

end DigestSize

inductive Algorithm where
  | hmac (size : DigestSize)
  | rsa (padding : Rsa.Padding) (size : DigestSize)
  | es256
  | es384
  | edDsa
  deriving DecidableEq, Repr

namespace Algorithm

def name : Algorithm → String
  | hmac .bits256 => "HS256"
  | hmac .bits384 => "HS384"
  | hmac .bits512 => "HS512"
  | rsa .pkcs1 .bits256 => "RS256"
  | rsa .pkcs1 .bits384 => "RS384"
  | rsa .pkcs1 .bits512 => "RS512"
  | rsa .pss .bits256 => "PS256"
  | rsa .pss .bits384 => "PS384"
  | rsa .pss .bits512 => "PS512"
  | es256 => "ES256"
  | es384 => "ES384"
  | edDsa => "EdDSA"

def all : List Algorithm :=
  [hmac .bits256, hmac .bits384, hmac .bits512, es256, es384, rsa .pkcs1 .bits256,
    rsa .pkcs1 .bits384, rsa .pkcs1 .bits512, rsa .pss .bits256, rsa .pss .bits384,
    rsa .pss .bits512, edDsa]

def ofName? (name : String) : Option Algorithm :=
  all.find? (·.name == name)

def family : Algorithm → KeyFamily
  | hmac _ => .secret
  | rsa _ _ => .rsa
  | es256 => .p256
  | es384 => .p384
  | edDsa => .ed25519

end Algorithm

/-- What a key is made of, as signatures are checked with it. -/
inductive VerificationKey where
  | secret (bytes : Bytes)
  | rsa (modulus exponent : Bytes)
  /-- A point on a curve, uncompressed. -/
  | elliptic (point : Bytes)
  | edwards (point : Bytes)
  deriving DecidableEq, Repr

namespace VerificationKey

/-- Whether a signature under an algorithm is valid. A key of another kind validates nothing. -/
def validates (key : VerificationKey) (algorithm : Algorithm) (message signature : Bytes) : Bool :=
  match algorithm, key with
  | .hmac size, .secret bytes => Hmac.sign size.variant bytes message == signature
  | .rsa padding size, .rsa modulus exponent =>
    Rsa.verify padding size.variant modulus exponent message signature
  | .es256, .elliptic point => Ecdsa.verify Ecdsa.p256 Sha2.sha256 point message signature
  | .es384, .elliptic point => Ecdsa.verify Ecdsa.p384 Sha2.sha384 point message signature
  | .edDsa, .edwards point => Ed25519.verify point message signature
  | _, _ => false

end VerificationKey

end BearerIdentity
