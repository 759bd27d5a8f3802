import BearerIdentity.Crypto.Modular
import BearerIdentity.Error
import BearerIdentity.Operation
import BearerIdentity.Sasl.Frame
import BearerIdentity.Sasl.Mechanism

set_option autoImplicit false

namespace BearerIdentity

namespace KeyExchange

/-- The prime, in digits to the base 2^256, the highest first. -/
def modulusDigits : List Nat := [
  0xffffffffffffffffc90fdaa22168c234c4c6628b80dc1cd129024e088a67cc74,
  0x020bbea63b139b22514a08798e3404ddef9519b3cd3a431b302b0a6df25f1437,
  0x4fe1356d6d51c245e485b576625e7ec6f44c42e9a637ed6b0bff5cb6f406b7ed,
  0xee386bfb5a899fa5ae9f24117c4b1fe649286651ece45b3dc2007cb8a163bf05,
  0x98da48361c55d39a69163fa8fd24cf5f83655d23dca3ad961c62f356208552bb,
  0x9ed529077096966d670c354e4abc9804f1746c08ca18217c32905e462e36ce3b,
  0xe39e772c180e86039b2783a2ec07a28fb5c55df06f4c52c9de2bcbf695581718,
  0x3995497cea956ae515d2261898fa051015728e5a8aaac42dad33170d04507a33,
  0xa85521abdf1cba64ecfb850458dbef0a8aea71575d060c7db3970f85a6e1e4c7,
  0xabf5ae8cdb0933d71e8c94e04a25619dcee3d2261ad2ee6bf12ffa06d98a0864,
  0xd87602733ec86a64521f2b18177b200cbbe117577a615d6c770988c0bad946e2,
  0x08e24fa074e5ab3143db5bfce0fd108e4b82d120a92108011a723c12a787e6d7,
  0x88719a10bdba5b2699c327186af4e23c1a946834b6150bda2583e9ca2ad44ce8,
  0xdbbbc2db04de8ef92e8efc141fbecaa6287c59474e6bc05d99b2964fa090c3a2,
  0x233ba186515be7ed1f612970cee2d7afb81bdd762170481cd0069127d5b05aa9,
  0x93b4ea988d8fddc186ffb7dc90a6c08f4df435c934063199ffffffffffffffff]

def modulus : Nat :=
  modulusDigits.foldl (fun value digit => value * Nat.pow 2 256 + digit) 0

def generator : Nat := 2

def keyLength : Nat := Mechanism.keyBits / 8

def exponentLength : Nat := 64

/-- How much of the shared secret is used as key. -/
def cipherKeyLength : Nat := 16

end KeyExchange

/-- A key under which frames are encrypted. -/
structure Session where
  key : Bytes
  deriving DecidableEq, Repr

namespace Session

variable {σ : Type}

def encrypt (session : Session) (plain : Bytes) : Operation SaslError σ Bytes := do
  if Frame.payloadLimit < plain.length then Operation.fail (.frame .payloadTooLong)
  else
    let nonce ← Operation.draw Frame.nonceLength
    Operation.succeed (Frame.encode ⟨nonce, Gcm.encrypt session.key nonce plain⟩)

def decrypt (session : Session) (bytes : Bytes) : Except SaslError Bytes := do
  let frame ← (Frame.decode bytes).mapError .frame
  match Gcm.decrypt? session.key frame.nonce frame.cipherText with
  | some plain => .ok plain
  | none => .error .cipher

def describe (_ : Session) : String :=
  "DhSession \x7b .. \x7d"

end Session

/-- A private exponent of full width. -/
structure KeyPair where
  exponent : Nat
  deriving DecidableEq, Repr

namespace KeyPair

open KeyExchange

/-- The key pair made from random bytes, the highest bit of which is set. -/
def ofBytes (bytes : Bytes) : KeyPair :=
  match bytes with
  | [] => ⟨0⟩
  | first :: rest => ⟨Bytes.toNat ((first ||| 0x80) :: rest)⟩

def generate {ε σ : Type} : Operation ε σ KeyPair := do
  let bytes ← Operation.draw exponentLength
  Operation.succeed (ofBytes bytes)

/-- The public value, at full length. -/
def publicKey (pair : KeyPair) : Bytes :=
  Bytes.ofNat keyLength (Modular.pow modulus generator pair.exponent)

/-- The session with a peer. Values that have no or a known logarithm are refused. -/
def agree (pair : KeyPair) (peer : Bytes) : Except SaslError Session :=
  let value := Bytes.toNat peer
  if peer.isEmpty || keyLength < peer.length then .error .invalidPublicKey
  else if value ≤ 1 ∨ modulus - 1 ≤ value then .error .invalidPublicKey
  else
    .ok ⟨(Bytes.ofNat keyLength (Modular.pow modulus value pair.exponent)).take cipherKeyLength⟩

def describe (_ : KeyPair) : String :=
  Rendering.partialRecord "DhKeyPair" [("bits", toString Mechanism.keyBits)]

end KeyPair

end BearerIdentity
