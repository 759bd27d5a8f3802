import BearerIdentity.Crypto.Aes

set_option autoImplicit false

namespace BearerIdentity.Gcm

/-- The polynomial that products are reduced by, its constant term being the highest bit. -/
def reduction : Nat := 0xe1 * Nat.pow 2 120

/-- Adds the multiples of `multiple` for the `count` highest bits that remain of `factor`. -/
def accumulate : (count : Nat) → (factor multiple sum : Nat) → Nat
  | 0, _, _, sum => sum
  | count + 1, factor, multiple, sum =>
    let sum := if factor.testBit count then sum ^^^ multiple else sum
    let halved := multiple >>> 1
    accumulate count factor (if multiple % 2 = 1 then halved ^^^ reduction else halved) sum

/-- The product of two blocks as polynomials. -/
def times (left right : Nat) : Nat :=
  accumulate 128 left right 0

/-- Absorbs `count` blocks, the last one filled up with zeros. -/
def absorb (key : Nat) : (count : Nat) → (digest : Nat) → Bytes → Nat
  | 0, digest, _ => digest
  | count + 1, digest, bytes =>
    let block := bytes.take 16
    let value := Bytes.toNat (block ++ List.replicate (16 - block.length) 0)
    absorb key count (times (digest ^^^ value) key) (bytes.drop 16)

def blocks (bytes : Bytes) : Nat := (bytes.length + 15) / 16

/-- The digest of a byte string and of its length in bits. -/
def digest (key : Nat) (bytes : Bytes) : Nat :=
  times (absorb key (blocks bytes) 0 bytes ^^^ (8 * bytes.length)) key

/-- The key of the digest: the encryption of the zero block. -/
def digestKey (schedule : Aes.Schedule) : Nat :=
  Bytes.toNat (Aes.encryptBlock schedule (List.replicate 16 0))

/-- The counter after another one: its low 32 bits count up. -/
def nextCounter (counter : Nat) : Nat :=
  counter / Nat.pow 2 32 * Nat.pow 2 32 + (counter + 1) % Nat.pow 2 32

def keyStream (schedule : Aes.Schedule) : (count counter : Nat) → Bytes
  | 0, _ => []
  | count + 1, counter =>
    let next := nextCounter counter
    Aes.encryptBlock schedule (Bytes.ofNat 16 next) ++ keyStream schedule count next

/-- The first counter of a message: the digest of its nonce. -/
def startCounter (schedule : Aes.Schedule) (nonce : Bytes) : Nat :=
  digest (digestKey schedule) nonce

/-- Encrypts or decrypts: the two are the same. -/
def mask (schedule : Aes.Schedule) (counter : Nat) (text : Bytes) : Bytes :=
  Bytes.xor text (keyStream schedule (blocks text) counter)

def tag (schedule : Aes.Schedule) (counter : Nat) (cipher : Bytes) : Bytes :=
  Bytes.xor (Bytes.ofNat 16 (digest (digestKey schedule) cipher))
    (Aes.encryptBlock schedule (Bytes.ofNat 16 counter))

def tagLength : Nat := 16

/-- The cipher text followed by its tag. -/
def encrypt (key nonce plain : Bytes) : Bytes :=
  let schedule := Aes.Schedule.ofKey key
  let counter := startCounter schedule nonce
  let cipher := mask schedule counter plain
  cipher ++ tag schedule counter cipher

/-- The plain text, if the tag is right. -/
def decrypt? (key nonce sealed : Bytes) : Option Bytes :=
  let schedule := Aes.Schedule.ofKey key
  let counter := startCounter schedule nonce
  let cipher := sealed.take (sealed.length - tagLength)
  if sealed.length < tagLength then none
  else if tag schedule counter cipher = sealed.drop (sealed.length - tagLength) then
    some (mask schedule counter cipher)
  else none

end BearerIdentity.Gcm
