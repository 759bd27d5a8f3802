import BearerIdentity.Bytes

set_option autoImplicit false

/- The AES-128 block cipher. A byte is a polynomial over the field with two elements, modulo `x⁸ + x⁴ +
x³ + x + 1`, and a state is a list of sixteen bytes in column order. -/

namespace BearerIdentity.Aes

/-- The product of a byte with `x`. -/
def timesX (byte : UInt8) : UInt8 :=
  if byte < 0x80 then byte <<< 1 else (byte <<< 1) ^^^ 0x1b

/-- The product of two bytes, taking the bits of the left one from the lowest. -/
def times (left right : UInt8) : UInt8 :=
  ((List.range 8).foldl
    (fun (sum, multiple) bit =>
      (if left.toNat.testBit bit then sum ^^^ multiple else sum, timesX multiple))
    ((0 : UInt8), right)).1

def power (byte : UInt8) : (exponent : Nat) → UInt8
  | 0 => 1
  | exponent + 1 => times byte (power byte exponent)

def rotateLeft (byte : UInt8) (amount : Nat) : UInt8 :=
  UInt8.ofNat (byte.toNat * Nat.pow 2 amount + byte.toNat / Nat.pow 2 (8 - amount))

/-- The substitution of a byte: its inverse, with zero for zero, under an affine map. -/
def substituteByField (byte : UInt8) : UInt8 :=
  let inverse := power byte 254
  inverse ^^^ rotateLeft inverse 1 ^^^ rotateLeft inverse 2 ^^^ rotateLeft inverse 3
    ^^^ rotateLeft inverse 4 ^^^ 0x63

def substitutionTable : Array UInt8 :=
  ((List.range 256).map fun value => substituteByField (UInt8.ofNat value)).toArray

def substitute (byte : UInt8) : UInt8 :=
  substitutionTable.getD byte.toNat 0

/-- Row `r` of a state moves left by `r` columns. -/
def shiftRows (state : Bytes) : Bytes :=
  (List.range 16).map fun place => state.getD ((place + 4 * (place % 4)) % 16) 0

def mixColumns : Bytes → Bytes
  | a :: b :: c :: d :: rest =>
    let all := a ^^^ b ^^^ c ^^^ d
    (a ^^^ all ^^^ timesX (a ^^^ b)) :: (b ^^^ all ^^^ timesX (b ^^^ c))
      :: (c ^^^ all ^^^ timesX (c ^^^ d)) :: (d ^^^ all ^^^ timesX (d ^^^ a)) :: mixColumns rest
  | rest => rest

def nextKey (constant : UInt8) (key : Bytes) : Bytes :=
  let column (index : Nat) : Bytes := (key.drop (4 * index)).take 4
  let last := column 3
  let rotated := (last.drop 1 ++ last.take 1).map substitute
  let first := Bytes.xor (column 0) (Bytes.xor rotated [constant, 0, 0, 0])
  let second := Bytes.xor (column 1) first
  let third := Bytes.xor (column 2) second
  first ++ second ++ third ++ Bytes.xor last third

def roundKeys : (count : Nat) → (constant : UInt8) → Bytes → List Bytes
  | 0, _, _ => []
  | count + 1, constant, key =>
    let next := nextKey constant key
    next :: roundKeys count (timesX constant) next

structure Schedule where
  first : Bytes
  middle : List Bytes
  last : Bytes

def Schedule.ofKey (key : Bytes) : Schedule :=
  let keys := roundKeys 10 1 key
  ⟨key, keys.dropLast, keys.getLastD []⟩

def encryptBlock (schedule : Schedule) (block : Bytes) : Bytes :=
  let rounds := schedule.middle.foldl
    (fun state key => Bytes.xor (mixColumns (shiftRows (state.map substitute))) key)
    (Bytes.xor block schedule.first)
  Bytes.xor (shiftRows (rounds.map substitute)) schedule.last

end BearerIdentity.Aes
