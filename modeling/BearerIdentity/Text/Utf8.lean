import BearerIdentity.Bytes

set_option autoImplicit false

namespace BearerIdentity.Utf8

def encodeChar (c : Char) : Bytes :=
  let code := c.toNat
  if code < 0x80 then [UInt8.ofNat code]
  else if code < 0x800 then [UInt8.ofNat (0xc0 + code / 64), UInt8.ofNat (0x80 + code % 64)]
  else if code < 0x10000 then
    [UInt8.ofNat (0xe0 + code / 4096), UInt8.ofNat (0x80 + code / 64 % 64),
      UInt8.ofNat (0x80 + code % 64)]
  else
    [UInt8.ofNat (0xf0 + code / 262144), UInt8.ofNat (0x80 + code / 4096 % 64),
      UInt8.ofNat (0x80 + code / 64 % 64), UInt8.ofNat (0x80 + code % 64)]

def encode (text : List Char) : Bytes :=
  text.flatMap encodeChar

def ofString (text : String) : Bytes :=
  encode text.toList

/-- A character of which some bytes have been read: how many it still needs, the least and the
greatest next byte, and the value of the bits read. -/
structure Pending where
  missing : Nat
  low : Nat
  high : Nat
  value : Nat

/-- What a byte at the start of a character says. -/
inductive Lead where
  | char (c : Char)
  | pending (state : Pending)
  | invalid

def lead (byte : UInt8) : Lead :=
  let b := byte.toNat
  if b < 0x80 then .char (Char.ofNat b)
  else if b < 0xc2 then .invalid
  else if b < 0xe0 then .pending ⟨1, 0x80, 0xbf, b - 0xc0⟩
  else if b = 0xe0 then .pending ⟨2, 0xa0, 0xbf, 0⟩
  else if b = 0xed then .pending ⟨2, 0x80, 0x9f, 13⟩
  else if b < 0xf0 then .pending ⟨2, 0x80, 0xbf, b - 0xe0⟩
  else if b = 0xf0 then .pending ⟨3, 0x90, 0xbf, 0⟩
  else if b < 0xf4 then .pending ⟨3, 0x80, 0xbf, b - 0xf0⟩
  else if b = 0xf4 then .pending ⟨3, 0x80, 0x8f, 4⟩
  else .invalid

/-- Reads on from a started character. An invalid part is reported once, as `none`: it is the
longest start of a character that the next byte cannot continue. -/
def scanFrom : Option Pending → Bytes → List (Option Char)
  | none, [] => []
  | some _, [] => [none]
  | none, byte :: rest =>
    match lead byte with
    | .char c => some c :: scanFrom none rest
    | .pending state => scanFrom (some state) rest
    | .invalid => none :: scanFrom none rest
  | some state, byte :: rest =>
    if state.low ≤ byte.toNat ∧ byte.toNat ≤ state.high then
      let value := state.value * 64 + (byte.toNat - 0x80)
      if state.missing = 1 then some (Char.ofNat value) :: scanFrom none rest
      else scanFrom (some ⟨state.missing - 1, 0x80, 0xbf, value⟩) rest
    else
      none ::
        match lead byte with
        | .char c => some c :: scanFrom none rest
        | .pending next => scanFrom (some next) rest
        | .invalid => none :: scanFrom none rest

def scan (bytes : Bytes) : List (Option Char) :=
  scanFrom none bytes

def decode (bytes : Bytes) : Option (List Char) :=
  (scan bytes).mapM id

/-- The text with U+FFFD for every maximal invalid part. -/
def decodeLossy (bytes : Bytes) : List Char :=
  (scan bytes).map (·.getD '\ufffd')

end BearerIdentity.Utf8
