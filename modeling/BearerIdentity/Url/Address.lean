import BearerIdentity.Text.Ascii
import BearerIdentity.Text.Split

set_option autoImplicit false

namespace BearerIdentity.Url

namespace Ipv4

/-- A number of an address: decimal, octal after `0`, hexadecimal after `0x`. -/
def number? (text : List Char) : Option Nat :=
  let digits (base : Nat) (text : List Char) : Option Nat :=
    (text.mapM Ascii.hexValue?).bind fun values =>
      if values.all (· < base) then some (values.foldl (fun value digit => value * base + digit) 0)
      else none
  match text with
  | [] => none
  | '0' :: 'x' :: rest => digits 16 rest
  | '0' :: 'X' :: rest => digits 16 rest
  | '0' :: c :: rest => digits 8 (c :: rest)
  | text => digits 10 text

/-- The parts between points, without an empty one at the end. -/
def parts (text : List Char) : List (List Char) :=
  let pieces := Split.onEvery (· == '.') text
  if pieces.length ≠ 1 ∧ pieces.getLast? = some [] then pieces.dropLast else pieces

/-- Whether a host has to be an address because its last part is a number. -/
def endsInNumber (text : List Char) : Bool :=
  match (parts text).getLast? with
  | none => false
  | some part => (!part.isEmpty && part.all Ascii.isDigit) || (number? part).isSome

/-- Combines the numbers: the last one fills all bytes that remain. -/
def combine? (numbers : List Nat) : Option Nat :=
  match numbers.getLast? with
  | none => none
  | some last =>
    let leading := numbers.dropLast
    if 3 < leading.length ∨ leading.any (255 < ·) ∨ Nat.pow 256 (4 - leading.length) ≤ last
    then none
    else some (leading.foldl (fun value part => value * 256 + part) 0
      * Nat.pow 256 (4 - leading.length) + last)

def parse? (text : List Char) : Option Nat :=
  ((parts text).mapM number?).bind combine?

def text (address : Nat) : String :=
  ".".intercalate ([16777216, 65536, 256, 1].map fun unit => toString (address / unit % 256))

end Ipv4

namespace Ipv6

/-- A decimal byte without leading zeros, at the end of an address. -/
def byte? (text : List Char) : Option Nat :=
  if text.isEmpty || !text.all Ascii.isDigit || (text.head? == some '0' && text.length != 1)
    || 3 < text.length || 255 < Ascii.decimal text then none
  else some (Ascii.decimal text)

/-- Four decimal bytes, as two pieces of an address. -/
def embedded? (text : List Char) : Option (List Nat) := do
  match ← (Split.onEvery (· == '.') text).mapM byte? with
  | [a, b, c, d] => some [a * 256 + b, c * 256 + d]
  | _ => none

def piece? (text : List Char) : Option Nat := do
  let values ← text.mapM Ascii.hexValue?
  if values.isEmpty || 4 < values.length then none
  else some (values.foldl (fun value digit => value * 16 + digit) 0)

/-- Pieces between colons; the last one of an address may be four decimal bytes. -/
def pieces? (mayEmbed : Bool) : List (List Char) → Option (List Nat)
  | [] => some []
  | [last] => if mayEmbed && last.contains '.' then embedded? last else (piece? last).map ([·])
  | text :: rest => do some ((← piece? text) :: (← pieces? mayEmbed rest))

/-- The pieces of a run without `::`; the empty run has none. -/
def run? (mayEmbed : Bool) (text : List Char) : Option (List Nat) :=
  if text.isEmpty then some [] else pieces? mayEmbed (Split.onEvery (· == ':') text)

def splitGap : List Char → Option (List Char × List Char)
  | ':' :: ':' :: rest => some ([], rest)
  | c :: rest => (splitGap rest).map fun (before, after) => (c :: before, after)
  | [] => none

/-- The eight pieces of an address; `::` stands for one or more zero pieces. -/
def parse? (text : List Char) : Option (List Nat) := do
  match splitGap text with
  | none =>
    let pieces ← run? true text
    if pieces.length = 8 then some pieces else none
  | some (before, after) =>
    let front ← run? false before
    let back ← run? true after
    if front.length + back.length < 8 then
      some (front ++ List.replicate (8 - front.length - back.length) 0 ++ back)
    else none

def zeroRun (pieces : List Nat) : Nat :=
  (pieces.takeWhile (· == 0)).length

/-- Start and length of the first longest run of zeros; `index` is the place of the first piece. -/
def longestZeros (index : Nat) : List Nat → Nat × Nat
  | [] => (index, 0)
  | piece :: rest =>
    let here := zeroRun (piece :: rest)
    let later := longestZeros (index + 1) rest
    if later.2 ≤ here then (index, here) else later

def hexText (value : Nat) : String :=
  String.ofList (Nat.toDigits 16 value)

def colons (pieces : List Nat) : String :=
  ":".intercalate (pieces.map hexText)

/-- Writes an address; the first longest run of at least two zeros becomes `::`. -/
def text (pieces : List Nat) : String :=
  let (start, length) := longestZeros 0 pieces
  if length < 2 then colons pieces
  else colons (pieces.take start) ++ "::" ++ colons (pieces.drop (start + length))

end Ipv6

end BearerIdentity.Url
