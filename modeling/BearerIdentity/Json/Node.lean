import BearerIdentity.Json.Value
import BearerIdentity.Text.Ascii
import BearerIdentity.Text.Utf8

set_option autoImplicit false

/- JSON text as a tree that keeps what the text says, also where it goes wrong: repeated members,
strings that are no Unicode text, numbers that are out of range, and the place where reading stops. A
reader of the tree meets a fault exactly when it needs the part that is at fault. -/

namespace BearerIdentity.Json

/-- A value in a text. `broken` stands where the text ends or goes wrong before the value does; an
array or object that is not `closed` is followed by such a place. -/
inductive Node where
  | null
  | bool (value : Bool)
  | number (value : Option Number)
  | string (value : Option String)
  | array (items : List Node) (closed : Bool)
  | object (members : List (Option String × Node)) (closed : Bool)
  | broken
  deriving Inhabited

def isBlankByte (byte : UInt8) : Bool :=
  byte = 32 || byte = 10 || byte = 13 || byte = 9

def skipBlanks (bytes : Bytes) : Bytes :=
  bytes.dropWhile isBlankByte

def isDigitByte (byte : UInt8) : Bool :=
  48 ≤ byte && byte ≤ 57

def significandLimit : Nat := Nat.pow 2 64

/-- Appends digits to a significand while it stays below the limit; the digits that no longer fit
are returned. -/
def growSignificand (significand : Nat) : List Nat → Nat × List Nat
  | [] => (significand, [])
  | digit :: rest =>
    if significand * 10 + digit < significandLimit then
      growSignificand (significand * 10 + digit) rest
    else (significand, digit :: rest)

def exponentLimit : Int := Nat.pow 2 31

def clampExponent (exponent : Int) : Int :=
  max (-exponentLimit) (min exponent (exponentLimit - 1))

/-- The size of an exponent. Digits that follow a size beyond the limit do not count. -/
def exponentSize (digits : List Nat) : Int :=
  digits.foldl (fun (size : Int) (digit : Nat) =>
    if exponentLimit ≤ size then size else size * 10 + digit) 0

/-- A number as written: sign, digits, digits after the point, and the exponent with its sign. -/
structure Literal where
  negative : Bool
  digits : List Nat
  fraction : Option (List Nat)
  exponent : Option (Bool × List Nat)

namespace Literal

/-- The significand and the power of ten of a number, and whether it is whole as written. Digits
beyond the limit of the significand only move the point, or are dropped after it. -/
def parts (literal : Literal) : Nat × Int × Bool :=
  let (whole, dropped) := growSignificand 0 literal.digits
  let (significand, kept) :=
    match literal.fraction with
    | none => (whole, 0)
    | some fraction =>
      let (grown, left) := growSignificand whole fraction
      (grown, fraction.length - left.length)
  (significand, (dropped.length : Int) - (kept : Int),
    literal.fraction.isNone && literal.exponent.isNone && dropped.isEmpty)

def real? (negative : Bool) (magnitude : Option (Nat × Int)) : Option Number :=
  magnitude.map fun (mantissa, exponent) => .real ⟨negative, mantissa, exponent⟩

/-- The number, if it is in range. A negative zero and a negative number below the 64-bit range are
doubles, as is everything with a point or an exponent. -/
def number? (literal : Literal) : Option Number :=
  let (significand, power, isWhole) := literal.parts
  if isWhole then
    if !literal.negative then some (.whole significand)
    else if significand = 0 ∨ Nat.pow 2 63 < significand then
      real? true (Binary64.ofRatio? significand 1)
    else some (.whole (-(significand : Int)))
  else
    match literal.exponent with
    | none => real? literal.negative (Binary64.ofDecimal? significand power)
    | some (isNegative, digits) =>
      let size := exponentSize digits
      if exponentLimit ≤ size then
        if significand ≠ 0 ∧ !isNegative then none
        else real? literal.negative (Binary64.ofRatio? 0 1)
      else
        let power := clampExponent (if isNegative then power - size else power + size)
        real? literal.negative (Binary64.ofDecimal? significand power)

end Literal

def digitsOf (bytes : Bytes) : List Nat :=
  (bytes.takeWhile isDigitByte).map (·.toNat - 48)

def afterDigits (bytes : Bytes) : Bytes :=
  bytes.dropWhile isDigitByte

/-- The exponent of a number, if there is one; `none` if it has no digits. -/
def readExponent (bytes : Bytes) : Option (Option (Bool × List Nat) × Bytes) :=
  match bytes with
  | mark :: rest =>
    if mark = 101 || mark = 69 then
      let (negative, rest) :=
        match rest with
        | sign :: more => if sign = 43 then (false, more) else if sign = 45 then (true, more)
          else (false, rest)
        | [] => (false, rest)
      let digits := digitsOf rest
      if digits.isEmpty then none else some (some (negative, digits), afterDigits rest)
    else some (none, bytes)
  | [] => some (none, bytes)

def readFraction (bytes : Bytes) : Option (Option (List Nat) × Bytes) :=
  match bytes with
  | mark :: rest =>
    if mark = 46 then
      let digits := digitsOf rest
      if digits.isEmpty then none else some (some digits, afterDigits rest)
    else some (none, bytes)
  | [] => some (none, bytes)

/-- A number without its sign. A zero at the start stands alone. -/
def readUnsigned (negative : Bool) (bytes : Bytes) : Option (Literal × Bytes) := do
  let digits := digitsOf bytes
  if digits.isEmpty || (digits.head? == some 0 && digits.length != 1) then none
  else
    let (fraction, rest) ← readFraction (afterDigits bytes)
    let (exponent, rest) ← readExponent rest
    some (⟨negative, digits, fraction, exponent⟩, rest)

def hexQuad? (a b c d : UInt8) : Option Nat := do
  let digit (byte : UInt8) := Ascii.hexValue? (Char.ofNat byte.toNat)
  some ((((← digit a) * 16 + (← digit b)) * 16 + (← digit c)) * 16 + (← digit d))

def escaped? (letter : UInt8) : Option UInt8 :=
  if letter = 34 || letter = 92 || letter = 47 then some letter
  else if letter = 98 then some 8
  else if letter = 102 then some 12
  else if letter = 110 then some 10
  else if letter = 114 then some 13
  else if letter = 116 then some 9
  else none

/-- The code unit of an escape `\uXXXX` at the start. -/
def readUnit? : Bytes → Option (Nat × Bytes)
  | 92 :: 117 :: a :: b :: c :: d :: rest => (hexQuad? a b c d).map (·, rest)
  | _ => none

/-- Puts bytes before a text that may not be Unicode, and keeps what follows it. -/
def putBefore (bytes : Bytes) : Option (Option Bytes × Bytes) → Option (Option Bytes × Bytes) :=
  Option.map fun (text, rest) => (text.map (bytes ++ ·), rest)

def spoil : Option (Option Bytes × Bytes) → Option (Option Bytes × Bytes) :=
  Option.map fun (_, rest) => (none, rest)

/-- The rest of a string after its opening quote: its bytes, unless an escape is half of a surrogate
pair, and what follows it. `none` where the string is not well formed. -/
def readString : (fuel : Nat) → Bytes → Option (Option Bytes × Bytes)
  | 0, _ => none
  | _, [] => none
  | fuel + 1, byte :: rest =>
    if byte = 34 then some (some [], rest)
    else if byte = 92 then
      match readUnit? (byte :: rest) with
      | some (unit, after) =>
        if 0xd800 ≤ unit ∧ unit < 0xdc00 then
          match readUnit? after with
          | some (second, later) =>
            if 0xdc00 ≤ second ∧ second < 0xe000 then
              putBefore (Utf8.encodeChar
                (Char.ofNat (0x10000 + (unit - 0xd800) * 1024 + (second - 0xdc00))))
                (readString fuel later)
            else spoil (readString fuel after)
          | none => spoil (readString fuel after)
        else if 0xdc00 ≤ unit ∧ unit < 0xe000 then spoil (readString fuel after)
        else putBefore (Utf8.encodeChar (Char.ofNat unit)) (readString fuel after)
      | none =>
        match rest with
        | letter :: after =>
          match escaped? letter with
          | some plain => putBefore [plain] (readString fuel after)
          | none => none
        | [] => none
    else if byte < 32 then none
    else putBefore [byte] (readString fuel rest)

def readText (fuel : Nat) (bytes : Bytes) : Option (Option String × Bytes) :=
  (readString fuel bytes).map fun (text, rest) =>
    ((text.bind Utf8.decode).map String.ofList, rest)

def readWord (word : Bytes) (node : Node) (bytes : Bytes) : Node × Option Bytes :=
  if word.isPrefixOf bytes then (node, some (bytes.drop word.length)) else (.broken, none)

mutual

/-- One value at the start of the bytes, and what follows it unless reading stopped. -/
def readNode : (fuel : Nat) → Bytes → Node × Option Bytes
  | 0, _ => (.broken, none)
  | fuel + 1, bytes =>
    match skipBlanks bytes with
    | [] => (.broken, none)
    | byte :: rest =>
      if byte = 34 then
        match readText fuel rest with
        | some (text, after) => (.string text, some after)
        | none => (.broken, none)
      else if byte = 91 then
        let (items, after) := readItems fuel true rest
        (.array items after.isSome, after)
      else if byte = 123 then
        let (members, after) := readMembers fuel true rest
        (.object members after.isSome, after)
      else if byte = 110 then readWord [110, 117, 108, 108] .null (byte :: rest)
      else if byte = 116 then readWord [116, 114, 117, 101] (.bool true) (byte :: rest)
      else if byte = 102 then readWord [102, 97, 108, 115, 101] (.bool false) (byte :: rest)
      else
        let number :=
          if byte = 45 then readUnsigned true rest else readUnsigned false (byte :: rest)
        match number with
        | some (literal, after) => (.number literal.number?, some after)
        | none => (.broken, none)

def readItems : (fuel : Nat) → (isFirst : Bool) → Bytes → List Node × Option Bytes
  | 0, _, _ => ([], none)
  | fuel + 1, isFirst, bytes =>
    match skipBlanks bytes with
    | [] => ([], none)
    | byte :: rest =>
      if byte = 93 then ([], some rest)
      else if isFirst || byte = 44 then
        let start := if isFirst then byte :: rest else rest
        match readNode fuel start with
        | (item, some after) =>
          let (items, later) := readItems fuel false after
          (item :: items, later)
        | (item, none) => ([item], none)
      else ([], none)

def readMembers : (fuel : Nat) → (isFirst : Bool) → Bytes →
    List (Option String × Node) × Option Bytes
  | 0, _, _ => ([], none)
  | fuel + 1, isFirst, bytes =>
    match skipBlanks bytes with
    | [] => ([], none)
    | byte :: rest =>
      if byte = 125 then ([], some rest)
      else if isFirst || byte = 44 then
        match skipBlanks (if isFirst then byte :: rest else rest) with
        | 34 :: name =>
          match readText fuel name with
          | some (name, after) =>
            match skipBlanks after with
            | 58 :: value =>
              match readNode fuel value with
              | (node, some later) =>
                let (members, end_) := readMembers fuel false later
                ((name, node) :: members, end_)
              | (node, none) => ([(name, node)], none)
            | _ => ([(name, .broken)], none)
          | none => ([], none)
        | _ => ([], none)
      else ([], none)

end

/-- The value at the start of a text, and the rest of the text unless reading stopped. Each byte
takes at most two steps. -/
def read (text : Bytes) : Node × Option Bytes :=
  readNode (2 * text.length + 2) text

end BearerIdentity.Json
