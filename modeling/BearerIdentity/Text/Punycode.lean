import BearerIdentity.Text.Ascii

set_option autoImplicit false

/- Punycode: text in ASCII letters, digits and hyphens. The ASCII characters of the text come first; the
others follow in the order of their codes, each as the number of places that lie between it and the one
before. -/

namespace BearerIdentity.Punycode

def digit (value : Nat) : Char :=
  Char.ofNat (if value < 26 then 97 + value else 22 + value)

def digitValue? (c : Char) : Option Nat :=
  if Ascii.isLetter c then some (c.toLower.toNat - 97)
  else if Ascii.isDigit c then some (c.toNat - 22)
  else none

/-- A digit below this value ends a number. `position` is 36 for the first digit, and 36 more for
each further one. -/
def threshold (bias position : Nat) : Nat :=
  max 1 (min 26 (position - bias))

theorem threshold_pos (bias position : Nat) : 0 < threshold bias position := by
  unfold threshold
  omega

def encodeNumber (bias position number : Nat) : List Char :=
  let least := threshold bias position
  if number < least then [digit number]
  else
    digit (least + (number - least) % (36 - least))
      :: encodeNumber bias (position + 36) ((number - least) / (36 - least))
termination_by number
decreasing_by
  have isPositive := threshold_pos bias position
  have isSmaller := Nat.div_le_self (number - threshold bias position) (36 - threshold bias position)
  omega

/-- A number with a weight for its digits, and the text behind it. -/
def decodeNumber? (bias : Nat) :
    (position weight : Nat) → List Char → Option (Nat × List Char)
  | _, _, [] => none
  | position, weight, c :: rest => do
    let value ← digitValue? c
    let least := threshold bias position
    if value < least then some (value * weight, rest)
    else
      let (number, rest) ← decodeNumber? bias (position + 36) (weight * (36 - least)) rest
      some (value * weight + number, rest)

theorem decodeNumber?_length {bias position weight number : Nat} {text rest : List Char}
    (h : decodeNumber? bias position weight text = some (number, rest)) :
    rest.length < text.length := by
  induction text generalizing position weight number rest with
  | nil => simp [decodeNumber?] at h
  | cons c text ih =>
    simp only [decodeNumber?, Option.bind_eq_bind, Option.bind_eq_some_iff] at h
    obtain ⟨value, _, h⟩ := h
    split at h
    · simp only [Option.some.injEq, Prod.mk.injEq] at h
      simp [← h.2]
    · simp only [Option.bind_eq_some_iff, Option.some.injEq, Prod.mk.injEq] at h
      obtain ⟨⟨inner, after⟩, isInner, _, rfl⟩ := h
      have := ih isInner
      simp only [List.length_cons]
      omega

/-- The part of the bias that grows with the size of the numbers. -/
def spread (number position : Nat) : Nat :=
  if 455 < number then spread (number / 35) (position + 36) else position + 36 * number / (number + 38)
termination_by number

/-- The bias after a number, which is then one of `count`. -/
def adapt (number count : Nat) (isFirst : Bool) : Nat :=
  let damped := if isFirst then number / 700 else number / 2
  spread (damped + damped / count) 0

/-- How far a text is written: the digits, the places passed since the last one, the bias, and how
many characters are written. -/
structure Writing where
  digits : List Char
  passed : Nat
  bias : Nat
  count : Nat

/-- Passes one character of the text when the characters of one code are written. -/
def Writing.pass (ascii code : Nat) (writing : Writing) (c : Char) : Writing :=
  if c.toNat < code then { writing with passed := writing.passed + 1 }
  else if c.toNat = code then
    { digits := writing.digits ++ encodeNumber writing.bias 36 writing.passed
      passed := 0
      bias := adapt writing.passed (writing.count + 1) (writing.count = ascii)
      count := writing.count + 1 }
  else writing

/-- Writes the characters of some codes, in ascending order; `next` is the least code that is left. -/
def Writing.passAll (ascii : Nat) (text : List Char) :
    (next : Nat) → (codes : List Nat) → Writing → Writing
  | _, [], writing => writing
  | next, code :: codes, writing =>
    let skipped := { writing with passed := writing.passed + (code - next) * (writing.count + 1) }
    let written := text.foldl (Writing.pass ascii code) skipped
    Writing.passAll ascii text (code + 1) codes { written with passed := written.passed + 1 }

def isAscii (c : Char) : Bool :=
  c.toNat < 0x80

def encode (text : List Char) : List Char :=
  let ascii := text.filter isAscii
  let codes := ((text.filter fun c => !isAscii c).map Char.toNat).eraseDups.mergeSort
  let start : Writing := { digits := [], passed := 0, bias := 72, count := ascii.length }
  ascii ++ (if ascii.isEmpty then [] else ['-'])
    ++ (Writing.passAll ascii.length text 0x80 codes start).digits

/-- Reads the numbers behind the ASCII characters; `place` is where the last character was put. -/
def insertAll? (bias code place : Nat) (isFirst : Bool) (text digits : List Char) :
    Option (List Char) :=
  match digits with
  | [] => some text
  | c :: rest =>
    match h : decodeNumber? bias 36 1 (c :: rest) with
    | none => none
    | some (number, after) =>
      let count := text.length + 1
      let code := code + (place + number) / count
      let place := (place + number) % count
      if code.isValidChar then
        insertAll? (adapt number count isFirst) code (place + 1) false
          (text.insertIdx place (Char.ofNat code)) after
      else none
termination_by digits.length
decreasing_by exact decodeNumber?_length h

/-- The text that was written, if any was. Without ASCII characters there is no hyphen. -/
def decode? (encoded : List Char) : Option (List Char) :=
  let digits := (encoded.reverse.takeWhile (· ≠ '-')).reverse
  let ascii := encoded.take (encoded.length - digits.length - 1)
  insertAll? 72 0x80 0 true ascii (if ascii.isEmpty then encoded else digits)

end BearerIdentity.Punycode
