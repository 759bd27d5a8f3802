import BearerIdentity.Text.Ascii
import BearerIdentity.Text.Blank
import BearerIdentity.Text.Split

set_option autoImplicit false

/- Charts of characters in a compact text. An entry names one character by its code, or the characters
of a range, as in `5d0-5ea`; `100-12e:2` takes every second one of them. What the chart says about these
characters follows an equality sign: one code, or several joined by plus signs. -/

namespace BearerIdentity

/-- Characters at equal distances, and the codes that are charted for them. -/
structure Chart.Row where
  first : Nat
  last : Nat
  step : Nat
  codes : List Nat
  deriving Repr, Inhabited

structure Chart where
  rows : List Chart.Row

namespace Chart

def code (digits : List Char) : Nat :=
  digits.foldl (fun value digit => value * 16 + (Ascii.hexValue? digit).getD 0) 0

def Row.ofSpan (span : List Char) (codes : List Nat) : Row :=
  let range := span.takeWhile (· ≠ ':')
  let step := (span.dropWhile (· ≠ ':')).drop 1
  let first := code (range.takeWhile (· ≠ '-'))
  let last := (range.dropWhile (· ≠ '-')).drop 1
  { first
    last := if last.isEmpty then first else code last
    step := if step.isEmpty then 1 else code step
    codes }

def Row.ofEntry (entry : List Char) : Row :=
  let codes := (entry.dropWhile (· ≠ '=')).drop 1
  Row.ofSpan (entry.takeWhile (· ≠ '='))
    (if codes.isEmpty then [] else (Split.onEvery (· = '+') codes).map code)

def ofText (text : String) : Chart :=
  ⟨(Blank.words text.toList).map Row.ofEntry⟩

def Row.contains (row : Row) (c : Char) : Bool :=
  row.first ≤ c.toNat && c.toNat ≤ row.last && (c.toNat - row.first) % row.step = 0

def row? (chart : Chart) (c : Char) : Option Row :=
  chart.rows.find? (·.contains c)

def contains (chart : Chart) (c : Char) : Bool :=
  chart.rows.any (·.contains c)

/-- The number that is charted for a character, or zero. -/
def number (chart : Chart) (c : Char) : Nat :=
  ((chart.row? c).bind (·.codes.head?)).getD 0

/-- The characters that are charted for a character. A single one moves along with it inside a
range. -/
def image? (chart : Chart) (c : Char) : Option (List Char) :=
  (chart.row? c).map fun row =>
    match row.codes with
    | [code] => [Char.ofNat (code + (c.toNat - row.first))]
    | codes => codes.map Char.ofNat

def source? (chart : Chart) (image : List Char) : Option Char :=
  let codes := image.map Char.toNat
  (chart.rows.find? (·.codes == codes)).map fun row => Char.ofNat row.first

end Chart

end BearerIdentity
