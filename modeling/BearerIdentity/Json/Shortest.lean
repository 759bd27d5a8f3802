import BearerIdentity.Json.Binary64
import BearerIdentity.Rendering

set_option autoImplicit false

namespace BearerIdentity.Json

/-- The number `digits * 10 ^ exponent`. -/
structure Decimal where
  digits : Nat
  exponent : Int
  deriving DecidableEq, Repr

namespace Decimal

def ratio (decimal : Decimal) : Nat × Nat :=
  match decimal.exponent with
  | .ofNat up => (decimal.digits * Nat.pow 10 up, 1)
  | .negSucc down => (decimal.digits, Nat.pow 10 (down + 1))

def trimFor : (count : Nat) → Decimal → Decimal
  | 0, decimal => decimal
  | count + 1, decimal =>
    if decimal.digits % 10 = 0 then trimFor count ⟨decimal.digits / 10, decimal.exponent + 1⟩
    else decimal

end Decimal

namespace Binary64

def isReadFrom (number : Binary64) (decimal : Decimal) : Bool :=
  let (numerator, denominator) := decimal.ratio
  ofRatio? numerator denominator = some (number.mantissa, number.exponent)

/-- The decimals with a given exponent next to the magnitude of a number, the nearer one first. -/
def neighbours (number : Binary64) (exponent : Int) : List Decimal :=
  let (numerator, denominator) := ratio number.mantissa number.exponent
  let (numerator, denominator) :=
    match exponent with
    | .ofNat up => (numerator, denominator * Nat.pow 10 up)
    | .negSucc down => (numerator * Nat.pow 10 (down + 1), denominator)
  let below := numerator / denominator
  let near := nearest numerator denominator
  [⟨near, exponent⟩, ⟨if near = below then below + 1 else below, exponent⟩]

/-- The first decimal that reads back, among those with the exponents from `exponent` down. -/
def shortestFrom (number : Binary64) : (count : Nat) → (exponent : Int) → Decimal
  | 0, exponent => ⟨0, exponent⟩
  | count + 1, exponent =>
    match (number.neighbours exponent).find? number.isReadFrom with
    | some decimal => decimal
    | none => shortestFrom number count (exponent - 1)

/-- The shortest decimal that reads back as the magnitude of a number other than zero. Seventeen
digits always suffice. -/
def shortest (number : Binary64) : Decimal :=
  let (numerator, denominator) := ratio number.mantissa number.exponent
  let high : Int := ((numerator.log2 : Int) - (denominator.log2 : Int) + 1) * 30103 / 100000 + 1
  Decimal.trimFor 20 (number.shortestFrom 24 high)

/-- The text of a magnitude: positional from `10 ^ -5` below `10 ^ 16`, with a signed exponent
beyond. -/
def magnitudeText (decimal : Decimal) : String :=
  let digits := Nat.toDigits 10 decimal.digits
  let length : Int := digits.length
  let point := length + decimal.exponent
  let zeros (count : Int) : String := String.ofList (List.replicate count.toNat '0')
  let whole := String.ofList (digits.take point.toNat)
  let fraction := String.ofList (digits.drop point.toNat)
  if 0 ≤ decimal.exponent ∧ point ≤ 16 then
    String.ofList digits ++ zeros decimal.exponent ++ ".0"
  else if 0 < point ∧ point ≤ 16 then whole ++ "." ++ fraction
  else if -5 < point ∧ point ≤ 0 then "0." ++ zeros (-point) ++ String.ofList digits
  else
    let rest := digits.drop 1
    String.ofList (digits.take 1) ++ (if rest.isEmpty then "" else "." ++ String.ofList rest)
      ++ (if 0 < point then "e+" else "e") ++ toString (point - 1)

def text (number : Binary64) : String :=
  let magnitude := if number.mantissa = 0 then "0.0" else magnitudeText number.shortest
  (if number.negative then "-" else "") ++ magnitude

end Binary64

end BearerIdentity.Json
