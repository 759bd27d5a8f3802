set_option autoImplicit false

/- Finite double-precision numbers, held exactly as a sign, a whole mantissa and a power of two, with
rounding to the nearest such number and ties to the even mantissa. -/

namespace BearerIdentity.Json

/-- The number `± mantissa * 2 ^ exponent`. -/
structure Binary64 where
  negative : Bool
  mantissa : Nat
  exponent : Int
  deriving DecidableEq, Repr, Inhabited

namespace Binary64

def leastExponent : Int := -1074

def greatestExponent : Int := 971

/-- Numerator and denominator of `numerator / denominator / 2 ^ exponent`. -/
def scale (numerator denominator : Nat) (exponent : Int) : Nat × Nat :=
  match exponent with
  | .ofNat up => (numerator, denominator * Nat.pow 2 up)
  | .negSucc down => (numerator * Nat.pow 2 (down + 1), denominator)

/-- The nearest whole number to a quotient, a tie going to the even one. -/
def nearest (numerator denominator : Nat) : Nat :=
  let quotient := numerator / denominator
  let twice := 2 * (numerator % denominator)
  if twice < denominator then quotient
  else if denominator < twice then quotient + 1
  else quotient + quotient % 2

/-- The mantissa and exponent nearest to a quotient; `none` if it is too large. -/
def ofRatio? (numerator denominator : Nat) : Option (Nat × Int) :=
  if numerator = 0 then some (0, leastExponent)
  else
    let estimate : Int := (numerator.log2 : Int) - (denominator.log2 : Int) - 53
    let low := max estimate leastExponent
    let (n, d) := scale numerator denominator low
    let exponent := if Nat.pow 2 53 ≤ n / d then low + 1 else low
    let (n, d) := scale numerator denominator exponent
    let mantissa := nearest n d
    let (mantissa, exponent) :=
      if mantissa = Nat.pow 2 53 then (Nat.pow 2 52, exponent + 1) else (mantissa, exponent)
    if greatestExponent < exponent then none else some (mantissa, exponent)

def ratio (mantissa : Nat) (exponent : Int) : Nat × Nat :=
  match exponent with
  | .ofNat up => (mantissa * Nat.pow 2 up, 1)
  | .negSucc down => (mantissa, Nat.pow 2 (down + 1))

def mul? (left right : Nat × Int) : Option (Nat × Int) :=
  let (ln, ld) := ratio left.1 left.2
  let (rn, rd) := ratio right.1 right.2
  ofRatio? (ln * rn) (ld * rd)

def div? (left right : Nat × Int) : Option (Nat × Int) :=
  let (ln, ld) := ratio left.1 left.2
  let (rn, rd) := ratio right.1 right.2
  ofRatio? (ln * rd) (ld * rn)

/-- The magnitude nearest to a power of ten. -/
def powerOfTen? (power : Nat) : Option (Nat × Int) :=
  ofRatio? (Nat.pow 10 power) 1

/-- The magnitude read for `significand * 10 ^ power`: the significand is rounded first and then
multiplied or divided by the rounded power of ten, in two steps below `10 ^ -308`. A significand
that reaches zero on the way stays zero; too large a magnitude has none. -/
def ofDecimal? (significand : Nat) (power : Int) : Option (Nat × Int) := do
  let start ← ofRatio? significand 1
  if significand = 0 then some start
  else
    match power with
    | .ofNat up => if up ≤ 308 then mul? start (← powerOfTen? up) else none
    | .negSucc below =>
      let down := below + 1
      if down ≤ 308 then div? start (← powerOfTen? down)
      else
        let smaller ← div? start (← powerOfTen? 308)
        if down ≤ 616 then div? smaller (← powerOfTen? (down - 308)) else ofRatio? 0 1

/-- The whole part, rounding toward zero. -/
def truncate (number : Binary64) : Int :=
  let (n, d) := ratio number.mantissa number.exponent
  if number.negative then -((n / d : Nat) : Int) else ((n / d : Nat) : Int)

end Binary64

end BearerIdentity.Json
