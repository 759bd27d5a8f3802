import BearerIdentity.Crypto.Modular
import BearerIdentity.Crypto.Sha2

set_option autoImplicit false

namespace BearerIdentity.Ed25519

def prime : Nat := Nat.pow 2 255 - 19

def order : Nat := Nat.pow 2 252 + 27742317777372353535851937790883648493

/-- The constant of the curve `-x² + y² = 1 + d x² y²`. -/
def d : Nat := (prime - 121665) * Modular.inverse prime 121666 % prime

def squareRootOfMinusOne : Nat := Modular.pow prime 2 ((prime - 1) / 4)

/-- A point with coordinates `x / z` and `y / z`, where `t = x y / z`. -/
structure Point where
  x : Nat
  y : Nat
  z : Nat
  t : Nat

def zero : Point := ⟨0, 1, 1, 0⟩

def ofAffine (x y : Nat) : Point := ⟨x, y, 1, x * y % prime⟩

def add (left right : Point) : Point :=
  let a := Modular.sub prime left.y left.x * Modular.sub prime right.y right.x % prime
  let b := (left.y + left.x) * (right.y + right.x) % prime
  let c := 2 * d * left.t % prime * right.t % prime
  let e := 2 * left.z * right.z % prime
  let f := Modular.sub prime b a
  let g := Modular.sub prime e c
  let h := (e + c) % prime
  let i := (b + a) % prime
  ⟨f * g % prime, h * i % prime, g * h % prime, f * i % prime⟩

def multiply (scalar : Nat) (point : Point) : Point :=
  if h : scalar = 0 then zero
  else
    let half := multiply (scalar / 2) (add point point)
    if scalar % 2 = 1 then add point half else half
termination_by scalar
decreasing_by omega

/-- The number written by the bytes, least significant byte first. -/
def littleEndian (bytes : Bytes) : Nat :=
  Bytes.toNat bytes.reverse

/-- A square root of a quotient, if it is a square. -/
def squareRoot? (numerator denominator : Nat) : Option Nat :=
  let square := numerator * Modular.inverse prime denominator % prime
  let candidate := Modular.pow prime square ((prime + 3) / 8)
  if candidate * candidate % prime = square then some candidate
  else
    let other := candidate * squareRootOfMinusOne % prime
    if other * other % prime = square then some other else none

/-- The point with a given `y` whose `x` has a given parity. The `y` need not be reduced, and zero
counts as having either parity. -/
def decode? (bytes : Bytes) : Option (Nat × Nat) :=
  if bytes.length ≠ 32 then none
  else
    let value := littleEndian bytes
    let y := value % Nat.pow 2 255 % prime
    let isOdd := Nat.pow 2 255 ≤ value
    let ySquared := y * y % prime
    (squareRoot? (Modular.sub prime ySquared 1) ((d * ySquared + 1) % prime)).map fun x =>
      (if (x % 2 == 1) == isOdd then x else (prime - x) % prime, y)

def encode (point : Point) : Bytes :=
  let inverse := Modular.inverse prime point.z
  let x := point.x * inverse % prime
  let y := point.y * inverse % prime
  (Bytes.ofNat 32 (y + x % 2 * Nat.pow 2 255)).reverse

def baseY : Nat := 4 * Modular.inverse prime 5 % prime

def baseX : Nat := 15112221349535400772501151409588531511454012693041857206046113283949847762202

def verify (publicKey message signature : Bytes) : Bool :=
  match decode? publicKey with
  | none => false
  | some (x, y) =>
    let scalar := littleEndian (signature.drop 32)
    if signature.length ≠ 64 ∨ order ≤ scalar then false
    else
      let commitment := signature.take 32
      let digest := littleEndian (Sha2.hash Sha2.sha512 (commitment ++ publicKey ++ message)) % order
      let sum := add (multiply scalar (ofAffine baseX baseY))
        (multiply digest (ofAffine ((prime - x) % prime) y))
      encode sum == commitment

end BearerIdentity.Ed25519
