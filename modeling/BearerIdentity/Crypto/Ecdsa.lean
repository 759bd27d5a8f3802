import BearerIdentity.Crypto.Modular
import BearerIdentity.Crypto.Sha2

set_option autoImplicit false

namespace BearerIdentity.Ecdsa

/-- The curve `y² = x³ - 3x + b` over a prime field, with a base point of prime order. -/
structure Curve where
  fieldBytes : Nat
  prime : Nat
  b : Nat
  order : Nat
  baseX : Nat
  baseY : Nat

/-- A point with coordinates `x / z²` and `y / z³`; `z = 0` is the point at infinity. -/
structure Point where
  x : Nat
  y : Nat
  z : Nat

namespace Curve

def infinity : Point := ⟨1, 1, 0⟩

def contains (curve : Curve) (x y : Nat) : Bool :=
  x < curve.prime && y < curve.prime
    && y * y % curve.prime
      == (x * x * x + (curve.prime - 3) * x + curve.b) % curve.prime

def double (curve : Curve) (point : Point) : Point :=
  let p := curve.prime
  if point.z = 0 || point.y = 0 then infinity
  else
    let ySquared := point.y * point.y % p
    let s := 4 * point.x * ySquared % p
    let zSquared := point.z * point.z % p
    let m := 3 * (Modular.sub p point.x zSquared) * (point.x + zSquared) % p
    let x := Modular.sub p (m * m % p) (2 * s % p)
    let y := Modular.sub p (m * Modular.sub p s x % p) (8 * ySquared * ySquared % p)
    ⟨x, y, 2 * point.y * point.z % p⟩

def add (curve : Curve) (left right : Point) : Point :=
  let p := curve.prime
  if left.z = 0 then right
  else if right.z = 0 then left
  else
    let leftSquared := left.z * left.z % p
    let rightSquared := right.z * right.z % p
    let u1 := left.x * rightSquared % p
    let u2 := right.x * leftSquared % p
    let s1 := left.y * (rightSquared * right.z % p) % p
    let s2 := right.y * (leftSquared * left.z % p) % p
    if u1 = u2 then if s1 = s2 then curve.double left else infinity
    else
      let h := Modular.sub p u2 u1
      let r := Modular.sub p s2 s1
      let hSquared := h * h % p
      let hCubed := hSquared * h % p
      let v := u1 * hSquared % p
      let x := Modular.sub p (Modular.sub p (r * r % p) hCubed) (2 * v % p)
      let y := Modular.sub p (r * Modular.sub p v x % p) (s1 * hCubed % p)
      ⟨x, y, h * (left.z * right.z % p) % p⟩

/-- The sum of `scalar` copies of a point. -/
def multiply (curve : Curve) (scalar : Nat) (point : Point) : Point :=
  if h : scalar = 0 then infinity
  else
    let half := curve.multiply (scalar / 2) (curve.double point)
    if scalar % 2 = 1 then curve.add point half else half
termination_by scalar
decreasing_by omega

end Curve

/-- Whether a signature, two numbers of the size of the field, is valid under the public key, an
uncompressed point. -/
def verify (curve : Curve) (variant : Sha2.Variant) (publicKey message signature : Bytes) : Bool :=
  let size := curve.fieldBytes
  let x := Bytes.toNat ((publicKey.drop 1).take size)
  let y := Bytes.toNat (publicKey.drop (1 + size))
  let r := Bytes.toNat (signature.take size)
  let s := Bytes.toNat (signature.drop size)
  if publicKey.length ≠ 2 * size + 1 ∨ publicKey.head? ≠ some 4 ∨ !curve.contains x y then false
  else if signature.length ≠ 2 * size ∨ r = 0 ∨ s = 0 ∨ curve.order ≤ r ∨ curve.order ≤ s then false
  else
    let digest := Bytes.toNat ((Sha2.hash variant message).take size)
    let inverse := Modular.inverse curve.order s
    let sum := curve.add
      (curve.multiply (digest * inverse % curve.order) ⟨curve.baseX, curve.baseY, 1⟩)
      (curve.multiply (r * inverse % curve.order) ⟨x, y, 1⟩)
    if sum.z = 0 then false
    else
      let zInverse := Modular.inverse curve.prime sum.z
      sum.x * (zInverse * zInverse % curve.prime) % curve.prime % curve.order = r

def p256 : Curve where
  fieldBytes := 32
  prime := 0xffffffff00000001000000000000000000000000ffffffffffffffffffffffff
  b := 0x5ac635d8aa3a93e7b3ebbd55769886bc651d06b0cc53b0f63bce3c3e27d2604b
  order := 0xffffffff00000000ffffffffffffffffbce6faada7179e84f3b9cac2fc632551
  baseX := 0x6b17d1f2e12c4247f8bce6e563a440f277037d812deb33a0f4a13945d898c296
  baseY := 0x4fe342e2fe1a7f9b8ee7eb4a7c0f9e162bce33576b315ececbb6406837bf51f5

def p384 : Curve where
  fieldBytes := 48
  prime := 0xfffffffffffffffffffffffffffffffffffffffffffffffffffffffffffffffeffffffff0000000000000000ffffffff
  b := 0xb3312fa7e23ee7e4988e056be3f82d19181d9c6efe8141120314088f5013875ac656398d8a2ed19d2a85c8edd3ec2aef
  order := 0xffffffffffffffffffffffffffffffffffffffffffffffffc7634d81f4372ddf581a0db248b0a77aecec196accc52973
  baseX := 0xaa87ca22be8b05378eb1c71ef320ad746e1d3b628ba79b9859f741e082542a385502f25dbf55296c3a545e3872760ab7
  baseY := 0x3617de4a96262c6f5d9e98bf9292dc29f8f41dbd289a147ce9da3113b5f0b8c00a60b1ce1d7e819d7a431d7c90ea0e5f

end BearerIdentity.Ecdsa
