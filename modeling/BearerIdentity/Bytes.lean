set_option autoImplicit false

namespace BearerIdentity

abbrev Bytes := List UInt8

namespace Bytes

/-- The number written by the bytes, most significant byte first. -/
def toNat (bytes : Bytes) : Nat :=
  bytes.foldl (fun value byte => value * 256 + byte.toNat) 0

/-- The low `width` bytes of a number, most significant byte first, put before `after`. -/
def ofNatBefore : (width value : Nat) → (after : Bytes) → Bytes
  | 0, _, after => after
  | width + 1, value, after => ofNatBefore width (value / 256) (UInt8.ofNat value :: after)

def ofNat (width value : Nat) : Bytes :=
  ofNatBefore width value []

/-- Exclusive or of two byte strings, as long as the shorter one. -/
def xor (left right : Bytes) : Bytes :=
  List.zipWith (· ^^^ ·) left right

@[simp] theorem length_ofNatBefore (width value : Nat) (after : Bytes) :
    (ofNatBefore width value after).length = width + after.length := by
  induction width generalizing value after with
  | zero => simp [ofNatBefore]
  | succ width ih => simp only [ofNatBefore, ih, List.length_cons]; omega

@[simp] theorem length_ofNat (width value : Nat) : (ofNat width value).length = width := by
  simp [ofNat]

end Bytes

end BearerIdentity
