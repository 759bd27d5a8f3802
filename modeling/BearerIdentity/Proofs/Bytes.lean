import BearerIdentity.Bytes
import Mathlib.Algebra.Group.Nat.Defs

set_option autoImplicit false

namespace BearerIdentity.Bytes

theorem foldl_toNat (bytes : Bytes) (start : Nat) :
    bytes.foldl (fun value byte => value * 256 + byte.toNat) start =
      start * 256 ^ bytes.length + toNat bytes := by
  induction bytes generalizing start with
  | nil => simp [toNat]
  | cons byte rest ih =>
    have tail := ih byte.toNat
    simp only [toNat, List.foldl_cons, List.length_cons, Nat.zero_mul, Nat.zero_add] at tail ⊢
    rw [ih, tail, Nat.pow_succ, Nat.add_mul]
    simp only [toNat, Nat.mul_assoc, Nat.mul_comm (256 ^ rest.length) 256, Nat.add_assoc]

theorem toNat_cons (byte : UInt8) (rest : Bytes) :
    toNat (byte :: rest) = byte.toNat * 256 ^ rest.length + toNat rest := by
  rw [toNat, List.foldl_cons, foldl_toNat]
  simp only [Nat.zero_mul, Nat.zero_add]

theorem toNat_append (front back : Bytes) :
    toNat (front ++ back) = toNat front * 256 ^ back.length + toNat back := by
  rw [toNat, List.foldl_append, foldl_toNat]
  rfl

theorem toNat_lt (bytes : Bytes) : toNat bytes < 256 ^ bytes.length := by
  induction bytes with
  | nil => simp [toNat]
  | cons byte rest ih =>
    have digit : byte.toNat + 1 ≤ 256 := byte.toNat_lt
    have scaled := Nat.mul_le_mul_right (256 ^ rest.length) digit
    rw [Nat.add_mul, Nat.one_mul] at scaled
    rw [toNat_cons, List.length_cons, Nat.pow_succ']
    omega

@[simp] theorem toNat_zeros (count : Nat) : toNat (List.replicate count 0) = 0 := by
  induction count with
  | zero => rfl
  | succ count ih => simp [List.replicate_succ, toNat_cons, ih]

theorem toNat_zeros_append (count : Nat) (bytes : Bytes) :
    toNat (List.replicate count 0 ++ bytes) = toNat bytes := by
  simp [toNat_append]

theorem eq_of_toNat_eq {left right : Bytes} (width : left.length = right.length)
    (same : toNat left = toNat right) : left = right := by
  induction left generalizing right with
  | nil =>
    have empty : right = [] := List.length_eq_zero_iff.mp width.symm
    rw [empty]
  | cons byte rest ih =>
    cases right with
    | nil => simp at width
    | cons other tail =>
      have width : rest.length = tail.length := Nat.succ.inj width
      rw [toNat_cons, toNat_cons, width] at same
      have below : toNat rest < 256 ^ tail.length := by
        rw [← width]
        exact toNat_lt rest
      have below' : toNat tail < 256 ^ tail.length := toNat_lt tail
      have scale : 0 < 256 ^ tail.length := Nat.pow_pos (by decide)
      -- The first bytes are the quotients by the scale of the tails.
      have first : byte.toNat = other.toNat := by
        have quotients := congrArg (· / 256 ^ tail.length) same
        simpa [Nat.mul_comm _ (256 ^ tail.length), Nat.mul_add_div scale, Nat.div_eq_of_lt below,
          Nat.div_eq_of_lt below'] using quotients
      have last : toNat rest = toNat tail := by
        rw [first] at same
        omega
      rw [UInt8.toNat_inj.mp first, ih width last]

theorem toNat_ofNatBefore (width value : Nat) (after : Bytes) :
    toNat (ofNatBefore width value after) =
      value % 256 ^ width * 256 ^ after.length + toNat after := by
  induction width generalizing value after with
  | zero => simp [ofNatBefore, Nat.mod_one]
  | succ width ih =>
    rw [ofNatBefore, ih, toNat_cons, List.length_cons, UInt8.toNat_ofNat']
    have split : value % 256 ^ (width + 1) = value / 256 % 256 ^ width * 256 + value % 256 := by
      rw [Nat.pow_succ', Nat.mod_mul, Nat.add_comm, Nat.mul_comm]
    rw [split, Nat.pow_succ', Nat.add_mul, Nat.mul_assoc, Nat.add_assoc]

theorem toNat_ofNat {width value : Nat} (fits : value < 256 ^ width) :
    toNat (ofNat width value) = value := by
  rw [ofNat, toNat_ofNatBefore, Nat.mod_eq_of_lt fits]
  simp [toNat]

@[simp] theorem length_xor (left right : Bytes) :
    (xor left right).length = min left.length right.length :=
  List.length_zipWith

theorem xor_xor {text stream : Bytes} (covers : text.length ≤ stream.length) :
    xor (xor text stream) stream = text := by
  induction text generalizing stream with
  | nil => rfl
  | cons byte rest ih =>
    cases stream with
    | nil => simp at covers
    | cons key keys =>
      have tail := ih (Nat.le_of_succ_le_succ covers)
      simp only [xor, List.zipWith_cons_cons, List.cons.injEq] at tail ⊢
      exact ⟨by rw [UInt8.xor_assoc, UInt8.xor_self, UInt8.xor_zero], tail⟩

end BearerIdentity.Bytes
