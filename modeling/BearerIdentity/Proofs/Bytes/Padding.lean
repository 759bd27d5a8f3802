import BearerIdentity.Proofs.Bytes
import Mathlib.Data.Nat.PSub

set_option autoImplicit false

namespace BearerIdentity.Bytes

/-- The bytes of a number, the most significant one first and not zero unless it is the only one. -/
def shortest (value : Nat) : Bytes :=
  if value < 256 then [UInt8.ofNat value]
  else shortest (value / 256) ++ [UInt8.ofNat value]
termination_by value
decreasing_by omega

/-- A field of zeros that ends in the bytes. A field that is too short for them is none. -/
def fill? (width : Nat) (bytes : Bytes) : Option Bytes :=
  (width.psub bytes.length).map fun count => List.replicate count 0 ++ bytes

theorem toNat_shortest (value : Nat) : toNat (shortest value) = value := by
  induction value using Nat.strongRecOn with
  | ind value ih =>
    rw [shortest]
    by_cases single : value < 256
    · simp [single, toNat]
    · have rest := ih (value / 256) (by omega)
      have last : toNat [UInt8.ofNat value] = value % 256 := by simp [toNat]
      rw [if_neg single, toNat_append, rest, last]
      simp only [List.length_singleton, Nat.pow_one]
      omega

/-- A number has no more bytes than a field in which it has room. -/
theorem length_shortest_le_iff {width : Nat} (positive : 0 < width) (value : Nat) :
    (shortest value).length ≤ width ↔ value < 256 ^ width := by
  induction value using Nat.strongRecOn generalizing width with
  | ind value ih =>
    obtain ⟨width, rfl⟩ : ∃ less, width = less + 1 := ⟨width - 1, by omega⟩
    have scale : 0 < 256 ^ width := Nat.pow_pos (by decide)
    rw [shortest, Nat.pow_succ]
    by_cases single : value < 256
    · rw [if_pos single]
      simp only [List.length_singleton]
      omega
    · rw [if_neg single]
      have quotient : value / 256 < 256 ^ width ↔ value < 256 ^ width * 256 :=
        Nat.div_lt_iff_lt_mul (by decide)
      simp only [List.length_append, List.length_singleton, Nat.add_le_add_iff_right]
      rw [← quotient]
      cases width with
      | zero =>
        have nonempty : (shortest (value / 256)).length ≠ 0 := by
          rw [shortest]
          split <;> simp
        simp only [Nat.pow_zero]
        omega
      | succ width => exact ih (value / 256) (by omega) (Nat.succ_pos width)

theorem fill?_eq_some {width : Nat} {bytes : Bytes} (fits : bytes.length ≤ width) :
    fill? width bytes = some (List.replicate (width - bytes.length) 0 ++ bytes) := by
  rw [fill?, Nat.psub_eq_sub fits, Option.map_some]

/-- A number that has room is copied, and the field then holds its low bytes: all that it has. -/
theorem fill?_shortest {width value : Nat} (positive : 0 < width) (fits : value < 256 ^ width) :
    fill? width (shortest value) = some (ofNat width value) := by
  have short : (shortest value).length ≤ width := (length_shortest_le_iff positive value).mpr fits
  rw [fill?_eq_some short]
  congr 1
  apply eq_of_toNat_eq
  · simp only [List.length_append, List.length_replicate, length_ofNat]
    omega
  · rw [toNat_zeros_append, toNat_shortest, toNat_ofNat fits]

end BearerIdentity.Bytes
