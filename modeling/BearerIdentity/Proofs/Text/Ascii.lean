import BearerIdentity.Text.Ascii
import Mathlib.Data.List.Forall2

set_option autoImplicit false

namespace BearerIdentity.Ascii

variable {c d e : Char} {left right : String}

/-- What holds of one code after the other holds of every ASCII character. -/
theorem of_codes {p : Char → Prop} (each : ∀ code < 0x80, p (Char.ofNat code)) {c : Char}
    (ascii : c.toNat < 0x80) : p c := by
  have here := each c.toNat ascii
  rwa [Char.ofNat_toNat] at here

/-- A digit of base sixteen is an ASCII character. -/
theorem bounds_of_hexValue? {value : Nat} (digit : hexValue? c = some value) : c.toNat < 0x80 ∧ value < 16 := by
  have order (c d : Char) : c ≤ d ↔ c.toNat ≤ d.toNat := Iff.rfl
  simp only [hexValue?, isDigit, Bool.and_eq_true, decide_eq_true_eq, order] at digit
  have zero : '0'.toNat = 48 := rfl
  have nine : '9'.toNat = 57 := rfl
  have a : 'a'.toNat = 97 := rfl
  have f : 'f'.toNat = 102 := rfl
  have capitalA : 'A'.toNat = 65 := rfl
  have capitalF : 'F'.toNat = 70 := rfl
  split at digit
  · cases digit
    omega
  split at digit
  · cases digit
    omega
  split at digit
  · cases digit
    omega
  · cases digit

theorem toLower_of_outside (outside : 0x80 ≤ c.toNat) : c.toLower = c := by
  have z : 'Z'.val.toNat = 90 := rfl
  have low : ¬ (c.val ≥ 'A'.val ∧ c.val ≤ 'Z'.val) := by
    rintro ⟨-, high⟩
    have bound : c.toNat ≤ 'Z'.val.toNat := high
    omega
  exact dif_neg low

def letters : List (Char × Char) :=
  "ABCDEFGHIJKLMNOPQRSTUVWXYZ".toList.zip "abcdefghijklmnopqrstuvwxyz".toList

theorem toLower_of_mem_letters (listed : (c, d) ∈ letters) : c.toLower = d ∧ d.toLower = d := by
  have each : ∀ letter ∈ letters, letter.1.toLower = letter.2 ∧ letter.2.toLower = letter.2 := by
    decide +kernel
  exact each (c, d) listed

/-- A small letter has one capital only. -/
theorem eq_of_mem_letters (listed : (c, e) ∈ letters) (listed' : (d, e) ∈ letters) : c = d := by
  have each : ∀ letter ∈ letters, ∀ other ∈ letters, letter.2 = other.2 → letter.1 = other.1 := by
    decide +kernel
  exact each (c, e) listed (d, e) listed' rfl

theorem toLower_cases (c : Char) : c.toLower = c ∨ (c, c.toLower) ∈ letters := by
  by_cases ascii : c.toNat < 0x80
  · exact of_codes (p := fun c => c.toLower = c ∨ (c, c.toLower) ∈ letters) (by decide +kernel) ascii
  · exact .inl (toLower_of_outside (Nat.not_lt.mp ascii))

def SameLetter (c d : Char) : Prop :=
  c = d ∨ (c, d) ∈ letters ∨ (d, c) ∈ letters

theorem toLower_eq_iff : c.toLower = d.toLower ↔ SameLetter c d := by
  constructor
  · intro same
    rcases toLower_cases c with kept | listed
    · rcases toLower_cases d with kept' | listed'
      · rw [kept, kept'] at same
        exact .inl same
      · rw [← same, kept] at listed'
        exact .inr (.inr listed')
    · rcases toLower_cases d with kept' | listed'
      · rw [same, kept'] at listed
        exact .inr (.inl listed)
      · rw [same] at listed
        exact .inl (eq_of_mem_letters listed listed')
  · rintro (rfl | listed | listed)
    · rfl
    · obtain ⟨lowered, small⟩ := toLower_of_mem_letters listed
      rw [lowered, small]
    · obtain ⟨lowered, small⟩ := toLower_of_mem_letters listed
      rw [lowered, small]

/-- The texts are equal but for the case of their letters. -/
def SameUpToCase (left right : String) : Prop :=
  List.Forall₂ SameLetter left.toList right.toList

theorem sameFold_iff : sameFold left right = true ↔ lower left.toList = lower right.toList :=
  beq_iff_eq

theorem lower_eq_iff : lower left.toList = lower right.toList ↔ SameUpToCase left right := by
  have eachPlace : lower left.toList = lower right.toList ↔
      List.Forall₂ (fun c d => c.toLower = d.toLower) left.toList right.toList := by
    rw [← List.forall₂_eq_eq_eq, lower, lower, List.forall₂_map_left_iff, List.forall₂_map_right_iff]
  simp only [eachPlace, toLower_eq_iff, SameUpToCase]

theorem sameFold_iff_sameUpToCase : sameFold left right = true ↔ SameUpToCase left right :=
  sameFold_iff.trans lower_eq_iff

instance (left right : String) : Decidable (SameUpToCase left right) :=
  decidable_of_iff _ sameFold_iff_sameUpToCase

end BearerIdentity.Ascii
