import BearerIdentity.Text.Base64
import Mathlib.Data.List.TakeWhile

set_option autoImplicit false

namespace BearerIdentity.Base64

variable {alphabet : Alphabet}

/-- Every digit is read as its value, and none of them is the character for padding. -/
structure Alphabet.IsReadable (alphabet : Alphabet) : Prop where
  digits : ∀ value < 64, alphabet.value? (alphabet.digit value) = some value
  padding : alphabet.value? '=' = none

theorem isReadable_standard : standard.IsReadable where
  digits := by decide
  padding := by decide

theorem sextets_lt (bytes : Bytes) : ∀ value ∈ sextets bytes, value < 64 := by
  fun_induction sextets bytes with
  | case1 => nofun
  | case2 a =>
    have boundA := a.toNat_lt
    simp only [List.mem_cons, List.not_mem_nil, or_false, forall_eq_or_imp, forall_eq]
    omega
  | case3 a b =>
    have boundA := a.toNat_lt
    have boundB := b.toNat_lt
    simp only [List.mem_cons, List.not_mem_nil, or_false, forall_eq_or_imp, forall_eq]
    omega
  | case4 a b c rest ih =>
    have boundA := a.toNat_lt
    have boundB := b.toNat_lt
    have boundC := c.toNat_lt
    simp only [List.mem_cons, forall_eq_or_imp]
    exact ⟨by omega, by omega, by omega, by omega, ih⟩

theorem ofNat_of_eq {byte : UInt8} {value : Nat} (same : value = byte.toNat) : UInt8.ofNat value = byte := by
  rw [same, UInt8.ofNat_toNat]

/-- Three bytes are put together again from four values. -/
theorem ofSextets?_sextets (bytes : Bytes) : ofSextets? (sextets bytes) = some bytes := by
  fun_induction sextets bytes with
  | case1 => rfl
  | case2 a =>
    have boundA := a.toNat_lt
    have first : UInt8.ofNat (a.toNat / 4 * 4 + a.toNat % 4 * 16 / 16) = a := ofNat_of_eq (by omega)
    rw [ofSextets?, if_pos (by omega), first]
  | case3 a b =>
    have boundA := a.toNat_lt
    have boundB := b.toNat_lt
    have first : UInt8.ofNat (a.toNat / 4 * 4 + (a.toNat % 4 * 16 + b.toNat / 16) / 16) = a :=
      ofNat_of_eq (by omega)
    have second : UInt8.ofNat ((a.toNat % 4 * 16 + b.toNat / 16) % 16 * 16 + b.toNat % 16 * 4 / 4) = b :=
      ofNat_of_eq (by omega)
    rw [ofSextets?, if_pos (by omega), first, second]
  | case4 a b c rest ih =>
    have boundA := a.toNat_lt
    have boundB := b.toNat_lt
    have boundC := c.toNat_lt
    have first : UInt8.ofNat (a.toNat / 4 * 4 + (a.toNat % 4 * 16 + b.toNat / 16) / 16) = a :=
      ofNat_of_eq (by omega)
    have second : UInt8.ofNat ((a.toNat % 4 * 16 + b.toNat / 16) % 16 * 16 +
        (b.toNat % 16 * 4 + c.toNat / 64) / 4) = b := ofNat_of_eq (by omega)
    have third : UInt8.ofNat ((b.toNat % 16 * 4 + c.toNat / 64) % 4 * 64 + c.toNat % 64) = c :=
      ofNat_of_eq (by omega)
    rw [ofSextets?, ih, first, second, third]
    rfl

theorem mapM_digit (readable : alphabet.IsReadable) {values : List Nat} (fits : ∀ value ∈ values, value < 64) :
    (values.map alphabet.digit).mapM alphabet.value? = some values := by
  induction values with
  | nil => rfl
  | cons value values ih =>
    have first := readable.digits value (fits value List.mem_cons_self)
    have others := ih fun other member => fits other (List.mem_cons_of_mem _ member)
    simp [first, others]

theorem decode_encode (readable : alphabet.IsReadable) (bytes : Bytes) :
    decode alphabet (encode alphabet bytes) = some bytes := by
  rw [decode, encode, mapM_digit readable (sextets_lt bytes), Option.bind_some, ofSextets?_sextets]

/-- No digit is taken for padding. -/
theorem ne_padding_of_mem_encode (readable : alphabet.IsReadable) {bytes : Bytes} {c : Char}
    (member : c ∈ encode alphabet bytes) : c ≠ '=' := by
  obtain ⟨value, listed, rfl⟩ := List.mem_map.mp member
  intro same
  have read := readable.digits value (sextets_lt bytes value listed)
  rw [same, readable.padding] at read
  cases read

/-- The byte string whose digits are filled up with `=` to a multiple of four. -/
def decodePadded? (alphabet : Alphabet) (text : List Char) : Option Bytes :=
  let digits := text.takeWhile (· ≠ '=')
  if text = digits ++ List.replicate ((4 - digits.length % 4) % 4) '=' then decode alphabet digits else none

theorem decodePadded?_encodePadded (readable : alphabet.IsReadable) (bytes : Bytes) :
    decodePadded? alphabet (encodePadded alphabet bytes) = some bytes := by
  have kept : ∀ c ∈ encode alphabet bytes, decide (c ≠ '=') = true :=
    fun c member => decide_eq_true (ne_padding_of_mem_encode readable member)
  have stop (count : Nat) : (List.replicate count '=').takeWhile (· ≠ '=') = [] := by
    cases count <;> simp [List.replicate]
  have digits : (encodePadded alphabet bytes).takeWhile (· ≠ '=') = encode alphabet bytes := by
    rw [encodePadded, List.takeWhile_append_of_pos kept, stop, List.append_nil]
  simp only [decodePadded?]
  rw [digits, encodePadded, if_pos rfl, decode_encode readable]

/-- Different bytes are written differently. -/
theorem encodePadded_injective (readable : alphabet.IsReadable) {left right : Bytes}
    (same : encodePadded alphabet left = encodePadded alphabet right) : left = right := by
  have read := decodePadded?_encodePadded readable left
  rw [same, decodePadded?_encodePadded readable right] at read
  exact (Option.some.inj read).symm

end BearerIdentity.Base64
