import BearerIdentity.Proofs.Text.Utf8

set_option autoImplicit false

namespace BearerIdentity.Utf8

def isContinuation (byte : UInt8) : Bool :=
  0x80 ≤ byte && byte < 0xc0

/-- A place at which no byte, or none that goes on with a character, stands. -/
def isBoundary (bytes : Bytes) (place : Nat) : Bool :=
  match bytes[place]? with
  | some byte => !isContinuation byte
  | none => place = bytes.length

/-- The bytes between two places, if both are boundaries. -/
def slice? (bytes : Bytes) (start stop : Nat) : Option Bytes :=
  if start ≤ stop ∧ isBoundary bytes start = true ∧ isBoundary bytes stop = true then
    some ((bytes.take stop).drop start)
  else none

variable {bytes slice : Bytes} {start stop : Nat}

theorem slice?_eq_some_iff : slice? bytes start stop = some slice ↔
    (start ≤ stop ∧ isBoundary bytes start = true ∧ isBoundary bytes stop = true) ∧
      (bytes.take stop).drop start = slice := by
  unfold slice?
  split
  · rename_i sound
    simp [sound]
  · rename_i unsound
    simp [unsound]

theorem length_of_slice? (cut : slice? bytes start stop = some slice) : slice.length ≤ stop - start := by
  obtain ⟨-, rfl⟩ := slice?_eq_some_iff.mp cut
  rw [List.length_drop, List.length_take]
  omega

/-- The first byte of a character does not go on with another one. -/
theorem exists_lead (c : Char) : ∃ byte tail, encodeChar c = byte :: tail ∧ isContinuation byte = false := by
  have valid : c.toNat < 0xd800 ∨ 0xdfff < c.toNat ∧ c.toNat < 0x110000 := c.valid
  have fresh {b : Nat} (fits : b < 0x100) (lead : b < 0x80 ∨ 0xc0 ≤ b) :
      isContinuation (UInt8.ofNat b) = false := by
    simp only [isContinuation, Bool.and_eq_false_iff, decide_eq_false_iff_not, UInt8.le_iff_toNat_le,
      UInt8.lt_iff_toNat_lt, toNat_byte fits]
    have low : (0x80 : UInt8).toNat = 0x80 := rfl
    have high : (0xc0 : UInt8).toNat = 0xc0 := rfl
    omega
  unfold encodeChar
  dsimp only
  split
  · exact ⟨_, _, rfl, fresh (by omega) (by omega)⟩
  split
  · exact ⟨_, _, rfl, fresh (by omega) (by omega)⟩
  split
  · exact ⟨_, _, rfl, fresh (by omega) (by omega)⟩
  · exact ⟨_, _, rfl, fresh (by omega) (by omega)⟩

/-- Characters end where others begin. -/
theorem isBoundary_append (before : Bytes) (after : List Char) :
    isBoundary (before ++ encode after) before.length = true := by
  unfold isBoundary
  rw [List.getElem?_append_right (Nat.le_refl _), Nat.sub_self]
  cases after with
  | nil => simp [encode]
  | cons c after =>
    obtain ⟨byte, tail, spelled, fresh⟩ := exists_lead c
    rw [encode, List.flatMap_cons, spelled]
    simp [fresh]

theorem encode_append (before after : List Char) : encode (before ++ after) = encode before ++ encode after :=
  List.flatMap_append

/-- What stands between characters can be sliced. -/
theorem slice?_append (before middle after : List Char) :
    slice? (encode before ++ (encode middle ++ encode after)) (encode before).length
      ((encode before).length + (encode middle).length) = some (encode middle) := by
  have start := isBoundary_append (encode before) (middle ++ after)
  have stop := isBoundary_append (encode before ++ encode middle) after
  rw [encode_append] at start
  rw [List.append_assoc, List.length_append] at stop
  refine slice?_eq_some_iff.mpr ⟨⟨Nat.le_add_right _ _, start, stop⟩, ?_⟩
  rw [← List.append_assoc, ← List.length_append, List.take_left, List.drop_left]

theorem slice?_before (before after : List Char) :
    slice? (encode (before ++ after)) 0 (encode before).length = some (encode before) := by
  have cut := slice?_append [] before after
  rw [encode_append]
  simpa [encode] using cut

theorem slice?_after (before after : List Char) :
    slice? (encode (before ++ after)) (encode before).length
      (encode (before ++ after)).length = some (encode after) := by
  have cut := slice?_append before after []
  rw [encode_append, List.length_append]
  simpa [encode] using cut

/-- A byte below 128 in the bytes of a text is one of its characters. -/
theorem mem_of_mem_encode {text : List Char} {mark : Char} (ascii : mark.toNat < 0x80)
    (member : UInt8.ofNat mark.toNat ∈ encode text) : mark ∈ text := by
  obtain ⟨c, listed, inner⟩ := List.mem_flatMap.mp member
  have value : (UInt8.ofNat mark.toNat).toNat = mark.toNat := toNat_byte (by omega)
  by_cases other : c.toNat < 0x80
  · rw [encodeChar_of_ascii other, List.mem_singleton] at inner
    have same := congrArg UInt8.toNat inner
    rw [value, toNat_byte (by omega)] at same
    rwa [Char.toNat_inj.mp same]
  · have high := le_toNat_of_mem_encodeChar (Nat.not_lt.mp other) _ inner
    omega

/-- A text whose bytes begin with one below 128 begins with this character. -/
theorem eq_cons_of_encode {text : List Char} {mark : Char} (ascii : mark.toNat < 0x80) {tail : Bytes}
    (spelled : encode text = UInt8.ofNat mark.toNat :: tail) :
    ∃ rest, text = mark :: rest ∧ encode rest = tail := by
  have value : (UInt8.ofNat mark.toNat).toNat = mark.toNat := toNat_byte (by omega)
  cases text with
  | nil => cases spelled
  | cons c rest =>
    rw [encode, List.flatMap_cons, ← encode] at spelled
    by_cases other : c.toNat < 0x80
    · rw [encodeChar_of_ascii other, List.singleton_append] at spelled
      obtain ⟨first, later⟩ := List.cons.inj spelled
      have same := congrArg UInt8.toNat first
      rw [value, toNat_byte (by omega)] at same
      exact ⟨rest, by rw [Char.toNat_inj.mp same], later⟩
    · obtain ⟨byte, bytes, written, high⟩ := exists_encodeChar (Nat.not_lt.mp other)
      rw [written] at spelled
      rw [(List.cons.inj spelled).1] at high
      omega

/-- Bytes below 128 at the beginning of a text are its first characters. -/
theorem prefix_of_encode {code text : List Char} (ascii : ∀ c ∈ code, c.toNat < 0x80)
    (leads : encode code <+: encode text) : code <+: text := by
  obtain ⟨tail, spelled⟩ := leads
  induction code generalizing text with
  | nil => exact List.nil_prefix
  | cons c code ih =>
    rw [List.forall_mem_cons] at ascii
    rw [encode, List.flatMap_cons, ← encode, encodeChar_of_ascii ascii.1] at spelled
    obtain ⟨rest, rfl, left⟩ := eq_cons_of_encode ascii.1 spelled.symm
    exact List.prefix_cons_inj c |>.mpr (ih ascii.2 left.symm)

/-- A slice of characters below 128 begins a text if they do, whatever else may be cut there. -/
theorem slice?_eq_code_iff {code : List Char} (ascii : ∀ c ∈ code, c.toNat < 0x80) (before after : List Char) :
    slice? (encode (before ++ after)) (encode before).length
      ((encode before).length + (encode code).length) = some (encode code) ↔ code <+: after := by
  constructor
  · intro cut
    obtain ⟨-, same⟩ := slice?_eq_some_iff.mp cut
    rw [encode_append, List.take_length_add_append, List.drop_left] at same
    exact prefix_of_encode ascii (same ▸ List.take_prefix _ _)
  · rintro ⟨rest, rfl⟩
    rw [encode_append, encode_append]
    exact slice?_append before code rest

end BearerIdentity.Utf8
