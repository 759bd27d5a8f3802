import BearerIdentity.Proofs.Text.Ascii
import BearerIdentity.Proofs.Text.Utf8
import BearerIdentity.Text.Percent

set_option autoImplicit false

namespace BearerIdentity

namespace Percent

/-- The value of two hexadecimal digits at the start of a text, and what follows them. -/
def escaped? : List Char → Option (Nat × List Char)
  | high :: low :: after => do
    let high ← Ascii.hexValue? high
    let low ← Ascii.hexValue? low
    some (high * 16 + low, after)
  | _ => none

def HasEscape (text : List Char) : Prop :=
  ∃ before after, text = before ++ '%' :: after ∧ (escaped? after).isSome = true

theorem hasEscape_cons (c : Char) (rest : List Char) :
    HasEscape (c :: rest) ↔ c = '%' ∧ (escaped? rest).isSome = true ∨ HasEscape rest := by
  constructor
  · rintro ⟨before, after, parted, escape⟩
    cases before with
    | nil =>
      cases parted
      exact .inl ⟨rfl, escape⟩
    | cons first before =>
      cases parted
      exact .inr ⟨before, after, rfl, escape⟩
  · rintro (⟨rfl, escape⟩ | ⟨before, after, rfl, escape⟩)
    · exact ⟨[], rest, rfl, escape⟩
    · exact ⟨c :: before, after, rfl, escape⟩

theorem not_hasEscape_nil : ¬ HasEscape [] := by
  rintro ⟨before, after, parted, -⟩
  cases before <;> cases parted

instance decidableHasEscape : DecidablePred HasEscape
  | [] => isFalse not_hasEscape_nil
  | c :: rest =>
    have : Decidable (HasEscape rest) := decidableHasEscape rest
    decidable_of_iff _ (hasEscape_cons c rest).symm

def escapedBytes? : Bytes → Option (Nat × Bytes)
  | high :: low :: after => do
    let high ← Ascii.hexValue? (Char.ofNat high.toNat)
    let low ← Ascii.hexValue? (Char.ofNat low.toNat)
    some (high * 16 + low, after)
  | _ => none

theorem decode_cons {byte : UInt8} (other : byte ≠ 37) (rest : Bytes) :
    decode (byte :: rest) = byte :: decode rest := by
  conv_lhs => rw [decode.eq_def]
  exact if_neg other

theorem decode_percent (rest : Bytes) : decode (37 :: rest) =
    match escapedBytes? rest with
    | some (value, after) => UInt8.ofNat value :: decode after
    | none => 37 :: decode rest := by
  match rest with
  | [] => rfl
  | [byte] => rfl
  | high :: low :: after =>
    rw [decode, if_pos rfl, escapedBytes?]
    cases Ascii.hexValue? (Char.ofNat high.toNat) with
    | none => rfl
    | some value => cases Ascii.hexValue? (Char.ofNat low.toNat) <;> rfl

theorem decode_append {bytes : Bytes} (others : ∀ byte ∈ bytes, byte ≠ 37) (rest : Bytes) :
    decode (bytes ++ rest) = bytes ++ decode rest := by
  induction bytes with
  | nil => rfl
  | cons byte bytes ih =>
    rw [List.cons_append, decode_cons (others byte List.mem_cons_self),
      ih fun other member => others other (List.mem_cons_of_mem _ member), List.cons_append]

theorem length_decode_le (bytes : Bytes) : (decode bytes).length ≤ bytes.length := by
  induction bytes using decode.induct with
  | case1 => exact Nat.le_refl 0
  | case2 high low after h l lowDigit highDigit shorter =>
    rw [decode, if_pos rfl, highDigit, lowDigit]
    simp only [List.length_cons]
    omega
  | case3 high low after plain shorter =>
    have none : escapedBytes? (high :: low :: after) = none := by
      rw [escapedBytes?]
      cases highDigit : Ascii.hexValue? (Char.ofNat high.toNat) with
      | none => rfl
      | some h =>
        cases lowDigit : Ascii.hexValue? (Char.ofNat low.toNat) with
        | none => rfl
        | some l => exact (plain h l highDigit lowDigit).elim
    rw [decode_percent, none]
    exact Nat.succ_le_succ shorter
  | case4 rest short shorter =>
    match rest with
    | [] => exact Nat.le_refl 1
    | [byte] => exact Nat.succ_le_succ shorter
    | high :: low :: after => exact (short high low after rfl).elim
  | case5 byte rest other shorter =>
    rw [decode_cons other]
    exact Nat.succ_le_succ shorter

theorem toNat_lt_of_hexValue? {c : Char} {value : Nat} (digit : Ascii.hexValue? c = some value) :
    c.toNat < 0x80 :=
  (Ascii.bounds_of_hexValue? digit).1

theorem ofNat_byte {c : Char} (ascii : c.toNat < 0x80) : Char.ofNat (UInt8.ofNat c.toNat).toNat = c := by
  rw [Utf8.toNat_byte (by omega), Char.ofNat_toNat]

theorem hexValue?_of_high {byte : UInt8} (high : 0x80 ≤ byte.toNat) :
    Ascii.hexValue? (Char.ofNat byte.toNat) = none := by
  cases digit : Ascii.hexValue? (Char.ofNat byte.toNat) with
  | none => rfl
  | some value =>
    have low := toNat_lt_of_hexValue? digit
    rw [Utf8.toNat_ofNat (.inl (by have := byte.toNat_lt; omega))] at low
    omega

theorem hexValue?_of_outside {c : Char} (outside : 0x80 ≤ c.toNat) : Ascii.hexValue? c = none := by
  cases digit : Ascii.hexValue? c with
  | none => rfl
  | some value => exact absurd (toNat_lt_of_hexValue? digit) (Nat.not_lt.mpr outside)

/-- The escapes in the bytes of a text are those in the text. -/
theorem escapedBytes?_encode (text : List Char) : escapedBytes? (Utf8.encode text) =
    (escaped? text).map fun (value, after) => (value, Utf8.encode after) := by
  have outside {byte : UInt8} {tail : Bytes} (high : 0x80 ≤ byte.toNat) :
      escapedBytes? (byte :: tail) = none := by
    cases tail with
    | nil => rfl
    | cons low after =>
      rw [escapedBytes?, hexValue?_of_high high]
      rfl
  match text with
  | [] => rfl
  | [high] =>
    by_cases ascii : high.toNat < 0x80
    · rw [Utf8.encode, List.flatMap_cons, Utf8.encodeChar_of_ascii ascii]
      rfl
    · obtain ⟨byte, tail, spelled, least⟩ := Utf8.exists_encodeChar (Nat.not_lt.mp ascii)
      rw [Utf8.encode, List.flatMap_cons, spelled, List.cons_append, outside least]
      rfl
  | high :: low :: after =>
    by_cases ascii : high.toNat < 0x80
    · by_cases ascii' : low.toNat < 0x80
      · rw [Utf8.encode, List.flatMap_cons, List.flatMap_cons, Utf8.encodeChar_of_ascii ascii,
          Utf8.encodeChar_of_ascii ascii', List.singleton_append, List.singleton_append, escapedBytes?,
          ofNat_byte ascii, ofNat_byte ascii', escaped?]
        cases Ascii.hexValue? high with
        | none => rfl
        | some h => cases Ascii.hexValue? low <;> rfl
      · obtain ⟨byte, tail, spelled, least⟩ := Utf8.exists_encodeChar (Nat.not_lt.mp ascii')
        rw [Utf8.encode, List.flatMap_cons, List.flatMap_cons, Utf8.encodeChar_of_ascii ascii, spelled,
          List.singleton_append, List.cons_append, escapedBytes?, hexValue?_of_high least, escaped?,
          hexValue?_of_outside (Nat.not_lt.mp ascii')]
        cases Ascii.hexValue? high <;> cases Ascii.hexValue? (Char.ofNat (UInt8.ofNat high.toNat).toNat) <;> rfl
    · obtain ⟨byte, tail, spelled, least⟩ := Utf8.exists_encodeChar (Nat.not_lt.mp ascii)
      rw [Utf8.encode, List.flatMap_cons, spelled, List.cons_append, outside least, escaped?,
        hexValue?_of_outside (Nat.not_lt.mp ascii)]
      rfl

theorem decode_encode_cons {c : Char} (other : c ≠ '%') (rest : Bytes) :
    decode (Utf8.encodeChar c ++ rest) = Utf8.encodeChar c ++ decode rest := by
  refine decode_append (fun byte member same => ?_) rest
  subst same
  by_cases ascii : c.toNat < 0x80
  · rw [Utf8.encodeChar_of_ascii ascii, List.mem_singleton] at member
    have code := congrArg UInt8.toNat member
    rw [Utf8.toNat_byte (by omega)] at code
    exact other (Char.toNat_inj.mp code.symm)
  · have high := Utf8.le_toNat_of_mem_encodeChar (Nat.not_lt.mp ascii) 37 member
    exact absurd high (by decide)

/-- A percent sign is replaced together with the digits that follow it. -/
theorem decode_encode_percent (rest : List Char) : decode (Utf8.encode ('%' :: rest)) =
    match escaped? rest with
    | some (value, after) => UInt8.ofNat value :: decode (Utf8.encode after)
    | none => 37 :: decode (Utf8.encode rest) := by
  have spelled : Utf8.encode ('%' :: rest) = 37 :: Utf8.encode rest := rfl
  rw [spelled, decode_percent, escapedBytes?_encode]
  cases escaped? rest <;> rfl

theorem eq_of_escaped? {text after : List Char} {value : Nat}
    (escape : escaped? text = some (value, after)) : ∃ high low, text = high :: low :: after := by
  match text with
  | [] => cases escape
  | [_] => cases escape
  | high :: low :: rest =>
    simp only [escaped?, Option.bind_eq_bind, Option.bind_eq_some_iff, Option.some.injEq,
      Prod.mk.injEq] at escape
    obtain ⟨_, -, _, -, -, rfl⟩ := escape
    exact ⟨high, low, rfl⟩

/-- Decoding changes a text exactly if it has an escape. -/
theorem decode_encode_eq_self_iff (text : List Char) :
    decode (Utf8.encode text) = Utf8.encode text ↔ ¬ HasEscape text := by
  induction text with
  | nil => simp [Utf8.encode, decode, not_hasEscape_nil]
  | cons c rest ih =>
    rw [hasEscape_cons]
    by_cases percent : c = '%'
    · subst percent
      have spelled : Utf8.encode ('%' :: rest) = 37 :: Utf8.encode rest := rfl
      rw [decode_encode_percent, spelled]
      cases escape : escaped? rest with
      | none => simp [ih]
      | some found =>
        -- The escape stands for one byte, and takes three.
        obtain ⟨value, after⟩ := found
        obtain ⟨high, low, rfl⟩ := eq_of_escaped? escape
        have shorter := length_decode_le (Utf8.encode after)
        have digits := Utf8.length_le_length_encode [high, low]
        have parted : Utf8.encode ([high, low] ++ after) = Utf8.encode [high, low] ++ Utf8.encode after :=
          List.flatMap_append
        rw [List.cons_append, List.singleton_append] at parted
        have different : UInt8.ofNat value :: decode (Utf8.encode after) ≠
            37 :: Utf8.encode (high :: low :: after) := by
          intro same
          have lengths := congrArg List.length same
          simp only [List.length_cons, List.length_nil, parted, List.length_append] at lengths digits
          omega
        simp [different]
    · have spelled : Utf8.encode (c :: rest) = Utf8.encodeChar c ++ Utf8.encode rest := rfl
      rw [spelled, decode_encode_cons percent, List.append_cancel_left_eq, ih]
      simp [percent]

/-- A part of a text is only decoded to the text if nothing is left out and nothing is to be decoded. -/
theorem eq_of_decode_encode {part text : List Char} (kept : part.Sublist text)
    (same : decode (Utf8.encode part) = Utf8.encode text) : part = text ∧ ¬ HasEscape text := by
  have long : (Utf8.encode text).length ≤ (Utf8.encode part).length := by
    rw [← same]
    exact length_decode_le _
  obtain rfl := Utf8.eq_of_sublist kept long
  exact ⟨rfl, (decode_encode_eq_self_iff part).mp same⟩

section Encode

variable {isEncoded : Char → Bool}

/-- What the characters are kept that escapes are made of. -/
structure SparesEscapes (isEncoded : Char → Bool) : Prop where
  percent : isEncoded '%' = false
  digits : ∀ c value, Ascii.hexValue? c = some value → isEncoded c = false

theorem encode_cons_of_kept {c : Char} (ascii : c.toNat < 0x80) (kept : isEncoded c = false)
    (rest : List Char) : encode isEncoded (c :: rest) = c :: encode isEncoded rest := by
  simp [encode, ascii, kept]

/-- What is not kept is written as escapes. -/
theorem encode_cons_of_not_kept {c : Char} (other : ¬ (c.toNat < 0x80 ∧ isEncoded c = false))
    (rest : List Char) : encode isEncoded (c :: rest) =
      (Utf8.encodeChar c).flatMap encodeByte ++ encode isEncoded rest := by
  have lost : (c.toNat < 0x80 && !isEncoded c) = false := by
    simpa using other
  simp only [encode, List.flatMap_cons, lost, Bool.false_eq_true, if_false]

theorem encode_eq_self {text : List Char}
    (kept : ∀ c ∈ text, c.toNat < 0x80 ∧ isEncoded c = false) : encode isEncoded text = text := by
  induction text with
  | nil => rfl
  | cons c rest ih =>
    obtain ⟨ascii, unencoded⟩ := kept c List.mem_cons_self
    rw [encode_cons_of_kept ascii unencoded, ih fun other member => kept other (List.mem_cons_of_mem _ member)]

theorem hexValue?_hexDigit {value : Nat} (fits : value < 16) :
    Ascii.hexValue? (hexDigit value) = some value :=
  (show ∀ value < 16, Ascii.hexValue? (hexDigit value) = some value by decide) value fits

/-- An escape is read as the byte that it was written for. -/
theorem decode_encodeByte (byte : UInt8) (rest : List Char) :
    decode (Utf8.encode (encodeByte byte ++ rest)) = byte :: decode (Utf8.encode rest) := by
  have bound := byte.toNat_lt
  have escape : escaped? (hexDigit (byte.toNat / 16) :: hexDigit (byte.toNat % 16) :: rest) =
      some (byte.toNat, rest) := by
    rw [escaped?, hexValue?_hexDigit (by omega), hexValue?_hexDigit (by omega)]
    simp only [Option.bind_eq_bind, Option.bind_some, Option.some.injEq, Prod.mk.injEq, and_true]
    omega
  rw [encodeByte, List.cons_append, List.cons_append, List.singleton_append, decode_encode_percent, escape]
  simp

theorem decode_encodeBytes (bytes : Bytes) (rest : List Char) :
    decode (Utf8.encode (bytes.flatMap encodeByte ++ rest)) = bytes ++ decode (Utf8.encode rest) := by
  induction bytes with
  | nil => rfl
  | cons byte bytes ih =>
    rw [List.flatMap_cons, List.append_assoc, decode_encodeByte, ih, List.cons_append]

theorem escaped?_of_percent (rest : List Char) : escaped? ('%' :: rest) = none := by
  cases rest <;> rfl

theorem escaped?_cons_percent (c : Char) (rest : List Char) : escaped? (c :: '%' :: rest) = none := by
  rw [escaped?]
  cases Ascii.hexValue? c <;> rfl

theorem exists_percent (c : Char) : ∃ tail, (Utf8.encodeChar c).flatMap encodeByte = '%' :: tail := by
  cases spelled : Utf8.encodeChar c with
  | nil =>
    have length := Utf8.length_encodeChar_pos c
    rw [spelled] at length
    cases length
  | cons byte bytes => exact ⟨_, rfl⟩

/-- Encoding makes no new escape with what stands before, and leaves those that are there. -/
theorem escaped?_encode (spares : SparesEscapes isEncoded) (text : List Char) :
    escaped? (encode isEncoded text) =
      (escaped? text).map fun (value, after) => (value, encode isEncoded after) := by
  have lost {c : Char} (other : ¬ (c.toNat < 0x80 ∧ isEncoded c = false)) : Ascii.hexValue? c = none := by
    cases digit : Ascii.hexValue? c with
    | none => rfl
    | some value => exact absurd ⟨toNat_lt_of_hexValue? digit, spares.digits c value digit⟩ other
  match text with
  | [] => rfl
  | [high] =>
    by_cases kept : high.toNat < 0x80 ∧ isEncoded high = false
    · rw [encode_cons_of_kept kept.1 kept.2]
      rfl
    · obtain ⟨tail, written⟩ := exists_percent high
      rw [encode_cons_of_not_kept kept, written, List.cons_append, escaped?_of_percent]
      rfl
  | high :: low :: after =>
    by_cases kept : high.toNat < 0x80 ∧ isEncoded high = false
    · rw [encode_cons_of_kept kept.1 kept.2]
      by_cases kept' : low.toNat < 0x80 ∧ isEncoded low = false
      · rw [encode_cons_of_kept kept'.1 kept'.2, escaped?, escaped?]
        cases Ascii.hexValue? high with
        | none => rfl
        | some h => cases Ascii.hexValue? low <;> rfl
      · obtain ⟨tail, written⟩ := exists_percent low
        rw [encode_cons_of_not_kept kept', written, List.cons_append, escaped?_cons_percent, escaped?,
          lost kept']
        cases Ascii.hexValue? high <;> rfl
    · obtain ⟨tail, written⟩ := exists_percent high
      rw [encode_cons_of_not_kept kept, written, List.cons_append, escaped?_of_percent, escaped?,
        lost kept]
      rfl

/-- It does not matter for decoding whether characters are encoded before. -/
theorem decode_encode_encode (spares : SparesEscapes isEncoded) (text : List Char) :
    decode (Utf8.encode (encode isEncoded text)) = decode (Utf8.encode text) := by
  match text with
  | [] => rfl
  | c :: rest =>
    by_cases percent : c = '%'
    · subst percent
      rw [encode_cons_of_kept (by decide) spares.percent, decode_encode_percent, decode_encode_percent,
        escaped?_encode spares]
      cases escape : escaped? rest with
      | none =>
        simp only [Option.map_none]
        rw [decode_encode_encode spares rest]
      | some found =>
        obtain ⟨value, after⟩ := found
        obtain ⟨high, low, rfl⟩ := eq_of_escaped? escape
        simp only [Option.map_some]
        rw [decode_encode_encode spares after]
    · have spelled : Utf8.encode (c :: rest) = Utf8.encodeChar c ++ Utf8.encode rest := rfl
      rw [spelled, decode_encode_cons percent]
      by_cases kept : c.toNat < 0x80 ∧ isEncoded c = false
      · rw [encode_cons_of_kept kept.1 kept.2]
        have spelled : Utf8.encode (c :: encode isEncoded rest) =
            Utf8.encodeChar c ++ Utf8.encode (encode isEncoded rest) := rfl
        rw [spelled, decode_encode_cons percent, decode_encode_encode spares rest]
      · rw [encode_cons_of_not_kept kept, decode_encodeBytes, decode_encode_encode spares rest]
termination_by text.length

/-- In user names and passwords, escapes are kept. -/
theorem sparesEscapes_inUserinfo : SparesEscapes inUserinfo where
  percent := by decide
  digits := by
    intro c value digit
    refine Ascii.of_codes (p := fun c => (Ascii.hexValue? c).isSome = true → inUserinfo c = false)
      (by decide +kernel) (toNat_lt_of_hexValue? digit) ?_
    rw [digit]
    rfl

/-- What an encoded text consists of: characters that are kept, and those that escapes are made of. -/
theorem of_mem_encode {text : List Char} {c : Char} (member : c ∈ encode isEncoded text) :
    c.toNat < 0x80 ∧ (isEncoded c = false ∨ c = '%' ∨ (Ascii.hexValue? c).isSome = true) := by
  obtain ⟨char, -, written⟩ := List.mem_flatMap.mp member
  split at written
  next kept =>
    rw [Bool.and_eq_true, decide_eq_true_eq, Bool.not_eq_true'] at kept
    rw [List.mem_singleton.mp written]
    exact ⟨kept.1, .inl kept.2⟩
  next =>
    obtain ⟨byte, -, escape⟩ := List.mem_flatMap.mp written
    have bound := byte.toNat_lt
    have digit {value : Nat} (fits : value < 16) : (hexDigit value).toNat < 0x80 ∧
        (isEncoded (hexDigit value) = false ∨ hexDigit value = '%' ∨
          (Ascii.hexValue? (hexDigit value)).isSome = true) := by
      have known := hexValue?_hexDigit fits
      exact ⟨toNat_lt_of_hexValue? known, .inr (.inr (Option.isSome_iff_exists.mpr ⟨value, known⟩))⟩
    rw [encodeByte, List.mem_cons, List.mem_cons, List.mem_singleton] at escape
    rcases escape with rfl | rfl | rfl
    · exact ⟨by decide, .inr (.inl rfl)⟩
    · exact digit (by omega)
    · exact digit (by omega)

/-- If percent signs are encoded too, decoding brings the text back. -/
theorem decode_encode_of_percent (percent : isEncoded '%' = true) (text : List Char) :
    decode (Utf8.encode (encode isEncoded text)) = Utf8.encode text := by
  induction text with
  | nil => rfl
  | cons c rest ih =>
    have spelled : Utf8.encode (c :: rest) = Utf8.encodeChar c ++ Utf8.encode rest := rfl
    by_cases kept : c.toNat < 0x80 ∧ isEncoded c = false
    · have other : c ≠ '%' := by
        rintro rfl
        rw [percent] at kept
        cases kept.2
      have written : Utf8.encode (c :: encode isEncoded rest) =
          Utf8.encodeChar c ++ Utf8.encode (encode isEncoded rest) := rfl
      rw [encode_cons_of_kept kept.1 kept.2, written, decode_encode_cons other, ih, spelled]
    · rw [encode_cons_of_not_kept kept, decode_encodeBytes, ih, spelled]

end Encode

/-- A character that needs no escape anywhere in a URL. -/
def isUnreserved (c : Char) : Bool :=
  Ascii.isLetter c || Ascii.isDigit c || c = '-' || c = '.' || c = '_' || c = '~'

/-- A text of escapes and of characters that need none, and the bytes that it stands for. -/
inductive Denotes : (written : List Char) → Bytes → Prop where
  | nil : Denotes [] []
  | escape {high low : Char} {upper lower : Nat} {rest : List Char} {bytes : Bytes}
    (isUpper : Ascii.hexValue? high = some upper) (isLower : Ascii.hexValue? low = some lower)
    (others : Denotes rest bytes) :
    Denotes ('%' :: high :: low :: rest) (UInt8.ofNat (upper * 16 + lower) :: bytes)
  | char {c : Char} {rest : List Char} {bytes : Bytes} (unreserved : isUnreserved c = true)
    (others : Denotes rest bytes) : Denotes (c :: rest) (Utf8.encodeChar c ++ bytes)

namespace Denotes

variable {written : List Char} {bytes : Bytes}

theorem decode_eq (denotes : Denotes written bytes) : decode (Utf8.encode written) = bytes := by
  induction denotes with
  | nil => rfl
  | @escape high low upper lower rest bytes isUpper isLower others ih =>
    have escape : escaped? (high :: low :: rest) = some (upper * 16 + lower, rest) := by
      rw [escaped?, isUpper, isLower]
      rfl
    rw [decode_encode_percent, escape]
    exact congrArg _ ih
  | @char c rest bytes unreserved others ih =>
    have other : c ≠ '%' := by
      rintro rfl
      cases unreserved
    have spelled : Utf8.encode (c :: rest) = Utf8.encodeChar c ++ Utf8.encode rest := rfl
    rw [spelled, decode_encode_cons other, ih]

theorem ne_nil (denotes : Denotes written bytes) (filled : bytes ≠ []) : written ≠ [] := by
  cases denotes with
  | nil => exact absurd rfl filled
  | escape => exact List.cons_ne_nil _ _
  | char => exact List.cons_ne_nil _ _

/-- Nothing else stands in such a text. -/
theorem chars (denotes : Denotes written bytes) : ∀ c ∈ written, c = '%' ∨ isUnreserved c = true := by
  have digit {c : Char} {value : Nat} (known : Ascii.hexValue? c = some value) : isUnreserved c = true := by
    refine Ascii.of_codes (p := fun c => (Ascii.hexValue? c).isSome = true → isUnreserved c = true)
      (by decide +kernel) (toNat_lt_of_hexValue? known) ?_
    rw [known]
    rfl
  induction denotes with
  | nil => nofun
  | escape isUpper isLower others ih =>
    have digits := List.forall_mem_cons.mpr ⟨.inr (digit isUpper), List.forall_mem_cons.mpr
      ⟨.inr (digit isLower), ih⟩⟩
    exact List.forall_mem_cons.mpr ⟨.inl rfl, digits⟩
  | char unreserved others ih => exact List.forall_mem_cons.mpr ⟨.inr unreserved, ih⟩

/-- Any bytes can be written as escapes only. -/
theorem escapes (bytes : Bytes) : Denotes (bytes.flatMap encodeByte) bytes := by
  induction bytes with
  | nil => exact .nil
  | cons byte bytes ih =>
    have bound := byte.toNat_lt
    have parted : UInt8.ofNat (byte.toNat / 16 * 16 + byte.toNat % 16) = byte := by
      rw [Nat.div_add_mod', UInt8.ofNat_toNat]
    have upper := hexValue?_hexDigit (show byte.toNat / 16 < 16 by omega)
    have lower := hexValue?_hexDigit (show byte.toNat % 16 < 16 by omega)
    have written := Denotes.escape upper lower ih
    rw [parted] at written
    exact written

end Denotes

end Percent

end BearerIdentity
