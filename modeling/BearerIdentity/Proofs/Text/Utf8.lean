import BearerIdentity.Text.Utf8
import Mathlib.Data.List.Basic
import Mathlib.Data.List.Flatten

set_option autoImplicit false

/- Reading UTF-8 accepts exactly what writing produces, so a text has one written form. The bytes that
may follow the first byte of a character are described by themselves; the scanner takes them and no
others. -/

namespace BearerIdentity.Utf8

/-- The bytes that finish a started character, and its code point. -/
inductive Pending.Finish : Pending → Bytes → Nat → Prop where
  | last {state : Pending} {byte : UInt8} {code : Nat} (one : state.missing = 1)
      (low : state.low ≤ byte.toNat) (high : byte.toNat ≤ state.high)
      (value : code = state.value * 64 + (byte.toNat - 0x80)) : Finish state [byte] code
  | more {state : Pending} {byte : UInt8} {rest : Bytes} {code : Nat} (several : state.missing ≠ 1)
      (low : state.low ≤ byte.toNat) (high : byte.toNat ≤ state.high)
      (finish : Finish ⟨state.missing - 1, 0x80, 0xbf, state.value * 64 + (byte.toNat - 0x80)⟩ rest code) :
      Finish state (byte :: rest) code

/-- Where one byte is missing, one byte finishes. -/
theorem Pending.finish_one_iff (low high value code : Nat) (tail : Bytes) :
    Finish ⟨1, low, high, value⟩ tail code ↔
      ∃ byte, tail = [byte] ∧ low ≤ byte.toNat ∧ byte.toNat ≤ high ∧
        code = value * 64 + (byte.toNat - 0x80) := by
  constructor
  · intro finish
    cases finish with
    | @last _ byte _ _ lower upper sum => exact ⟨byte, rfl, lower, upper, sum⟩
    | more several => exact absurd rfl several
  · intro ⟨byte, whole, lower, upper, sum⟩
    rw [whole]
    exact .last rfl lower upper sum

theorem Pending.finish_several_iff (missing low high value code : Nat) (tail : Bytes) :
    Finish ⟨missing + 2, low, high, value⟩ tail code ↔
      ∃ byte rest, tail = byte :: rest ∧ low ≤ byte.toNat ∧ byte.toNat ≤ high ∧
        Finish ⟨missing + 1, 0x80, 0xbf, value * 64 + (byte.toNat - 0x80)⟩ rest code := by
  constructor
  · intro finish
    cases finish with
    | last one => exact absurd one (by simp)
    | @more _ byte rest _ _ lower upper later => exact ⟨byte, rest, rfl, lower, upper, later⟩
  · intro ⟨byte, rest, whole, lower, upper, later⟩
    rw [whole]
    exact .more (by simp) lower upper later

/-- A character ends where its last byte has been read, whatever follows. -/
theorem Pending.Finish.scan_append {state : Pending} {tail : Bytes} {code : Nat}
    (finish : state.Finish tail code) (rest : Bytes) :
    scanFrom (some state) (tail ++ rest) = some (Char.ofNat code) :: scan rest := by
  induction finish with
  | last one low high value => simp [scanFrom, scan, one, low, high, value]
  | more several low high _ ih =>
    rw [← ih]
    simp [scanFrom, several, low, high]

/-- A started character without an invalid part is finished. -/
theorem Pending.exists_finish {state : Pending} {bytes : Bytes}
    (valid : none ∉ scanFrom (some state) bytes) :
    ∃ tail code rest, bytes = tail ++ rest ∧ state.Finish tail code := by
  induction bytes generalizing state with
  | nil => simp [scanFrom] at valid
  | cons byte rest ih =>
    by_cases within : state.low ≤ byte.toNat ∧ byte.toNat ≤ state.high
    · by_cases one : state.missing = 1
      · exact ⟨[byte], _, rest, rfl, .last one within.1 within.2 rfl⟩
      · rw [scanFrom, if_pos within] at valid
        simp only [one, if_false] at valid
        obtain ⟨tail, code, after, rfl, finish⟩ := ih valid
        exact ⟨byte :: tail, code, after, rfl, .more one within.1 within.2 finish⟩
    · rw [scanFrom, if_neg within] at valid
      exact absurd List.mem_cons_self valid

/-- The bytes of one character: one byte, or a first byte and those that finish it. -/
inductive Spells : Bytes → Char → Prop where
  | single {byte : UInt8} {c : Char} (first : lead byte = .char c) : Spells [byte] c
  | multiple {byte : UInt8} {state : Pending} {tail : Bytes} {code : Nat} (first : lead byte = .pending state)
      (finish : state.Finish tail code) : Spells (byte :: tail) (Char.ofNat code)

theorem Spells.scan_append {bytes : Bytes} {c : Char} (spells : Spells bytes c) (rest : Bytes) :
    scan (bytes ++ rest) = some c :: scan rest := by
  cases spells with
  | single first => simp [scan, scanFrom, first]
  | multiple first finish =>
    rw [← finish.scan_append rest]
    simp [scan, scanFrom, first]

/-- Bytes without an invalid part begin with a character. -/
theorem exists_spells {byte : UInt8} {bytes : Bytes} (valid : none ∉ scan (byte :: bytes)) :
    ∃ first c rest, byte :: bytes = first ++ rest ∧ Spells first c := by
  cases start : lead byte with
  | char c => exact ⟨[byte], c, bytes, rfl, .single start⟩
  | pending state =>
    rw [scan, scanFrom, start] at valid
    obtain ⟨tail, code, rest, rfl, finish⟩ := Pending.exists_finish valid
    exact ⟨byte :: tail, Char.ofNat code, rest, rfl, .multiple start finish⟩
  | invalid =>
    rw [scan, scanFrom, start] at valid
    exact absurd List.mem_cons_self valid

/-- The first byte of two. -/
theorem lead_of_two (byte : UInt8) (low : 0xc2 ≤ byte.toNat) (high : byte.toNat < 0xe0) :
    lead byte = .pending ⟨1, 0x80, 0xbf, byte.toNat - 0xc0⟩ := by
  simp only [lead]
  rw [if_neg (by omega), if_neg (by omega), if_pos high]

/-- The first byte of three, the second of which must not make the character short or a surrogate. -/
theorem lead_of_three (byte : UInt8) (low : 0xe0 ≤ byte.toNat) (high : byte.toNat < 0xf0) :
    ∃ least greatest, lead byte = .pending ⟨2, least, greatest, byte.toNat - 0xe0⟩ ∧
      (byte.toNat = 0xe0 → least = 0xa0) ∧ (byte.toNat ≠ 0xe0 → least = 0x80) ∧
      (byte.toNat = 0xed → greatest = 0x9f) ∧ (byte.toNat ≠ 0xed → greatest = 0xbf) := by
  simp only [lead]
  rw [if_neg (by omega), if_neg (by omega), if_neg (by omega)]
  by_cases short : byte.toNat = 0xe0
  · exact ⟨0xa0, 0xbf, by simp [short]⟩
  · by_cases surrogate : byte.toNat = 0xed
    · exact ⟨0x80, 0x9f, by simp [surrogate]⟩
    · exact ⟨0x80, 0xbf, by simp [short, surrogate, high]⟩

/-- The first byte of four, the second of which must not make the character short or too great. -/
theorem lead_of_four (byte : UInt8) (low : 0xf0 ≤ byte.toNat) (high : byte.toNat < 0xf5) :
    ∃ least greatest, lead byte = .pending ⟨3, least, greatest, byte.toNat - 0xf0⟩ ∧
      (byte.toNat = 0xf0 → least = 0x90) ∧ (byte.toNat ≠ 0xf0 → least = 0x80) ∧
      (byte.toNat = 0xf4 → greatest = 0x8f) ∧ (byte.toNat ≠ 0xf4 → greatest = 0xbf) := by
  simp only [lead]
  rw [if_neg (by omega), if_neg (by omega), if_neg (by omega), if_neg (by omega), if_neg (by omega),
    if_neg (by omega)]
  by_cases short : byte.toNat = 0xf0
  · exact ⟨0x90, 0xbf, by simp [short]⟩
  · by_cases great : byte.toNat = 0xf4
    · exact ⟨0x80, 0x8f, by simp [great]⟩
    · have middle : byte.toNat < 0xf4 := by omega
      exact ⟨0x80, 0xbf, by simp [short, great, middle]⟩

/-- What a byte at the start of a character can be. -/
theorem lead_cases (byte : UInt8) :
    (byte.toNat < 0x80 ∧ lead byte = .char (Char.ofNat byte.toNat)) ∨
      ((0xc2 ≤ byte.toNat ∧ byte.toNat < 0xf5) ∧ ∃ state, lead byte = .pending state) ∨
      lead byte = .invalid := by
  by_cases one : byte.toNat < 0x80
  · have start : lead byte = .char (Char.ofNat byte.toNat) := by rw [lead, if_pos one]
    exact .inl ⟨one, start⟩
  by_cases low : byte.toNat < 0xc2
  · have start : lead byte = .invalid := by rw [lead, if_neg one, if_pos low]
    exact .inr (.inr start)
  by_cases two : byte.toNat < 0xe0
  · exact .inr (.inl ⟨by omega, _, lead_of_two byte (by omega) two⟩)
  by_cases three : byte.toNat < 0xf0
  · obtain ⟨least, greatest, start, _⟩ := lead_of_three byte (by omega) three
    exact .inr (.inl ⟨by omega, _, start⟩)
  by_cases four : byte.toNat < 0xf5
  · obtain ⟨least, greatest, start, _⟩ := lead_of_four byte (by omega) four
    exact .inr (.inl ⟨by omega, _, start⟩)
  · have start : lead byte = .invalid := by
      rw [lead, if_neg one, if_neg low, if_neg two, if_neg (by omega), if_neg (by omega), if_neg three,
        if_neg (by omega), if_neg (by omega), if_neg (by omega)]
    exact .inr (.inr start)

theorem toNat_ofNat {code : Nat} (valid : code < 0xd800 ∨ 0xdfff < code ∧ code < 0x110000) :
    (Char.ofNat code).toNat = code := by
  have known : code.isValidChar := valid
  unfold Char.ofNat
  rw [dif_pos known]
  rfl

theorem toNat_byte {b : Nat} (fits : b < 256) : (UInt8.ofNat b).toNat = b := by
  rw [UInt8.toNat_ofNat', Nat.mod_eq_of_lt fits]

theorem spells_two {code : Nat} (low : 0x80 ≤ code) (high : code < 0x800) :
    Spells [UInt8.ofNat (0xc0 + code / 64), UInt8.ofNat (0x80 + code % 64)] (Char.ofNat code) := by
  have first := toNat_byte (show 0xc0 + code / 64 < 256 by omega)
  have second := toNat_byte (show 0x80 + code % 64 < 256 by omega)
  apply Spells.multiple (lead_of_two _ (by omega) (by omega))
  exact (Pending.finish_one_iff ..).mpr ⟨_, rfl, by omega, by omega, by omega⟩

theorem spells_three {code : Nat} (valid : code < 0xd800 ∨ 0xdfff < code) (low : 0x800 ≤ code)
    (high : code < 0x10000) :
    Spells [UInt8.ofNat (0xe0 + code / 4096), UInt8.ofNat (0x80 + code / 64 % 64),
      UInt8.ofNat (0x80 + code % 64)] (Char.ofNat code) := by
  have first := toNat_byte (show 0xe0 + code / 4096 < 256 by omega)
  have second := toNat_byte (show 0x80 + code / 64 % 64 < 256 by omega)
  have third := toNat_byte (show 0x80 + code % 64 < 256 by omega)
  obtain ⟨least, greatest, start, bounds⟩ := lead_of_three (UInt8.ofNat (0xe0 + code / 4096))
    (by omega) (by omega)
  apply Spells.multiple start
  apply (Pending.finish_several_iff ..).mpr ⟨_, _, rfl, by omega, by omega, ?_⟩
  exact (Pending.finish_one_iff ..).mpr ⟨_, rfl, by omega, by omega, by omega⟩

theorem spells_four {code : Nat} (low : 0x10000 ≤ code) (high : code < 0x110000) :
    Spells [UInt8.ofNat (0xf0 + code / 262144), UInt8.ofNat (0x80 + code / 4096 % 64),
      UInt8.ofNat (0x80 + code / 64 % 64), UInt8.ofNat (0x80 + code % 64)] (Char.ofNat code) := by
  have first := toNat_byte (show 0xf0 + code / 262144 < 256 by omega)
  have second := toNat_byte (show 0x80 + code / 4096 % 64 < 256 by omega)
  have third := toNat_byte (show 0x80 + code / 64 % 64 < 256 by omega)
  have fourth := toNat_byte (show 0x80 + code % 64 < 256 by omega)
  obtain ⟨least, greatest, start, bounds⟩ := lead_of_four (UInt8.ofNat (0xf0 + code / 262144))
    (by omega) (by omega)
  apply Spells.multiple start
  apply (Pending.finish_several_iff ..).mpr ⟨_, _, rfl, by omega, by omega, ?_⟩
  apply (Pending.finish_several_iff ..).mpr ⟨_, _, rfl, by omega, by omega, ?_⟩
  exact (Pending.finish_one_iff ..).mpr ⟨_, rfl, by omega, by omega, by omega⟩

theorem spells_encodeChar (c : Char) : Spells (encodeChar c) c := by
  have valid : c.toNat < 0xd800 ∨ 0xdfff < c.toNat ∧ c.toNat < 0x110000 := c.valid
  have whole : Char.ofNat c.toNat = c := Char.ofNat_toNat c
  simp only [encodeChar]
  generalize c.toNat = code at valid whole
  subst whole
  by_cases one : code < 0x80
  · rw [if_pos one]
    apply Spells.single
    simp only [lead, toNat_byte (show code < 256 by omega), if_pos one]
  rw [if_neg one]
  by_cases two : code < 0x800
  · rw [if_pos two]
    exact spells_two (by omega) two
  rw [if_neg two]
  by_cases three : code < 0x10000
  · rw [if_pos three]
    exact spells_three (by omega) (by omega) three
  · rw [if_neg three]
    exact spells_four (by omega) (by omega)

theorem eq_ofNat {byte : UInt8} {b : Nat} (same : byte.toNat = b) : byte = UInt8.ofNat b := by
  rw [← same, UInt8.ofNat_toNat]

/-- A character is spelled in one way. -/
theorem Spells.eq_encodeChar {bytes : Bytes} {c : Char} (spells : Spells bytes c) :
    bytes = encodeChar c := by
  cases spells with
  | @single byte _ first =>
    rcases lead_cases byte with ⟨one, start⟩ | ⟨_, state, start⟩ | start
    · rw [start] at first
      cases first
      rw [encodeChar, toNat_ofNat (by omega), if_pos one, UInt8.ofNat_toNat]
    · rw [start] at first
      cases first
    · rw [start] at first
      cases first
  | @multiple byte state tail code first finish =>
    have bounds : 0xc2 ≤ byte.toNat ∧ byte.toNat < 0xf5 := by
      rcases lead_cases byte with ⟨_, start⟩ | ⟨bounds, _⟩ | start
      · rw [start] at first
        cases first
      · exact bounds
      · rw [start] at first
        cases first
    obtain ⟨low, high⟩ := bounds
    by_cases two : byte.toNat < 0xe0
    · rw [lead_of_two byte low two] at first
      cases first
      obtain ⟨byte₁, rfl, low₁, high₁, value⟩ := (Pending.finish_one_iff ..).mp finish
      rw [encodeChar, toNat_ofNat (by omega), if_neg (by omega), if_pos (by omega)]
      simp only [List.cons.injEq, and_true]
      exact ⟨eq_ofNat (by omega), eq_ofNat (by omega)⟩
    by_cases three : byte.toNat < 0xf0
    · obtain ⟨least, greatest, start, bounds⟩ := lead_of_three byte (by omega) three
      rw [start] at first
      cases first
      obtain ⟨byte₁, rest, rfl, low₁, high₁, finish⟩ := (Pending.finish_several_iff ..).mp finish
      obtain ⟨byte₂, rfl, low₂, high₂, value⟩ := (Pending.finish_one_iff ..).mp finish
      rw [encodeChar, toNat_ofNat (by omega), if_neg (by omega), if_neg (by omega), if_pos (by omega)]
      simp only [List.cons.injEq, and_true]
      exact ⟨eq_ofNat (by omega), eq_ofNat (by omega), eq_ofNat (by omega)⟩
    · obtain ⟨least, greatest, start, bounds⟩ := lead_of_four byte (by omega) high
      rw [start] at first
      cases first
      obtain ⟨byte₁, rest, rfl, low₁, high₁, finish⟩ := (Pending.finish_several_iff ..).mp finish
      obtain ⟨byte₂, rest, rfl, low₂, high₂, finish⟩ := (Pending.finish_several_iff ..).mp finish
      obtain ⟨byte₃, rfl, low₃, high₃, value⟩ := (Pending.finish_one_iff ..).mp finish
      rw [encodeChar, toNat_ofNat (by omega), if_neg (by omega), if_neg (by omega), if_neg (by omega)]
      simp only [List.cons.injEq, and_true]
      exact ⟨eq_ofNat (by omega), eq_ofNat (by omega), eq_ofNat (by omega), eq_ofNat (by omega)⟩

theorem scan_encode (text : List Char) : scan (encode text) = text.map some := by
  induction text with
  | nil => rfl
  | cons c rest ih =>
    rw [encode, List.flatMap_cons, (spells_encodeChar c).scan_append, ← encode, ih, List.map_cons]

/-- Bytes that are scanned as a text are written from it. -/
theorem eq_encode_of_scan {bytes : Bytes} {text : List Char} (scanned : scan bytes = text.map some) :
    bytes = encode text := by
  induction text generalizing bytes with
  | nil =>
    cases bytes with
    | nil => rfl
    | cons byte rest =>
      have valid : none ∉ scan (byte :: rest) := by rw [scanned]; simp
      obtain ⟨first, c, after, parted, spells⟩ := exists_spells valid
      rw [parted, spells.scan_append] at scanned
      cases scanned
  | cons c text ih =>
    cases bytes with
    | nil => cases scanned
    | cons byte rest =>
      have valid : none ∉ scan (byte :: rest) := by rw [scanned]; simp
      obtain ⟨first, d, after, parted, spells⟩ := exists_spells valid
      rw [parted, spells.scan_append, List.map_cons, List.cons.injEq, Option.some.injEq] at scanned
      obtain ⟨rfl, later⟩ := scanned
      rw [parted, ih later, spells.eq_encodeChar, encode, encode, List.flatMap_cons]

theorem mapM_id_eq_some (scanned : List (Option Char)) (text : List Char) :
    scanned.mapM id = some text ↔ scanned = text.map some := by
  induction scanned generalizing text with
  | nil => cases text <;> simp
  | cons c rest ih =>
    cases c with
    | none => cases text <;> simp
    | some c =>
      simp only [List.mapM_cons, id_eq, Option.bind_eq_bind, Option.bind_some, Option.bind_eq_some_iff, ih]
      cases text <;> simp [and_comm]

/-- Bytes are read as a text exactly where they are written from it. -/
theorem decode_eq_some_iff (bytes : Bytes) (text : List Char) :
    decode bytes = some text ↔ bytes = encode text := by
  rw [decode, mapM_id_eq_some]
  constructor
  · exact eq_encode_of_scan
  · rintro rfl
    exact scan_encode text

/-- The bytes of a character are those that the standard library gives it. -/
theorem encodeChar_eq_utf8EncodeChar (c : Char) : encodeChar c = String.utf8EncodeChar c := by
  have valid : c.toNat < 0xd800 ∨ 0xdfff < c.toNat ∧ c.toNat < 0x110000 := c.valid
  have same : c.val.toNat = c.toNat := rfl
  simp only [encodeChar, String.utf8EncodeChar, same]
  by_cases one : c.toNat < 0x80
  · have one' : c.toNat ≤ 0x7f := by omega
    rw [if_pos one, if_pos one']
  have one' : ¬c.toNat ≤ 0x7f := by omega
  rw [if_neg one, if_neg one']
  by_cases two : c.toNat < 0x800
  · have two' : c.toNat ≤ 0x7ff := by omega
    have first : 0xc0 + c.toNat / 64 = c.toNat / 64 % 32 + 0xc0 := by omega
    rw [if_pos two, if_pos two', first, Nat.add_comm 0x80]
  have two' : ¬c.toNat ≤ 0x7ff := by omega
  rw [if_neg two, if_neg two']
  by_cases three : c.toNat < 0x10000
  · have three' : c.toNat ≤ 0xffff := by omega
    have first : 0xe0 + c.toNat / 4096 = c.toNat / 4096 % 16 + 0xe0 := by omega
    rw [if_pos three, if_pos three', first, Nat.add_comm 0x80, Nat.add_comm 0x80]
  have three' : ¬c.toNat ≤ 0xffff := by omega
  have first : 0xf0 + c.toNat / 262144 = c.toNat / 262144 % 8 + 0xf0 := by omega
  rw [if_neg three, if_neg three', first, Nat.add_comm 0x80, Nat.add_comm 0x80, Nat.add_comm 0x80]

theorem encode_eq_flatMap (text : List Char) : encode text = text.flatMap String.utf8EncodeChar := by
  have each : encodeChar = String.utf8EncodeChar := funext encodeChar_eq_utf8EncodeChar
  rw [encode, each]

theorem length_encodeChar_pos (c : Char) : 0 < (encodeChar c).length := by
  simp only [encodeChar]
  split
  · simp
  · split
    · simp
    · split <;> simp

theorem encodeChar_of_ascii {c : Char} (ascii : c.toNat < 0x80) :
    encodeChar c = [UInt8.ofNat c.toNat] := by
  rw [encodeChar, if_pos ascii]

theorem le_toNat_of_mem_encodeChar {c : Char} (outside : 0x80 ≤ c.toNat) :
    ∀ byte ∈ encodeChar c, 0x80 ≤ byte.toNat := by
  have valid : c.toNat < 0xd800 ∨ 0xdfff < c.toNat ∧ c.toNat < 0x110000 := c.valid
  have high (b : Nat) (low : 0x80 ≤ b) (fits : b < 0x100) : 0x80 ≤ (UInt8.ofNat b).toNat := by
    rw [toNat_byte fits]
    exact low
  have rest (n : Nat) : 0x80 ≤ (UInt8.ofNat (0x80 + n % 64)).toNat := high _ (by omega) (by omega)
  simp only [encodeChar, Nat.not_lt.mpr outside, if_false]
  intro byte member
  by_cases two : c.toNat < 0x800
  · rw [if_pos two] at member
    simp only [List.mem_cons, List.not_mem_nil, or_false] at member
    rcases member with rfl | rfl
    · exact high _ (by omega) (by omega)
    · exact rest _
  rw [if_neg two] at member
  by_cases three : c.toNat < 0x10000
  · rw [if_pos three] at member
    simp only [List.mem_cons, List.not_mem_nil, or_false] at member
    rcases member with rfl | rfl | rfl
    · exact high _ (by omega) (by omega)
    · exact rest _
    · exact rest _
  · rw [if_neg three] at member
    simp only [List.mem_cons, List.not_mem_nil, or_false] at member
    rcases member with rfl | rfl | rfl | rfl
    · exact high _ (by omega) (by omega)
    · exact rest _
    · exact rest _
    · exact rest _

theorem exists_encodeChar {c : Char} (outside : 0x80 ≤ c.toNat) :
    ∃ byte tail, encodeChar c = byte :: tail ∧ 0x80 ≤ byte.toNat := by
  cases spelled : encodeChar c with
  | nil =>
    have length := length_encodeChar_pos c
    rw [spelled] at length
    cases length
  | cons byte tail =>
    refine ⟨byte, tail, rfl, le_toNat_of_mem_encodeChar outside byte ?_⟩
    rw [spelled]
    exact List.mem_cons_self

theorem length_le_length_encode (text : List Char) : text.length ≤ (encode text).length := by
  induction text with
  | nil => exact Nat.zero_le _
  | cons c rest ih =>
    have first := length_encodeChar_pos c
    simp only [encode, List.flatMap_cons, List.length_append, List.length_cons] at ih ⊢
    omega

theorem encode_ne_nil {text : List Char} (filled : text ≠ []) : encode text ≠ [] := by
  have longer := length_le_length_encode text
  have positive := List.length_pos_iff.mpr filled
  exact List.length_pos_iff.mp (Nat.lt_of_lt_of_le positive longer)

/-- Leaving characters out makes a text shorter. -/
theorem eq_of_sublist {part text : List Char} (kept : part.Sublist text)
    (long : (encode text).length ≤ (encode part).length) : part = text := by
  induction kept with
  | slnil => rfl
  | cons c kept _ =>
    have shorter := (kept.flatMap encodeChar).length_le
    have first := length_encodeChar_pos c
    simp only [encode, List.flatMap_cons, List.length_append] at long
    omega
  | cons_cons c _ ih =>
    simp only [encode, List.flatMap_cons, List.length_append, Nat.add_le_add_iff_left] at long
    rw [ih long]

end BearerIdentity.Utf8
