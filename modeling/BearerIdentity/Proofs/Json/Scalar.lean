import BearerIdentity.Json.Node
import Mathlib.Data.List.TakeWhile

set_option autoImplicit false

namespace BearerIdentity.Json

def goesOn (byte : UInt8) : Bool :=
  isDigitByte byte || byte = 46 || byte = 101 || byte = 69

/-- No number goes on here. -/
def Stops (rest : Bytes) : Prop :=
  ∀ byte ∈ rest.head?, goesOn byte = false

theorem stops_nil : Stops [] :=
  nofun

theorem stops_append {text rest : Bytes} (filled : text ≠ []) : Stops (text ++ rest) ↔ Stops text := by
  cases text with
  | nil => exact absurd rfl filled
  | cons byte text => exact Iff.rfl

theorem head?_append {text : Bytes} (filled : text ≠ []) (left right : Bytes) :
    (text ++ left).head? = (text ++ right).head? := by
  cases text with
  | nil => exact absurd rfl filled
  | cons byte text => rfl

theorem goesOn_of_isBlankByte {byte : UInt8} (blank : isBlankByte byte = true) : goesOn byte = false := by
  simp only [isBlankByte, Bool.or_eq_true, decide_eq_true_eq] at blank
  rcases blank with ((rfl | rfl) | rfl) | rfl <;> rfl

theorem exists_of_skipBlanks {bytes rest : Bytes} {byte : UInt8} (found : skipBlanks bytes = byte :: rest) :
    ∃ blanks, bytes = blanks ++ byte :: rest ∧
      ∀ after, skipBlanks (blanks ++ byte :: after) = byte :: after := by
  have blank : ∀ other ∈ bytes.takeWhile isBlankByte, isBlankByte other = true :=
    fun other member => List.mem_takeWhile_imp member
  have filled : isBlankByte byte = false := by
    have stop := List.head?_dropWhile_not isBlankByte bytes
    rw [← skipBlanks, found] at stop
    exact stop
  refine ⟨bytes.takeWhile isBlankByte, ?_, fun after => ?_⟩
  · rw [← found, skipBlanks, List.takeWhile_append_dropWhile]
  · rw [skipBlanks, List.dropWhile_append_of_pos blank, List.dropWhile_cons_of_neg (by rw [filled]; decide)]

theorem stops_of_skipBlanks {bytes rest : Bytes} {byte : UInt8} (found : skipBlanks bytes = byte :: rest)
    (other : goesOn byte = false) : Stops bytes := by
  intro first isFirst
  cases bytes with
  | nil => cases isFirst
  | cons start bytes =>
    rw [List.head?_cons, Option.mem_some_iff] at isFirst
    subst isFirst
    by_cases blank : isBlankByte start = true
    · exact goesOn_of_isBlankByte blank
    · rw [skipBlanks, List.dropWhile_cons_of_neg blank] at found
      cases found
      exact other

theorem digits_append {digits rest : Bytes} (all : ∀ byte ∈ digits, isDigitByte byte = true)
    (stop : ∀ byte ∈ rest.head?, isDigitByte byte = false) :
    digitsOf (digits ++ rest) = digits.map (·.toNat - 48) ∧ afterDigits (digits ++ rest) = rest := by
  rw [digitsOf, afterDigits, List.takeWhile_append_of_pos all, List.dropWhile_append_of_pos all]
  cases rest with
  | nil => simp
  | cons byte rest => simp [stop byte rfl]

theorem exists_digits (bytes : Bytes) : ∃ digits, bytes = digits ++ afterDigits bytes ∧
    (∀ byte ∈ digits, isDigitByte byte = true) ∧ digitsOf bytes = digits.map (·.toNat - 48) :=
  ⟨bytes.takeWhile isDigitByte, List.takeWhile_append_dropWhile.symm,
    fun _ member => List.mem_takeWhile_imp member, rfl⟩

theorem not_isDigitByte_of_stops {rest : Bytes} (stops : Stops rest) :
    ∀ byte ∈ rest.head?, isDigitByte byte = false := by
  intro byte first
  have other := stops byte first
  simp only [goesOn, Bool.or_eq_false_iff] at other
  exact other.1.1.1

theorem exists_of_readFraction {bytes rest : Bytes} {fraction : Option (List Nat)}
    (read : readFraction bytes = some (fraction, rest)) :
    ∃ text, bytes = text ++ rest ∧ (∀ byte ∈ text.head?, byte = 46) ∧
      ∀ after, (∀ byte ∈ after.head?, isDigitByte byte = false ∧ byte ≠ 46) →
        readFraction (text ++ after) = some (fraction, after) := by
  have absent (after : Bytes) (other : ∀ byte ∈ after.head?, isDigitByte byte = false ∧ byte ≠ 46) :
      readFraction ([] ++ after) = some (none, after) := by
    cases after with
    | nil => rfl
    | cons byte after => exact if_neg (other byte rfl).2
  unfold readFraction at read
  split at read
  next mark later =>
    split at read
    next point =>
      subst point
      obtain ⟨digits, parted, all, values⟩ := exists_digits later
      dsimp only at read
      split at read
      next => cases read
      next filled =>
        cases read
        refine ⟨46 :: digits, by rw [List.cons_append, ← parted], by simp, fun after other => ?_⟩
        obtain ⟨same, behind⟩ := digits_append all fun byte first => (other byte first).1
        rw [List.cons_append, readFraction, if_pos rfl, same, behind, ← values]
        exact if_neg filled
    next =>
      cases read
      exact ⟨[], rfl, nofun, absent⟩
  next =>
    cases read
    exact ⟨[], rfl, nofun, absent⟩

def exponentSign : Bytes → Bool × Bytes
  | sign :: more =>
    if sign = 43 then (false, more) else if sign = 45 then (true, more) else (false, sign :: more)
  | [] => (false, [])

theorem readExponent_cons {mark : UInt8} (isMark : (mark = 101 || mark = 69) = true) (rest : Bytes) :
    readExponent (mark :: rest) =
      if (digitsOf (exponentSign rest).2).isEmpty then none
      else some (some ((exponentSign rest).1, digitsOf (exponentSign rest).2),
        afterDigits (exponentSign rest).2) := by
  unfold readExponent
  dsimp only
  rw [if_pos isMark]
  cases rest <;> rfl

theorem exists_of_exponentSign (bytes : Bytes) : ∃ sign, bytes = sign ++ (exponentSign bytes).2 ∧
    ∀ after, (∀ byte ∈ after.head?, isDigitByte byte = true) →
      exponentSign (sign ++ after) = ((exponentSign bytes).1, after) := by
  have unsigned (after : Bytes) (digit : ∀ byte ∈ after.head?, isDigitByte byte = true) :
      exponentSign ([] ++ after) = (false, after) := by
    cases after with
    | nil => rfl
    | cons byte after =>
      have plus : byte ≠ 43 := by
        rintro rfl
        exact absurd (digit 43 rfl) (by decide)
      have minus : byte ≠ 45 := by
        rintro rfl
        exact absurd (digit 45 rfl) (by decide)
      rw [List.nil_append, exponentSign, if_neg plus, if_neg minus]
  cases bytes with
  | nil => exact ⟨[], rfl, unsigned⟩
  | cons sign more =>
    unfold exponentSign
    dsimp only
    split
    next plus => exact ⟨[43], by rw [plus]; rfl, fun _ _ => rfl⟩
    next =>
      split
      next minus => exact ⟨[45], by rw [minus]; rfl, fun _ _ => rfl⟩
      next => exact ⟨[], rfl, unsigned⟩

theorem exists_of_readExponent {bytes rest : Bytes} {exponent : Option (Bool × List Nat)}
    (read : readExponent bytes = some (exponent, rest)) :
    ∃ text, bytes = text ++ rest ∧ (∀ byte ∈ text.head?, isDigitByte byte = false ∧ byte ≠ 46) ∧
      ∀ after, Stops after → readExponent (text ++ after) = some (exponent, after) := by
  have absent (after : Bytes) (stops : Stops after) : readExponent ([] ++ after) = some (none, after) := by
    cases after with
    | nil => rfl
    | cons byte after =>
      have other := stops byte rfl
      simp only [goesOn, Bool.or_eq_false_iff, decide_eq_false_iff_not] at other
      exact if_neg (by simp [other.1.2, other.2])
  cases bytes with
  | nil =>
    cases read
    exact ⟨[], rfl, nofun, absent⟩
  | cons mark later =>
    by_cases isMark : (mark = 101 || mark = 69) = true
    · rw [readExponent_cons isMark] at read
      obtain ⟨sign, signed, sameSign⟩ := exists_of_exponentSign later
      obtain ⟨digits, parted, all, values⟩ := exists_digits (exponentSign later).2
      split at read
      next => cases read
      next filled =>
        cases read
        refine ⟨mark :: (sign ++ digits), ?_, ?_, fun after stops => ?_⟩
        · rw [List.cons_append, List.append_assoc, ← parted, ← signed]
        · rintro byte ⟨⟩
          simp only [Bool.or_eq_true, decide_eq_true_eq] at isMark
          rcases isMark with rfl | rfl <;> decide
        · obtain ⟨same, behind⟩ := digits_append all (not_isDigitByte_of_stops stops)
          have first : ∀ byte ∈ (digits ++ after).head?, isDigitByte byte = true := by
            intro byte isFirst
            cases digits with
            | nil =>
              rw [values] at filled
              exact absurd rfl filled
            | cons digit digits =>
              cases isFirst
              exact all _ List.mem_cons_self
          rw [List.cons_append, readExponent_cons isMark, List.append_assoc, sameSign _ first, same, behind,
            ← values]
          exact if_neg filled
    · unfold readExponent at read
      dsimp only at read
      rw [if_neg isMark] at read
      cases read
      exact ⟨[], rfl, nofun, absent⟩

theorem exists_of_readUnsigned {negative : Bool} {bytes rest : Bytes} {literal : Literal}
    (read : readUnsigned negative bytes = some (literal, rest)) :
    ∃ text, text ≠ [] ∧ bytes = text ++ rest ∧
      ∀ after, Stops after → readUnsigned negative (text ++ after) = some (literal, after) := by
  obtain ⟨digits, parted, all, values⟩ := exists_digits bytes
  rw [readUnsigned] at read
  dsimp only at read
  split at read
  next => cases read
  next filled =>
    simp only [Option.bind_eq_bind, Option.bind_eq_some_iff] at read
    obtain ⟨⟨fraction, later⟩, point, ⟨exponent, last⟩, mark, read⟩ := read
    cases read
    obtain ⟨fractionText, fractionParted, fractionFirst, fractionAgain⟩ := exists_of_readFraction point
    obtain ⟨exponentText, exponentParted, exponentFirst, exponentAgain⟩ := exists_of_readExponent mark
    have nonempty : digits ≠ [] := by
      rintro rfl
      rw [values] at filled
      exact filled rfl
    refine ⟨digits ++ (fractionText ++ exponentText), by simp [nonempty], ?_, fun after stops => ?_⟩
    · rw [List.append_assoc, List.append_assoc, ← exponentParted, ← fractionParted, ← parted]
    · have exponentStop : ∀ byte ∈ (exponentText ++ after).head?, isDigitByte byte = false ∧ byte ≠ 46 := by
        intro byte first
        cases exponentText with
        | nil =>
          have other := stops byte first
          simp only [goesOn, Bool.or_eq_false_iff, decide_eq_false_iff_not] at other
          exact other.1.1
        | cons start exponentText => exact exponentFirst byte first
      have fractionStop : ∀ byte ∈ (fractionText ++ (exponentText ++ after)).head?,
          isDigitByte byte = false := by
        intro byte first
        cases fractionText with
        | nil => exact (exponentStop byte first).1
        | cons start fractionText =>
          rw [fractionFirst byte first]
          rfl
      obtain ⟨same, behind⟩ := digits_append all fractionStop
      rw [readUnsigned, List.append_assoc, List.append_assoc]
      dsimp only
      rw [same, behind, ← values, if_neg filled, fractionAgain _ exponentStop]
      simp only [Option.bind_eq_bind, Option.bind_some, exponentAgain _ stops]

def unit? (bytes : Bytes) : Option Nat :=
  (readUnit? bytes).map (·.1)

/-- A piece at the start of what is left of a string: the bytes that it stands for, if it is Unicode, and
what follows it. -/
inductive Piece : Bytes → Option Bytes → Bytes → Prop where
  | plain {byte : UInt8} {after : Bytes} (notQuote : byte ≠ 34) (notEscape : byte ≠ 92)
    (visible : ¬ byte < 32) : Piece (byte :: after) (some [byte]) after
  | escape {letter byte : UInt8} {after : Bytes} (value : escaped? letter = some byte) :
    Piece (92 :: letter :: after) (some [byte]) after
  | single {a b c d : UInt8} {code : Nat} {after : Bytes} (value : hexQuad? a b c d = some code)
    (proper : ¬ (0xd800 ≤ code ∧ code < 0xe000)) :
    Piece (92 :: 117 :: a :: b :: c :: d :: after) (some (Utf8.encodeChar (Char.ofNat code))) after
  | pair {a b c d a' b' c' d' : UInt8} {code second : Nat} {after : Bytes}
    (value : hexQuad? a b c d = some code) (value' : hexQuad? a' b' c' d' = some second)
    (high : 0xd800 ≤ code ∧ code < 0xdc00) (low : 0xdc00 ≤ second ∧ second < 0xe000) :
    Piece (92 :: 117 :: a :: b :: c :: d :: 92 :: 117 :: a' :: b' :: c' :: d' :: after)
      (some (Utf8.encodeChar (Char.ofNat (0x10000 + (code - 0xd800) * 1024 + (second - 0xdc00))))) after
  | half {a b c d : UInt8} {code : Nat} {after : Bytes} (value : hexQuad? a b c d = some code)
    (isHalf : 0xd800 ≤ code ∧ code < 0xe000)
    (alone : code < 0xdc00 → ∀ second, unit? after = some second → ¬ (0xdc00 ≤ second ∧ second < 0xe000)) :
    Piece (92 :: 117 :: a :: b :: c :: d :: after) none after

def join (piece text : Option Bytes) : Option Bytes :=
  piece.bind fun bytes => text.map (bytes ++ ·)

theorem readUnit?_eq_some {bytes after : Bytes} {code : Nat} : readUnit? bytes = some (code, after) ↔
    ∃ a b c d, bytes = 92 :: 117 :: a :: b :: c :: d :: after ∧ hexQuad? a b c d = some code := by
  constructor
  · intro read
    unfold readUnit? at read
    split at read
    next a b c d rest =>
      obtain ⟨value, known, same⟩ := Option.map_eq_some_iff.mp read
      cases same
      exact ⟨a, b, c, d, rfl, known⟩
    next => cases read
  · rintro ⟨a, b, c, d, rfl, known⟩
    rw [readUnit?, known]
    rfl

theorem readUnit?_of_ne {bytes : Bytes} {byte : UInt8} (other : byte ≠ 92) : readUnit? (byte :: bytes) = none := by
  unfold readUnit?
  split
  next same =>
    cases same
    exact absurd rfl other
  next => rfl

theorem readUnit?_of_escaped? {letter byte : UInt8} (value : escaped? letter = some byte) (after : Bytes) :
    readUnit? (92 :: letter :: after) = none := by
  unfold readUnit?
  split
  next same =>
    cases same
    cases value
  next => rfl

/-- Puts a piece before a text, which is no text any more if the piece is not Unicode. -/
def prepend : (piece : Option Bytes) → Option (Option Bytes × Bytes) → Option (Option Bytes × Bytes)
  | some bytes => putBefore bytes
  | none => spoil

theorem prepend_eq_some (piece : Option Bytes) {read : Option (Option Bytes × Bytes)} {text : Option Bytes}
    {rest : Bytes} : prepend piece read = some (text, rest) ↔
      ∃ inner, read = some (inner, rest) ∧ text = join piece inner := by
  cases read with
  | none => cases piece <;> simp [prepend, putBefore, spoil]
  | some read =>
    constructor
    · intro found
      cases piece with
      | none =>
        cases found
        exact ⟨read.1, rfl, rfl⟩
      | some bytes =>
        cases found
        exact ⟨read.1, rfl, rfl⟩
    · rintro ⟨inner, ⟨⟩, rfl⟩
      cases piece <;> rfl

section Cases

variable {fuel unit : Nat} {bytes rest later after : Bytes} {text : Option Bytes}

/-- A piece stands at the start, and the rest of the string is read behind it. -/
def BeginsWithPiece (fuel : Nat) (bytes : Bytes) (text : Option Bytes) (rest : Bytes) : Prop :=
  ∃ piece after inner, Piece bytes piece after ∧ readString fuel after = some (inner, rest) ∧
    text = join piece inner

theorem Piece.beginsWithPiece {piece : Option Bytes} (begins : Piece bytes piece after)
    (read : prepend piece (readString fuel after) = some (text, rest)) :
    BeginsWithPiece fuel bytes text rest := by
  obtain ⟨inner, held, joined⟩ := (prepend_eq_some piece).mp read
  exact ⟨piece, after, inner, begins, held, joined⟩

theorem beginsWithPiece_of_plain {byte : UInt8} (notQuote : byte ≠ 34) (notEscape : byte ≠ 92)
    (read : readString (fuel + 1) (byte :: later) = some (text, rest)) :
    BeginsWithPiece fuel (byte :: later) text rest := by
  unfold readString at read
  rw [if_neg notQuote, if_neg notEscape] at read
  by_cases control : byte < 32
  · rw [if_pos control] at read
    cases read
  · rw [if_neg control] at read
    exact (Piece.plain notQuote notEscape control).beginsWithPiece read

theorem beginsWithPiece_of_letter (noUnit : readUnit? (92 :: later) = none)
    (read : readString (fuel + 1) (92 :: later) = some (text, rest)) :
    BeginsWithPiece fuel (92 :: later) text rest := by
  unfold readString at read
  rw [if_neg (by decide), if_pos rfl, noUnit] at read
  dsimp only at read
  cases later with
  | nil => cases read
  | cons letter after =>
    dsimp only at read
    cases value : escaped? letter with
    | none =>
      rw [value] at read
      cases read
    | some plain =>
      rw [value] at read
      exact (Piece.escape value).beginsWithPiece read

/-- A unit that is no half of a pair stands for a character by itself. -/
theorem beginsWithPiece_of_single (known : readUnit? (92 :: later) = some (unit, after))
    (proper : ¬ (0xd800 ≤ unit ∧ unit < 0xe000))
    (read : readString (fuel + 1) (92 :: later) = some (text, rest)) :
    BeginsWithPiece fuel (92 :: later) text rest := by
  unfold readString at read
  rw [if_neg (by decide), if_pos rfl, known] at read
  dsimp only at read
  rw [if_neg (by omega), if_neg (by omega)] at read
  obtain ⟨a, b, c, d, same, value⟩ := readUnit?_eq_some.mp known
  rw [same]
  exact (Piece.single value proper).beginsWithPiece read

/-- The second half of a pair is nothing without the first. -/
theorem beginsWithPiece_of_low (known : readUnit? (92 :: later) = some (unit, after))
    (low : 0xdc00 ≤ unit ∧ unit < 0xe000)
    (read : readString (fuel + 1) (92 :: later) = some (text, rest)) :
    BeginsWithPiece fuel (92 :: later) text rest := by
  unfold readString at read
  rw [if_neg (by decide), if_pos rfl, known] at read
  dsimp only at read
  rw [if_neg (by omega), if_pos low] at read
  obtain ⟨a, b, c, d, same, value⟩ := readUnit?_eq_some.mp known
  rw [same]
  have isHalf : Piece (92 :: 117 :: a :: b :: c :: d :: after) none after :=
    .half value ⟨by omega, low.2⟩ fun below => absurd low.1 (by omega)
  exact isHalf.beginsWithPiece read

/-- The first half of a pair makes a character with the second, if that is the next unit. -/
theorem beginsWithPiece_of_high (known : readUnit? (92 :: later) = some (unit, after))
    (high : 0xd800 ≤ unit ∧ unit < 0xdc00)
    (read : readString (fuel + 1) (92 :: later) = some (text, rest)) :
    BeginsWithPiece fuel (92 :: later) text rest := by
  unfold readString at read
  rw [if_neg (by decide), if_pos rfl, known] at read
  dsimp only at read
  rw [if_pos high] at read
  obtain ⟨a, b, c, d, same, value⟩ := readUnit?_eq_some.mp known
  rw [same]
  have isHalf (alone : ∀ second, unit? after = some second → ¬ (0xdc00 ≤ second ∧ second < 0xe000)) :
      Piece (92 :: 117 :: a :: b :: c :: d :: after) none after :=
    .half value ⟨high.1, by omega⟩ fun _ => alone
  cases known' : readUnit? after with
  | none =>
    rw [known'] at read
    have alone : ∀ second, unit? after = some second → ¬ (0xdc00 ≤ second ∧ second < 0xe000) := by
      intro second found
      rw [unit?, known'] at found
      cases found
    exact (isHalf alone).beginsWithPiece read
  | some next =>
    obtain ⟨second, last⟩ := next
    rw [known'] at read
    dsimp only at read
    by_cases low : 0xdc00 ≤ second ∧ second < 0xe000
    · rw [if_pos low] at read
      obtain ⟨a', b', c', d', rfl, value'⟩ := readUnit?_eq_some.mp known'
      exact (Piece.pair value value' high low).beginsWithPiece read
    · rw [if_neg low] at read
      have alone : ∀ third, unit? after = some third → ¬ (0xdc00 ≤ third ∧ third < 0xe000) := by
        intro third found
        rw [unit?, known'] at found
        cases found
        exact low
      exact (isHalf alone).beginsWithPiece read

theorem readString_cases (read : readString (fuel + 1) bytes = some (text, rest)) :
    (bytes = 34 :: rest ∧ text = some []) ∨ BeginsWithPiece fuel bytes text rest := by
  cases bytes with
  | nil => cases read
  | cons byte later =>
    by_cases quote : byte = 34
    · subst quote
      cases read
      exact .inl ⟨rfl, rfl⟩
    refine .inr ?_
    by_cases isEscape : byte = 92
    · subst isEscape
      cases known : readUnit? (92 :: later) with
      | none => exact beginsWithPiece_of_letter known read
      | some found =>
        obtain ⟨unit, after⟩ := found
        by_cases high : 0xd800 ≤ unit ∧ unit < 0xdc00
        · exact beginsWithPiece_of_high known high read
        by_cases low : 0xdc00 ≤ unit ∧ unit < 0xe000
        · exact beginsWithPiece_of_low known low read
        · exact beginsWithPiece_of_single known (by omega) read
    · exact beginsWithPiece_of_plain quote isEscape read

end Cases

theorem Piece.readString {fuel : Nat} {bytes after rest : Bytes} {piece inner : Option Bytes}
    (begins : Piece bytes piece after) (read : Json.readString fuel after = some (inner, rest)) :
    Json.readString (fuel + 1) bytes = some (join piece inner, rest) := by
  cases begins with
  | plain notQuote notEscape visible =>
    unfold Json.readString
    rw [if_neg notQuote, if_neg notEscape, if_neg visible]
    exact (prepend_eq_some (some _)).mpr ⟨inner, read, rfl⟩
  | escape value =>
    rw [Json.readString, if_neg (by decide), if_pos rfl, readUnit?_of_escaped? value]
    dsimp only
    rw [value]
    exact (prepend_eq_some (some _)).mpr ⟨inner, read, rfl⟩
  | single value proper =>
    rw [Json.readString, if_neg (by decide), if_pos rfl, readUnit?_eq_some.mpr ⟨_, _, _, _, rfl, value⟩]
    dsimp only
    rw [if_neg (by omega), if_neg (by omega)]
    exact (prepend_eq_some (some _)).mpr ⟨inner, read, rfl⟩
  | pair value value' high low =>
    rw [Json.readString, if_neg (by decide), if_pos rfl, readUnit?_eq_some.mpr ⟨_, _, _, _, rfl, value⟩]
    dsimp only
    rw [if_pos high, readUnit?_eq_some.mpr ⟨_, _, _, _, rfl, value'⟩]
    dsimp only
    rw [if_pos low]
    exact (prepend_eq_some (some _)).mpr ⟨inner, read, rfl⟩
  | half value isHalf alone =>
    rw [Json.readString, if_neg (by decide), if_pos rfl, readUnit?_eq_some.mpr ⟨_, _, _, _, rfl, value⟩]
    dsimp only
    have spoilt := (prepend_eq_some none).mpr ⟨inner, read, rfl⟩
    split
    next high =>
      split
      next second last known =>
        rw [if_neg (alone high.2 second (by rw [unit?, known]; rfl))]
        exact spoilt
      next => exact spoilt
    next notHigh =>
      rw [if_pos (by omega)]
      exact spoilt

/-- A piece is found before whatever begins with the same unit. -/
theorem Piece.append {bytes after : Bytes} {piece : Option Bytes} (begins : Piece bytes piece after) :
    ∃ lead, lead ≠ [] ∧ bytes = lead ++ after ∧ ∀ other, unit? other = unit? after →
      Piece (lead ++ other) piece other ∧ unit? (lead ++ other) = unit? bytes := by
  have unit {a b c d : UInt8} {code : Nat} (value : hexQuad? a b c d = some code) (rest : Bytes) :
      unit? (92 :: 117 :: a :: b :: c :: d :: rest) = some code := by
    rw [unit?, readUnit?_eq_some.mpr ⟨a, b, c, d, rfl, value⟩]
    rfl
  cases begins with
  | @plain byte after notQuote notEscape visible =>
    refine ⟨[byte], by simp, rfl, fun other same => ⟨.plain notQuote notEscape visible, ?_⟩⟩
    rw [List.singleton_append, unit?, unit?, readUnit?_of_ne notEscape, readUnit?_of_ne notEscape]
  | @escape letter byte after value =>
    refine ⟨[92, letter], by simp, rfl, fun other same => ⟨.escape value, ?_⟩⟩
    rw [unit?, unit?, readUnit?_of_escaped? value]
    exact congrArg _ (readUnit?_of_escaped? value other)
  | @single a b c d code after value proper =>
    refine ⟨[92, 117, a, b, c, d], by simp, rfl, fun other same => ⟨.single value proper, ?_⟩⟩
    rw [unit value]
    exact unit value other
  | @pair a b c d a' b' c' d' code second after value value' high low =>
    refine ⟨[92, 117, a, b, c, d, 92, 117, a', b', c', d'], by simp, rfl,
      fun other same => ⟨.pair value value' high low, ?_⟩⟩
    rw [unit value]
    exact unit value _
  | @half a b c d code after value isHalf alone =>
    refine ⟨[92, 117, a, b, c, d], by simp, rfl, fun other same => ⟨.half value isHalf ?_, ?_⟩⟩
    · exact fun below second found => alone below second (same.symm.trans found)
    · rw [unit value]
      exact unit value other

theorem exists_of_readString {fuel : Nat} {bytes rest : Bytes} {value : Option Bytes}
    (read : readString fuel bytes = some (value, rest)) :
    ∃ text, bytes = text ++ rest ∧ ∀ after, unit? (text ++ after) = unit? bytes ∧
      ∀ fuel', text.length ≤ fuel' → readString fuel' (text ++ after) = some (value, after) := by
  induction fuel generalizing bytes value with
  | zero => cases bytes <;> cases read
  | succ fuel ih =>
    obtain ⟨rfl, rfl⟩ | ⟨piece, later, inner, begins, held, rfl⟩ := readString_cases read
    · refine ⟨[34], rfl, fun after => ⟨?_, fun fuel' enough => ?_⟩⟩
      · rw [List.singleton_append, unit?, unit?, readUnit?_of_ne (by decide), readUnit?_of_ne (by decide)]
      · obtain ⟨fuel', rfl⟩ := Nat.exists_eq_add_one.mpr enough
        rfl
    · obtain ⟨text, rfl, again⟩ := ih held
      obtain ⟨lead, nonempty, rfl, found⟩ := begins.append
      refine ⟨lead ++ text, by rw [List.append_assoc], fun after => ?_⟩
      obtain ⟨sameUnit, reread⟩ := again after
      obtain ⟨begins', unit⟩ := found (text ++ after) sameUnit
      rw [List.append_assoc]
      refine ⟨unit, fun fuel' enough => ?_⟩
      have positive := List.length_pos_iff.mpr nonempty
      rw [List.length_append] at enough
      obtain ⟨fuel', rfl⟩ := Nat.exists_eq_add_one.mpr (show 0 < fuel' by omega)
      exact begins'.readString (reread fuel' (by omega))

theorem exists_of_readText {fuel : Nat} {bytes rest : Bytes} {value : Option String}
    (read : readText fuel bytes = some (value, rest)) :
    ∃ text, bytes = text ++ rest ∧ ∀ after fuel', text.length ≤ fuel' →
      readText fuel' (text ++ after) = some (value, after) := by
  obtain ⟨⟨inner, last⟩, held, same⟩ := Option.map_eq_some_iff.mp read
  cases same
  obtain ⟨text, parted, again⟩ := exists_of_readString held
  refine ⟨text, parted, fun after fuel' enough => ?_⟩
  rw [readText, (again after).2 fuel' enough]
  rfl

end BearerIdentity.Json
