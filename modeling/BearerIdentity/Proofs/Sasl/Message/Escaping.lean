import BearerIdentity.Proofs.Sasl.Message.Header
import BearerIdentity.Proofs.Text.Slice
import Mathlib.Data.Set.Function

set_option autoImplicit false

namespace BearerIdentity.BearerMessage

open Utf8 (slice?)

variable {text escaped : List Char}

def replaced (mark : Char) (code text : List Char) : List Char :=
  text.flatMap fun c => if c = mark then code else [c]

/-- The escape of an equals sign has no comma in it. -/
theorem escape_eq_replaced (text : List Char) :
    escape text = replaced ',' ['=', '2', 'C'] (replaced '=' ['=', '3', 'D'] text) := by
  rw [escape, replaced, replaced, List.flatMap_assoc]
  congr 1
  funext c
  by_cases equals : c = '='
  · rw [if_pos equals, if_pos equals]
    rfl
  · rw [if_neg equals, if_neg equals]
    simp

/-- A text without commas is the escaped form of what it stands for. -/
theorem Unescapes.escape_eq (stands : Unescapes escaped text) (clear : ',' ∉ escaped) : escape text = escaped := by
  induction stands with
  | nil => rfl
  | comma _ ih =>
    simp only [List.mem_cons, not_or] at clear
    rw [escape, List.flatMap_cons, ← escape, ih clear.2.2.2]
    rfl
  | equals _ ih =>
    simp only [List.mem_cons, not_or] at clear
    rw [escape, List.flatMap_cons, ← escape, ih clear.2.2.2]
    rfl
  | @plain c escaped text other _ ih =>
    simp only [List.mem_cons, not_or] at clear
    rw [escape, List.flatMap_cons, ← escape, ih clear.2, if_neg other, if_neg (Ne.symm clear.1)]
    rfl

/-- What is found in the bytes of a text that may have escapes. -/
inductive Found where
  | text (bytes : Bytes)
  /-- An equals sign begins no escape. -/
  | flaw
  /-- A slice would begin or end inside of a character. -/
  | torn

/-- What three bytes stand for, if they are an escape. -/
def escapeOf : Option Bytes → Option UInt8
  | some [61, 50, 67] => some 44
  | some [61, 51, 68] => some 61
  | _ => none

theorem length_lt_of_slice? {rest after : Bytes} {place : Nat}
    (sliced : slice? rest (place + 3) rest.length = some after) : after.length < rest.length := by
  have shorter := Utf8.length_of_slice? sliced
  obtain ⟨⟨inside, -⟩, -⟩ := Utf8.slice?_eq_some_iff.mp sliced
  omega

/-- Looks for the next equals sign in the rest of the bytes and reads the escape that begins there. -/
def findEscapes (out rest : Bytes) : Found :=
  match rest.findIdx? (· = 61) with
  | none => .text (out ++ rest)
  | some place =>
    match slice? rest 0 place with
    | none => .torn
    | some before =>
      match escapeOf (slice? rest place (place + 3)) with
      | none => .flaw
      | some byte =>
        match _ : slice? rest (place + 3) rest.length with
        | none => .torn
        | some after => findEscapes (out ++ before ++ [byte]) after
termination_by rest.length
decreasing_by exact length_lt_of_slice? ‹_›

variable {before after : List Char} {out : Bytes}

/-- The byte of an equals sign stands for nothing else. -/
theorem findIdx?_clear (clear : '=' ∉ before) : (Utf8.encode before).findIdx? (· = 61) = none := by
  rw [List.findIdx?_eq_none_iff]
  intro byte member
  rw [decide_eq_false_iff_not]
  rintro rfl
  have ascii : '='.toNat < 0x80 := by decide
  exact clear (Utf8.mem_of_mem_encode ascii member)

theorem findIdx?_equals (clear : '=' ∉ before) (after : List Char) :
    (Utf8.encode (before ++ '=' :: after)).findIdx? (· = 61) = some (Utf8.encode before).length := by
  have spelled : Utf8.encode ('=' :: after) = 61 :: Utf8.encode after := rfl
  rw [Utf8.encode_append, spelled, List.findIdx?_append, findIdx?_clear clear, List.findIdx?_cons]
  simp

theorem findEscapes_of_clear (clear : '=' ∉ text) :
    findEscapes out (Utf8.encode text) = .text (out ++ Utf8.encode text) := by
  rw [findEscapes, findIdx?_clear clear]

theorem findEscapes_of_escape (byte : UInt8) {code : List Char} (clear : '=' ∉ before)
    (known : escapeOf (some (Utf8.encode ('=' :: code))) = some byte)
    (width : (Utf8.encode ('=' :: code)).length = 3) :
    findEscapes out (Utf8.encode (before ++ '=' :: (code ++ after))) =
      findEscapes (out ++ Utf8.encode before ++ [byte]) (Utf8.encode after) := by
  have measured : (Utf8.encode (before ++ '=' :: code)).length = (Utf8.encode before).length + 3 := by
    rw [Utf8.encode_append, List.length_append, width]
  have window := Utf8.slice?_append before ('=' :: code) after
  rw [← Utf8.encode_append, ← Utf8.encode_append, width, List.cons_append] at window
  have left := Utf8.slice?_after (before ++ '=' :: code) after
  rw [List.append_assoc, List.cons_append, measured] at left
  rw [findEscapes, findIdx?_equals clear]
  dsimp only
  rw [Utf8.slice?_before]
  dsimp only
  rw [window, known]
  dsimp only
  split
  next torn =>
    rw [left] at torn
    cases torn
  next rest sliced =>
    rw [left] at sliced
    cases sliced
    rfl

theorem findEscapes_of_other (clear : '=' ∉ before) (comma : ¬ ['2', 'C'] <+: after)
    (equals : ¬ ['3', 'D'] <+: after) :
    findEscapes out (Utf8.encode (before ++ '=' :: after)) = .flaw := by
  have unknown : escapeOf (slice? (Utf8.encode (before ++ '=' :: after)) (Utf8.encode before).length
      ((Utf8.encode before).length + 3)) = none := by
    unfold escapeOf
    split
    next found =>
      have ascii : ∀ c ∈ ['=', '2', 'C'], c.toNat < 0x80 := by simp
      have leads := (Utf8.slice?_eq_code_iff ascii before ('=' :: after)).mp found
      exact absurd (List.prefix_cons_inj '=' |>.mp leads) comma
    next found =>
      have ascii : ∀ c ∈ ['=', '3', 'D'], c.toNat < 0x80 := by simp
      have leads := (Utf8.slice?_eq_code_iff ascii before ('=' :: after)).mp found
      exact absurd (List.prefix_cons_inj '=' |>.mp leads) equals
    next => rfl
  rw [findEscapes, findIdx?_equals clear]
  dsimp only
  rw [Utf8.slice?_before]
  dsimp only
  rw [unknown]

theorem unescape_append (clear : '=' ∉ before) (rest : List Char) :
    unescape (before ++ rest) = (unescape rest).map (before ++ ·) := by
  induction before with
  | nil => simp
  | cons c before ih =>
    rw [List.mem_cons, not_or] at clear
    rw [List.cons_append, unescape_cons (Ne.symm clear.1), ih clear.2, Option.map_map]
    rfl

def foundFor (stands : Option (List Char)) : Found :=
  stands.elim .flaw fun text => .text (Utf8.encode text)

theorem foundFor_ne_torn (stands : Option (List Char)) : foundFor stands ≠ .torn := by
  cases stands <;> simp [foundFor]

theorem unescape_of_other (comma : ¬ ['2', 'C'] <+: after) (equals : ¬ ['3', 'D'] <+: after) :
    unescape ('=' :: after) = none := by
  rw [Option.eq_none_iff_forall_ne_some]
  intro text read
  have sound := (exists_unescapes_iff _).mp ⟨text, (unescape_eq_some_iff _ text).mp read⟩
  exact ((escaped_equals after).mp sound).1.elim comma equals

/-- What is found behind an escape is put behind what the escape stands for. -/
theorem findEscapes_encode_escape (clear : '=' ∉ before) {code : List Char} {c : Char} {byte : UInt8}
    (known : escapeOf (some (Utf8.encode ('=' :: code))) = some byte)
    (width : (Utf8.encode ('=' :: code)).length = 3) (spelled : Utf8.encode [c] = [byte])
    (stands : unescape ('=' :: (code ++ after)) = (unescape after).map (c :: ·)) (out : List Char)
    (ih : ∀ out, findEscapes (Utf8.encode out) (Utf8.encode after) = foundFor ((unescape after).map (out ++ ·))) :
    findEscapes (Utf8.encode out) (Utf8.encode (before ++ '=' :: (code ++ after))) =
      foundFor ((unescape (before ++ '=' :: (code ++ after))).map (out ++ ·)) := by
  have further : (((unescape after).map (c :: ·)).map (before ++ ·)).map (out ++ ·) =
      (unescape after).map (out ++ before ++ [c] ++ ·) := by
    cases unescape after <;> simp
  have found := ih (out ++ before ++ [c])
  rw [Utf8.encode_append, Utf8.encode_append, spelled] at found
  rw [findEscapes_of_escape byte clear known width, found, unescape_append clear, stands, further]

/-- The escapes found in its bytes are those of the text. -/
theorem findEscapes_encode (out text : List Char) :
    findEscapes (Utf8.encode out) (Utf8.encode text) = foundFor ((unescape text).map (out ++ ·)) := by
  by_cases marked : '=' ∈ text
  · obtain ⟨before, after, rfl, clear⟩ := List.eq_append_cons_of_mem marked
    by_cases comma : ['2', 'C'] <+: after
    · obtain ⟨rest, rfl⟩ := comma
      exact findEscapes_encode_escape clear rfl rfl rfl rfl out fun out => findEscapes_encode out rest
    by_cases equals : ['3', 'D'] <+: after
    · obtain ⟨rest, rfl⟩ := equals
      exact findEscapes_encode_escape clear rfl rfl rfl rfl out fun out => findEscapes_encode out rest
    · rw [findEscapes_of_other clear comma equals, unescape_append clear, unescape_of_other comma equals]
      rfl
  · have plain := unescape_append marked []
    rw [List.append_nil] at plain
    rw [findEscapes_of_clear marked, plain, ← Utf8.encode_append]
    simp [unescape, foundFor]
termination_by text.length

/-- A text that is read without a comma in it is the escaped form of what is read. -/
theorem escape_of_unescape (clear : ',' ∉ escaped) (read : unescape escaped = some text) :
    escape text = escaped :=
  ((unescape_eq_some_iff escaped text).mp read).escape_eq clear

theorem exists_unescape_iff (escaped : List Char) : (∃ text, unescape escaped = some text) ↔ Escaped escaped := by
  simp only [unescape_eq_some_iff]
  exact exists_unescapes_iff escaped

theorem unescape_escape (text : List Char) : unescape (escape text) = some text :=
  (unescape_eq_some_iff _ text).mpr (unescapes_escape text)

theorem bijOn_escape : Set.BijOn escape Set.univ (fun escaped => ',' ∉ escaped ∧ Escaped escaped) := by
  refine ⟨?_, ?_, ?_⟩
  · intro text _
    exact ⟨comma_not_mem_escape text, (exists_unescape_iff _).mp ⟨text, unescape_escape text⟩⟩
  · intro text _ other _ same
    have read := unescape_escape text
    rw [same, unescape_escape other] at read
    exact (Option.some.inj read).symm
  · rintro escaped ⟨clear, sound⟩
    obtain ⟨text, read⟩ := (exists_unescape_iff escaped).mpr sound
    exact ⟨text, trivial, escape_of_unescape clear read⟩

/-- Escaping, by two replacements, is one to one onto the texts without commas in which equals signs begin
escapes only, and is undone by the search for escapes in the bytes, which tears no character. -/
theorem escape_inverse :
    Set.BijOn escape Set.univ (fun escaped => ',' ∉ escaped ∧ Escaped escaped) ∧
    (∀ text, escape text = replaced ',' ['=', '2', 'C'] (replaced '=' ['=', '3', 'D'] text) ∧
      unescape (escape text) = some text ∧ ',' ∉ escape text) ∧
    (∀ escaped, ',' ∉ escaped →
      ((∃ text, unescape escaped = some text) ↔ Escaped escaped) ∧
      ∀ text, unescape escaped = some text → escape text = escaped) ∧
    ∀ text, findEscapes [] (Utf8.encode text) = foundFor (unescape text) ∧
      findEscapes [] (Utf8.encode text) ≠ .torn := by
  refine ⟨bijOn_escape, ?_, ?_, ?_⟩
  · intro text
    exact ⟨escape_eq_replaced text, unescape_escape text, comma_not_mem_escape text⟩
  · intro escaped clear
    exact ⟨exists_unescape_iff escaped, fun text => escape_of_unescape clear⟩
  · intro text
    have found : findEscapes [] (Utf8.encode text) = foundFor (unescape text) := by
      simpa [Utf8.encode] using findEscapes_encode [] text
    exact ⟨found, found ▸ foundFor_ne_torn (unescape text)⟩

/-- The last text has an escape that would end inside of a character. -/
theorem accent_read_back :
    ',' ∉ "é=2C=3D".toList ∧ unescape "é=2C=3D".toList = some "é,=".toList ∧
      escape "é,=".toList = "é=2C=3D".toList ∧
      findEscapes [] (Utf8.encode "=2é".toList) = .flaw := by
  have clear : ',' ∉ "é=2C=3D".toList := by decide
  have read : unescape "é=2C=3D".toList = some "é,=".toList := by decide
  obtain ⟨-, -, readable, faithful⟩ := escape_inverse
  exact ⟨clear, read, (readable _ clear).2 _ read, (faithful "=2é".toList).1.trans rfl⟩

end BearerIdentity.BearerMessage
