import BearerIdentity.Proofs.Text.Percent
import BearerIdentity.Proofs.Text.Split
import BearerIdentity.Url.Form

set_option autoImplicit false

namespace BearerIdentity.Form

def isEscaped (c : Char) : Bool :=
  !(Ascii.isLetter c || Ascii.isDigit c || c = '*' || c = '-' || c = '.' || c = '_' || c = ' ')

def encodePart (text : String) : List Char :=
  (Percent.encode isEscaped text.toList).map fun c => if c = ' ' then '+' else c

def encodePair : String × String → List Char
  | (name, value) => encodePart name ++ '=' :: encodePart value

def encode (pairs : List (String × String)) : String :=
  String.ofList (['&'].intercalate (pairs.map encodePair))

/-- A character that stays in a URL as part of its query. -/
structure IsQueryChar (c : Char) : Prop where
  visible : 0x20 < c.toNat
  kept : c.toNat < 0x80 ∧ Percent.inQuery c = false

theorem isQueryChar_mark : IsQueryChar '&' ∧ IsQueryChar '=' :=
  ⟨⟨by decide, by decide⟩, ⟨by decide, by decide⟩⟩

/-- Before spaces are written as plus signs, there are no such signs. -/
theorem of_mem_encode_isEscaped {text : List Char} {c : Char} (member : c ∈ Percent.encode isEscaped text) :
    c ≠ '+' ∧ c ≠ '&' ∧ c ≠ '=' ∧ (c = ' ' ∨ 0x20 < c.toNat ∧ Percent.inQuery c = false) := by
  obtain ⟨ascii, kind⟩ := Percent.of_mem_encode member
  exact Ascii.of_codes
    (p := fun c => (isEscaped c = false ∨ c = '%' ∨ (Ascii.hexValue? c).isSome = true) →
      c ≠ '+' ∧ c ≠ '&' ∧ c ≠ '=' ∧ (c = ' ' ∨ 0x20 < c.toNat ∧ Percent.inQuery c = false))
    (by decide +kernel) ascii kind

theorem decodePart_encodePart (text : String) : decodePart (encodePart text) = text := by
  have spaced : (encodePart text).map (fun c => if c = '+' then ' ' else c) =
      Percent.encode isEscaped text.toList := by
    rw [encodePart, List.map_map]
    refine (List.map_congr_left fun c member => ?_).trans (List.map_id _)
    have noPlus := (of_mem_encode_isEscaped member).1
    by_cases space : c = ' '
    · simp [space]
    · simp [space, noPlus]
  have read : Utf8.decodeLossy (Utf8.encode text.toList) = text.toList := by
    rw [Utf8.decodeLossy, Utf8.scan_encode, List.map_map]
    exact List.map_id _
  rw [decodePart, spaced, Percent.decode_encode_of_percent (by decide), read, String.ofList_toList]

theorem of_mem_encodePart {text : String} {c : Char} (member : c ∈ encodePart text) :
    c ≠ '&' ∧ c ≠ '=' ∧ IsQueryChar c := by
  obtain ⟨char, written, rfl⟩ := List.mem_map.mp member
  obtain ⟨-, ampersand, equals, kind⟩ := of_mem_encode_isEscaped written
  have ascii := (Percent.of_mem_encode written).1
  split
  next => exact ⟨by decide, by decide, by decide, by decide⟩
  next other =>
    obtain ⟨visible, kept⟩ := kind.resolve_left other
    exact ⟨ampersand, equals, visible, ascii, kept⟩

theorem decodePair_encodePair (pair : String × String) : decodePair (encodePair pair) = pair := by
  have clear : '=' ∉ encodePart pair.1 := fun member => (of_mem_encodePart member).2.1 rfl
  rw [encodePair, decodePair, Split.atFirst_append clear]
  exact Prod.ext (decodePart_encodePart _) (decodePart_encodePart _)

theorem of_mem_encodePair {pair : String × String} {c : Char} (member : c ∈ encodePair pair) :
    c ≠ '&' ∧ IsQueryChar c := by
  rcases List.mem_append.mp member with name | value
  · exact ⟨(of_mem_encodePart name).1, (of_mem_encodePart name).2.2⟩
  · rcases List.mem_cons.mp value with rfl | value
    · exact ⟨by decide, isQueryChar_mark.2⟩
    · exact ⟨(of_mem_encodePart value).1, (of_mem_encodePart value).2.2⟩

/-- The pairs are read back from their query string. -/
theorem decode_encode (pairs : List (String × String)) : decode (encode pairs) = pairs := by
  rw [decode, encode, String.toList_ofList]
  cases pairs with
  | nil => rfl
  | cons pair pairs =>
    have clear : ∀ piece ∈ (pair :: pairs).map encodePair, '&' ∉ piece := by
      intro piece listed member
      obtain ⟨written, -, rfl⟩ := List.mem_map.mp listed
      exact (of_mem_encodePair member).1 rfl
    have filled : ∀ piece ∈ (pair :: pairs).map encodePair, (!piece.isEmpty) = true := by
      intro piece listed
      obtain ⟨written, -, rfl⟩ := List.mem_map.mp listed
      simp [encodePair]
    have nonempty : (pair :: pairs).map encodePair ≠ [] := List.cons_ne_nil _ _
    rw [Split.onEvery_intercalate nonempty clear, List.filter_eq_self.mpr filled, List.map_map]
    exact (List.map_congr_left fun written _ => decodePair_encodePair written).trans (List.map_id _)

/-- A query string is kept as part of a URL. -/
theorem isQueryChar_of_mem_encode {pairs : List (String × String)} {c : Char}
    (member : c ∈ (encode pairs).toList) : IsQueryChar c := by
  rw [encode, String.toList_ofList] at member
  rcases Split.mem_intercalate member with mark | ⟨piece, listed, member⟩
  · rw [List.mem_singleton.mp mark]
    exact isQueryChar_mark.1
  · obtain ⟨pair, -, rfl⟩ := List.mem_map.mp listed
    exact (of_mem_encodePair member).2

end BearerIdentity.Form
