import BearerIdentity.Text.Blank
import Mathlib.Data.List.TakeWhile

set_option autoImplicit false

namespace BearerIdentity.Blank

/-- Text without white space at its ends. -/
structure Bare (text : List Char) : Prop where
  first : ∀ c ∈ text.head?, isBlank c = false
  last : ∀ c ∈ text.getLast?, isBlank c = false

/-- A text, what white space at its ends encloses, and that nothing more can be taken away. -/
structure Encloses (text core : List Char) : Prop where
  parted : ∃ left right, text = left ++ core ++ right ∧
    (∀ c ∈ left, isBlank c = true) ∧ ∀ c ∈ right, isBlank c = true
  bare : Bare core

theorem dropWhile_eq_self {isDropped : Char → Bool} {text : List Char}
    (stop : ∀ c ∈ text.head?, isDropped c = false) : text.dropWhile isDropped = text := by
  cases text with
  | nil => rfl
  | cons c rest => simp [stop c rfl]

/-- Characters of a class are cut off before the first one that is not in it. -/
theorem span_append {isKept : Char → Bool} {before rest : List Char} (kept : ∀ c ∈ before, isKept c = true)
    (stop : ∀ c ∈ rest.head?, isKept c = false) :
    (before ++ rest).takeWhile isKept = before ∧ (before ++ rest).dropWhile isKept = rest := by
  rw [List.takeWhile_append_of_pos kept, List.dropWhile_append_of_pos kept, dropWhile_eq_self stop]
  cases rest with
  | nil => simp
  | cons c rest => simp [stop c rfl]

theorem dropWhile_stops {isDropped : Char → Bool} {text : List Char} {c : Char}
    (first : c ∈ (text.dropWhile isDropped).head?) : isDropped c = false := by
  have stop := List.head?_dropWhile_not isDropped text
  rw [Option.mem_def.mp first] at stop
  exact stop

/-- Only characters of the class are dropped, and none is left at the end. -/
theorem exists_dropEnd (isDropped : Char → Bool) (text : List Char) :
    ∃ right, text = dropEnd isDropped text ++ right ∧ (∀ c ∈ right, isDropped c = true) ∧
      ∀ c ∈ (dropEnd isDropped text).getLast?, isDropped c = false := by
  refine ⟨(text.reverse.takeWhile isDropped).reverse, ?_, ?_, ?_⟩
  · rw [dropEnd, ← List.reverse_append, List.takeWhile_append_dropWhile, List.reverse_reverse]
  · intro c taken
    exact List.mem_takeWhile_imp (List.mem_reverse.mp taken)
  · intro c last
    rw [dropEnd, List.getLast?_reverse] at last
    exact dropWhile_stops last

/-- Trimming gives what white space encloses. -/
theorem encloses_trim (text : List Char) : Encloses text (trim text) := by
  obtain ⟨right, parted, blank, bare⟩ := exists_dropEnd isBlank (text.dropWhile isBlank)
  refine ⟨⟨text.takeWhile isBlank, right, ?_, ?_, blank⟩, ?_, bare⟩
  · rw [trim, List.append_assoc, ← parted, List.takeWhile_append_dropWhile]
  · intro c taken
    exact List.mem_takeWhile_imp taken
  · intro c first
    have same : c ∈ (text.dropWhile isBlank).head? := by
      rw [parted, List.head?_append, ← trim, Option.mem_def.mp first]
      rfl
    exact dropWhile_stops same

/-- White space encloses nothing else. -/
theorem Encloses.trim_eq {text core : List Char} (encloses : Encloses text core) : trim text = core := by
  obtain ⟨⟨left, right, rfl, leftBlank, rightBlank⟩, first, last⟩ := encloses
  have stop : ∀ c ∈ core.reverse.head?, isBlank c = false := by
    rw [List.head?_reverse]
    exact last
  cases core with
  | nil =>
    have all : ∀ c ∈ left ++ right, isBlank c = true := by
      intro c member
      rcases List.mem_append.mp member with inLeft | inRight
      · exact leftBlank c inLeft
      · exact rightBlank c inRight
    rw [trim, List.append_nil, List.dropWhile_eq_nil_iff.mpr all]
    rfl
  | cons c core =>
    have start : ((c :: core) ++ right).dropWhile isBlank = (c :: core) ++ right :=
      dropWhile_eq_self first
    rw [trim, List.append_assoc, List.dropWhile_append_of_pos leftBlank, start, dropEnd, List.reverse_append,
      List.dropWhile_append_of_pos (fun d member => rightBlank d (List.mem_reverse.mp member)),
      dropWhile_eq_self stop, List.reverse_reverse]

end BearerIdentity.Blank
