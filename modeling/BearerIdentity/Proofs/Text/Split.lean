import BearerIdentity.Text.Split
import Mathlib.Data.List.Basic

set_option autoImplicit false

namespace BearerIdentity.Split

theorem atFirst_append {mark : Char} {before : List Char} (clear : mark ∉ before) (after : List Char) :
    atFirst mark (before ++ mark :: after) = some (before, after) := by
  induction before with
  | nil => simp [atFirst]
  | cons c before ih =>
    rw [List.mem_cons, not_or] at clear
    rw [List.cons_append, atFirst, if_neg (Ne.symm clear.1), ih clear.2]
    rfl

theorem eq_append_of_atFirst {mark : Char} {text before after : List Char}
    (cut : atFirst mark text = some (before, after)) : text = before ++ mark :: after ∧ mark ∉ before := by
  induction text generalizing before with
  | nil => cases cut
  | cons c rest ih =>
    rw [atFirst] at cut
    split at cut
    next found =>
      cases cut
      exact ⟨by rw [found]; rfl, List.not_mem_nil⟩
    next other =>
      obtain ⟨⟨inner, later⟩, found, same⟩ := Option.map_eq_some_iff.mp cut
      cases same
      obtain ⟨parted, clear⟩ := ih found
      exact ⟨by rw [parted]; rfl, List.not_mem_cons_of_ne_of_not_mem (Ne.symm other) clear⟩

/-- A text is cut at its first mark. -/
theorem atFirst_eq_some_iff (mark : Char) (text before after : List Char) :
    atFirst mark text = some (before, after) ↔ text = before ++ mark :: after ∧ mark ∉ before := by
  constructor
  · exact eq_append_of_atFirst
  · rintro ⟨rfl, clear⟩
    exact atFirst_append clear after

theorem afterPrefix?_eq_some_iff (head text rest : List Char) :
    afterPrefix? head text = some rest ↔ text = head ++ rest := by
  induction head generalizing text with
  | nil => simp [afterPrefix?]
  | cons h head ih =>
    cases text with
    | nil => simp [afterPrefix?]
    | cons c text =>
      by_cases same : h = c
      · simp [afterPrefix?, same, ih]
      · simp [afterPrefix?, same, Ne.symm same]

theorem beforeSuffix?_eq_some_iff (tail text body : List Char) :
    beforeSuffix? tail text = some body ↔ text = body ++ tail := by
  simp only [beforeSuffix?, Option.map_eq_some_iff, afterPrefix?_eq_some_iff]
  constructor
  · rintro ⟨reversed, parted, rfl⟩
    rw [← List.reverse_reverse text, parted, List.reverse_append, List.reverse_reverse]
  · rintro rfl
    exact ⟨body.reverse, List.reverse_append, List.reverse_reverse body⟩

theorem onEvery_ne_nil (isMark : Char → Bool) (text : List Char) : onEvery isMark text ≠ [] := by
  cases text with
  | nil => simp [onEvery]
  | cons c rest =>
    rw [onEvery]
    split
    · simp
    · split <;> simp

/-- The pieces consist of what is in the text. -/
theorem mem_of_mem_onEvery {isMark : Char → Bool} {text piece : List Char} {c : Char}
    (part : piece ∈ onEvery isMark text) (member : c ∈ piece) : c ∈ text := by
  induction text generalizing piece with
  | nil =>
    rw [List.mem_singleton.mp part] at member
    cases member
  | cons first rest ih =>
    rw [onEvery] at part
    split at part
    · rcases List.mem_cons.mp part with rfl | later
      · cases member
      · exact List.mem_cons_of_mem _ (ih later member)
    · split at part
      next empty => exact absurd empty (onEvery_ne_nil _ _)
      next start pieces parted =>
        rw [parted] at ih
        rcases List.mem_cons.mp part with rfl | later
        · rcases List.mem_cons.mp member with rfl | member
          · exact List.mem_cons_self
          · exact List.mem_cons_of_mem _ (ih List.mem_cons_self member)
        · exact List.mem_cons_of_mem _ (ih (List.mem_cons_of_mem _ later) member)

theorem onEvery_of_not_mem {mark : Char} {text : List Char} (clear : mark ∉ text) :
    onEvery (· == mark) text = [text] := by
  induction text with
  | nil => rfl
  | cons c rest ih =>
    rw [List.mem_cons, not_or] at clear
    have other : (c == mark) = false := by simpa using Ne.symm clear.1
    simp [onEvery, other, ih clear.2]

theorem onEvery_append {mark : Char} {piece : List Char} (clear : mark ∉ piece) (rest : List Char) :
    onEvery (· == mark) (piece ++ mark :: rest) = piece :: onEvery (· == mark) rest := by
  induction piece with
  | nil => simp [onEvery]
  | cons c piece ih =>
    rw [List.mem_cons, not_or] at clear
    have other : (c == mark) = false := by simpa using Ne.symm clear.1
    simp [onEvery, other, ih clear.2]

/-- Pieces that are each followed by a mark end with a mark. -/
theorem exists_flatMap_eq_append (mark : Char) {pieces : List (List Char)} (nonempty : pieces ≠ []) :
    ∃ text, pieces.flatMap (· ++ [mark]) = text ++ [mark] := by
  refine ⟨pieces.dropLast.flatMap (· ++ [mark]) ++ pieces.getLast nonempty, ?_⟩
  conv_lhs => rw [← List.dropLast_append_getLast nonempty]
  simp

/-- The pieces with a mark after each are the text with a mark after it. -/
theorem flatMap_onEvery (mark : Char) (text : List Char) :
    (onEvery (· == mark) text).flatMap (· ++ [mark]) = text ++ [mark] := by
  induction text with
  | nil => rfl
  | cons c rest ih =>
    rw [onEvery]
    split
    next found =>
      simp only [List.flatMap_cons, ih, List.nil_append, List.cons_append]
      rw [beq_iff_eq.mp found]
    next other =>
      split
      next empty => exact absurd empty (onEvery_ne_nil _ _)
      next piece pieces parted =>
        rw [parted, List.flatMap_cons] at ih
        rw [List.flatMap_cons, List.cons_append, List.cons_append, ih, List.cons_append]

theorem not_mem_of_mem_onEvery {mark : Char} {text piece : List Char}
    (part : piece ∈ onEvery (· == mark) text) : mark ∉ piece := by
  induction text generalizing piece with
  | nil =>
    rw [List.mem_singleton.mp part]
    exact List.not_mem_nil
  | cons c rest ih =>
    rw [onEvery] at part
    split at part
    next found =>
      rcases List.mem_cons.mp part with rfl | later
      · exact List.not_mem_nil
      · exact ih later
    next other =>
      split at part
      next empty => exact absurd empty (onEvery_ne_nil _ _)
      next first pieces parted =>
        rw [parted] at ih
        rcases List.mem_cons.mp part with rfl | later
        · have differs : mark ≠ c := fun same => other (by simp [same])
          exact List.not_mem_cons_of_ne_of_not_mem differs (ih List.mem_cons_self)
        · exact ih (List.mem_cons_of_mem _ later)

/-- Pieces without a mark are found again. -/
theorem onEvery_of_flatMap {mark : Char} {text : List Char} {pieces : List (List Char)}
    (nonempty : pieces ≠ []) (clear : ∀ piece ∈ pieces, mark ∉ piece)
    (joined : text ++ [mark] = pieces.flatMap (· ++ [mark])) : onEvery (· == mark) text = pieces := by
  induction pieces generalizing text with
  | nil => exact absurd rfl nonempty
  | cons piece pieces ih =>
    have first := clear piece List.mem_cons_self
    by_cases last : pieces = []
    · subst last
      have whole : text = piece := by simpa using joined
      rw [whole, onEvery_of_not_mem first]
    · obtain ⟨rest, after⟩ := exists_flatMap_eq_append mark last
      rw [List.flatMap_cons, after, List.append_assoc, ← List.append_assoc [mark], ← List.append_assoc,
        List.append_cancel_right_eq] at joined
      rw [joined, List.singleton_append, onEvery_append first,
        ih last (fun later part => clear later (List.mem_cons_of_mem _ part)) after.symm]

/-- The pieces are what stands between the marks. -/
theorem onEvery_eq_iff (mark : Char) (text : List Char) (pieces : List (List Char)) :
    onEvery (· == mark) text = pieces ↔
      pieces ≠ [] ∧ (∀ piece ∈ pieces, mark ∉ piece) ∧ text ++ [mark] = pieces.flatMap (· ++ [mark]) := by
  constructor
  · rintro rfl
    exact ⟨onEvery_ne_nil _ _, fun _ => not_mem_of_mem_onEvery, (flatMap_onEvery mark text).symm⟩
  · rintro ⟨nonempty, clear, joined⟩
    exact onEvery_of_flatMap nonempty clear joined

theorem mem_intercalate {separator : List Char} {pieces : List (List Char)} {c : Char}
    (member : c ∈ separator.intercalate pieces) : c ∈ separator ∨ ∃ piece ∈ pieces, c ∈ piece := by
  induction pieces with
  | nil => cases member
  | cons piece rest ih =>
    cases rest with
    | nil =>
      rw [List.intercalate_singleton] at member
      exact .inr ⟨piece, List.mem_cons_self, member⟩
    | cons next rest =>
      rw [List.intercalate_cons_cons, List.mem_append, List.mem_append] at member
      rcases member with (first | mark) | later
      · exact .inr ⟨piece, List.mem_cons_self, first⟩
      · exact .inl mark
      · rcases ih later with mark | ⟨other, listed, member⟩
        · exact .inl mark
        · exact .inr ⟨other, List.mem_cons_of_mem _ listed, member⟩

theorem intercalate_cons (mark : Char) (piece : List Char) (pieces : List (List Char)) :
    [mark].intercalate (piece :: pieces) = piece ++ pieces.flatMap (mark :: ·) := by
  induction pieces generalizing piece with
  | nil => simp
  | cons next rest ih => simp [List.intercalate_cons_cons, ih]

/-- Pieces without a mark that are joined by marks are cut apart again. -/
theorem onEvery_intercalate {mark : Char} {pieces : List (List Char)} (nonempty : pieces ≠ [])
    (clear : ∀ piece ∈ pieces, mark ∉ piece) : onEvery (· == mark) ([mark].intercalate pieces) = pieces := by
  induction pieces with
  | nil => exact absurd rfl nonempty
  | cons piece rest ih =>
    have first := clear piece List.mem_cons_self
    cases rest with
    | nil => rw [List.intercalate_singleton, onEvery_of_not_mem first]
    | cons next rest =>
      rw [List.intercalate_cons_cons, List.append_assoc, List.singleton_append, onEvery_append first,
        ih (List.cons_ne_nil _ _) fun later part => clear later (List.mem_cons_of_mem _ part)]

end BearerIdentity.Split
