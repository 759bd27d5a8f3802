import BearerIdentity.Proofs.Url.Address
import BearerIdentity.Rendering

set_option autoImplicit false

namespace BearerIdentity.Rendering

open Url (Ipv6.digits Ipv6.readOn Ipv6.exists_mapM_digits Ipv6.not_mem_digits)

/-- Whatever follows the text of a value, the text shows which value it is and where it ends. -/
def IsDelimited {α : Type} (shown : α → String) : Prop :=
  ∀ ⦃left right : α⦄ ⦃before after : List Char⦄,
    (shown left).toList ++ before = (shown right).toList ++ after → left = right ∧ before = after

def readEscape : List Char → Option (Char × List Char)
  | 't' :: rest => some ('\t', rest)
  | 'r' :: rest => some ('\r', rest)
  | 'n' :: rest => some ('\n', rest)
  | '0' :: rest => some ('\x00', rest)
  | '"' :: rest => some ('"', rest)
  | '\\' :: rest => some ('\\', rest)
  | 'u' :: '\x7b' :: rest =>
    ((rest.takeWhile (· != '\x7d')).mapM Ascii.hexValue?).map fun values =>
      (Char.ofNat (Ipv6.readOn 0 values), (rest.dropWhile (· != '\x7d')).tail)
  | _ => none

def readShown : List Char → Option (Char × List Char)
  | [] => none
  | first :: rest => if first = '\\' then readEscape rest else some (first, rest)

theorem readEscape_digits (c : Char) (rest : List Char) :
    readEscape ('u' :: '\x7b' :: (Ipv6.digits c.toNat ++ '\x7d' :: rest)) = some (c, rest) := by
  obtain ⟨values, read, number, -⟩ := Ipv6.exists_mapM_digits c.toNat
  have inside : ∀ digit ∈ Ipv6.digits c.toNat, (digit != '\x7d') = true := by
    intro digit member
    refine bne_iff_ne.mpr ?_
    rintro rfl
    exact Ipv6.not_mem_digits (by decide) c.toNat member
  simp only [readEscape, List.takeWhile_append_of_pos inside, List.dropWhile_append_of_pos inside]
  simp [read, number, Char.ofNat_toNat]

theorem readShown_escape (c : Char) (rest : List Char) :
    readShown ((escape c).toList ++ rest) = some (c, rest) := by
  by_cases special : c ∈ ['\t', '\r', '\n', '\x00', '"', '\\']
  · simp only [List.mem_cons, List.not_mem_nil, or_false] at special
    rcases special with rfl | rfl | rfl | rfl | rfl | rfl <;> rfl
  · simp only [List.mem_cons, List.not_mem_nil, or_false, not_or] at special
    obtain ⟨tab, feed, line, zero, quote, backslash⟩ := special
    rw [escape, if_neg tab, if_neg feed, if_neg line, if_neg zero, if_neg quote, if_neg backslash]
    split
    · rw [Char.toString_eq_singleton, String.toList_singleton]
      exact if_neg backslash
    · have read := readEscape_digits c rest
      simp only [String.toList_append, String.toList_ofList, List.append_assoc]
      exact read

/-- The text of a character, and what follows it, is told apart from any other. -/
theorem isDelimited_escape : IsDelimited escape := by
  intro left right before after same
  have read := readShown_escape left before
  rw [same, readShown_escape] at read
  cases read
  exact ⟨rfl, rfl⟩

def escaped (text : List Char) : List Char :=
  text.flatMap fun c => (escape c).toList

theorem escaped_cons (c : Char) (text rest : List Char) :
    escaped (c :: text) ++ rest = (escape c).toList ++ (escaped text ++ rest) := by
  rw [escaped, List.flatMap_cons, List.append_assoc, ← escaped]

theorem toList_quoted (text : String) (rest : List Char) :
    (quoted text).toList ++ rest = '"' :: (escaped text.toList ++ '"' :: rest) := by
  simp [quoted, escaped, List.flatMap_map]

theorem escape_ne_quote (c : Char) (left right : List Char) :
    '"' :: left ≠ (escape c).toList ++ right := by
  intro same
  have read := readShown_escape c right
  rw [← same] at read
  cases read
  cases same

theorem eq_of_escaped {left right before after : List Char}
    (same : escaped left ++ '"' :: before = escaped right ++ '"' :: after) :
    left = right ∧ before = after := by
  induction left generalizing right with
  | nil =>
    cases right with
    | nil => exact ⟨rfl, List.tail_eq_of_cons_eq same⟩
    | cons d right =>
      rw [escaped_cons] at same
      exact absurd same (escape_ne_quote _ _ _)
  | cons c left ih =>
    cases right with
    | nil =>
      rw [escaped_cons] at same
      exact absurd same.symm (escape_ne_quote _ _ _)
    | cons d right =>
      rw [escaped_cons, escaped_cons] at same
      obtain ⟨rfl, others⟩ := isDelimited_escape same
      obtain ⟨rfl, rest⟩ := ih others
      exact ⟨rfl, rest⟩

theorem isDelimited_quoted : IsDelimited quoted := by
  intro left right before after same
  rw [toList_quoted, toList_quoted] at same
  obtain ⟨texts, rest⟩ := eq_of_escaped (List.tail_eq_of_cons_eq same)
  exact ⟨String.toList_injective texts, rest⟩

section Parts

variable {α β : Type} {shown : α → String} {other : β → String}

theorem IsDelimited.pair (left : IsDelimited shown) (right : IsDelimited other) :
    IsDelimited fun entry : α × β => pair (shown entry.1) (other entry.2) := by
  rintro ⟨a, b⟩ ⟨c, d⟩ before after same
  simp only [Rendering.pair, String.toList_append, List.append_assoc] at same
  obtain ⟨rfl, second⟩ := left (List.append_cancel_left same)
  obtain ⟨rfl, rest⟩ := right (List.append_cancel_left second)
  exact ⟨rfl, List.append_cancel_left rest⟩

theorem IsDelimited.optional (inner : IsDelimited shown) : IsDelimited (optional shown) := by
  intro left right before after same
  cases left with
  | none =>
    cases right with
    | none => exact ⟨rfl, List.append_cancel_left same⟩
    | some value => simp [Rendering.optional] at same
  | some value =>
    cases right with
    | none => simp [Rendering.optional] at same
    | some value' =>
      simp only [Rendering.optional, String.toList_append, List.append_assoc] at same
      obtain ⟨rfl, rest⟩ := inner (List.append_cancel_left same)
      exact ⟨rfl, List.append_cancel_left rest⟩

theorem optional_map (f : β → α) (value : Option β) :
    optional shown (value.map f) = optional (fun item => shown (f item)) value := by
  cases value <;> rfl

def laterItems (shown : α → String) : List α → List Char
  | [] => [']']
  | item :: items => ',' :: ' ' :: (shown item).toList ++ laterItems shown items

theorem toList_intercalate_cons (item : α) (items : List α) :
    (", ".intercalate ((item :: items).map shown)).toList ++ [']'] =
      (shown item).toList ++ laterItems shown items := by
  induction items generalizing item with
  | nil => simp [laterItems]
  | cons next items ih =>
    rw [List.map_cons, List.map_cons, String.intercalate_cons_cons, String.toList_append,
      List.append_assoc, ← List.map_cons, ih]
    simp [laterItems]

theorem toList_list_cons (item : α) (items : List α) (rest : List Char) :
    (list shown (item :: items)).toList ++ rest =
      '[' :: ((shown item).toList ++ (laterItems shown items ++ rest)) := by
  have inside : (", ".intercalate ((item :: items).map shown)).toList ++ [']'] = _ :=
    toList_intercalate_cons item items
  simp only [list, String.toList_append]
  rw [← List.append_assoc (shown item).toList, ← inside]
  simp

theorem laterItems_delimited (inner : IsDelimited shown) {left right : List α} {before after : List Char}
    (same : laterItems shown left ++ before = laterItems shown right ++ after) :
    left = right ∧ before = after := by
  induction left generalizing right with
  | nil =>
    cases right with
    | nil => exact ⟨rfl, List.append_cancel_left same⟩
    | cons item right => cases same
  | cons item left ih =>
    cases right with
    | nil => cases same
    | cons item' right =>
      simp only [laterItems, List.cons_append, List.append_assoc, List.cons.injEq, true_and] at same
      obtain ⟨rfl, others⟩ := inner same
      obtain ⟨rfl, rest⟩ := ih others
      exact ⟨rfl, rest⟩

/-- A list shows where it ends if its items do and are not mistaken for the end. -/
theorem IsDelimited.list (inner : IsDelimited shown)
    (begins : ∀ item, ∃ rest, (shown item).toList = '(' :: rest) :
    IsDelimited (Rendering.list shown) := by
  have filled (item : α) (items : List α) (before after : List Char) :
      (Rendering.list shown []).toList ++ before ≠
        (Rendering.list shown (item :: items)).toList ++ after := by
    obtain ⟨rest, begins⟩ := begins item
    rw [toList_list_cons, begins]
    simp [Rendering.list]
  intro left right before after same
  cases left with
  | nil =>
    cases right with
    | nil => exact ⟨rfl, List.append_cancel_left same⟩
    | cons item items => exact absurd same (filled item items before after)
  | cons item items =>
    cases right with
    | nil => exact absurd same.symm (filled item items after before)
    | cons item' items' =>
      rw [toList_list_cons, toList_list_cons] at same
      obtain ⟨rfl, others⟩ := inner (List.tail_eq_of_cons_eq same)
      obtain ⟨rfl, rest⟩ := laterItems_delimited inner others
      exact ⟨rfl, rest⟩

end Parts

theorem isDelimited_pairs : IsDelimited pairs :=
  (isDelimited_quoted.pair isDelimited_quoted).list fun entry => by simp [pair]

end BearerIdentity.Rendering
