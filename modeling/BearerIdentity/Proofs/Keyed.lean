import Mathlib.Data.List.Nodup

set_option autoImplicit false

namespace BearerIdentity.Keyed

variable {α κ : Type} [BEq κ] [LawfulBEq κ] (key : α → κ)

/-- Puts an entry in the last place and removes those of its key. -/
def put (entries : List α) (entry : α) : List α :=
  entries.filter (key · != key entry) ++ [entry]

theorem nodup_put {entries : List α} (distinct : (entries.map key).Nodup) (entry : α) :
    ((put key entries entry).map key).Nodup := by
  have others : ((entries.filter (key · != key entry)).map key).Nodup :=
    distinct.sublist (List.filter_sublist.map key)
  rw [put, List.map_append, List.nodup_append]
  refine ⟨others, List.nodup_singleton _, ?_⟩
  rintro first listed last added rfl
  obtain ⟨other, kept, rfl⟩ := List.mem_map.mp listed
  have apart := bne_iff_ne.mp (List.mem_filter.mp kept).2
  rw [List.map_singleton, List.mem_singleton] at added
  exact apart added

theorem find?_without (entries : List α) (removed wanted : κ) :
    (entries.filter (key · != removed)).find? (key · == wanted) =
      if removed == wanted then none else entries.find? (key · == wanted) := by
  rw [List.find?_filter]
  by_cases same : removed = wanted
  · subst same
    simp
  · rw [if_neg (mt beq_iff_eq.mp same)]
    congr 1
    funext entry
    by_cases found : key entry = wanted
    · simp [found, Ne.symm same]
    · simp [found]

theorem find?_put (entries : List α) (entry : α) (wanted : κ) :
    (put key entries entry).find? (key · == wanted) =
      if key entry == wanted then some entry else entries.find? (key · == wanted) := by
  rw [put, List.find?_append, find?_without, List.find?_singleton]
  by_cases same : (key entry == wanted) = true
  · rw [if_pos same, if_pos same, if_pos same, Option.none_or]
  · rw [if_neg same, if_neg same, if_neg same, Option.or_none]

end BearerIdentity.Keyed
