import BearerIdentity.Client.Introspection
import BearerIdentity.Proofs.Json.Layout

set_option autoImplicit false

/- What the issuer says of a token. It is the member `active` of its answer that tells whether the token is
active, and an answer without that member says that it is not. -/

namespace BearerIdentity.Introspection

open Json

variable {body : Bytes} {answer : Introspection} {node : Node} {depth : Nat}

/-- The body begins with a value that has room for the parts of an answer, and says that the token is
active. -/
structure Affirms (body : Bytes) : Prop where
  laidOut : (read body).1.IsLaidOut ["active", "scope", "client_id", "sub", "exp"] 0
  active : (read body).1.part? "active" 0 = some (.bool true)

theorem reaches_fields : Record.Reaches fields 0 := by
  have unplaced : ∀ field ∈ fields, field.hasPlace = false := by decide
  exact fun count => ⟨fun _ => Nat.zero_le count, fun _ field listed =>
    unplaced field (List.mem_of_mem_drop listed)⟩

theorem owns_active : Record.Owns fields "active" 0 .bool active where
  distinct := by decide
  own := ⟨_, rfl, rfl, Record.fills_of_set fun _ _ => rfl⟩
  spares := by
    simp only [fields, List.forall_mem_cons, List.not_mem_nil, false_implies, implies_true, and_true]
    refine ⟨fun other => absurd rfl other, ?_, ?_, ?_, ?_⟩
    all_goals exact fun _ => Record.spares_of_set fun _ _ => rfl

theorem bool_eq_ok {level : Nat} {told : Node} {value : Bool} :
    Decoder.bool level told = .ok value ↔ told = .bool value := by
  constructor
  · intro read
    unfold Decoder.bool at read
    split at read
    · cases read
      rfl
    · exact absurd read refuse_ne_ok
  · rintro rfl
    rfl

theorem active_of_decoded (decoded : decoder depth node = .ok answer) :
    (node.part? "active" 0 = none ∧ answer.active = false) ∨
      node.part? "active" 0 = some (.bool answer.active) := by
  rcases Record.part_of_decoder owns_active decoded with kept | ⟨told, level, found, read⟩
  · exact .inl kept
  · rw [bool_eq_ok.mp read] at found
    exact .inr found

/-- Without the member a token is not active, and an answer that is broken off says nothing. -/
example :
    ["\x7b\"active\":true\x7d", "\x7b\"scope\":\"api\"\x7d", "\x7b\"active\":false\x7d",
      "\x7b\"active\":true,"].map (fun body => (decodeStart decoder (Utf8.ofString body)).toOption.map (·.active)) =
        [some true, some false, some false, none] := by
  decide +kernel

theorem affirms_of_decoded (decoded : decodeStart decoder body = .ok answer) (active : answer.active = true) :
    Affirms body := by
  refine ⟨Record.isLaidOut_of_decoder reaches_fields decoded, ?_⟩
  rcases active_of_decoded decoded with ⟨-, inactive⟩ | told
  · rw [active] at inactive
    cases inactive
  · rw [told, active]

end BearerIdentity.Introspection
