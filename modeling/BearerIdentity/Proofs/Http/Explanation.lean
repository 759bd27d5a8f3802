import BearerIdentity.Http.Classification
import BearerIdentity.Proofs.Json.Layout

set_option autoImplicit false

/- What the body of an answer without success explains. Nothing but its members `error` and
`error_description` counts, or what has their places in an array. -/

namespace BearerIdentity.Refusal

open Json

variable {body : Bytes} {report : Report} {node : Node} {depth : Nat}

/-- The body is one value, and gives this error and this description. -/
structure Explains (body : Bytes) (report : Report) : Prop where
  ended : ∃ rest, (read body).2 = some rest ∧ ∀ byte ∈ rest, isBlankByte byte = true
  laidOut : (read body).1.IsLaidOut ["error", "error_description"] 2
  code : Gives IsText ((read body).1.part? "error" 0) report.code
  description : Gives IsText ((read body).1.part? "error_description" 1) report.description

namespace Report

theorem reaches_fields : Record.Reaches fields 2
  | 0 => by simp [fields, Field.placed]
  | 1 => by simp [fields, Field.placed]
  | count + 2 => by simp [fields]

theorem owns_code : Record.Owns fields "error" 0 (.option .string) code where
  distinct := by decide
  own := ⟨_, rfl, rfl, Record.fills_of_set fun _ _ => rfl⟩
  spares := List.forall_mem_cons.mpr ⟨fun other => absurd rfl other,
    List.forall_mem_singleton.mpr fun _ => Record.spares_of_set fun _ _ => rfl⟩

theorem owns_description : Record.Owns fields "error_description" 1 (.option .string) description where
  distinct := by decide
  own := ⟨_, rfl, rfl, Record.fills_of_set fun _ _ => rfl⟩
  spares := List.forall_mem_cons.mpr ⟨fun _ => Record.spares_of_set fun _ _ => rfl,
    List.forall_mem_singleton.mpr fun other => absurd rfl other⟩

theorem code_of_decoded (decoded : Record.decoder fields ⟨none, none⟩ depth node = .ok report) :
    Gives IsText (node.part? "error" 0) report.code :=
  Record.gives_of_decoder isText_of_read owns_code rfl decoded

theorem description_of_decoded (decoded : Record.decoder fields ⟨none, none⟩ depth node = .ok report) :
    Gives IsText (node.part? "error_description" 1) report.description :=
  Record.gives_of_decoder isText_of_read owns_description rfl decoded

theorem exists_decoded (depth : Nat) (laidOut : node.IsLaidOut ["error", "error_description"] 2)
    (code : Gives IsText (node.part? "error" 0) report.code)
    (description : Gives IsText (node.part? "error_description" 1) report.description) :
    ∃ found, Record.decoder fields ⟨none, none⟩ (depth + 1) node = .ok found := by
  refine Record.exists_of_isLaidOut reaches_fields (by decide) laidOut fun place field told known found => ?_
  match place with
  | 0 =>
    cases known
    rw [show node.part? "error" 0 = some told from found] at code
    exact Record.admits_of_reads (option_string_eq_ok.mpr code)
  | 1 =>
    cases known
    rw [show node.part? "error_description" 1 = some told from found] at description
    exact Record.admits_of_reads (option_string_eq_ok.mpr description)
  | place + 2 => cases known

end Report

/-- What is read of a body is what it explains. -/
theorem decodeAll_eq_ok_iff_explains :
    decodeAll (Record.decoder Report.fields ⟨none, none⟩) body = .ok report ↔ Explains body report := by
  rw [decodeAll_eq_ok, map_skipBlanks_eq_some_nil_iff]
  constructor
  · rintro ⟨decoded, ended⟩
    exact ⟨ended, Record.isLaidOut_of_decoder Report.reaches_fields decoded, Report.code_of_decoded decoded,
      Report.description_of_decoded decoded⟩
  · rintro ⟨ended, laidOut, code, description⟩
    obtain ⟨found, decoded⟩ := Report.exists_decoded 126 laidOut code description
    have sameCode := (Report.code_of_decoded decoded).unique isText_unique code
    have sameDescription := (Report.description_of_decoded decoded).unique isText_unique description
    obtain rfl : found = report := by
      cases found
      cases report
      exact congr (congrArg Report.mk sameCode) sameDescription
    exact ⟨decoded, ended⟩

end BearerIdentity.Refusal
