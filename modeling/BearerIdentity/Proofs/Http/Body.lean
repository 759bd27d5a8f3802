import BearerIdentity.Http.Exchange
import BearerIdentity.Proofs.Json.Extent

set_option autoImplicit false

namespace BearerIdentity

open Json

variable {bytes text rest : Bytes} {value : Value}

namespace Json

/-- The bytes begin with a value: it has a text of its own, and reading ends where that text does. -/
structure Begins (bytes : Bytes) (value : Value) (text rest : Bytes) : Prop where
  parted : bytes = text ++ rest
  whole : decodeAll decodeValue text = .ok value
  ends : (read bytes).2 = some rest

theorem stops_append_of_blank {blanks : Bytes} (blank : ∀ byte ∈ blanks, isBlankByte byte = true)
    (stops : Stops rest) : Stops (blanks ++ rest) := by
  cases blanks with
  | nil => exact stops
  | cons first blanks =>
    rintro byte ⟨⟩
    exact goesOn_of_isBlankByte (blank _ List.mem_cons_self)

theorem eq_number_of_decodeValue {depth : Nat} {number : Option Number}
    (decoded : decodeValue depth (.number number) = .ok value) : ∃ known, value = .number known := by
  cases number with
  | none =>
    rw [decodeValue] at decoded
    cases decoded
  | some known =>
    rw [decodeValue] at decoded
    cases decoded
    exact ⟨known, rfl⟩

theorem decodeAll_of_decodeStart (ends : (read (text ++ rest)).2 = some rest) :
    decodeAll decodeValue text = .ok value ↔ decodeStart decodeValue (text ++ rest) = .ok value := by
  obtain ⟨text', parted, again⟩ := exists_of_read ends
  obtain rfl := List.append_cancel_right parted
  have alone := again [] fun _ _ => stops_nil
  rw [List.append_nil] at alone
  rw [decodeAll_eq_ok, alone]
  exact and_iff_left rfl

theorem decodeStart_eq_ok : decodeStart decodeValue bytes = .ok value ↔
    ∃ text rest, Begins bytes value text rest := by
  constructor
  · intro decoded
    obtain ⟨rest, ends⟩ := exists_rest_of_decodeValue decoded
    obtain ⟨text, rfl, -⟩ := exists_of_read ends
    exact ⟨text, rest, rfl, (decodeAll_of_decodeStart ends).mpr decoded, ends⟩
  · rintro ⟨text, rest, rfl, whole, ends⟩
    exact (decodeAll_of_decodeStart ends).mp whole

/-- A text is a value as a whole if blanks are all that follows the value at its start. -/
theorem decodeAll_decodeValue_eq_ok : decodeAll decodeValue bytes = .ok value ↔
    ∃ text rest, Begins bytes value text rest ∧ ∀ byte ∈ rest, isBlankByte byte = true := by
  have blank_iff (text rest : Bytes) (begins : Begins bytes value text rest) :
      (read bytes).2.map skipBlanks = some [] ↔ ∀ byte ∈ rest, isBlankByte byte = true := by
    rw [begins.ends, Option.map_some, Option.some.injEq, skipBlanks_eq_nil_iff]
  rw [decodeAll_eq_ok]
  change decodeStart decodeValue bytes = .ok value ∧ _ ↔ _
  rw [decodeStart_eq_ok]
  constructor
  · rintro ⟨⟨text, rest, begins⟩, blank⟩
    exact ⟨text, rest, begins, (blank_iff text rest begins).mp blank⟩
  · rintro ⟨text, rest, begins, blank⟩
    exact ⟨⟨text, rest, begins⟩, (blank_iff text rest begins).mpr blank⟩

/-- Behind a whole text anything may stand, but for what would go on with a number. -/
theorem decodeStart_append (whole : decodeAll decodeValue text = .ok value)
    (apart : ∀ number, value = .number number → Stops rest) :
    decodeStart decodeValue (text ++ rest) = .ok value := by
  obtain ⟨decoded, blank⟩ := decodeAll_eq_ok.mp whole
  obtain ⟨blanks, ends, nothing⟩ := Option.map_eq_some_iff.mp blank
  obtain ⟨inner, parted, again⟩ := exists_of_read ends
  have apart' : Parted (read text).1 (blanks ++ rest) := by
    intro number isNumber
    rw [isNumber] at decoded
    obtain ⟨known, same⟩ := eq_number_of_decodeValue decoded
    exact stops_append_of_blank (skipBlanks_eq_nil_iff.mp nothing) (apart known same)
  have held := again (blanks ++ rest) apart'
  rw [← List.append_assoc, ← parted] at held
  rw [decodeStart, held]
  exact decoded

end Json

namespace Response

/-- A body is read for the value that it begins with. -/
structure ReadsStart (response : Response) : Prop where
  /-- What is read is the value at the start, whatever follows it. -/
  starts : ∀ value, response.json decodeValue = .ok value ↔
    ∃ text rest, Begins response.body value text rest
  /-- The body as a whole is a value if moreover only blanks follow. -/
  whole : ∀ value, decodeAll decodeValue response.body = .ok value ↔
    ∃ text rest, Begins response.body value text rest ∧ ∀ byte ∈ rest, isBlankByte byte = true
  /-- Anything may follow a whole text, but for what would go on with a number. -/
  lenient : ∀ value text rest, response.body = text ++ rest → decodeAll decodeValue text = .ok value →
    (∀ number, value = .number number → Stops rest) → response.json decodeValue = .ok value

theorem json_eq_ok {α : Type} {decoder : Decoder α} {response : Response} {value : α} :
    response.json decoder = .ok value ↔ decodeStart decoder response.body = .ok value := by
  unfold json
  cases decodeStart decoder response.body <;> simp [Except.mapError]

/-- Bodies of responses as JSON. A body is read up to the end of its first value, and what stands behind
that value is never looked at; so a body may be read that is no JSON text as a whole. -/
theorem readsStart (response : Response) : response.ReadsStart where
  starts := fun _ => json_eq_ok.trans decodeStart_eq_ok
  whole := fun _ => decodeAll_decodeValue_eq_ok
  lenient := by
    intro value text rest parted whole apart
    rw [json_eq_ok, parted]
    exact decodeStart_append whole apart

end Response

namespace Doubled

def response : Response where
  status := 200
  retryAfter := none
  body := Utf8.ofString "\x7b\"active\":true\x7d\x7b\"active\":false\x7d"

/-- The value that is read from a body need not be the body. -/
theorem not_always_whole : ¬ ∀ (response : Response) (value : Value),
    response.json decodeValue = .ok value ↔ decodeAll decodeValue response.body = .ok value := by
  intro always
  have read : (response.json decodeValue).toOption.isSome = true := by decide +kernel
  have refused : (decodeAll decodeValue response.body).toOption.isSome = false := by decide +kernel
  obtain ⟨value, held⟩ := Option.isSome_iff_exists.mp read
  rw [toOption_eq_some, always, ← toOption_eq_some] at held
  rw [held] at refused
  cases refused

end Doubled

end BearerIdentity
