import BearerIdentity.Json.Decode
import Mathlib.Data.List.TakeWhile

set_option autoImplicit false

namespace BearerIdentity.Json

variable {α β σ : Type} {depth : Nat} {node : Node}

theorem bind_eq_ok {first : Decoded α} {next : α → Decoded β} {value : β} :
    first.bind next = .ok value ↔ ∃ read, first = .ok read ∧ next read = .ok value := by
  cases first <;> simp [Except.bind]

theorem map_eq_ok {result : Decoded α} {f : α → β} {value : β} :
    result.map f = .ok value ↔ ∃ read, result = .ok read ∧ f read = value := by
  cases result <;> simp [Except.map]

theorem toOption_eq_some {ε : Type} {result : Except ε α} {value : α} :
    result.toOption = some value ↔ result = .ok value := by
  cases result <;> simp [Except.toOption]

theorem exists_of_map_toOption {ε : Type} {result : Except ε α} {f : α → β} {part : β}
    (found : result.toOption.map f = some part) : ∃ value, result = .ok value ∧ f value = part := by
  simpa only [toOption_eq_some] using Option.map_eq_some_iff.mp found

theorem at_eq_ok {step : Step} {result : Decoded α} {value : α} :
    at_ step result = .ok value ↔ result = .ok value := by
  cases result with
  | error flaw => exact ⟨nofun, nofun⟩
  | ok found => exact Iff.rfl

theorem refuse_ne_ok {value : α} : refuse node ≠ .ok value := by
  unfold refuse mismatch
  split <;> simp

theorem decodeAll_eq_ok {decoder : Decoder α} {text : Bytes} {value : α} :
    decodeAll decoder text = .ok value ↔
      decoder depthLimit (read text).1 = .ok value ∧ (read text).2.map skipBlanks = some [] := by
  unfold decodeAll
  rw [bind_eq_ok]
  constructor
  · rintro ⟨found, held, ending⟩
    split at ending
    · rename_i ended
      cases ending
      exact ⟨held, ended⟩
    · cases ending
  · rintro ⟨held, ended⟩
    exact ⟨value, held, if_pos ended⟩

theorem skipBlanks_eq_nil_iff {rest : Bytes} : skipBlanks rest = [] ↔ ∀ byte ∈ rest, isBlankByte byte = true :=
  List.dropWhile_eq_nil_iff

theorem map_skipBlanks_eq_some_nil_iff {rest : Option Bytes} : rest.map skipBlanks = some [] ↔
    ∃ blanks, rest = some blanks ∧ ∀ byte ∈ blanks, isBlankByte byte = true := by
  simp only [Option.map_eq_some_iff, skipBlanks_eq_nil_iff]

theorem lookup_cons_eq_if {κ : Type} [BEq κ] [LawfulBEq κ] [DecidableEq κ] (name other : κ) (entry : α)
    (entries : List (κ × α)) :
    ((name, entry) :: entries).lookup other = if other = name then some entry else entries.lookup other := by
  rw [List.lookup_cons]
  by_cases same : other = name
  · rw [if_pos same, beq_iff_eq.mpr same]
  · rw [if_neg same, beq_false_of_ne same]

theorem lookup_insertSorted (name other : String) (entry : α) (entries : List (String × α)) :
    (insertSorted name entry entries).lookup other =
      if other = name then some entry else entries.lookup other := by
  induction entries with
  | nil => rw [insertSorted, lookup_cons_eq_if]
  | cons first rest ih =>
    obtain ⟨first, kept⟩ := first
    rw [insertSorted]
    by_cases before : name < first
    · rw [if_pos before, lookup_cons_eq_if]
    rw [if_neg before]
    by_cases found : name = first
    · subst found
      rw [if_pos rfl, lookup_cons_eq_if, lookup_cons_eq_if]
      by_cases same : other = name
      · rw [if_pos same, if_pos same]
      · rw [if_neg same, if_neg same, if_neg same]
    · rw [if_neg found, lookup_cons_eq_if, lookup_cons_eq_if, ih]
      by_cases here : other = first
      · rw [if_pos here, if_neg fun same => found (same.symm.trans here), if_pos here]
      · rw [if_neg here, if_neg here]

theorem ne_null_of_decodeValue {value : Value} (other : node ≠ .null)
    (read : decodeValue depth node = .ok value) : value ≠ .null := by
  rintro rfl
  unfold decodeValue at read
  split at read
  · exact other rfl
  · cases read
  · cases read
  · cases read
  · cases read
  · cases read
  · cases read
  · cases read
  · obtain ⟨values, -, closing⟩ := bind_eq_ok.mp read
    split at closing <;> cases closing
  · cases read
  · obtain ⟨values, -, closing⟩ := bind_eq_ok.mp read
    split at closing <;> cases closing

namespace Decoder

def ReadsValues (decoder : Decoder α) : Prop :=
  ∀ depth node read, decoder depth node = .ok read → ∃ value, decodeValue depth node = .ok value

theorem readsValues_decodeValue : ReadsValues decodeValue :=
  fun _ _ value read => ⟨value, read⟩

theorem readsValues_string : ReadsValues string := by
  intro depth node read given
  unfold string at given
  split at given
  · rename_i text
    exact ⟨.string text, by rw [decodeValue]⟩
  · exact absurd given refuse_ne_ok

theorem ReadsValues.option {inner : Decoder α} (reads : inner.ReadsValues) :
    ReadsValues (Decoder.option inner) := by
  intro depth node read given
  unfold Decoder.option at given
  split at given
  · exact ⟨.null, by rw [decodeValue]⟩
  · obtain ⟨value, held, -⟩ := map_eq_ok.mp given
    exact reads _ _ value held

theorem readsValues_ofValue? {accept : Value → Option α} : ReadsValues (ofValue? accept) := by
  intro depth node read given
  obtain ⟨value, held, -⟩ := bind_eq_ok.mp given
  exact ⟨value, held⟩

theorem ReadsValues.items {inner : Decoder α} (reads : inner.ReadsValues) {index : Nat}
    {nodes : List Node} {read : List α} (given : listFrom inner depth index nodes = .ok read) :
    ∃ values, decodeItems depth nodes = .ok values := by
  induction nodes generalizing index read with
  | nil => exact ⟨[], by rw [decodeItems]⟩
  | cons node rest ih =>
    rw [listFrom] at given
    obtain ⟨value, first, given⟩ := bind_eq_ok.mp given
    obtain ⟨others, later, -⟩ := bind_eq_ok.mp given
    obtain ⟨item, held⟩ := reads _ _ value (at_eq_ok.mp first)
    obtain ⟨items, following⟩ := ih later
    exact ⟨item :: items, by rw [decodeItems, held, Except.bind, following]; rfl⟩

theorem ReadsValues.list {inner : Decoder α} (reads : inner.ReadsValues) : ReadsValues (list inner) := by
  intro depth node read given
  unfold Decoder.list at given
  split at given
  · cases given
  · rename_i items closed
    obtain ⟨others, held, given⟩ := bind_eq_ok.mp given
    obtain ⟨values, read⟩ := reads.items held
    split at given
    · rename_i closing
      exact ⟨.array values, by rw [decodeValue, read, Except.bind, if_pos closing]⟩
    · cases given
  · exact absurd given refuse_ne_ok

end Decoder

namespace Record

variable {fields : List (Field σ)} {unknown : Unknown σ} {start : σ}
  {mirrors : σ → List (String × Value) → Prop}

/-- What a member does to a record that mirrors the members before it. -/
def Adds (mirrors : σ → List (String × Value) → Prop) (name : String)
    (read : (depth : Nat) → Node → σ → Decoded σ) : Prop :=
  ∀ depth node record record' members, read depth node record = .ok record' → mirrors record members →
    ∃ value, decodeValue depth node = .ok value ∧ mirrors record' (insertSorted name value members)

theorem mirrors_of_readMembers (known : ∀ field ∈ fields, Adds mirrors field.name field.read)
    (other : ∀ name, (∀ field ∈ fields, field.name ≠ name) →
      Adds mirrors name fun depth node record => unknown depth name node record)
    {nodes : List (Option String × Node)} {seen seen' : List String} {record record' : σ}
    {members : List (String × Value)}
    (given : readMembers fields unknown depth seen record nodes = .ok (seen', record'))
    (before : mirrors record members) :
    ∃ members', decodeMembers depth members nodes = .ok members' ∧ mirrors record' members' := by
  -- The names that were seen decide only which members are refused, so nothing is said about them.
  induction nodes generalizing seen record members with
  | nil =>
    rw [readMembers] at given
    cases given
    exact ⟨members, by rw [decodeMembers], before⟩
  | cons entry rest ih =>
    obtain ⟨name, node⟩ := entry
    cases name with
    | none =>
      rw [readMembers] at given
      cases given
    | some name =>
      have step {record₁ : σ} {seen₁ : List String} {value : Value}
          (held : decodeValue depth node = .ok value) (after : mirrors record₁ (insertSorted name value members))
          (later : readMembers fields unknown depth seen₁ record₁ rest = .ok (seen', record')) :
          ∃ members', decodeMembers depth members ((some name, node) :: rest) = .ok members' ∧
            mirrors record' members' := by
        obtain ⟨members', read, mirrored⟩ := ih later after
        exact ⟨members', by rw [decodeMembers, held, Except.bind, read], mirrored⟩
      rw [readMembers] at given
      cases sought : fields.find? (·.name == name) with
      | none =>
        rw [sought] at given
        obtain ⟨record₁, first, later⟩ := bind_eq_ok.mp given
        have unnamed : ∀ field ∈ fields, field.name ≠ name := by
          simpa using List.find?_eq_none.mp sought
        obtain ⟨value, held, after⟩ := other name unnamed _ _ _ _ _ (at_eq_ok.mp first) before
        exact step held after later
      | some field =>
        rw [sought] at given
        dsimp only at given
        split at given
        · cases given
        · obtain ⟨record₁, first, later⟩ := bind_eq_ok.mp given
          have named : field.name = name := by simpa using List.find?_some sought
          obtain ⟨value, held, after⟩ :=
            known field (List.mem_of_find?_eq_some sought) _ _ _ _ _ (at_eq_ok.mp first) before
          rw [named] at after
          exact step held after later

/-- A record is read from a whole object, in which no part is missing that has to occur. -/
theorem object_of_ofObject {record : σ} (given : ofObject fields unknown start depth node = .ok record) :
    ∃ inner nodes seen, depth = inner + 1 ∧ node = .object nodes true ∧
      readMembers fields unknown inner [] start nodes = .ok (seen, record) ∧
        ∀ field ∈ fields, field.isRequired = true → field.name ∈ seen := by
  unfold ofObject at given
  split at given
  · cases given
  · rename_i inner nodes closed
    obtain ⟨⟨seen, final⟩, held, given⟩ := bind_eq_ok.mp given
    cases closed with
    | false => cases given
    | true =>
      simp only [Bool.not_true, Bool.false_eq_true, if_false] at given
      split at given
      · cases given
      · rename_i complete
        cases given
        refine ⟨inner, nodes, seen, rfl, rfl, held, fun field listed required => ?_⟩
        by_cases read : field.name ∈ seen
        · exact read
        · exact absurd (List.any_eq_true.mpr ⟨field, listed, by simp [required, read]⟩) complete
  · exact absurd given refuse_ne_ok

/-- A text that is read as a record is an object, and the record mirrors its members. -/
theorem mirrors_of_decodeAll (known : ∀ field ∈ fields, Adds mirrors field.name field.read)
    (other : ∀ name, (∀ field ∈ fields, field.name ≠ name) →
      Adds mirrors name fun depth node record => unknown depth name node record)
    (begun : mirrors start []) {text : Bytes} {record : σ}
    (given : decodeAll (ofObject fields unknown start) text = .ok record) :
    ∃ members, decodeAll decodeValue text = .ok (.object members) ∧ mirrors record members := by
  obtain ⟨whole, ended⟩ := decodeAll_eq_ok.mp given
  obtain ⟨inner, nodes, seen, deep, isObject, held, -⟩ := object_of_ofObject whole
  obtain ⟨members, decoded, mirrored⟩ := mirrors_of_readMembers known other held begun
  refine ⟨members, decodeAll_eq_ok.mpr ⟨?_, ended⟩, mirrored⟩
  rw [deep, isObject, decodeValue, decoded, Except.bind, if_pos rfl]

end Record

end BearerIdentity.Json
