import BearerIdentity.Proofs.Json.Record
import Mathlib.Data.List.Nodup

set_option autoImplicit false

/- Parts of records. A part that belongs to one of the fields is what stands under its name in an object, or
at its place in an array, and has its default where nothing stands there. -/

namespace BearerIdentity.Json

/-- What stands under a name in an object, or at a place in an array. -/
def Node.part? (name : String) (place : Nat) : Node → Option Node
  | .object members _ => members.lookup (some name)
  | .array items _ => items[place]?
  | _ => none

def Value.part? (name : String) (place : Nat) : Value → Option Value
  | .object members => members.lookup name
  | .array items => items[place]?
  | _ => none

theorem lookup_some_cons {α : Type} (name other : String) (entry : α) (entries : List (Option String × α)) :
    ((some other, entry) :: entries).lookup (some name) =
      if name = other then some entry else entries.lookup (some name) := by
  rw [lookup_cons_eq_if]
  simp only [Option.some.injEq]

theorem lookup_ofEntries (name : String) (members : List (String × Value)) :
    (ofEntries members).lookup (some name) = (members.lookup name).map Node.ofValue := by
  induction members with
  | nil => rfl
  | cons entry rest same =>
    obtain ⟨other, value⟩ := entry
    rw [ofEntries, lookup_some_cons, lookup_cons_eq_if, same]
    split
    · rfl
    · rfl

theorem getElem?_ofValues (items : List Value) (place : Nat) :
    (ofValues items)[place]? = items[place]?.map Node.ofValue := by
  induction items generalizing place with
  | nil => rfl
  | cons item rest same =>
    cases place with
    | zero => rfl
    | succ place => exact same place

theorem part?_ofValue (name : String) (place : Nat) (value : Value) :
    (Node.ofValue value).part? name place = (value.part? name place).map Node.ofValue := by
  cases value with
  | object members => exact lookup_ofEntries name members
  | array items => exact getElem?_ofValues items place
  | _ => rfl

namespace Record

variable {σ α β : Type} {fields : List (Field σ)} {field : Field σ} {unknown : Unknown σ}
  {part : σ → β} {inner : Decoder β} {start record record' : σ} {depth : Nat}

def Spares (part : σ → β) (read : (depth : Nat) → Node → σ → Decoded σ) : Prop :=
  ∀ depth node record record', read depth node record = .ok record' → part record' = part record

def Fills (part : σ → β) (inner : Decoder β) (read : (depth : Nat) → Node → σ → Decoded σ) : Prop :=
  ∀ depth node record record', read depth node record = .ok record' →
    inner depth node = .ok (part record')

theorem spares_of_set {reader : Decoder α} {set : α → σ → σ}
    (same : ∀ value record, part (set value record) = part record) :
    Spares part fun depth node record => (reader depth node).map (set · record) := by
  intro depth node record record' given
  obtain ⟨value, -, rfl⟩ := map_eq_ok.mp given
  exact same value record

theorem fills_of_set {set : β → σ → σ} (own : ∀ value record, part (set value record) = value) :
    Fills part inner fun depth node record => (inner depth node).map (set · record) := by
  intro depth node record record' given
  obtain ⟨value, read, rfl⟩ := map_eq_ok.mp given
  rw [own]
  exact read

def SparesUnknown (part : σ → β) (unknown : Unknown σ) : Prop :=
  ∀ name, Spares part fun depth node record => unknown depth name node record

theorem sparesUnknown_ignore : SparesUnknown part ignore := by
  intro name depth node record record' given
  obtain ⟨-, -, rfl⟩ := map_eq_ok.mp given
  rfl

/-- A part belongs to the field of this name, which has this place among the fields. -/
structure Owns (fields : List (Field σ)) (name : String) (place : Nat) (inner : Decoder β) (part : σ → β) :
    Prop where
  distinct : (fields.map (·.name)).Nodup
  own : ∃ field, fields[place]? = some field ∧ field.name = name ∧ Fills part inner field.read
  spares : ∀ other ∈ fields, other.name ≠ name → Spares part other.read

theorem Owns.known {name : String} {place : Nat} (owns : Owns fields name place inner part) :
    ∃ field ∈ fields, field.name = name := by
  obtain ⟨field, placed, named, -⟩ := owns.own
  exact ⟨field, List.mem_of_getElem? placed, named⟩

theorem Owns.fills {place : Nat} (owns : Owns fields field.name place inner part) (listed : field ∈ fields) :
    Fills part inner field.read := by
  obtain ⟨own, placed, named, fills⟩ := owns.own
  have same : own = field :=
    List.inj_on_of_nodup_map owns.distinct (List.mem_of_getElem? placed) listed named
  rw [← same]
  exact fills

section Members

variable {name other : String} {place : Nat} {node : Node} {members rest : List (Option String × Node)}
  {seen seen' : List String}

/-- A member is read as an unknown one if there is no field of its name. Otherwise it is read as the field,
unless there has been one of its name before. -/
theorem readMembers_cons
    (given : readMembers fields unknown depth seen record ((some other, node) :: rest) = .ok (seen', record')) :
    ((∀ field ∈ fields, field.name ≠ other) ∧ ∃ middle,
        unknown depth other node record = .ok middle ∧
          readMembers fields unknown depth seen middle rest = .ok (seen', record')) ∨
      ∃ field ∈ fields, field.name = other ∧ other ∉ seen ∧ ∃ middle,
        field.read depth node record = .ok middle ∧
          readMembers fields unknown depth (other :: seen) middle rest = .ok (seen', record') := by
  rw [readMembers] at given
  cases sought : fields.find? (·.name == other) with
  | none =>
    rw [sought] at given
    obtain ⟨middle, read, later⟩ := bind_eq_ok.mp given
    exact .inl ⟨by simpa using List.find?_eq_none.mp sought, middle, at_eq_ok.mp read, later⟩
  | some field =>
    rw [sought] at given
    dsimp only at given
    split at given
    · cases given
    · rename_i unseen
      obtain ⟨middle, read, later⟩ := bind_eq_ok.mp given
      exact .inr ⟨field, List.mem_of_find?_eq_some sought, by simpa using List.find?_some sought,
        fun listed => unseen (List.contains_iff_mem.mpr listed), middle, at_eq_ok.mp read, later⟩

theorem exists_name_of_readMembers {entry : Option String × Node}
    (given : readMembers fields unknown depth seen record (entry :: rest) = .ok (seen', record')) :
    ∃ other node, entry = (some other, node) := by
  obtain ⟨_ | other, node⟩ := entry
  · rw [readMembers] at given
    cases given
  · exact ⟨other, node, rfl⟩

theorem lookup_of_seen (known : ∃ field ∈ fields, field.name = name) (read : name ∈ seen)
    (given : readMembers fields unknown depth seen record members = .ok (seen', record')) :
    members.lookup (some name) = none := by
  induction members generalizing seen record with
  | nil => rfl
  | cons entry rest absent =>
    obtain ⟨other, node, rfl⟩ := exists_name_of_readMembers given
    rw [lookup_some_cons]
    obtain ⟨unnamed, middle, -, later⟩ | ⟨field, -, -, unseen, middle, -, later⟩ := readMembers_cons given
    · obtain ⟨field, listed, named⟩ := known
      rw [if_neg fun same => unnamed field listed (named.trans same)]
      exact absent read later
    · have different : name ≠ other := fun same => unseen (same ▸ read)
      rw [if_neg different]
      exact absent (List.mem_cons_of_mem _ read) later

theorem exists_of_seen (given : readMembers fields unknown depth seen record members = .ok (seen', record'))
    (read : name ∈ seen') : name ∈ seen ∨ ∃ told, members.lookup (some name) = some told := by
  induction members generalizing seen record with
  | nil =>
    rw [readMembers] at given
    cases given
    exact .inl read
  | cons entry rest ih =>
    obtain ⟨other, node, rfl⟩ := exists_name_of_readMembers given
    rw [lookup_some_cons]
    by_cases same : name = other
    · exact .inr ⟨node, if_pos same⟩
    · rw [if_neg same]
      obtain ⟨-, middle, -, later⟩ | ⟨field, -, -, -, middle, -, later⟩ := readMembers_cons given
      · exact ih later
      · rcases ih later with before | found
        · exact .inl (List.mem_of_ne_of_mem same before)
        · exact .inr found

theorem part_of_readMembers (owns : Owns fields name place inner part) (others : SparesUnknown part unknown)
    (given : readMembers fields unknown depth seen record members = .ok (seen', record')) :
    (members.lookup (some name) = none ∧ part record' = part record) ∨
      ∃ told, members.lookup (some name) = some told ∧ inner depth told = .ok (part record') := by
  induction members generalizing seen record with
  | nil =>
    rw [readMembers] at given
    cases given
    exact .inl ⟨rfl, rfl⟩
  | cons entry rest divided =>
    obtain ⟨other, node, rfl⟩ := exists_name_of_readMembers given
    rw [lookup_some_cons]
    obtain ⟨unnamed, middle, read, later⟩ | ⟨field, listed, named, -, middle, read, later⟩ :=
      readMembers_cons given
    · obtain ⟨own, known, owned⟩ := owns.known
      rw [if_neg fun same => unnamed own known (owned.trans same), ← others other _ _ _ _ read]
      exact divided later
    · by_cases same : name = other
      · rw [if_pos same]
        subst same named
        refine .inr ⟨node, rfl, ?_⟩
        rcases divided later with ⟨-, kept⟩ | ⟨again, found, -⟩
        · rw [kept]
          exact owns.fills listed _ _ _ _ read
        · rw [lookup_of_seen owns.known List.mem_cons_self later] at found
          cases found
      · rw [if_neg same, ← owns.spares field listed (by rwa [named, ne_comm]) _ _ _ _ read]
        exact divided later

end Members

section Items

variable {items rest : List Node} {item : Node} {index : Nat} {closed : Bool}

theorem readItems_nil
    (given : readItems depth closed index (field :: fields) record [] = .ok record') :
    closed = true ∧ field.hasPlace = false ∧ readItems depth closed index fields record [] = .ok record' := by
  rw [readItems] at given
  cases closed with
  | false => cases given
  | true =>
    simp only [Bool.not_true, Bool.false_eq_true, if_false] at given
    split at given
    · cases given
    · rename_i unplaced
      exact ⟨rfl, Bool.eq_false_iff.mpr unplaced, given⟩

theorem readItems_cons
    (given : readItems depth closed index (field :: fields) record (item :: rest) = .ok record') :
    ∃ middle, field.read depth item record = .ok middle ∧
      readItems depth closed (index + 1) fields middle rest = .ok record' := by
  rw [readItems] at given
  obtain ⟨middle, read, later⟩ := bind_eq_ok.mp given
  exact ⟨middle, at_eq_ok.mp read, later⟩

theorem readItems_end (given : readItems depth closed index [] record items = .ok record') :
    closed = true ∧ items = [] ∧ record' = record := by
  cases items with
  | cons item rest =>
    rw [readItems] at given
    cases given
  | nil =>
    rw [readItems] at given
    split at given
    · rename_i isClosed
      cases given
      exact ⟨isClosed, rfl, rfl⟩
    · cases given

theorem part_of_spared (spares : ∀ field ∈ fields, Spares part field.read)
    (given : readItems depth closed index fields record items = .ok record') :
    part record' = part record := by
  induction fields generalizing index record items with
  | nil =>
    obtain ⟨-, -, rfl⟩ := readItems_end given
    rfl
  | cons field fields kept =>
    obtain ⟨first, others⟩ := List.forall_mem_cons.mp spares
    cases items with
    | nil => exact kept others (readItems_nil given).2.2
    | cons item rest =>
      obtain ⟨middle, read, later⟩ := readItems_cons given
      rw [← first _ _ _ _ read]
      exact kept others later

theorem part_of_readItems {place : Nat} (distinct : (fields.map (·.name)).Nodup)
    (placed : fields[place]? = some field) (fills : Fills part inner field.read)
    (spares : ∀ other ∈ fields, other.name ≠ field.name → Spares part other.read)
    (given : readItems depth closed index fields record items = .ok record') :
    (items[place]? = none ∧ part record' = part record) ∨
      ∃ told, items[place]? = some told ∧ inner depth told = .ok (part record') := by
  induction fields generalizing index record items place with
  | nil => cases placed
  | cons first fields divided =>
    obtain ⟨apart, distinct⟩ := List.nodup_cons.mp distinct
    obtain ⟨sparesFirst, sparesRest⟩ := List.forall_mem_cons.mp spares
    cases place with
    | zero =>
      cases placed
      have sparesAfter : ∀ other ∈ fields, Spares part other.read := by
        refine fun other listed => sparesRest other listed fun same => apart ?_
        exact List.mem_map.mpr ⟨other, listed, same⟩
      cases items with
      | nil => exact .inl ⟨rfl, part_of_spared sparesAfter (readItems_nil given).2.2⟩
      | cons item rest =>
        obtain ⟨middle, read, later⟩ := readItems_cons given
        refine .inr ⟨item, rfl, ?_⟩
        rw [part_of_spared sparesAfter later]
        exact fills _ _ _ _ read
    | succ place =>
      have sparesBefore : Spares part first.read := by
        refine sparesFirst fun same => apart ?_
        exact List.mem_map.mpr ⟨field, List.mem_of_getElem? placed, same.symm⟩
      cases items with
      | nil =>
        have rest := divided distinct placed sparesRest (readItems_nil given).2.2
        simpa using rest
      | cons item rest =>
        obtain ⟨middle, read, later⟩ := readItems_cons given
        rw [List.getElem?_cons_succ, ← sparesBefore _ _ _ _ read]
        exact divided distinct placed sparesRest later

end Items

/-- A record is read by places or by names. -/
theorem decoder_cases {node : Node} (given : decoder fields start depth node = .ok record) :
    (∃ level items closed, node = .array items closed ∧
        readItems level closed 0 fields start items = .ok record) ∨
      ∃ level members seen, node = .object members true ∧
        readMembers fields ignore level [] start members = .ok (seen, record) ∧
          ∀ field ∈ fields, field.isRequired = true → field.name ∈ seen := by
  unfold decoder at given
  split at given
  · cases given
  · exact .inl ⟨_, _, _, rfl, given⟩
  · obtain ⟨level, members, seen, -, object, read, complete⟩ := object_of_ofObject given
    exact .inr ⟨level, members, seen, object, read, complete⟩

/-- A part is what stands under the name or at the place of its field, or else the default. -/
theorem part_of_decoder {name : String} {place : Nat} {node : Node}
    (owns : Owns fields name place inner part) (given : decoder fields start depth node = .ok record) :
    (node.part? name place = none ∧ part record = part start) ∨
      ∃ told level, node.part? name place = some told ∧ inner level told = .ok (part record) := by
  obtain ⟨level, items, closed, rfl, read⟩ | ⟨level, members, seen, rfl, read, -⟩ := decoder_cases given
  · obtain ⟨field, placed, rfl, fills⟩ := owns.own
    rcases part_of_readItems owns.distinct placed fills owns.spares read with kept | ⟨told, found, given⟩
    · exact .inl kept
    · exact .inr ⟨told, level, found, given⟩
  · rcases part_of_readMembers owns sparesUnknown_ignore read with kept | ⟨told, found, given⟩
    · exact .inl kept
    · exact .inr ⟨told, level, found, given⟩

end Record

/-- What stands in the place of a part gives the part: none, if nothing or `null` stands there, and otherwise
what this is read as. -/
inductive Gives {α : Type} (reads : Node → α → Prop) : Option Node → Option α → Prop where
  | absent : Gives reads none none
  | null : Gives reads (some .null) none
  | told {node : Node} {value : α} (other : node ≠ .null) (reading : reads node value) :
    Gives reads (some node) (some value)

def IsText (node : Node) (text : String) : Prop :=
  node = .string (some text)

def IsValue (node : Node) (value : Value) : Prop :=
  ∃ level, decodeValue level node = .ok value

section Gives

variable {α σ : Type} {reads : Node → α → Prop} {inner : Decoder α} {told : Option Node} {text : Option String}

theorem Gives.unique {value other : Option α}
    (single : ∀ node value other, reads node value → reads node other → value = other)
    (gives : Gives reads told value) (givesOther : Gives reads told other) : value = other := by
  cases gives with
  | absent =>
    cases givesOther
    rfl
  | null =>
    cases givesOther with
    | null => rfl
    | told isOther _ => exact absurd rfl isOther
  | told isOther reading =>
    cases givesOther with
    | null => exact absurd rfl isOther
    | told _ reading' => rw [single _ _ _ reading reading']

theorem gives_of_option {node : Node} {level : Nat} {value : Option α}
    (reading : ∀ level node value, inner level node = .ok value → reads node value)
    (given : Decoder.option inner level node = .ok value) : Gives reads (some node) value := by
  unfold Decoder.option at given
  split at given
  · cases given
    exact .null
  · rename_i other
    obtain ⟨found, read, rfl⟩ := map_eq_ok.mp given
    exact .told other (reading _ _ found read)

theorem string_eq_ok {node : Node} {level : Nat} {text : String} :
    Decoder.string level node = .ok text ↔ IsText node text := by
  constructor
  · intro read
    unfold Decoder.string at read
    split at read
    · cases read
      rfl
    · exact absurd read refuse_ne_ok
  · rintro rfl
    rfl

theorem isText_of_read (level : Nat) (node : Node) (text : String) (read : Decoder.string level node = .ok text) :
    IsText node text :=
  string_eq_ok.mp read

theorem isValue_of_read (level : Nat) (node : Node) (value : Value) (read : decodeValue level node = .ok value) :
    IsValue node value :=
  ⟨level, read⟩

theorem isText_unique (node : Node) (text other : String) (isText : IsText node text)
    (isOther : IsText node other) : text = other := by
  cases isText.symm.trans isOther
  rfl

theorem option_string_eq_ok {node : Node} {level : Nat} :
    Decoder.option Decoder.string level node = .ok text ↔ Gives IsText (some node) text := by
  constructor
  · exact gives_of_option isText_of_read
  · intro gives
    cases gives with
    | null => rfl
    | told other isText =>
      rw [isText]
      rfl

theorem givesText_ofValue_iff {told : Option Value} :
    Gives IsText (told.map Node.ofValue) text ↔
      (told = none ∧ text = none) ∨ (told = some .null ∧ text = none) ∨
        ∃ given, told = some (.string given) ∧ text = some given := by
  constructor
  · intro gives
    cases told with
    | none =>
      cases gives
      exact .inl ⟨rfl, rfl⟩
    | some value =>
      cases value with
      | null =>
        cases gives with
        | null => exact .inr (.inl ⟨rfl, rfl⟩)
        | told other _ => exact absurd rfl other
      | string given =>
        cases gives with
        | told _ isText =>
          cases isText
          exact .inr (.inr ⟨given, rfl, rfl⟩)
      | _ =>
        cases gives with
        | told _ isText => cases isText
  · rintro (⟨rfl, rfl⟩ | ⟨rfl, rfl⟩ | ⟨given, rfl, rfl⟩)
    · exact .absent
    · exact .null
    · exact .told nofun rfl

namespace Record

variable {fields : List (Field σ)} {unknown : Unknown σ} {name : String} {place : Nat} {part : σ → Option α}
  {start record : σ} {depth : Nat} {node : Node}

theorem gives_of_decoder (reading : ∀ level node value, inner level node = .ok value → reads node value)
    (owns : Owns fields name place (.option inner) part) (blank : part start = none)
    (given : decoder fields start depth node = .ok record) :
    Gives reads (node.part? name place) (part record) := by
  rcases part_of_decoder owns given with ⟨absent, kept⟩ | ⟨told, level, found, read⟩
  · rw [absent, kept, blank]
    exact .absent
  · rw [found]
    exact gives_of_option reading read

theorem gives_of_readMembers {members : List (Option String × Node)} {seen seen' : List String}
    (reading : ∀ level node value, inner level node = .ok value → reads node value)
    (owns : Owns fields name place (.option inner) part) (others : SparesUnknown part unknown)
    (blank : part start = none)
    (given : readMembers fields unknown depth seen start members = .ok (seen', record)) :
    Gives reads (members.lookup (some name)) (part record) := by
  rcases part_of_readMembers owns others given with ⟨absent, kept⟩ | ⟨told, found, read⟩
  · rw [absent, kept, blank]
    exact .absent
  · rw [found]
    exact gives_of_option reading read

end Record

end Gives

end BearerIdentity.Json
