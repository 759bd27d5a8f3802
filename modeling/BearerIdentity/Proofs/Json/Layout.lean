import BearerIdentity.Proofs.Json.Part

set_option autoImplicit false

/- Which trees a record can be read from. Only the names and places of the parts count for that, and what
stands there; the order of members is free, and whatever else an object has is passed over. -/

namespace BearerIdentity.Json

/-- Nothing in the tree goes wrong. -/
inductive Node.IsWhole : Node → Prop where
  | null : IsWhole .null
  | bool (value : Bool) : IsWhole (.bool value)
  | number (value : Option Number) : IsWhole (.number value)
  | string (value : Option String) : IsWhole (.string value)
  | array {items : List Node} (whole : ∀ item ∈ items, IsWhole item) : IsWhole (.array items true)
  | object {members : List (Option String × Node)} (whole : ∀ entry ∈ members, IsWhole entry.2) :
    IsWhole (.object members true)

theorem allIntact_iff {items : List Node} :
    allIntact items = true ↔ ∀ item ∈ items, item.isIntact = true := by
  induction items with
  | nil => simp [allIntact]
  | cons item rest same => rw [allIntact, Bool.and_eq_true, same, List.forall_mem_cons]

theorem allMembersIntact_iff {members : List (Option String × Node)} :
    allMembersIntact members = true ↔ ∀ entry ∈ members, entry.2.isIntact = true := by
  induction members with
  | nil => simp [allMembersIntact]
  | cons entry rest same => rw [allMembersIntact, Bool.and_eq_true, same, List.forall_mem_cons]

theorem Node.IsWhole.isIntact {node : Node} (whole : node.IsWhole) : node.isIntact = true := by
  induction whole with
  | array _ intact => exact Bool.and_eq_true_iff.mpr ⟨rfl, allIntact_iff.mpr intact⟩
  | object _ intact => exact Bool.and_eq_true_iff.mpr ⟨rfl, allMembersIntact_iff.mpr intact⟩
  | _ => rfl

theorem Node.isWhole_of_isIntact : (node : Node) → node.isIntact = true → node.IsWhole
  | .null, _ => .null
  | .bool value, _ => .bool value
  | .number value, _ => .number value
  | .string value, _ => .string value
  | .array items closed, intact => by
    obtain ⟨rfl, intact⟩ := Bool.and_eq_true_iff.mp intact
    exact .array fun item listed => isWhole_of_isIntact item (allIntact_iff.mp intact item listed)
  | .object members closed, intact => by
    obtain ⟨rfl, intact⟩ := Bool.and_eq_true_iff.mp intact
    exact .object fun entry listed => isWhole_of_isIntact entry.2 (allMembersIntact_iff.mp intact entry listed)
  | .broken, intact => by cases intact
termination_by node => sizeOf node
decreasing_by
  · have smaller := List.sizeOf_lt_of_mem listed
    simp only [Node.array.sizeOf_spec]
    omega
  · have smaller := List.sizeOf_lt_of_mem listed
    have inner : sizeOf entry.2 < sizeOf entry := by
      cases entry
      simp only [Prod.mk.sizeOf_spec]
      omega
    simp only [Node.object.sizeOf_spec]
    omega

theorem Node.isIntact_iff {node : Node} : node.isIntact = true ↔ node.IsWhole :=
  ⟨node.isWhole_of_isIntact, Node.IsWhole.isIntact⟩

theorem isWhole_of_skip {node : Node} (skipped : skip node = .ok ()) : node.IsWhole := by
  unfold skip at skipped
  split at skipped
  · rename_i intact
    exact Node.isIntact_iff.mp intact
  · cases skipped

theorem skip_of_isWhole {node : Node} (whole : node.IsWhole) : skip node = .ok () :=
  if_pos whole.isIntact

/-- Parts with these names can be told apart among the members: no such name stands twice. Under other names
there may be anything that is well formed. -/
structure AreLaidOut (names : List String) (members : List (Option String × Node)) : Prop where
  named : ∀ entry ∈ members, ∃ name, entry.1 = some name ∧ (name ∉ names → entry.2.IsWhole)
  single : members.Pairwise fun entry later => ∀ name ∈ names, entry.1 = some name → later.1 ≠ some name

/-- The tree has room for parts with these names: it is an object, or else an array that has at least so many
of them, and nothing else. -/
inductive Node.IsLaidOut (names : List String) (least : Nat) : Node → Prop where
  | object {members : List (Option String × Node)} (laidOut : AreLaidOut names members) :
    IsLaidOut names least (.object members true)
  | array {items : List Node} (enough : least ≤ items.length) (few : items.length ≤ names.length) :
    IsLaidOut names least (.array items true)

section Members

variable {names : List String} {name : String} {told : Node} {entry : Option String × Node}
  {members : List (Option String × Node)}

theorem areLaidOut_cons_iff : AreLaidOut names (entry :: members) ↔
    (∃ name, entry.1 = some name ∧ (name ∉ names → entry.2.IsWhole) ∧
      (name ∈ names → ∀ later ∈ members, later.1 ≠ some name)) ∧ AreLaidOut names members := by
  constructor
  · rintro ⟨named, single⟩
    obtain ⟨⟨name, same, whole⟩, named⟩ := List.forall_mem_cons.mp named
    obtain ⟨apart, single⟩ := List.pairwise_cons.mp single
    exact ⟨⟨name, same, whole, fun known later listed => apart later listed name known same⟩, named, single⟩
  · rintro ⟨⟨name, same, whole, apart⟩, named, single⟩
    refine ⟨List.forall_mem_cons.mpr ⟨⟨name, same, whole⟩, named⟩, List.pairwise_cons.mpr ⟨?_, single⟩⟩
    intro later listed other known same'
    obtain rfl := Option.some.inj (same.symm.trans same')
    exact apart known later listed

theorem AreLaidOut.lookup_eq_some (laidOut : AreLaidOut names members) (known : name ∈ names)
    (listed : (some name, told) ∈ members) : members.lookup (some name) = some told := by
  induction members with
  | nil => cases listed
  | cons entry rest found =>
    obtain ⟨other, node⟩ := entry
    obtain ⟨⟨own, same, -, apart⟩, others⟩ := areLaidOut_cons_iff.mp laidOut
    obtain rfl : other = some own := same
    rw [lookup_some_cons]
    rcases List.mem_cons.mp listed with here | later
    · cases here
      exact if_pos rfl
    · have different : name ≠ own := by
        rintro rfl
        exact apart known _ later rfl
      rw [if_neg different]
      exact found others later

end Members

namespace Record

variable {σ : Type} {fields : List (Field σ)} {start record record' : σ} {depth least : Nat}

/-- What stands there is read as this field, whatever has been read before. -/
def Admits (field : Field σ) (depth : Nat) (told : Node) : Prop :=
  ∀ record, ∃ record', field.read depth told record = .ok record'

theorem admits_of_reads {α : Type} {inner : Decoder α} {told : Node} {value : α} {name : String}
    {isRequired hasPlace : Bool} {set : α → σ → σ} (reads : inner depth told = .ok value) :
    Admits ⟨name, isRequired, hasPlace, fun depth node record => (inner depth node).map (set · record)⟩
      depth told :=
  fun record => ⟨set value record, map_eq_ok.mpr ⟨value, reads, rfl⟩⟩

section Members

variable {members : List (Option String × Node)} {seen seen' : List String}

theorem areLaidOut_of_readMembers
    (given : readMembers fields ignore depth seen record members = .ok (seen', record')) :
    AreLaidOut (fields.map (·.name)) members := by
  induction members generalizing seen record with
  | nil => exact ⟨nofun, .nil⟩
  | cons entry rest laidOut =>
    obtain ⟨other, node, rfl⟩ := exists_name_of_readMembers given
    obtain ⟨unnamed, middle, ignored, later⟩ | ⟨field, listed, named, -, middle, -, later⟩ :=
      readMembers_cons given
    · obtain ⟨_, skipped, -⟩ := map_eq_ok.mp ignored
      have whole : node.IsWhole := isWhole_of_skip skipped
      refine areLaidOut_cons_iff.mpr ⟨⟨other, rfl, fun _ => whole, fun known => ?_⟩, laidOut later⟩
      obtain ⟨field, listed, named⟩ := List.mem_map.mp known
      exact absurd named (unnamed field listed)
    · have known : other ∈ fields.map (·.name) := List.mem_map.mpr ⟨field, listed, named⟩
      have gone := lookup_of_seen ⟨field, listed, named⟩ List.mem_cons_self later
      refine areLaidOut_cons_iff.mpr ⟨⟨other, rfl, absurd known, fun _ later present same => ?_⟩, laidOut later⟩
      have different := List.lookup_eq_none_iff.mp gone later present
      rw [same, bne_self_eq_false] at different
      cases different

/-- Where all known members are admitted, and none of those that were seen occurs again, members are read. -/
theorem exists_of_areLaidOut (seen : List String) (record : σ) (laidOut : AreLaidOut (fields.map (·.name)) members)
    (unseen : ∀ name ∈ seen, ∀ entry ∈ members, entry.1 ≠ some name)
    (admits : ∀ field ∈ fields, ∀ told, (some field.name, told) ∈ members → Admits field depth told) :
    ∃ seen' record', readMembers fields ignore depth seen record members = .ok (seen', record') := by
  induction members generalizing seen record with
  | nil => exact ⟨seen, record, by rw [readMembers]⟩
  | cons entry rest ih =>
    obtain ⟨other, node⟩ := entry
    obtain ⟨⟨name, same, whole, apart⟩, others⟩ := areLaidOut_cons_iff.mp laidOut
    obtain rfl : other = some name := same
    have admitsLater : ∀ field ∈ fields, ∀ told, (some field.name, told) ∈ rest → Admits field depth told :=
      fun field listed told present => admits field listed told (List.mem_cons_of_mem _ present)
    have unseenLater : ∀ name ∈ seen, ∀ entry ∈ rest, entry.1 ≠ some name :=
      fun name read entry present => unseen name read entry (List.mem_cons_of_mem _ present)
    rw [readMembers]
    cases sought : fields.find? (·.name == name) with
    | none =>
      have unnamed : ∀ field ∈ fields, field.name ≠ name := by simpa using List.find?_eq_none.mp sought
      have unknown : name ∉ fields.map (·.name) := by simpa using unnamed
      obtain ⟨seen', record', later⟩ := ih seen record others unseenLater admitsLater
      refine ⟨seen', record', bind_eq_ok.mpr ⟨record, at_eq_ok.mpr ?_, later⟩⟩
      rw [ignore, skip_of_isWhole (whole unknown)]
      rfl
    | some field =>
      have listed : field ∈ fields := List.mem_of_find?_eq_some sought
      have named : field.name = name := by simpa using List.find?_some sought
      subst named
      have fresh : ¬ seen.contains field.name = true :=
        fun read => unseen _ (List.contains_iff_mem.mp read) _ List.mem_cons_self rfl
      obtain ⟨middle, read⟩ := admits field listed node List.mem_cons_self record
      have unseenAfter : ∀ name ∈ field.name :: seen, ∀ entry ∈ rest, entry.1 ≠ some name := by
        intro name read
        rcases List.mem_cons.mp read with rfl | before
        · exact apart (List.mem_map_of_mem listed)
        · exact unseenLater name before
      obtain ⟨seen', record', later⟩ := ih (field.name :: seen) middle others unseenAfter admitsLater
      dsimp only
      rw [if_neg fresh]
      exact ⟨seen', record', bind_eq_ok.mpr ⟨middle, at_eq_ok.mpr read, later⟩⟩

end Members

section Items

variable {items : List Node} {index : Nat} {closed : Bool}

theorem length_of_readItems (given : readItems depth closed index fields record items = .ok record') :
    closed = true ∧ items.length ≤ fields.length ∧
      ∀ field ∈ fields.drop items.length, field.hasPlace = false := by
  induction fields generalizing index record items with
  | nil =>
    obtain ⟨rfl, rfl, -⟩ := readItems_end given
    exact ⟨rfl, Nat.le_refl _, nofun⟩
  | cons field fields ih =>
    cases items with
    | nil =>
      obtain ⟨rfl, unplaced, later⟩ := readItems_nil given
      obtain ⟨-, -, others⟩ := ih later
      exact ⟨rfl, Nat.zero_le _, List.forall_mem_cons.mpr ⟨unplaced, others⟩⟩
    | cons item rest =>
      obtain ⟨middle, -, later⟩ := readItems_cons given
      obtain ⟨isClosed, few, others⟩ := ih later
      exact ⟨isClosed, Nat.succ_le_succ few, others⟩

theorem exists_of_length (index : Nat) (record : σ) (few : items.length ≤ fields.length)
    (unplaced : ∀ field ∈ fields.drop items.length, field.hasPlace = false)
    (admits : ∀ (place : Nat) (field : Field σ) (told : Node), fields[place]? = some field →
      items[place]? = some told → Admits field depth told) :
    ∃ record', readItems depth true index fields record items = .ok record' := by
  induction fields generalizing index record items with
  | nil =>
    obtain rfl := List.length_eq_zero_iff.mp (Nat.le_zero.mp few)
    exact ⟨record, rfl⟩
  | cons field fields ih =>
    cases items with
    | nil =>
      obtain ⟨first, others⟩ := List.forall_mem_cons.mp unplaced
      have none : ([] : List Node).length ≤ fields.length := Nat.zero_le _
      obtain ⟨record', read⟩ := ih index record none others nofun
      refine ⟨record', ?_⟩
      rw [readItems, first]
      exact read
    | cons item rest =>
      obtain ⟨middle, read⟩ := admits 0 field item rfl rfl record
      obtain ⟨record', later⟩ := ih (index + 1) middle (Nat.le_of_succ_le_succ few) unplaced
        fun place field told known present => admits (place + 1) field told known present
      refine ⟨record', ?_⟩
      rw [readItems]
      exact bind_eq_ok.mpr ⟨middle, at_eq_ok.mpr read, later⟩

end Items

/-- An array that stands for the record has to have exactly so many items at least. -/
def Reaches (fields : List (Field σ)) (least : Nat) : Prop :=
  ∀ count, (∀ field ∈ fields.drop count, field.hasPlace = false) ↔ least ≤ count

theorem isLaidOut_of_decoder {node : Node} (reaches : Reaches fields least)
    (given : decoder fields start depth node = .ok record) : node.IsLaidOut (fields.map (·.name)) least := by
  obtain ⟨level, items, closed, rfl, read⟩ | ⟨level, members, seen, rfl, read, -⟩ := decoder_cases given
  · obtain ⟨rfl, few, unplaced⟩ := length_of_readItems read
    refine .array ((reaches _).mp unplaced) ?_
    rw [List.length_map]
    exact few
  · exact .object (areLaidOut_of_readMembers read)

/-- A record without parts that have to occur is read from every tree that has room for its parts, if what
stands in their places is admitted. -/
theorem exists_of_isLaidOut {node : Node} (reaches : Reaches fields least)
    (optional : ∀ field ∈ fields, field.isRequired = false)
    (laidOut : node.IsLaidOut (fields.map (·.name)) least)
    (admits : ∀ place field told, fields[place]? = some field → node.part? field.name place = some told →
      Admits field depth told) :
    ∃ record, decoder fields start (depth + 1) node = .ok record := by
  cases laidOut with
  | array enough few =>
    rw [List.length_map] at few
    exact exists_of_length 0 start few ((reaches _).mpr enough) admits
  | @object members laidOut =>
    have admitted : ∀ field ∈ fields, ∀ told, (some field.name, told) ∈ members → Admits field depth told := by
      intro field listed told present
      obtain ⟨place, known⟩ := List.mem_iff_getElem?.mp listed
      exact admits place field told known (laidOut.lookup_eq_some (List.mem_map_of_mem listed) present)
    obtain ⟨seen, record, read⟩ := exists_of_areLaidOut [] start laidOut nofun admitted
    refine ⟨record, ?_⟩
    have missed : ¬ fields.any (fun field => field.isRequired && !seen.contains field.name) = true := by
      simp only [List.any_eq_true, Bool.and_eq_true, not_exists, not_and]
      intro field listed required
      rw [optional field listed] at required
      cases required
    rw [decoder, ofObject]
    refine bind_eq_ok.mpr ⟨(seen, record), read, ?_⟩
    exact if_neg missed
    all_goals nofun

theorem exists_of_required {field : Field σ} {node : Node} (place : Nat) (known : fields[place]? = some field)
    (required : field.isRequired = true) (placed : field.hasPlace = true)
    (given : decoder fields start depth node = .ok record) : ∃ told, node.part? field.name place = some told := by
  obtain ⟨level, items, closed, rfl, read⟩ | ⟨level, members, seen, rfl, read, complete⟩ := decoder_cases given
  · obtain ⟨-, -, unplaced⟩ := length_of_readItems read
    by_cases within : place < items.length
    · exact ⟨items[place], List.getElem?_eq_getElem within⟩
    · have left : field ∈ fields.drop items.length := by
        refine List.mem_iff_getElem?.mpr ⟨place - items.length, ?_⟩
        rw [List.getElem?_drop, Nat.add_sub_cancel' (Nat.le_of_not_lt within)]
        exact known
      have notPlaced := unplaced field left
      rw [placed] at notPlaced
      cases notPlaced
  · rcases exists_of_seen read (complete field (List.mem_of_getElem? known) required) with none | found
    · cases none
    · exact found

end Record

end BearerIdentity.Json
