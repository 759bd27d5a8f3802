import BearerIdentity.Proofs.Json.Record
import BearerIdentity.Proofs.Json.Scalar

set_option autoImplicit false

namespace BearerIdentity.Json

/-- What follows is set off from a number. -/
def Parted (node : Node) (rest : Bytes) : Prop :=
  ∀ value, node = .number value → Stops rest

/-- Wherever a text stands at the start, and is followed by what it may be followed by, it is read as this. -/
def ReadAs {α : Type} (reader : (fuel : Nat) → Bytes → α × Option Bytes) (admitted : Bytes → Prop)
    (text : Bytes) (value : α) : Prop :=
  ∀ fuel rest, text.length ≤ fuel → admitted rest → reader fuel (text ++ rest) = (value, some rest)

/-- With so much fuel, whatever is read is a part of the bytes, and is read again wherever that part stands
at the start. -/
def IsLocal {α : Type} (reader : (fuel : Nat) → Bytes → α × Option Bytes) (admitted : α → Bytes → Prop)
    (fuel : Nat) : Prop :=
  ∀ bytes value rest, reader fuel bytes = (value, some rest) →
    ∃ text, bytes = text ++ rest ∧ ReadAs reader (admitted value) text value

/-- What stands where an array or an object goes on or ends. -/
inductive Place where
  | closed (rest : Bytes)
  | item (start : Bytes)
  | broken

def place (closing : UInt8) (isFirst : Bool) (bytes : Bytes) : Place :=
  match skipBlanks bytes with
  | [] => .broken
  | byte :: rest =>
    if byte = closing then .closed rest
    else if isFirst || byte = 44 then .item (if isFirst then byte :: rest else rest)
    else .broken

section Place

variable {closing : UInt8} {isFirst : Bool} {bytes rest start : Bytes}

theorem place_eq_closed_iff :
    place closing isFirst bytes = .closed rest ↔ skipBlanks bytes = closing :: rest := by
  unfold place
  cases skipBlanks bytes with
  | nil => simp
  | cons byte later =>
    dsimp only
    by_cases isClosing : byte = closing
    · rw [if_pos isClosing, isClosing]
      simp
    · rw [if_neg isClosing]
      split <;> simp [isClosing]

theorem place_eq_item_iff : place closing isFirst bytes = .item start ↔
    ∃ byte later, skipBlanks bytes = byte :: later ∧ byte ≠ closing ∧ (isFirst || decide (byte = 44)) = true ∧
      start = if isFirst then byte :: later else later := by
  unfold place
  cases skipBlanks bytes with
  | nil => simp
  | cons byte later =>
    dsimp only
    by_cases isClosing : byte = closing
    · rw [if_pos isClosing]
      simp [isClosing]
    · rw [if_neg isClosing]
      by_cases admitted : (isFirst || decide (byte = 44)) = true
      · rw [if_pos admitted, Place.item.injEq]
        grind
      · rw [if_neg admitted]
        grind

theorem place_eq_broken_iff : place closing isFirst bytes = .broken ↔
    ∀ byte later, skipBlanks bytes = byte :: later →
      byte ≠ closing ∧ ¬ (isFirst || decide (byte = 44)) = true := by
  unfold place
  cases skipBlanks bytes with
  | nil => simp
  | cons byte later =>
    dsimp only
    by_cases isClosing : byte = closing
    · rw [if_pos isClosing]
      simp [isClosing]
    · rw [if_neg isClosing]
      by_cases admitted : (isFirst || decide (byte = 44)) = true
      · rw [if_pos admitted]
        grind
      · rw [if_neg admitted]
        grind

theorem place_eq_closed (ended : place closing isFirst bytes = .closed rest) : ∃ lead, lead ≠ [] ∧
    bytes = lead ++ rest ∧ ∀ after, place closing isFirst (lead ++ after) = .closed after := by
  obtain ⟨blanks, parted, again⟩ := exists_of_skipBlanks (place_eq_closed_iff.mp ended)
  refine ⟨blanks ++ [closing], by simp, by simp [parted], fun after => ?_⟩
  rw [List.append_assoc, List.singleton_append, place_eq_closed_iff, again]

theorem place_eq_item (goes : place closing isFirst bytes = .item start) : ∃ lead, bytes = lead ++ start ∧
    ∀ other, other.head? = start.head? → place closing isFirst (lead ++ other) = .item other := by
  obtain ⟨byte, later, found, notClosing, admitted, rfl⟩ := place_eq_item_iff.mp goes
  obtain ⟨blanks, parted, again⟩ := exists_of_skipBlanks found
  cases isFirst with
  | true =>
    refine ⟨blanks, parted, fun other same => ?_⟩
    obtain ⟨after, rfl⟩ := List.head?_eq_some_iff.mp (same.trans rfl)
    exact place_eq_item_iff.mpr ⟨byte, after, again after, notClosing, rfl, rfl⟩
  | false =>
    refine ⟨blanks ++ [byte], by simpa using parted, fun other _ => ?_⟩
    rw [List.append_assoc, List.singleton_append]
    exact place_eq_item_iff.mpr ⟨byte, other, again other, notClosing, admitted, rfl⟩

theorem stops_of_place (other : goesOn closing = false) (known : place closing false bytes ≠ .broken) :
    Stops bytes := by
  unfold place at known
  split at known
  next => exact absurd rfl known
  next byte later found =>
    refine stops_of_skipBlanks found ?_
    split at known
    next isClosing => rw [isClosing, other]
    next =>
      split at known
      next isComma =>
        have comma : byte = 44 := by simpa using isComma
        rw [comma]
        rfl
      next => exact absurd rfl known

end Place

/-- A reader of the entries up to a closing byte. It ends at that byte; elsewhere it reads one entry, and then
the others. -/
structure IsListing {α : Type} (reader : (fuel : Nat) → (isFirst : Bool) → Bytes → List α × Option Bytes)
    (IsEntry : (fuel : Nat) → Bytes → α → Bytes → Prop) (closing : UInt8) : Prop where
  apart : goesOn closing = false
  stuck : ∀ isFirst bytes, (reader 0 isFirst bytes).2 = none
  closed : ∀ {fuel : Nat} {isFirst : Bool} {bytes rest : Bytes}, place closing isFirst bytes = .closed rest →
    reader (fuel + 1) isFirst bytes = ([], some rest)
  item : ∀ {fuel : Nat} {isFirst : Bool} {bytes start after : Bytes} {entry : α},
    place closing isFirst bytes = .item start → IsEntry fuel start entry after →
      reader (fuel + 1) isFirst bytes = (entry :: (reader fuel false after).1, (reader fuel false after).2)
  only : ∀ {fuel : Nat} {isFirst : Bool} {bytes start rest : Bytes} {entries : List α},
    place closing isFirst bytes = .item start → reader (fuel + 1) isFirst bytes = (entries, some rest) →
      ∃ entry after others, IsEntry fuel start entry after ∧ reader fuel false after = (others, some rest) ∧
        entries = entry :: others
  broken : ∀ {fuel : Nat} {isFirst : Bool} {bytes : Bytes}, place closing isFirst bytes = .broken →
    (reader (fuel + 1) isFirst bytes).2 = none

def IsLocalEntry {α : Type} (IsEntry : (fuel : Nat) → Bytes → α → Bytes → Prop) (fuel : Nat) : Prop :=
  ∀ start entry after, IsEntry fuel start entry after → ∃ text, text ≠ [] ∧ start = text ++ after ∧
    ∀ fuel' after', text.length ≤ fuel' → Stops after' → IsEntry fuel' (text ++ after') entry after'

theorem ReadAs.ne_nil {α : Type} {reader : (fuel : Nat) → Bytes → α × Option Bytes}
    {admitted : Bytes → Prop} {text : Bytes} {value : α} (read : ReadAs reader admitted text value)
    (admits : admitted []) (stuck : ∀ bytes, (reader 0 bytes).2 = none) : text ≠ [] := by
  rintro rfl
  have ended := stuck ([] ++ [])
  rw [read 0 [] (Nat.le_refl 0) admits] at ended
  cases ended

namespace IsListing

variable {α : Type} {reader : (fuel : Nat) → (isFirst : Bool) → Bytes → List α × Option Bytes}
  {IsEntry : (fuel : Nat) → Bytes → α → Bytes → Prop} {closing : UInt8} {fuel : Nat}

theorem closed_or_item (listing : IsListing reader IsEntry closing) {isFirst : Bool} {bytes rest : Bytes}
    {entries : List α} (read : reader (fuel + 1) isFirst bytes = (entries, some rest)) :
    (place closing isFirst bytes = .closed rest ∧ entries = []) ∨
      ∃ start entry after others, place closing isFirst bytes = .item start ∧
        IsEntry fuel start entry after ∧ reader fuel false after = (others, some rest) ∧
          entries = entry :: others := by
  cases placed : place closing isFirst bytes with
  | closed found =>
    rw [listing.closed placed] at read
    cases read
    exact .inl ⟨rfl, rfl⟩
  | item start =>
    obtain ⟨entry, after, others, held, later, same⟩ := listing.only placed read
    exact .inr ⟨start, entry, after, others, rfl, held, later, same⟩
  | broken =>
    have ended : (reader (fuel + 1) isFirst bytes).2 = none := listing.broken placed
    rw [read] at ended
    cases ended

theorem stops (listing : IsListing reader IsEntry closing) {bytes rest : Bytes} {entries : List α}
    (read : reader fuel false bytes = (entries, some rest)) : Stops bytes := by
  cases fuel with
  | zero =>
    have ended := listing.stuck false bytes
    rw [read] at ended
    cases ended
  | succ fuel =>
    refine stops_of_place listing.apart fun broken => ?_
    rcases listing.closed_or_item read with ⟨ended, -⟩ | ⟨start, entry, after, others, goes, -⟩
    · rw [broken] at ended
      cases ended
    · rw [broken] at goes
      cases goes

theorem isLocal (listing : IsListing reader IsEntry closing) (entries : IsLocalEntry IsEntry fuel)
    (others : IsLocal (reader · false) (fun _ _ => True) fuel) (isFirst : Bool) :
    IsLocal (reader · isFirst) (fun _ _ => True) (fuel + 1) := by
  intro bytes value rest read
  dsimp only at read
  rcases listing.closed_or_item read with ⟨ended, rfl⟩ | ⟨start, entry, after, later, goes, held, read', rfl⟩
  · obtain ⟨lead, nonempty, rfl, again⟩ := place_eq_closed ended
    refine ⟨lead, rfl, fun fuel' after enough _ => ?_⟩
    have positive := List.length_pos_iff.mpr nonempty
    obtain ⟨fuel', rfl⟩ := Nat.exists_eq_add_one.mpr (show 0 < fuel' by omega)
    exact listing.closed (again after)
  · have stops := listing.stops read'
    obtain ⟨text, filled, rfl, entryAgain⟩ := entries _ _ _ held
    obtain ⟨laterText, rfl, laterAgain⟩ := others _ _ _ read'
    obtain ⟨lead, rfl, again⟩ := place_eq_item goes
    have laterFilled := laterAgain.ne_nil trivial (listing.stuck false)
    refine ⟨lead ++ (text ++ laterText), by simp only [List.append_assoc], ?_⟩
    intro fuel' after enough _
    have length := List.length_pos_iff.mpr filled
    have laterLength := List.length_pos_iff.mpr laterFilled
    simp only [List.length_append] at enough
    obtain ⟨fuel', rfl⟩ := Nat.exists_eq_add_one.mpr (show 0 < fuel' by omega)
    have goes' : place closing isFirst (lead ++ (text ++ (laterText ++ after))) =
        .item (text ++ (laterText ++ after)) := again _ (head?_append filled _ _)
    have stops' : Stops (laterText ++ after) :=
      (stops_append laterFilled).mpr ((stops_append laterFilled).mp stops)
    have held' := entryAgain fuel' (laterText ++ after) (by omega) stops'
    have later' := laterAgain fuel' after (by omega) trivial
    dsimp only at later' ⊢
    simp only [List.append_assoc]
    rw [listing.item goes' held', later']

end IsListing

section Reading

variable {fuel : Nat} {isFirst : Bool} {bytes rest start after : Bytes}

def IsItem (fuel : Nat) (start : Bytes) (item : Node) (after : Bytes) : Prop :=
  readNode fuel start = (item, some after)

theorem readItems_of_closed (ended : place 93 isFirst bytes = .closed rest) :
    readItems (fuel + 1) isFirst bytes = ([], some rest) := by
  simp only [readItems, place_eq_closed_iff.mp ended, if_true]

theorem readItems_of_item {item : Node} (goes : place 93 isFirst bytes = .item start)
    (held : IsItem fuel start item after) : readItems (fuel + 1) isFirst bytes =
      (item :: (readItems fuel false after).1, (readItems fuel false after).2) := by
  obtain ⟨byte, later, found, notClosing, admitted, rfl⟩ := place_eq_item_iff.mp goes
  rw [IsItem] at held
  simp only [readItems, found, if_neg notClosing, if_pos admitted, held]

theorem exists_item_of_readItems {items : List Node} (goes : place 93 isFirst bytes = .item start)
    (read : readItems (fuel + 1) isFirst bytes = (items, some rest)) :
    ∃ item after others, IsItem fuel start item after ∧ readItems fuel false after = (others, some rest) ∧
      items = item :: others := by
  obtain ⟨byte, later, found, notClosing, admitted, rfl⟩ := place_eq_item_iff.mp goes
  simp only [readItems, found, if_neg notClosing, if_pos admitted] at read
  split at read
  next item after held =>
    obtain ⟨rfl, later'⟩ := Prod.mk.inj read
    exact ⟨item, after, _, held, Prod.ext rfl later', rfl⟩
  next => cases read

theorem readItems_of_broken (broken : place 93 isFirst bytes = .broken) :
    (readItems (fuel + 1) isFirst bytes).2 = none := by
  rw [readItems]
  split
  next => rfl
  next byte later found =>
    obtain ⟨notClosing, refused⟩ := place_eq_broken_iff.mp broken byte later found
    rw [if_neg notClosing, if_neg refused]

theorem isListing_readItems : IsListing readItems IsItem 93 where
  apart := rfl
  stuck := fun _ _ => rfl
  closed := readItems_of_closed
  item := readItems_of_item
  only := exists_item_of_readItems
  broken := readItems_of_broken

theorem isLocalEntry_isItem (nodes : IsLocal readNode Parted fuel) : IsLocalEntry IsItem fuel := by
  intro start item after held
  obtain ⟨text, parted, again⟩ := nodes _ _ _ held
  have filled := again.ne_nil (fun _ _ => stops_nil) fun _ => rfl
  exact ⟨text, filled, parted, fun fuel' after' enough stops => again fuel' after' enough fun _ _ => stops⟩

def IsMember (fuel : Nat) (start : Bytes) (member : Option String × Node) (after : Bytes) : Prop :=
  ∃ name between value, skipBlanks start = 34 :: name ∧ readText fuel name = some (member.1, between) ∧
    skipBlanks between = 58 :: value ∧ readNode fuel value = (member.2, some after)

theorem readMembers_of_closed (ended : place 125 isFirst bytes = .closed rest) :
    readMembers (fuel + 1) isFirst bytes = ([], some rest) := by
  simp only [readMembers, place_eq_closed_iff.mp ended, if_true]

theorem readMembers_of_item {member : Option String × Node} (goes : place 125 isFirst bytes = .item start)
    (entry : IsMember fuel start member after) : readMembers (fuel + 1) isFirst bytes =
      (member :: (readMembers fuel false after).1, (readMembers fuel false after).2) := by
  obtain ⟨name, between, value, quoted, named, separated, held⟩ := entry
  obtain ⟨byte, later, found, notClosing, admitted, rfl⟩ := place_eq_item_iff.mp goes
  simp only [readMembers, found, if_neg notClosing, if_pos admitted, quoted, named, separated, held]

theorem exists_member_of_readMembers {members : List (Option String × Node)}
    (goes : place 125 isFirst bytes = .item start)
    (read : readMembers (fuel + 1) isFirst bytes = (members, some rest)) :
    ∃ member after others, IsMember fuel start member after ∧
      readMembers fuel false after = (others, some rest) ∧ members = member :: others := by
  obtain ⟨byte, later, found, notClosing, admitted, rfl⟩ := place_eq_item_iff.mp goes
  simp only [readMembers, found, if_neg notClosing, if_pos admitted] at read
  split at read
  next name quoted =>
    split at read
    next text between named =>
      split at read
      next value separated =>
        split at read
        next node after held =>
          obtain ⟨rfl, later'⟩ := Prod.mk.inj read
          exact ⟨(text, node), after, _, ⟨name, between, value, quoted, named, separated, held⟩,
            Prod.ext rfl later', rfl⟩
        next => cases read
      next => cases read
    next => cases read
  next => cases read

theorem readMembers_of_broken (broken : place 125 isFirst bytes = .broken) :
    (readMembers (fuel + 1) isFirst bytes).2 = none := by
  rw [readMembers]
  split
  next => rfl
  next byte later found =>
    obtain ⟨notClosing, refused⟩ := place_eq_broken_iff.mp broken byte later found
    rw [if_neg notClosing, if_neg refused]

theorem isListing_readMembers : IsListing readMembers IsMember 125 where
  apart := rfl
  stuck := fun _ _ => rfl
  closed := readMembers_of_closed
  item := readMembers_of_item
  only := exists_member_of_readMembers
  broken := readMembers_of_broken

theorem isLocalEntry_isMember (nodes : IsLocal readNode Parted fuel) : IsLocalEntry IsMember fuel := by
  rintro start member after ⟨name, between, value, quoted, named, separated, held⟩
  obtain ⟨valueText, rfl, valueAgain⟩ := nodes _ _ _ held
  obtain ⟨gap, rfl, gapAgain⟩ := exists_of_skipBlanks separated
  obtain ⟨nameText, rfl, nameAgain⟩ := exists_of_readText named
  obtain ⟨blanks, rfl, blanksAgain⟩ := exists_of_skipBlanks quoted
  refine ⟨blanks ++ 34 :: (nameText ++ (gap ++ 58 :: valueText)), by simp,
    by simp only [List.append_assoc, List.cons_append], fun fuel' after' enough stops => ?_⟩
  simp only [List.length_append, List.length_cons] at enough
  simp only [List.append_assoc, List.cons_append]
  exact ⟨_, _, _, blanksAgain _, nameAgain _ fuel' (by omega), gapAgain _,
    valueAgain fuel' after' (by omega) fun _ _ => stops⟩

end Reading

def readNumber (byte : UInt8) (rest : Bytes) : Option (Literal × Bytes) :=
  if byte = 45 then readUnsigned true rest else readUnsigned false (byte :: rest)

def nodeFrom (fuel : Nat) (byte : UInt8) (rest : Bytes) : Node × Option Bytes :=
  if byte = 34 then
    match readText fuel rest with
    | some (text, after) => (.string text, some after)
    | none => (.broken, none)
  else if byte = 91 then
    (.array (readItems fuel true rest).1 (readItems fuel true rest).2.isSome, (readItems fuel true rest).2)
  else if byte = 123 then
    (.object (readMembers fuel true rest).1 (readMembers fuel true rest).2.isSome,
      (readMembers fuel true rest).2)
  else if byte = 110 then readWord [110, 117, 108, 108] .null (byte :: rest)
  else if byte = 116 then readWord [116, 114, 117, 101] (.bool true) (byte :: rest)
  else if byte = 102 then readWord [102, 97, 108, 115, 101] (.bool false) (byte :: rest)
  else
    match readNumber byte rest with
    | some (literal, after) => (.number literal.number?, some after)
    | none => (.broken, none)

theorem readNode_of_skipBlanks {fuel : Nat} {bytes rest : Bytes} {byte : UInt8}
    (found : skipBlanks bytes = byte :: rest) : readNode (fuel + 1) bytes = nodeFrom fuel byte rest := by
  rw [readNode, found]
  rfl

theorem exists_of_readNumber {byte : UInt8} {bytes rest : Bytes} {literal : Literal}
    (read : readNumber byte bytes = some (literal, rest)) : ∃ text, bytes = text ++ rest ∧
      ∀ after, Stops after → readNumber byte (text ++ after) = some (literal, after) := by
  unfold readNumber at read ⊢
  split at read
  next minus =>
    obtain ⟨text, -, parted, again⟩ := exists_of_readUnsigned read
    exact ⟨text, parted, fun after stops => (if_pos minus).trans (again after stops)⟩
  next plus =>
    obtain ⟨text, nonempty, parted, again⟩ := exists_of_readUnsigned read
    cases text with
    | nil => exact absurd rfl nonempty
    | cons first text =>
      cases parted
      exact ⟨text, rfl, fun after stops => (if_neg plus).trans (again after stops)⟩

theorem readWord_eq {word bytes rest : Bytes} {node other : Node}
    (read : readWord word node bytes = (other, some rest)) : other = node ∧ bytes = word ++ rest := by
  unfold readWord at read
  split at read
  next begins =>
    obtain ⟨tail, rfl⟩ := List.isPrefixOf_iff_prefix.mp begins
    rw [List.drop_left] at read
    cases read
    exact ⟨rfl, rfl⟩
  next => cases read

theorem readWord_append (word rest : Bytes) (node : Node) :
    readWord word node (word ++ rest) = (node, some rest) := by
  simp [readWord]

/-- With a fixed word, what follows its first byte is fixed. -/
theorem exists_of_readWord {first : UInt8} {word bytes rest : Bytes} {node other : Node}
    (read : readWord (first :: word) node (first :: bytes) = (other, some rest)) :
    other = node ∧ bytes = word ++ rest ∧
      ∀ after, readWord (first :: word) node (first :: (word ++ after)) = (node, some after) := by
  obtain ⟨same, parted⟩ := readWord_eq read
  exact ⟨same, (List.cons.inj parted).2, fun after => readWord_append (first :: word) after node⟩

section NodeFrom

variable {fuel : Nat} {byte : UInt8}

theorem isLocal_nodeFrom_string : IsLocal (nodeFrom · 34) Parted fuel := by
  intro bytes value rest read
  dsimp only at read
  unfold nodeFrom at read
  rw [if_pos rfl] at read
  split at read
  next known =>
    cases read
    obtain ⟨text, rfl, again⟩ := exists_of_readText known
    refine ⟨text, rfl, fun fuel' after enough _ => ?_⟩
    dsimp only
    rw [nodeFrom, if_pos rfl, again after fuel' enough]
  next => cases read

theorem isLocal_nodeFrom_listing {α : Type} {reader : (fuel : Nat) → Bytes → List α × Option Bytes}
    {node : List α → Bool → Node} (entries : IsLocal reader (fun _ _ => True) fuel)
    (reads : ∀ fuel rest, nodeFrom fuel byte rest =
      (node (reader fuel rest).1 (reader fuel rest).2.isSome, (reader fuel rest).2)) :
    IsLocal (nodeFrom · byte) Parted fuel := by
  intro bytes value rest read
  dsimp only at read
  cases known : reader fuel bytes with
  | mk inner end_ =>
    rw [reads, known] at read
    cases read
    obtain ⟨text, rfl, again⟩ := entries _ _ _ known
    refine ⟨text, rfl, fun fuel' after enough _ => ?_⟩
    dsimp only
    rw [reads, again fuel' after enough trivial]
    rfl

theorem isLocal_nodeFrom_word {word : Bytes} {node : Node}
    (reads : ∀ fuel rest, nodeFrom fuel byte rest = readWord (byte :: word) node (byte :: rest)) :
    IsLocal (nodeFrom · byte) Parted fuel := by
  intro bytes value rest read
  dsimp only at read
  rw [reads] at read
  obtain ⟨rfl, rfl, again⟩ := exists_of_readWord read
  exact ⟨word, rfl, fun fuel' after _ _ => (reads fuel' _).trans (again after)⟩

theorem isLocal_nodeFrom_number (reads : ∀ fuel rest, nodeFrom fuel byte rest =
      match readNumber byte rest with
      | some (literal, after) => (.number literal.number?, some after)
      | none => (.broken, none)) :
    IsLocal (nodeFrom · byte) Parted fuel := by
  intro bytes value rest read
  dsimp only at read
  rw [reads] at read
  split at read
  next known =>
    cases read
    obtain ⟨text, rfl, again⟩ := exists_of_readNumber known
    refine ⟨text, rfl, fun fuel' after _ parted => ?_⟩
    dsimp only
    rw [reads, again after (parted _ rfl)]
  next => cases read

theorem isLocal_nodeFrom (items : IsLocal (readItems · true) (fun _ _ => True) fuel)
    (members : IsLocal (readMembers · true) (fun _ _ => True) fuel) (byte : UInt8) :
    IsLocal (nodeFrom · byte) Parted fuel := by
  by_cases quote : byte = 34
  · rw [quote]
    exact isLocal_nodeFrom_string
  by_cases bracket : byte = 91
  · rw [bracket]
    exact isLocal_nodeFrom_listing items fun _ _ => rfl
  by_cases brace : byte = 123
  · rw [brace]
    exact isLocal_nodeFrom_listing members fun _ _ => rfl
  by_cases isNull : byte = 110
  · rw [isNull]
    exact isLocal_nodeFrom_word fun _ _ => rfl
  by_cases isTrue : byte = 116
  · rw [isTrue]
    exact isLocal_nodeFrom_word fun _ _ => rfl
  by_cases isFalse : byte = 102
  · rw [isFalse]
    exact isLocal_nodeFrom_word fun _ _ => rfl
  refine isLocal_nodeFrom_number fun fuel rest => ?_
  rw [nodeFrom, if_neg quote, if_neg bracket, if_neg brace, if_neg isNull, if_neg isTrue, if_neg isFalse]

end NodeFrom

theorem isLocal_readNode_succ {fuel : Nat} (items : IsLocal (readItems · true) (fun _ _ => True) fuel)
    (members : IsLocal (readMembers · true) (fun _ _ => True) fuel) :
    IsLocal readNode Parted (fuel + 1) := by
  intro bytes value rest read
  cases found : skipBlanks bytes with
  | nil =>
    rw [readNode, found] at read
    cases read
  | cons byte later =>
    rw [readNode_of_skipBlanks found] at read
    obtain ⟨text, rfl, again⟩ := isLocal_nodeFrom items members byte _ _ _ read
    obtain ⟨blanks, rfl, blanksAgain⟩ := exists_of_skipBlanks found
    refine ⟨blanks ++ byte :: text, by simp, fun fuel' after enough parted => ?_⟩
    rw [List.length_append, List.length_cons] at enough
    obtain ⟨fuel', rfl⟩ := Nat.exists_eq_add_one.mpr (show 0 < fuel' by omega)
    rw [List.append_assoc, List.cons_append, readNode_of_skipBlanks (blanksAgain _)]
    exact again fuel' after (by omega) parted

/-- What is read of a value, of items and of members is local, however deep they are nested. -/
theorem isLocal_read (fuel : Nat) : IsLocal readNode Parted fuel ∧
    (∀ isFirst, IsLocal (readItems · isFirst) (fun _ _ => True) fuel) ∧
    ∀ isFirst, IsLocal (readMembers · isFirst) (fun _ _ => True) fuel := by
  induction fuel with
  | zero => exact ⟨nofun, fun _ => nofun, fun _ => nofun⟩
  | succ fuel ih =>
    obtain ⟨nodes, items, members⟩ := ih
    exact ⟨isLocal_readNode_succ (items true) (members true),
      isListing_readItems.isLocal (isLocalEntry_isItem nodes) (items false),
      isListing_readMembers.isLocal (isLocalEntry_isMember nodes) (members false)⟩

/-- A value that is read to its end stands in a text of its own, and is read whatever follows that. -/
theorem exists_of_read {bytes rest : Bytes} (ends : (read bytes).2 = some rest) :
    ∃ text, bytes = text ++ rest ∧ ∀ after, Parted (read bytes).1 after →
      read (text ++ after) = ((read bytes).1, some after) := by
  obtain ⟨text, parted, again⟩ := (isLocal_read _).1 bytes (read bytes).1 rest (Prod.ext rfl ends)
  refine ⟨text, parted, fun after apart => again _ after ?_ apart⟩
  rw [List.length_append]
  omega

/-- A value that goes wrong, or in which reading stopped. -/
inductive Node.Unfinished : Node → Prop where
  | broken : Unfinished .broken
  | array (items : List Node) : Unfinished (.array items false)
  | object (members : List (Option String × Node)) : Unfinished (.object members false)

theorem unfinished_of_readWord {word bytes : Bytes} {node other : Node}
    (read : readWord word node bytes = (other, none)) : other.Unfinished := by
  unfold readWord at read
  split at read
  · cases read
  · cases read
    exact .broken

theorem unfinished_of_nodeFrom {fuel : Nat} {byte : UInt8} {bytes : Bytes} {node : Node}
    (read : nodeFrom fuel byte bytes = (node, none)) : node.Unfinished := by
  unfold nodeFrom at read
  split at read
  · split at read
    · cases read
    · cases read
      exact .broken
  split at read
  · obtain ⟨rfl, ended⟩ := Prod.mk.inj read
    rw [ended]
    exact .array _
  split at read
  · obtain ⟨rfl, ended⟩ := Prod.mk.inj read
    rw [ended]
    exact .object _
  split at read
  · exact unfinished_of_readWord read
  split at read
  · exact unfinished_of_readWord read
  split at read
  · exact unfinished_of_readWord read
  · split at read
    · cases read
    · cases read
      exact .broken

theorem unfinished_of_read {bytes : Bytes} {node : Node} (held : read bytes = (node, none)) :
    node.Unfinished := by
  rw [read, readNode] at held
  split at held
  · cases held
    exact .broken
  · exact unfinished_of_nodeFrom held

theorem Node.Unfinished.decodeValue_ne_ok {node : Node} (unfinished : node.Unfinished) {depth : Nat}
    {value : Value} : decodeValue depth node ≠ .ok value := by
  intro decoded
  cases unfinished with
  | broken =>
    rw [decodeValue] at decoded
    cases decoded
  | array items =>
    cases depth with
    | zero =>
      rw [decodeValue] at decoded
      cases decoded
    | succ depth =>
      rw [decodeValue] at decoded
      obtain ⟨values, -, closing⟩ := bind_eq_ok.mp decoded
      cases closing
  | object members =>
    cases depth with
    | zero =>
      rw [decodeValue] at decoded
      cases decoded
    | succ depth =>
      rw [decodeValue] at decoded
      obtain ⟨values, -, closing⟩ := bind_eq_ok.mp decoded
      cases closing

theorem exists_rest_of_decodeValue {bytes : Bytes} {value : Value} {depth : Nat}
    (decoded : decodeValue depth (read bytes).1 = .ok value) : ∃ rest, (read bytes).2 = some rest := by
  cases ended : (read bytes).2 with
  | some rest => exact ⟨rest, rfl⟩
  | none =>
    have unfinished : (read bytes).1.Unfinished := unfinished_of_read (Prod.ext rfl ended)
    exact absurd decoded unfinished.decodeValue_ne_ok

end BearerIdentity.Json
