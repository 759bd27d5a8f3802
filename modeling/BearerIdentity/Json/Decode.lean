import BearerIdentity.Json.Node

set_option autoImplicit false

/- Reading typed values from JSON. A reader goes through a tree in the order of the text, so that the
first fault in the text is the one reported. -/

namespace BearerIdentity.Json

inductive Step where
  | member (name : String)
  | item (index : Nat)
  deriving DecidableEq, Repr

/-- Why a value cannot be read: the text is no JSON up to the end of the value, or the part at a
path has the wrong type, lacks a member, or has one twice. -/
inductive Flaw where
  | malformed
  | mismatch (path : List Step)
  deriving DecidableEq, Repr

namespace Flaw

/-- Writes a path: names are joined by points, and an index stands in brackets. -/
def pathText : List Step → String
  | [] => "."
  | steps => "".intercalate (go true steps)
where
  go : Bool → List Step → List String
    | _, [] => []
    | _, .item index :: rest => s!"[{index}]" :: go false rest
    | isFirst, .member name :: rest => (if isFirst then name else "." ++ name) :: go false rest

def within (step : Step) : Flaw → Flaw
  | .malformed => .malformed
  | .mismatch path => .mismatch (step :: path)

end Flaw

abbrev Decoded (α : Type) := Except Flaw α

/-- A reader is told how many more levels of arrays and objects it may enter. -/
abbrev Decoder (α : Type) := (depth : Nat) → Node → Decoded α

def depthLimit : Nat := 127

def mismatch {α : Type} : Decoded α :=
  .error (.mismatch [])

/-- A value of a type that is not asked for. Only scalars are read before they are refused. -/
def refuse {α : Type} : Node → Decoded α
  | .number none => .error .malformed
  | .string none => .error .malformed
  | .broken => .error .malformed
  | _ => mismatch

def at_ {α : Type} (step : Step) (result : Decoded α) : Decoded α :=
  result.mapError (Flaw.within step)

mutual

/-- Whether nothing in the tree goes wrong, for a value that is skipped. -/
def Node.isIntact : Node → Bool
  | .broken => false
  | .array items closed => closed && allIntact items
  | .object members closed => closed && allMembersIntact members
  | _ => true

def allIntact : List Node → Bool
  | [] => true
  | item :: rest => item.isIntact && allIntact rest

def allMembersIntact : List (Option String × Node) → Bool
  | [] => true
  | (_, value) :: rest => value.isIntact && allMembersIntact rest

end

def skip (node : Node) : Decoded Unit :=
  if node.isIntact then .ok () else .error .malformed

mutual

/-- Any value. Of repeated members the last one counts. -/
def decodeValue : (depth : Nat) → Node → Decoded Value
  | _, .null => .ok .null
  | _, .bool value => .ok (.bool value)
  | _, .number (some value) => .ok (.number value)
  | _, .number none => .error .malformed
  | _, .string (some value) => .ok (.string value)
  | _, .string none => .error .malformed
  | _, .broken => .error .malformed
  | 0, .array _ _ => .error .malformed
  | depth + 1, .array items closed =>
    (decodeItems depth items).bind fun values =>
      if closed then .ok (.array values) else .error .malformed
  | 0, .object _ _ => .error .malformed
  | depth + 1, .object members closed =>
    (decodeMembers depth [] members).bind fun values =>
      if closed then .ok (.object values) else .error .malformed

def decodeItems : (depth : Nat) → List Node → Decoded (List Value)
  | _, [] => .ok []
  | depth, item :: rest =>
    (decodeValue depth item).bind fun value =>
      (decodeItems depth rest).map (value :: ·)

def decodeMembers : (depth : Nat) → List (String × Value) → List (Option String × Node) →
    Decoded (List (String × Value))
  | _, read, [] => .ok read
  | depth, read, (some name, node) :: rest =>
    (decodeValue depth node).bind fun value =>
      decodeMembers depth (insertSorted name value read) rest
  | _, _, (none, _) :: _ => .error .malformed

end

mutual

def Node.ofValue : Value → Node
  | .null => .null
  | .bool value => .bool value
  | .number value => .number (some value)
  | .string value => .string (some value)
  | .array items => .array (ofValues items) true
  | .object members => .object (ofEntries members) true

def ofValues : List Value → List Node
  | [] => []
  | item :: rest => .ofValue item :: ofValues rest

def ofEntries : List (String × Value) → List (Option String × Node)
  | [] => []
  | (name, value) :: rest => (some name, .ofValue value) :: ofEntries rest

end

namespace Decoder

def string : Decoder String
  | _, .string (some value) => .ok value
  | _, node => refuse node

def bool : Decoder Bool
  | _, .bool value => .ok value
  | _, node => refuse node

def int64 : Decoder Int
  | _, .number (some (.whole value)) => if value < Nat.pow 2 63 then .ok value else mismatch
  | _, node => refuse node

def option {α : Type} (inner : Decoder α) : Decoder (Option α)
  | _, .null => .ok none
  | depth, node => (inner depth node).map some

def listFrom {α : Type} (inner : Decoder α) (depth : Nat) :
    (index : Nat) → List Node → Decoded (List α)
  | _, [] => .ok []
  | index, item :: rest => do
    let value ← at_ (.item index) (inner depth item)
    let values ← listFrom inner depth (index + 1) rest
    .ok (value :: values)

def list {α : Type} (inner : Decoder α) : Decoder (List α)
  | 0, .array _ _ => .error .malformed
  | depth + 1, .array items closed => do
    let values ← listFrom inner depth 0 items
    if closed then .ok values else .error .malformed
  | _, node => refuse node

/-- Reads on what another reader gives; a value it does not know is a mismatch. -/
def filterMap {α β : Type} (inner : Decoder α) (accept : α → Option β) : Decoder β :=
  fun depth node => do
    match accept (← inner depth node) with
    | some value => .ok value
    | none => mismatch

/-- A value that one of several types can hold: it is read as a whole first. -/
def ofValue? {α : Type} (accept : Value → Option α) : Decoder α :=
  fun depth node => do
    match accept (← decodeValue depth node) with
    | some value => .ok value
    | none => mismatch

/-- One of a fixed set of words, or an object whose only member is such a word with value `null`. -/
def word {α : Type} (accept : String → Option α) : Decoder α
  | depth, .string text => filterMap string accept depth (.string text)
  | 0, .object _ _ => .error .malformed
  | _ + 1, .object members closed =>
    match members with
    | [] => if closed then mismatch else .error .malformed
    | (none, _) :: _ => .error .malformed
    | (some name, value) :: rest =>
      match accept name, value with
      | none, _ => mismatch
      | some accepted, .null => if rest.isEmpty && closed then .ok accepted else .error .malformed
      | some _, value => refuse value
  | _, .broken => .error .malformed
  | _, _ => .error .malformed

end Decoder

/-- A named part of a record: how reading it changes the record, and whether it has to occur. -/
structure Field (σ : Type) where
  name : String
  isRequired : Bool
  /-- Whether an array that stands for the record has to reach as far as this part. -/
  hasPlace : Bool
  read : (depth : Nat) → Node → σ → Decoded σ

namespace Field

def required {σ α : Type} (name : String) (inner : Decoder α) (set : α → σ → σ) : Field σ :=
  ⟨name, true, true, fun depth node record => (inner depth node).map (set · record)⟩

/-- A part that keeps its default where it does not occur. -/
def optional {σ α : Type} (name : String) (inner : Decoder α) (set : α → σ → σ) : Field σ :=
  ⟨name, false, false, fun depth node record => (inner depth node).map (set · record)⟩

/-- A part that an object may leave out and an array may not. -/
def placed {σ α : Type} (name : String) (inner : Decoder α) (set : α → σ → σ) : Field σ :=
  ⟨name, false, true, fun depth node record => (inner depth node).map (set · record)⟩

end Field

/-- What a record does with members that are none of its fields. -/
abbrev Unknown (σ : Type) := (depth : Nat) → String → Node → σ → Decoded σ

namespace Record

def ignore {σ : Type} : Unknown σ :=
  fun _ _ node record => (skip node).map fun _ => record

/-- Reads members in the order of the text; `seen` are the fields read so far. -/
def readMembers {σ : Type} (fields : List (Field σ)) (unknown : Unknown σ) (depth : Nat) :
    (seen : List String) → σ → List (Option String × Node) → Decoded (List String × σ)
  | seen, record, [] => .ok (seen, record)
  | _, _, (none, _) :: _ => .error .malformed
  | seen, record, (some name, node) :: rest =>
    match fields.find? (·.name == name) with
    | none => do
      let record ← at_ (.member name) (unknown depth name node record)
      readMembers fields unknown depth seen record rest
    | some field =>
      if seen.contains name then mismatch
      else do
        let record ← at_ (.member name) (field.read depth node record)
        readMembers fields unknown depth (name :: seen) record rest

/-- Reads the fields by position. Fields after the last item keep their defaults; items after the
last field are no part of the record. -/
def readItems {σ : Type} (depth : Nat) (closed : Bool) :
    (index : Nat) → List (Field σ) → σ → List Node → Decoded σ
  | _, [], record, [] => if closed then .ok record else .error .malformed
  | _, [], _, _ :: _ => .error .malformed
  | index, field :: fields, record, [] =>
    if !closed then .error .malformed
    else if field.hasPlace then mismatch
    else readItems depth closed index fields record []
  | index, field :: fields, record, item :: rest => do
    let record ← at_ (.item index) (field.read depth item record)
    readItems depth closed (index + 1) fields record rest

def ofObject {σ : Type} (fields : List (Field σ)) (unknown : Unknown σ) (start : σ) : Decoder σ
  | 0, .object _ _ => .error .malformed
  | depth + 1, .object members closed => do
    let (seen, record) ← readMembers fields unknown depth [] start members
    if !closed then .error .malformed
    else if fields.any fun field => field.isRequired && !seen.contains field.name then mismatch
    else .ok record
  | _, node => refuse node

/-- Reads an object by names, or an array by positions. -/
def decoder {σ : Type} (fields : List (Field σ)) (start : σ) : Decoder σ
  | 0, .array _ _ => .error .malformed
  | depth + 1, .array items closed => readItems depth closed 0 fields start items
  | depth, node => ofObject fields ignore start depth node

end Record

/-- Reads the value at the start of a text, whatever follows it. -/
def decodeStart {α : Type} (decoder : Decoder α) (text : Bytes) : Decoded α :=
  decoder depthLimit (read text).1

/-- Reads a text that is one value with nothing but blanks after it. -/
def decodeAll {α : Type} (decoder : Decoder α) (text : Bytes) : Decoded α :=
  let (node, rest) := read text
  (decoder depthLimit node).bind fun value =>
    if (rest.map skipBlanks) = some [] then .ok value else .error .malformed

def decodeFrom {α : Type} (decoder : Decoder α) (value : Value) : Decoded α :=
  decoder depthLimit (.ofValue value)

end BearerIdentity.Json
