import BearerIdentity.Json.Binary64

set_option autoImplicit false

namespace BearerIdentity.Json

/-- A whole number of at most 64 bits, or any other number as a double. -/
inductive Number where
  | whole (value : Int)
  | real (value : Binary64)
  deriving DecidableEq, Repr, Inhabited

inductive Value where
  | null
  | bool (value : Bool)
  | number (value : Number)
  | string (value : String)
  | array (items : List Value)
  | object (members : List (String × Value))
  deriving Repr, Inhabited

def insertSorted {α : Type} (name : String) (entry : α) :
    List (String × α) → List (String × α)
  | [] => [(name, entry)]
  | (other, kept) :: rest =>
    if name < other then (name, entry) :: (other, kept) :: rest
    else if name = other then (name, entry) :: rest
    else (other, kept) :: insertSorted name entry rest

namespace Value

/-- An object with these members, the last of each name. -/
def ofMembers (members : List (String × Value)) : Value :=
  .object (members.foldl (fun sorted (name, value) => insertSorted name value sorted) [])

def ofOption {α : Type} (f : α → Value) : Option α → Value
  | none => .null
  | some value => f value

def ofText? : Option String → Value :=
  ofOption .string

def ofTexts (texts : List String) : Value :=
  .array (texts.map .string)

def ofInt (value : Int) : Value :=
  .number (.whole value)

def ofNat (value : Nat) : Value :=
  ofInt value

/-- Names and values, each in an array of two. -/
def ofPairs (pairs : List (String × String)) : Value :=
  .array (pairs.map fun (name, value) => .array [.string name, .string value])

def member? (name : String) : Value → Option Value
  | .object members => members.lookup name
  | _ => none

def items? : Value → Option (List Value)
  | .array items => some items
  | _ => none

def text? : Value → Option String
  | .string text => some text
  | _ => none

end Value

end BearerIdentity.Json
