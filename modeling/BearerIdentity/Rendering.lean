import BearerIdentity.Text.Visible

set_option autoImplicit false

namespace BearerIdentity.Rendering

def redacted : String := "<redacted>"

def escape (c : Char) : String :=
  if c = '\t' then "\\t"
  else if c = '\r' then "\\r"
  else if c = '\n' then "\\n"
  else if c = '\x00' then "\\0"
  else if c = '"' then "\\\""
  else if c = '\\' then "\\\\"
  else if Visible.isVisible c then c.toString
  else "\\u\x7b" ++ String.ofList (Nat.toDigits 16 c.toNat) ++ "\x7d"

def quoted (text : String) : String :=
  "\"" ++ String.join (text.toList.map escape) ++ "\""

def optional {α : Type} (inner : α → String) : Option α → String
  | none => "None"
  | some value => "Some(" ++ inner value ++ ")"

def list {α : Type} (inner : α → String) (items : List α) : String :=
  "[" ++ ", ".intercalate (items.map inner) ++ "]"

def pair (left right : String) : String :=
  "(" ++ left ++ ", " ++ right ++ ")"

def pairs (entries : List (String × String)) : String :=
  list (fun (name, value) => pair (quoted name) (quoted value)) entries

def mapping (entries : List (String × String)) : String :=
  "\x7b" ++ ", ".intercalate (entries.map fun (name, value) => quoted name ++ ": " ++ value)
    ++ "\x7d"

def flag (value : Bool) : String :=
  if value then "true" else "false"

def fieldTexts (fields : List (String × String)) : List String :=
  fields.map fun (name, value) => name ++ ": " ++ value

def record (name : String) (fields : List (String × String)) : String :=
  if fields.isEmpty then name
  else name ++ " \x7b " ++ ", ".intercalate (fieldTexts fields) ++ " \x7d"

def partialRecord (name : String) (fields : List (String × String)) : String :=
  name ++ " \x7b " ++ ", ".intercalate (fieldTexts fields ++ [".."]) ++ " \x7d"

def tuple (name : String) (parts : List String) : String :=
  name ++ "(" ++ ", ".intercalate parts ++ ")"

end BearerIdentity.Rendering
