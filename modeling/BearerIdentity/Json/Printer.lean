import BearerIdentity.Json.Value

set_option autoImplicit false

namespace BearerIdentity.Json

def paddedDigits (base width value : Nat) : String :=
  let digits := Nat.toDigits base value
  String.ofList (List.replicate (width - digits.length) '0' ++ digits)

def printUnit (unit : Nat) : String :=
  "\\u" ++ paddedDigits 16 4 unit

/-- A character inside quotes. Beyond ASCII it is written as one unit of 16 bits or two. -/
def printChar (c : Char) : String :=
  let code := c.toNat
  if c = '"' then "\\\""
  else if c = '\\' then "\\\\"
  else if 0x20 ≤ code && code < 0x7f then c.toString
  else if code < 0x10000 then printUnit code
  else
    printUnit (0xd800 + (code - 0x10000) / 1024) ++ printUnit (0xdc00 + (code - 0x10000) % 1024)

def printText (text : String) : String :=
  "\"" ++ String.join (text.toList.map printChar) ++ "\""

/-- The decimal expansion, which is finite since a power of two divides one of ten. -/
def printReal (number : Binary64) : String :=
  let sign := if number.negative then "-" else ""
  match number.exponent with
  | .ofNat up => s!"{sign}{number.mantissa * Nat.pow 2 up}.0"
  | .negSucc down =>
    let places := down + 1
    let fraction := (number.mantissa % Nat.pow 2 places) * Nat.pow 5 places
    s!"{sign}{number.mantissa / Nat.pow 2 places}." ++ paddedDigits 10 places fraction

mutual

def Value.print : Value → String
  | .null => "null"
  | .bool value => if value then "true" else "false"
  | .number (.whole value) => toString value
  | .number (.real value) => printReal value
  | .string text => printText text
  | .array items => "[" ++ ",".intercalate (printItems items) ++ "]"
  | .object members => "\x7b" ++ ",".intercalate (printMembers members) ++ "\x7d"

def printItems : List Value → List String
  | [] => []
  | item :: rest => item.print :: printItems rest

def printMembers : List (String × Value) → List String
  | [] => []
  | (name, value) :: rest => (printText name ++ ":" ++ value.print) :: printMembers rest

end

end BearerIdentity.Json
