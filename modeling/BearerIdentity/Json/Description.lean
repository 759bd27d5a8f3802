import BearerIdentity.Json.Shortest
import BearerIdentity.Json.Value

set_option autoImplicit false

namespace BearerIdentity.Json

def Number.describe (number : Number) : String :=
  Rendering.tuple "Number" [match number with
    | .whole value => toString value
    | .real value => value.text]

mutual

def Value.describe : Value → String
  | .null => "Null"
  | .bool value => Rendering.tuple "Bool" [Rendering.flag value]
  | .number value => value.describe
  | .string text => Rendering.tuple "String" [Rendering.quoted text]
  | .array items => "Array " ++ Rendering.list id (describeItems items)
  | .object members => "Object " ++ Rendering.mapping (describeMembers members)

def describeItems : List Value → List String
  | [] => []
  | item :: rest => item.describe :: describeItems rest

def describeMembers : List (String × Value) → List (String × String)
  | [] => []
  | (name, value) :: rest => (name, value.describe) :: describeMembers rest

end

end BearerIdentity.Json
