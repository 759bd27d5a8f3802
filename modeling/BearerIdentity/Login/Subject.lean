import BearerIdentity.Token.Signed

set_option autoImplicit false

namespace BearerIdentity

structure Principal where
  name : String
  token : SignedToken

def Principal.toValue (principal : Principal) : Json.Value :=
  .ofMembers [("name", .string principal.name), ("token", .string principal.token.raw)]

def Principal.describe (principal : Principal) : String :=
  Rendering.record "Principal"
    [("name", Rendering.quoted principal.name), ("token", principal.token.describe)]

structure Subject where
  principals : List Principal

namespace Subject

def empty : Subject :=
  ⟨[]⟩

def isEmpty (subject : Subject) : Bool :=
  subject.principals.isEmpty

def principal? (subject : Subject) (name : String) : Option Principal :=
  subject.principals.find? (·.name == name)

/-- Adds a principal in the last place; one of the same name is removed. -/
def attach (subject : Subject) (principal : Principal) : Subject :=
  ⟨subject.principals.filter (·.name != principal.name) ++ [principal]⟩

def detach (subject : Subject) (name : String) : Subject :=
  ⟨subject.principals.eraseP (·.name == name)⟩

def describe (subject : Subject) : String :=
  Rendering.record "Subject"
    [("principals", Rendering.record "RwLock"
      [("data", Rendering.list Principal.describe subject.principals)])]

end Subject

end BearerIdentity
