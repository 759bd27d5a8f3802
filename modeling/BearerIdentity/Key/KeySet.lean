import BearerIdentity.Key.WebKey

set_option autoImplicit false

namespace BearerIdentity

structure KeySet where
  keys : List WebKey
  deriving DecidableEq, Repr

namespace KeySet

/-- The key that an entry of a document stands for, if it is one for signatures. -/
def ofEntry? (entry : Json.Value) : Option WebKey :=
  match Json.decodeFrom WebKey.decoder entry with
  | .ok key => if key.isForSignatures then some key else none
  | .error _ => none

/-- The signature keys of a document, in its order. A document without any is refused. -/
def ofDocument (document : Json.Value) : Except VerifyError KeySet :=
  match (document.member? "keys").bind (·.items?) with
  | none => .error (.keySetUnavailable .noKeysArray)
  | some entries =>
    match entries.filterMap ofEntry? with
    | [] => .error (.keySetUnavailable .noSignatureKeys)
    | keys => .ok ⟨keys⟩

def find? (set : KeySet) (kid : String) (now : Instant) : Option WebKey :=
  set.keys.find? fun key => key.id == some kid && key.isValidAt now

def hasValidKey (set : KeySet) (now : Instant) : Bool :=
  set.keys.any (·.isValidAt now)

end KeySet

end BearerIdentity
