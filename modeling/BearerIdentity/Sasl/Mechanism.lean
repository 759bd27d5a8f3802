import BearerIdentity.Error
import BearerIdentity.Text.Ascii
import BearerIdentity.Text.Split

set_option autoImplicit false

namespace BearerIdentity

inductive Mechanism where
  | plain
  | sealed
  deriving DecidableEq, Repr

namespace Mechanism

def plainName : String := "OAUTHBEARER"

/-- What the names of mechanisms with key agreement begin with; the size of the keys follows. -/
def sealedStem : String := "OAUTHBEARER-DH"

def keyBits : Nat := 4096

def name : Mechanism → String
  | plain => plainName
  | sealed => s!"{sealedStem}{keyBits}"

/-- The size of the mechanism's keys. The plain one has none. -/
def bits : Mechanism → Nat
  | plain => 0
  | sealed => keyBits

/-- A number of 32 bits, with or without a plus sign. -/
def number? (text : List Char) : Option Nat :=
  let digits := match text with
    | '+' :: rest => rest
    | _ => text
  if digits.isEmpty || !digits.all Ascii.isDigit then none
  else
    let value := Ascii.decimal digits
    if value < Nat.pow 2 32 then some value else none

def ofName (name : String) : Except SaslError Mechanism :=
  if name = plainName then .ok plain
  else
    match (Split.afterPrefix? sealedStem.toList name.toList).bind number? with
    | none => .error (.unknownMechanism name)
    | some bits => if bits = keyBits then .ok sealed else .error (.unsupportedKeySize bits)

end Mechanism

end BearerIdentity
