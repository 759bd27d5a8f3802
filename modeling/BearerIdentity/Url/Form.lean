import BearerIdentity.Text.Percent
import BearerIdentity.Text.Split

set_option autoImplicit false

namespace BearerIdentity.Form

def decodePart (text : List Char) : String :=
  let spaced := text.map fun c => if c = '+' then ' ' else c
  String.ofList (Utf8.decodeLossy (Percent.decode (Utf8.encode spaced)))

/-- A name and a value; without an equals sign the value is empty. -/
def decodePair (text : List Char) : String × String :=
  match Split.atFirst '=' text with
  | some (name, value) => (decodePart name, decodePart value)
  | none => (decodePart text, "")

/-- The pairs between ampersands; empty pieces are no pairs. -/
def decode (query : String) : List (String × String) :=
  ((Split.onEvery (· == '&') query.toList).filter (!·.isEmpty)).map decodePair

end BearerIdentity.Form
