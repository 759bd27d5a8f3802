import BearerIdentity.Text.Direction
import BearerIdentity.Text.Joining
import BearerIdentity.Url.Mapping

set_option autoImplicit false

namespace BearerIdentity.Url.Domain

def isForbidden (c : Char) : Bool :=
  c.toNat ≤ 0x20 || c.toNat = 0x7f || "#/:<>?@[\\]^|%".toList.contains c

def marker : List Char :=
  "xn--".toList

/-- The greatest number of characters that a label with characters outside ASCII stands for. -/
def textLimit : Nat := 1000

/-- The greatest number of characters that a label in Punycode has after its mark. -/
def encodedLimit : Nat := 2000

/-- What a label in Punycode says: a text in normal form that ASCII cannot express. -/
def decoded? (encoded : List Char) : Option (List Char) := do
  let text ← if encoded.length ≤ encodedLimit then Punycode.decode? encoded else none
  if !text.all Punycode.isAscii ∧ Mapping.normalForm? text = some text then some text else none

/-- What a label in normal form says, in Punycode or not. -/
def labelText? (label : List Char) : Option (List Char) :=
  if marker.isPrefixOf label then
    if label.all Punycode.isAscii then decoded? (label.drop marker.length) else none
  else some label

/-- A text that can be a label by itself: no mark stands first, all joiners have their place, and it
is not too long. -/
def isSound (text : List Char) : Bool :=
  text.all Punycode.isAscii
    || (!text.head?.any Mark.isMark && Joining.arePlaced [] text && text.length ≤ textLimit)

def labelToAscii (label : List Char) : List Char :=
  if label.all Punycode.isAscii then label else marker ++ Punycode.encode label

/-- The name in ASCII and in lower case. Where one of its labels runs from right to left, none of
them may run both ways. -/
def toAscii? (text : List Char) : Option (List Char) := do
  let name ← Mapping.normalForm? text
  if name.any isForbidden then none
  else
    let labels := Split.onEvery (· = '.') name
    let texts ← labels.mapM labelText?
    if !texts.all isSound then none
    else if texts.any (·.any Direction.isRightward) && !texts.all Direction.isOrdered then none
    else some (['.'].intercalate (labels.map labelToAscii))

end BearerIdentity.Url.Domain
