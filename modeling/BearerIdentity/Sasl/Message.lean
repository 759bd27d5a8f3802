import BearerIdentity.Error
import BearerIdentity.Rendering
import BearerIdentity.Text.Ascii
import BearerIdentity.Text.Blank
import BearerIdentity.Text.Split
import BearerIdentity.Text.Utf8

set_option autoImplicit false

/- The client's message: a header that may name an identity, then attributes, each of which ends with a
delimiter, and a delimiter. One attribute holds the bearer token. -/

namespace BearerIdentity

structure BearerMessage where
  /-- Whom the client wants to act for. -/
  authzid : Option String
  host : Option String
  token : String
  /-- The other attributes, in order. -/
  extensions : List (String × String)
  deriving DecidableEq, Repr

namespace BearerMessage

def delimiter : Char := '\x01'

/-- What a client sends to end an exchange that has failed. -/
def abort : Bytes := [1]

/-- What a server sends when it rejects a token. -/
def invalidToken : Bytes :=
  Utf8.ofString "\x7b\"status\":\"invalid_token\"\x7d"

/-- Commas end the identity in the header, so they are escaped, as are equals signs. -/
def escape (text : List Char) : List Char :=
  text.flatMap fun c =>
    if c = '=' then ['=', '3', 'D'] else if c = ',' then ['=', '2', 'C'] else [c]

def unescape : List Char → Option (List Char)
  | [] => some []
  | '=' :: '2' :: 'C' :: rest => (unescape rest).map (',' :: ·)
  | '=' :: '3' :: 'D' :: rest => (unescape rest).map ('=' :: ·)
  | c :: rest => if c = '=' then none else (unescape rest).map (c :: ·)

def encodeAttribute (key value : String) : List Char :=
  key.toList ++ '=' :: value.toList ++ [delimiter]

def encodeAuthzid (authzid : Option String) : List Char :=
  authzid.elim [] fun authzid => 'a' :: '=' :: escape authzid.toList

def encodeText (message : BearerMessage) : List Char :=
  'n' :: ',' :: encodeAuthzid message.authzid ++ ',' :: delimiter
    :: (message.host.elim [] (encodeAttribute "host"))
    ++ (message.extensions.flatMap fun (key, value) => encodeAttribute key value)
    ++ encodeAttribute "auth" ("Bearer " ++ message.token) ++ [delimiter]

def encode (message : BearerMessage) : Bytes :=
  Utf8.encode message.encodeText

def parseAuthzid (text : List Char) : Except MessageFlaw (Option String) :=
  match text with
  | [] => .ok none
  | 'a' :: '=' :: escaped =>
    match unescape escaped with
    | some authzid => .ok (some (String.ofList authzid))
    | none => .error .authzidEscape
  | _ => .error .authzid

def parseHeader (text : List Char) : Except MessageFlaw (Option String × List Char) :=
  match Split.atFirst ',' text with
  | none => .error .noHeader
  | some (flag, rest) =>
    if flag ≠ ['n'] ∧ flag ≠ ['y'] then
      .error (if ['p', '='].isPrefixOf flag then .channelBinding else .headerFlag)
    else
      match Split.atFirst ',' rest with
      | none => .error .headerOpen
      | some (authzid, rest) => (parseAuthzid authzid).map (·, rest)

def parseBearer (value : List Char) : Except MessageFlaw String :=
  match Split.atFirst ' ' value with
  | none => .error .noScheme
  | some (scheme, token) =>
    if Ascii.lower scheme ≠ "bearer".toList then .error .notBearer
    else
      match Blank.trim token with
      | [] => .error .blankToken
      | token => .ok (String.ofList token)

/-- A key, which consists of letters, and a value. -/
def splitAttribute (text : List Char) : Except MessageFlaw (String × List Char) :=
  match Split.atFirst '=' text with
  | some (key, value) =>
    if !key.isEmpty && key.all Ascii.isLetter then .ok (String.ofList key, value)
    else .error .notKeyValue
  | none => .error .notKeyValue

/-- The attributes read so far, the last extension first. -/
structure Attributes where
  host : Option String
  token : Option String
  extensions : List (String × String)
  deriving DecidableEq, Repr

/-- Reads an attribute. Of repeated hosts and tokens the last one counts. -/
def Attributes.read (attributes : Attributes) (text : List Char) :
    Except MessageFlaw Attributes := do
  let (key, value) ← splitAttribute text
  if key = "auth" then return { attributes with token := some (← parseBearer value) }
  else if key = "host" then return { attributes with host := some (String.ofList value) }
  else return { attributes with
    extensions := (key, String.ofList value) :: attributes.extensions }

/-- What stands between the first delimiter and the last two. -/
def attributesText? (text : List Char) : Option (List Char) :=
  match text with
  | c :: rest => if c = delimiter then Split.beforeSuffix? [delimiter, delimiter] rest else none
  | [] => none

def parseText (text : List Char) : Except MessageFlaw BearerMessage := do
  let (authzid, rest) ← parseHeader text
  match attributesText? rest with
  | none => .error .notDelimited
  | some body =>
    let attributes ← (Split.onEvery (· == delimiter) body).foldlM Attributes.read ⟨none, none, []⟩
    match attributes.token with
    | none => .error .noAuth
    | some token =>
      return { authzid, host := attributes.host, token
               extensions := attributes.extensions.reverse }

def parse (bytes : Bytes) : Except SaslError BearerMessage :=
  match Utf8.decode bytes with
  | none => .error (.malformed .notUtf8)
  | some text => (parseText text).mapError .malformed

def toValue (message : BearerMessage) : Json.Value :=
  .ofMembers [
    ("authzid", .ofText? message.authzid),
    ("host", .ofText? message.host),
    ("token", .string message.token),
    ("extensions", .ofPairs message.extensions)]

def describe (message : BearerMessage) : String :=
  let optional := Rendering.optional Rendering.quoted
  Rendering.record "BearerMessage"
    [("authzid", optional message.authzid), ("host", optional message.host),
      ("token", Rendering.quoted Rendering.redacted),
      ("extensions", Rendering.pairs message.extensions)]

end BearerMessage

end BearerIdentity
