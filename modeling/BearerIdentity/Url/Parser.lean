import BearerIdentity.Text.Percent
import BearerIdentity.Url.Basic
import BearerIdentity.Url.Domain

set_option autoImplicit false

namespace BearerIdentity.Url

/-- Surrounding controls and spaces, and tabs and line ends anywhere, do not count. -/
def clean (text : List Char) : List Char :=
  let isEdge (c : Char) : Bool := c.toNat ≤ 0x20
  let inner := ((text.dropWhile isEdge).reverse.dropWhile isEdge).reverse
  inner.filter fun c => c ≠ '\t' && c ≠ '\n' && c ≠ '\r'

def isSchemeChar (c : Char) : Bool :=
  Ascii.isLetter c || Ascii.isDigit c || c = '+' || c = '-' || c = '.'

/-- The scheme in lower case, and what follows its colon. -/
def splitScheme? (text : List Char) : Option (String × List Char) :=
  match text.head?, text.dropWhile isSchemeChar with
  | some first, ':' :: rest =>
    if Ascii.isLetter first then
      some (String.ofList (Ascii.lower (text.takeWhile isSchemeChar)), rest)
    else none
  | _, _ => none

def endsAuthority (kind : Kind) (c : Char) : Bool :=
  c = '/' || c = '?' || c = '#' || (c = '\\' && kind ≠ .generic)

def splitUserinfo (text : List Char) : Option (List Char × List Char) :=
  if text.contains '@' then
    let after := (text.reverse.takeWhile (· ≠ '@')).reverse
    some (text.take (text.length - after.length - 1), after)
  else none

def encodeUserinfo (text : List Char) : String :=
  String.ofList (Percent.encode Percent.inUserinfo text)

/-- User name and password; an empty password is none. -/
def readUserinfo (text : List Char) : String × Option String :=
  let name := text.takeWhile (· ≠ ':')
  let password := (text.dropWhile (· ≠ ':')).drop 1
  (encodeUserinfo name, if password.isEmpty then none else some (encodeUserinfo password))

/-- The host before a port: a colon inside brackets belongs to it. -/
def splitHost : (inBrackets : Bool) → List Char → List Char × List Char
  | _, [] => ([], [])
  | inBrackets, c :: rest =>
    if c = ':' ∧ !inBrackets then ([], c :: rest)
    else
      let inBrackets := if c = '[' then true else if c = ']' then false else inBrackets
      let (host, after) := splitHost inBrackets rest
      (c :: host, after)

def bracketed? (text : List Char) : Option (List Char) :=
  if text.getLast? = some ']' then some (text.drop 1).dropLast else none

def isForbiddenHostChar (c : Char) : Bool :=
  "\x00\t\n\r #/:<>?@[\\]^|".toList.contains c

/-- A host that is kept as written, but for characters that have to be encoded. -/
def genericHost? (text : List Char) : Option Host :=
  if text.head? = some '[' then ((bracketed? text).bind Ipv6.parse?).map .ipv6
  else if text.any isForbiddenHostChar then none
  else if text.isEmpty then some .empty
  else some (.domain (String.ofList (Percent.encode Percent.isControl text)))

def specialHost? (text : List Char) : Option Host :=
  if text.head? = some '[' then ((bracketed? text).bind Ipv6.parse?).map .ipv6
  else do
    let name ← Utf8.decode (Percent.decode (Utf8.encode text))
    let domain ← Domain.toAscii? name
    if domain.isEmpty then none
    else if Ipv4.endsInNumber domain then (Ipv4.parse? domain).map .ipv4
    else some (.domain (String.ofList domain))

def readPort? (scheme : String) (text : List Char) : Option (Option Nat) :=
  if text.isEmpty then some none
  else if !text.all Ascii.isDigit then none
  else
    let port := Ascii.decimal text
    if 65535 < port then none else some (if defaultPort? scheme = some port then none else some port)

def isSingleDot (segment : String) : Bool :=
  segment = "." || segment = "%2e" || segment = "%2E"

def isDoubleDot (segment : String) : Bool :=
  String.ofList (Ascii.lower segment.toList) ∈ ["..", "%2e.", ".%2e", "%2e%2e"]

/-- A letter followed by a colon or a bar. -/
def isDriveLetter (segment : String) : Bool :=
  match segment.toList with
  | [c, d] => Ascii.isLetter c && (d = ':' || d = '|')
  | _ => false

/-- A segment that names a drive: a drive letter, and nothing else up to a backslash. No step leads
out of it, whatever the scheme. -/
def namesDrive (segment : String) : Bool :=
  isDriveLetter (String.ofList (segment.toList.takeWhile (· ≠ '\\')))

/-- Removes the last segment, unless it names a drive. -/
def shorten (segments : List String) : List String :=
  if segments.getLast?.any namesDrive then segments else segments.dropLast

/-- Puts the pieces of a path after the segments read so far; dots are steps. -/
def resolve : (segments : List String) → (pieces : List String) → List String
  | segments, [] => segments
  | segments, piece :: rest =>
    let isLast := rest.isEmpty
    if isDoubleDot piece then
      let up := shorten segments
      resolve (if isLast then up ++ [""] else up) rest
    else if isSingleDot piece then
      resolve (if isLast then segments ++ [""] else segments) rest
    else resolve (segments ++ [piece]) rest

def readSegments (kind : Kind) (text : List Char) : List String :=
  let isSlash (c : Char) : Bool := c = '/' || (c = '\\' && kind ≠ .generic)
  let pieces := (Split.onEvery isSlash text).map fun piece =>
    String.ofList (Percent.encode Percent.inPath piece)
  let segments := resolve [] pieces
  if kind = .file then
    let named := segments.dropWhile (·.isEmpty)
    if named.isEmpty then [""] else named
  else segments

/-- A path after a host: it may be absent unless the scheme needs one. -/
def readPath (kind : Kind) (text : List Char) : Path :=
  match text with
  | [] => if kind = .generic then .rooted [] else .rooted (readSegments kind [])
  | c :: rest =>
    if c = '/' || (c = '\\' && kind ≠ .generic) then .rooted (readSegments kind rest)
    else .rooted (readSegments kind (c :: rest))

/-- Path, query and fragment, still as written. -/
structure Tail where
  path : List Char
  query : Option (List Char)
  fragment : Option (List Char)

def splitTail (text : List Char) : Tail :=
  let beforeFragment := text.takeWhile (· ≠ '#')
  let fragment := text.dropWhile (· ≠ '#')
  let query := beforeFragment.dropWhile (· ≠ '?')
  { path := beforeFragment.takeWhile (· ≠ '?')
    query := if query.isEmpty then none else some (query.drop 1)
    fragment := if fragment.isEmpty then none else some (fragment.drop 1) }

def encodeQuery (kind : Kind) (text : List Char) : String :=
  let isEncoded := if kind = .generic then Percent.inQuery else Percent.inSpecialQuery
  String.ofList (Percent.encode isEncoded text)

def encodeFragment (text : List Char) : String :=
  String.ofList (Percent.encode Percent.inFragment text)

def assemble (scheme : String) (kind : Kind) (userinfo : String × Option String)
    (host : Option Host) (port : Option Nat) (path : Path) (tail : Tail) : Url :=
  { scheme, username := userinfo.1, password := userinfo.2, host, port, path
    query := tail.query.map (encodeQuery kind)
    fragment := tail.fragment.map encodeFragment }

def parseAuthority? (scheme : String) (kind : Kind) (text : List Char) : Option Url := do
  let authority := text.takeWhile fun c => !endsAuthority kind c
  let rest := text.dropWhile fun c => !endsAuthority kind c
  let (userinfo, hostPort) := (splitUserinfo authority).getD ([], authority)
  if authority = ['@'] ∧ !rest.isEmpty then none
  else
    let (hostText, portText) := splitHost false hostPort
    let credentials := readUserinfo userinfo
    let host ← if kind = .generic then genericHost? hostText else specialHost? hostText
    let (port, path) ←
      match portText with
      | [] => some (none, rest)
      | _ :: digits =>
        let number := digits.takeWhile (· ≠ '\\')
        (readPort? scheme number).map (·, digits.dropWhile (· ≠ '\\') ++ rest)
    if host = .empty ∧ (!portText.isEmpty ∨ credentials ≠ ("", none)) then none
    else
      let tail := splitTail path
      some (assemble scheme kind credentials (some host) port (readPath kind tail.path) tail)

/-- A file name after `file:`. A drive letter is no host, and `localhost` counts as none. -/
def parseFile? (text : List Char) : Option Url := do
  let isSlash (c : Char) : Bool := c = '/' || c = '\\'
  let build (host : Option Host) (text : List Char) : Url :=
    let tail := splitTail text
    assemble "file" .file ("", none) host none (readPath .file tail.path) tail
  match text with
  | a :: b :: rest =>
    if isSlash a && isSlash b then
      let hostText := rest.takeWhile fun c => !endsAuthority .file c
      let after := rest.dropWhile fun c => !endsAuthority .file c
      if hostText.isEmpty || isDriveLetter (String.ofList hostText) then
        some (build (some .empty) rest)
      else
        let host ← specialHost? hostText
        let tail := splitTail after
        let host := if host = .domain "localhost" then .empty else host
        some (assemble "file" .file ("", none) (some host) none (readPath .file tail.path) tail)
    else some (build (some .empty) text)
  | text => some (build (some .empty) text)

/-- Reads an absolute URL. -/
def parse? (text : String) : Option Url := do
  let (scheme, rest) ← splitScheme? (clean text.toList)
  match Kind.ofScheme scheme with
  | .file => parseFile? rest
  | .special => parseAuthority? scheme .special (rest.dropWhile fun c => c = '/' || c = '\\')
  | .generic =>
    match rest with
    | '/' :: '/' :: after => parseAuthority? scheme .generic after
    | '/' :: after =>
      let tail := splitTail after
      some (assemble scheme .generic ("", none) none none
        (.rooted (readSegments .generic tail.path)) tail)
    | rest =>
      let tail := splitTail rest
      let path := String.ofList (Percent.encode Percent.isControl tail.path)
      some (assemble scheme .generic ("", none) none none (.plain path) tail)

end BearerIdentity.Url
