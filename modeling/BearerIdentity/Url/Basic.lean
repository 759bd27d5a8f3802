import BearerIdentity.Url.Address

set_option autoImplicit false

namespace BearerIdentity

namespace Url

/-- A host. It is `empty` where a URL has a place for a host and leaves it blank. -/
inductive Host where
  | empty
  | domain (name : String)
  | ipv4 (address : Nat)
  | ipv6 (pieces : List Nat)
  deriving DecidableEq, Repr, Inhabited

def Host.text : Host → String
  | .empty => ""
  | .domain name => name
  | .ipv4 address => Ipv4.text address
  | .ipv6 pieces => "[" ++ Ipv6.text pieces ++ "]"

/-- A path is either text without structure, or segments each of which follows a slash. -/
inductive Path where
  | plain (text : String)
  | rooted (segments : List String)
  deriving DecidableEq, Repr, Inhabited

def Path.text : Path → String
  | .plain text => text
  | .rooted segments => String.join (segments.map ("/" ++ ·))

/-- How a scheme is read: with a mandatory host, as a file name, or neither. -/
inductive Kind where
  | special
  | file
  | generic
  deriving DecidableEq, Repr

def Kind.ofScheme (scheme : String) : Kind :=
  if scheme = "file" then .file
  else if ["http", "https", "ws", "wss", "ftp"].contains scheme then .special
  else .generic

def defaultPort? (scheme : String) : Option Nat :=
  [("http", 80), ("https", 443), ("ws", 80), ("wss", 443), ("ftp", 21)].lookup scheme

end Url

/-- A URL. User name, password, path, query and fragment are percent-encoded. -/
structure Url where
  scheme : String
  username : String
  password : Option String
  host : Option Url.Host
  port : Option Nat
  path : Url.Path
  query : Option String
  fragment : Option String
  deriving DecidableEq, Repr, Inhabited

namespace Url

def hostText? (url : Url) : Option String :=
  match url.host with
  | none => none
  | some .empty => none
  | some host => some host.text

def userinfoText (url : Url) : String :=
  let password := (url.password.map (":" ++ ·)).getD ""
  if url.username.isEmpty && url.password.isNone then "" else url.username ++ password ++ "@"

/-- What stands between the scheme and the path. Without a host, a path whose first segment is
empty would look like one and is set off by `/.`. -/
def authorityText (url : Url) : String :=
  match url.host with
  | some host =>
    "//" ++ url.userinfoText ++ host.text ++ (url.port.map fun port => s!":{port}").getD ""
  | none =>
    match url.path with
    | .rooted ("" :: _ :: _) => "/."
    | _ => ""

def text (url : Url) : String :=
  url.scheme ++ ":" ++ url.authorityText ++ url.path.text
    ++ (url.query.map ("?" ++ ·)).getD "" ++ (url.fragment.map ("#" ++ ·)).getD ""

def withoutPassword (url : Url) : Url :=
  { url with password := none }

end Url

end BearerIdentity
