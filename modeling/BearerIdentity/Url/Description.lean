import BearerIdentity.Rendering
import BearerIdentity.Url.Basic

set_option autoImplicit false

namespace BearerIdentity.Url

/-- An embedded address of the older kind is written as such. -/
def describePieces (pieces : List Nat) : String :=
  match pieces with
  | [0, 0, 0, 0, 0, 0xffff, high, low] => "::ffff:" ++ Ipv4.text (high * 65536 + low)
  | _ => Ipv6.text pieces

def describeHost : Host → Option String
  | .empty => none
  | .domain name => some (Rendering.tuple "Domain" [Rendering.quoted name])
  | .ipv4 address => some (Rendering.tuple "Ipv4" [Ipv4.text address])
  | .ipv6 pieces => some (Rendering.tuple "Ipv6" [describePieces pieces])

def hasPlainPath (url : Url) : Bool :=
  match url.path with
  | .plain _ => true
  | .rooted _ => false

def describe (url : Url) : String :=
  let optional := Rendering.optional Rendering.quoted
  Rendering.record "Url"
    [("scheme", Rendering.quoted url.scheme),
      ("cannot_be_a_base", Rendering.flag url.hasPlainPath),
      ("username", Rendering.quoted url.username), ("password", optional url.password),
      ("host", Rendering.optional id (url.host.bind describeHost)),
      ("port", Rendering.optional toString url.port),
      ("path", Rendering.quoted url.path.text), ("query", optional url.query),
      ("fragment", optional url.fragment)]

end BearerIdentity.Url
