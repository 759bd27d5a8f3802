import BearerIdentity.Json.Decode

set_option autoImplicit false

namespace BearerIdentity

structure Response where
  status : Nat
  /-- Seconds after which to try again, if the server says so. -/
  retryAfter : Option Int
  body : Bytes
  deriving DecidableEq, Repr

namespace Response

def isSuccess (response : Response) : Bool :=
  200 ≤ response.status && response.status < 300

def text (response : Response) : String :=
  String.ofList (Utf8.decodeLossy response.body)

end Response

end BearerIdentity
