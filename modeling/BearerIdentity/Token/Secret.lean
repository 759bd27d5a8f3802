import BearerIdentity.Rendering

set_option autoImplicit false

namespace BearerIdentity

structure Secret where
  /-- The text itself, for those who need it. -/
  exposed : String
  deriving DecidableEq

namespace Secret

/-- How a secret is shown to people. -/
def text (_ : Secret) : String :=
  Rendering.redacted

def describe (_ : Secret) : String :=
  Rendering.tuple "TokenSecret" [Rendering.quoted Rendering.redacted]

end Secret

end BearerIdentity
