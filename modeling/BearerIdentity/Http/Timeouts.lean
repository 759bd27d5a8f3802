set_option autoImplicit false

namespace BearerIdentity

/-- Waiting times in seconds. -/
structure Timeouts where
  connect : Nat
  /-- For the whole request, with its answer. -/
  response : Nat
  deriving DecidableEq, Repr

def Timeouts.standard : Timeouts where
  connect := 2
  response := 2

end BearerIdentity
