import BearerIdentity.Issuer.Metadata
import BearerIdentity.Key.Source

set_option autoImplicit false

namespace BearerIdentity

structure Issuer where
  metadata : IssuerMetadata
  deriving DecidableEq, Repr

namespace Issuer

def keySource? (issuer : Issuer) : Option KeySource :=
  issuer.metadata.endpoints.jwks.map KeySource.mk

def describe (issuer : Issuer) (keys : Cache KeySet) : String :=
  let check (_ : KeySource) : String := KeySource.describeCheck keys
  Rendering.record "Issuer"
    [("metadata", issuer.metadata.describe),
      ("signatures", Rendering.optional check issuer.keySource?)]

def checkName (issuer : Issuer) (token : SignedToken) : Except VerifyError Unit :=
  if token.claims.issuer = some issuer.metadata.issuer then .ok ()
  else .error (.issuerMismatch issuer.metadata.issuer (token.claims.issuer.getD "<none>"))

/-- Checks that a token was issued, and not in the future. -/
def checkIssueDate (token : SignedToken) (now : Instant) : Except VerifyError Unit :=
  match token.claims.issuedAt? with
  | some issued => if issued ≤ now then .ok () else .error .issuedAt
  | none => .error .issuedAt

def check (issuer : Issuer) (token : SignedToken) :
    Operation VerifyError (Cache KeySet) Unit := do
  Operation.ofExcept (issuer.checkName token)
  let now ← Operation.now
  Operation.ofExcept (checkIssueDate token now)
  let source ← Operation.ofOption (.keySetUnavailable .noEndpoint) issuer.keySource?
  source.check token

end Issuer

end BearerIdentity
