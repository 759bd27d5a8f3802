import BearerIdentity.Issuer.Discovery

set_option autoImplicit false

/- What is known of an issuer. Endpoints that are set win over the resource management document, which
wins over the sign-in document. -/

namespace BearerIdentity

structure DiscoveryFailure where
  kind : DiscoveryKind
  location : Option Url
  reason : String
  deriving DecidableEq, Repr

def DiscoveryFailure.toValue (failure : DiscoveryFailure) : Json.Value :=
  .ofMembers [
    ("kind", .string failure.kind.name),
    ("location", .ofOption Url.toValue failure.location),
    ("reason", .string failure.reason)]

def DiscoveryFailure.describe (failure : DiscoveryFailure) : String :=
  Rendering.record "DiscoveryFailure"
    [("kind", failure.kind.describe),
      ("location", Rendering.optional Url.describe failure.location),
      ("reason", Rendering.quoted failure.reason)]

structure IssuerMetadata where
  issuer : String
  overrides : Endpoints
  uma2 : Option DiscoveryDocument
  oidc : Option DiscoveryDocument
  failures : List DiscoveryFailure
  deriving DecidableEq, Repr

namespace IssuerMetadata

def ofIssuer (issuer : String) (overrides : Endpoints) : IssuerMetadata where
  issuer := issuer
  overrides := overrides
  uma2 := none
  oidc := none
  failures := []

def host? (metadata : IssuerMetadata) : Option String :=
  (Url.parse? metadata.issuer).bind (·.hostText?)

def discovered (document : Option DiscoveryDocument) : Endpoints :=
  document.elim Endpoints.none (·.endpoints)

def endpoints (metadata : IssuerMetadata) : Endpoints :=
  (metadata.overrides.or (discovered metadata.uma2)).or (discovered metadata.oidc)

def withDocument (metadata : IssuerMetadata) (kind : DiscoveryKind)
    (document : DiscoveryDocument) : IssuerMetadata :=
  match kind with
  | .oidc => { metadata with oidc := some document }
  | .uma2 => { metadata with uma2 := some document }

def withFailure (metadata : IssuerMetadata) (kind : DiscoveryKind) (location : Option Url)
    (error : Error) : IssuerMetadata :=
  { metadata with failures := metadata.failures ++ [⟨kind, location, error.message⟩] }

def toValue (metadata : IssuerMetadata) : Json.Value :=
  .ofMembers [
    ("issuer", .string metadata.issuer),
    ("host", .ofText? metadata.host?),
    ("endpoints", metadata.endpoints.toValue),
    ("oidc", .ofOption DiscoveryDocument.toValue metadata.oidc),
    ("uma2", .ofOption DiscoveryDocument.toValue metadata.uma2),
    ("failures", .array (metadata.failures.map DiscoveryFailure.toValue))]

def describe (metadata : IssuerMetadata) : String :=
  let document := Rendering.optional DiscoveryDocument.describe
  Rendering.record "IssuerMetadata"
    [("issuer", Rendering.quoted metadata.issuer), ("overrides", metadata.overrides.describe),
      ("uma2", document metadata.uma2), ("oidc", document metadata.oidc),
      ("failures", Rendering.list DiscoveryFailure.describe metadata.failures)]

variable {ε σ : Type}

/-- Fetches a document, by default from its place below the issuer, and tells whether this worked.
A failure is noted and changes nothing else. -/
def configure (metadata : IssuerMetadata) (kind : DiscoveryKind) (location : Option Url) :
    Operation ε σ (IssuerMetadata × Bool) :=
  match location.elim (kind.wellKnownUrl metadata.issuer) .ok with
  | .error cause => Operation.succeed (metadata.withFailure kind none cause, false)
  | .ok url => do
    match ← Operation.attempt (DiscoveryDocument.fetch url metadata.issuer) with
    | .ok document => Operation.succeed (metadata.withDocument kind document, true)
    | .error cause => Operation.succeed (metadata.withFailure kind url cause, false)

end IssuerMetadata

end BearerIdentity
