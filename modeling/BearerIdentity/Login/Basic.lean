import BearerIdentity.Login.Subject
import BearerIdentity.Sasl.Party

set_option autoImplicit false

namespace BearerIdentity

inductive Credentials where
  /-- A token that somebody presents. -/
  | bearer (raw : String)
  /-- The credentials in the configuration. -/
  | configured
  deriving DecidableEq

def Credentials.describe : Credentials → String
  | bearer _ => Rendering.tuple "Bearer" [Rendering.redacted]
  | configured => "Configured"

namespace TokenVerifier

variable {σ : Type}

def principal (verifier : TokenVerifier σ) (raw : String) : Operation Error σ Principal := do
  let token ← (verifier.verify raw).mapError fun cause =>
    .authentication "bearer token rejected" (some cause)
  let name ← Operation.ofExcept (verifier.nameOf token)
  Operation.succeed { name, token }

def authenticate (verifier : TokenVerifier σ) : Credentials → Operation Error σ Principal
  | .bearer raw => verifier.principal raw
  | .configured =>
    Operation.fail (.unsupported "non-bearer credentials for a bearer authenticator")

def describeAuthenticator (verifier : TokenVerifier σ) : String :=
  Rendering.record "BearerAuthenticator" [("uma_aware", Rendering.flag verifier.isUmaAware)]

end TokenVerifier

namespace ClientIdentity

def ownPrincipal (identity : ClientIdentity) : Operation Error Caches Principal := do
  (Operation.ofExcept (identity.config.validate identity.issuer.metadata)).mapError .config
  let token ← identity.loginSelf
  Operation.succeed { name := identity.name, token }

def authenticateCredentials (identity : ClientIdentity) (credentials : Credentials) :
    Operation Error Caches Principal :=
  Operation.observe .login <|
    match credentials with
    | .configured => identity.ownPrincipal
    | .bearer raw => identity.verifier.principal raw

def describeLogin (identity : ClientIdentity) (caches : Caches) : String :=
  Rendering.record "IdentityLogin" [("identity", identity.describe caches)]

/-- Logs in with the configured credentials and attaches the principal. -/
def login (identity : ClientIdentity) : Operation Error (Subject × Caches) Principal := do
  let principal ← Operation.onSecond (identity.authenticateCredentials .configured)
  Operation.revise fun (subject, caches) => (subject.attach principal, caches)
  Operation.succeed principal

/-- Detaches the client's principal and forgets token and keys. -/
def logoutFrom (identity : ClientIdentity) :
    Operation Error (Subject × Caches) (Option Principal) := do
  let (subject, _) ← Operation.memory
  Operation.revise fun (subject, caches) => (subject.detach identity.name, caches)
  Operation.onSecond logout
  Operation.succeed (subject.principal? identity.name)

end ClientIdentity

end BearerIdentity
