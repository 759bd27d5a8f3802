import BearerIdentity.Client.Identity

set_option autoImplicit false

namespace BearerIdentity

def umaTicketGrant : String := "urn:ietf:params:oauth:grant-type:uma-ticket"

def defaultAccessScope : String := "openid roles"

structure AccessTicket where
  /-- Who asked for the token. -/
  holder : String
  target : String
  grantType : String
  token : SignedToken

def AccessTicket.toValue (ticket : AccessTicket) : Json.Value :=
  .ofMembers [
    ("from", .string ticket.holder),
    ("to", .string ticket.target),
    ("grant_type", .string ticket.grantType),
    ("token", .string ticket.token.raw)]

namespace ClientIdentity

/-- Checks that a URI names the client itself. -/
def ensureSelf (identity : ClientIdentity) (holder : String) : Except Error Unit :=
  match IdentityUri.parse holder with
  | .error _ => .error (.unsupported "delegated access on behalf of another identity")
  | .ok uri =>
    if uri.clientId = some identity.config.clientId ∧ uri.host = identity.issuer.metadata.host?
    then .ok ()
    else .error (.unsupported "delegated access on behalf of another identity")

def wantsPermissions (identity : ClientIdentity) (target : IdentityUri) : Bool :=
  target.scheme == .uma2 && identity.isUma

def accessGrant (identity : ClientIdentity) (target : IdentityUri) : String :=
  if identity.wantsPermissions target then umaTicketGrant else defaultGrantType

def accessForm (identity : ClientIdentity) (target : IdentityUri) (text : String) :
    Except Error (List (String × String)) :=
  match (target.clientId.or (target.param? "audience")).filter (!·.isEmpty) with
  | none => .error (.missingAudience text)
  | some audience =>
    let permissions := if identity.wantsPermissions target then target.paramValues "permission"
      else []
    .ok ([("grant_type", identity.accessGrant target), ("audience", audience),
        ("scope", (target.param? "scope").getD defaultAccessScope),
        ("client_id", identity.config.clientId),
        ("client_secret", identity.config.clientSecret.exposed)]
      ++ permissions.map fun permission => ("permission", permission))

/-- Requests a ticket for a target on behalf of the client itself. -/
def requestAccess (identity : ClientIdentity) (holder target : String) :
    Operation Error Caches AccessTicket :=
  Operation.observe .requestAccess do
    Operation.ofExcept (identity.ensureSelf holder)
    let uri ← (Operation.ofExcept (IdentityUri.parse target)).mapError .config
    let form ← Operation.ofExcept (identity.accessForm uri target)
    let request ← identity.authenticate (.postForm identity.resource.endpoint form)
    let response ← Exchange.postForm TokenResponse.decoder request
    let token ← Operation.ofExcept response.token
    Operation.succeed { holder, target, grantType := identity.accessGrant uri, token }

end ClientIdentity

end BearerIdentity
