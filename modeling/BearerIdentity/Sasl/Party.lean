import BearerIdentity.Client.Access

set_option autoImplicit false

namespace BearerIdentity

/-- Gives a client tickets. -/
structure TicketSource (σ : Type) where
  /-- Whom the tickets are for. -/
  name : String
  request : (target : String) → Operation Error σ AccessTicket

/-- Decides for a server which tokens are good. -/
structure TokenVerifier (σ : Type) where
  verify : (raw : String) → Operation Error σ SignedToken
  /-- Whether it knows clients that manage resources. -/
  isUmaAware : Bool

namespace TicketSource

def fixed {σ : Type} (name : String) (ticket : Option String) : TicketSource σ where
  name := name
  request := fun target =>
    match ticket with
    | none => Operation.fail (.missingAudience target)
    | some raw => do
      let token ← (Operation.ofExcept (SignedToken.parse raw)).mapError .verification
      Operation.succeed { holder := name, target, grantType := defaultGrantType, token }

end TicketSource

namespace TokenVerifier

variable {σ : Type}

/-- A verifier that takes every token that can be read. -/
def trusting (isUmaAware : Bool) : TokenVerifier σ where
  verify := fun raw => (Operation.ofExcept (SignedToken.parse raw)).mapError .verification
  isUmaAware := isUmaAware

def nameOf (verifier : TokenVerifier σ) (token : SignedToken) : Except Error String :=
  match token.authorizationId? verifier.isUmaAware with
  | some name => .ok name
  | none => .error (.verification (.missingClaim "azp"))

end TokenVerifier

namespace ClientIdentity

def ticketSource (identity : ClientIdentity) : TicketSource Caches where
  name := identity.name
  request := identity.requestAccess identity.name

def verifier (identity : ClientIdentity) : TokenVerifier Caches where
  verify := identity.verifyToken
  isUmaAware := identity.isUma

end ClientIdentity

end BearerIdentity
