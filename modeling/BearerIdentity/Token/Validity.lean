import BearerIdentity.Error
import BearerIdentity.Operation
import BearerIdentity.Text.Ascii
import BearerIdentity.Token.Claims

set_option autoImplicit false

namespace BearerIdentity.Claims

/-- By how many seconds clocks may differ. -/
def clockSkew : Nat := 60

def checkType (claims : Claims) : Except (Fault VerifyError) Unit :=
  match claims.type with
  | none => .error (.error (.tokenType "<none>"))
  | some type =>
    if Ascii.sameFold type "Bearer" then .ok () else .error (.error (.tokenType type))

def checkRequired (claims : Claims) (required : List String) : Except (Fault VerifyError) Unit :=
  match required.find? (!claims.has ·) with
  | some missing => .error (.error (.missingClaim missing))
  | none => .ok ()

/-- A token that names an expiry is good until it has passed on every clock. -/
def checkExpiry (claims : Claims) (now : Instant) : Except (Fault VerifyError) Unit :=
  if claims.expiry.isNone then .ok ()
  else
    match claims.expiresAt? with
    | none => .error (.error .expired)
    | some expiry =>
      match expiry.shift? clockSkew with
      | none => .error .calendar
      | some limit => if now < limit then .ok () else .error (.error .expired)

/-- A token that names a start is good as soon as it has come on some clock. -/
def checkStart (claims : Claims) (now : Instant) : Except (Fault VerifyError) Unit :=
  if claims.startDate.isNone then .ok ()
  else
    match claims.notBefore? with
    | none => .error (.error .notYetValid)
    | some start =>
      match start.shift? (-clockSkew) with
      | none => .error .calendar
      | some limit => if limit ≤ now then .ok () else .error (.error .notYetValid)

/-- Checks type, required claims, expiry and start, in this order. -/
def check (claims : Claims) (required : List String) (now : Instant) :
    Except (Fault VerifyError) Unit := do
  claims.checkType
  claims.checkRequired required
  claims.checkExpiry now
  claims.checkStart now

end BearerIdentity.Claims
