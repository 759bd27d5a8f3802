import BearerIdentity.Http.Exchange
import BearerIdentity.Token.Secret

set_option autoImplicit false

namespace BearerIdentity

structure Introspection where
  active : Bool
  scope : Option String
  clientId : Option String
  subject : Option String
  /-- The second at which the token expires. -/
  expiry : Option Int
  deriving DecidableEq, Repr

namespace Introspection

def fields : List (Json.Field Introspection) :=
  [.optional "active" .bool fun active answer => { answer with active },
    .optional "scope" (.option .string) fun scope answer => { answer with scope },
    .optional "client_id" (.option .string) fun clientId answer => { answer with clientId },
    .optional "sub" (.option .string) fun subject answer => { answer with subject },
    .optional "exp" (.option .int64) fun expiry answer => { answer with expiry }]

/-- A token that is not said to be active is not. -/
def decoder : Json.Decoder Introspection :=
  Json.Record.decoder fields ⟨false, none, none, none, none⟩

def request (endpoint : Url) (clientId : String) (clientSecret : Secret) (raw : String) :
    Request :=
  (Request.postForm endpoint [("token", raw), ("token_type_hint", "access_token")]).withBasic
    clientId clientSecret.exposed

end Introspection

end BearerIdentity
