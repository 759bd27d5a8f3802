import BearerIdentity.Json.Decode
import BearerIdentity.Url.Description
import BearerIdentity.Url.Parser

set_option autoImplicit false

namespace BearerIdentity

def Url.decoder : Json.Decoder Url :=
  .filterMap .string Url.parse?

def Url.toValue (url : Url) : Json.Value :=
  .string url.text

structure Endpoints where
  token : Option Url
  introspection : Option Url
  userinfo : Option Url
  jwks : Option Url
  deriving DecidableEq, Repr

namespace Endpoints

def none : Endpoints :=
  ⟨.none, .none, .none, .none⟩

def or (first other : Endpoints) : Endpoints where
  token := first.token.or other.token
  introspection := first.introspection.or other.introspection
  userinfo := first.userinfo.or other.userinfo
  jwks := first.jwks.or other.jwks

def toValue (endpoints : Endpoints) : Json.Value :=
  .ofMembers [
    ("token", .ofOption Url.toValue endpoints.token),
    ("introspection", .ofOption Url.toValue endpoints.introspection),
    ("userinfo", .ofOption Url.toValue endpoints.userinfo),
    ("jwks", .ofOption Url.toValue endpoints.jwks)]

def describe (endpoints : Endpoints) : String :=
  let url := Rendering.optional Url.describe
  Rendering.record "Endpoints"
    [("token", url endpoints.token), ("introspection", url endpoints.introspection),
      ("userinfo", url endpoints.userinfo), ("jwks", url endpoints.jwks)]

end Endpoints

end BearerIdentity
