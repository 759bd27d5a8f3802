import BearerIdentity.Json.Value
import BearerIdentity.Rendering
import BearerIdentity.Text.Ascii
import BearerIdentity.Text.Base64
import BearerIdentity.Text.Utf8
import BearerIdentity.Url.Basic

set_option autoImplicit false

namespace BearerIdentity

inductive Method where
  | get
  | post
  deriving DecidableEq, Repr

structure Request where
  method : Method
  url : Url
  headers : List (String × String)
  form : Option (List (String × String))
  deriving DecidableEq, Repr

namespace Request

def get (url : Url) : Request :=
  { method := .get, url, headers := [], form := none }

def postForm (url : Url) (form : List (String × String)) : Request :=
  { method := .post, url, headers := [], form := some form }

/-- Sets a header in the last place; one whose name differs only by case is removed. -/
def withHeader (request : Request) (name value : String) : Request :=
  { request with
    headers := request.headers.filter (fun (other, _) => !Ascii.sameFold other name)
      ++ [(name, value)] }

def basicCredentials (user password : String) : String :=
  "Basic " ++ String.ofList
    (Base64.encodePadded Base64.standard (Utf8.ofString (user ++ ":" ++ password)))

def withBasic (request : Request) (user password : String) : Request :=
  request.withHeader "Authorization" (basicCredentials user password)

def withBearer (request : Request) (token : String) : Request :=
  request.withHeader "Authorization" ("Bearer " ++ token)

/-- The value of a header, whatever the case of its name. -/
def header? (request : Request) (name : String) : Option String :=
  (request.headers.find? fun (other, _) => Ascii.sameFold other name).map (·.2)

def formValue? (request : Request) (name : String) : Option String :=
  request.form.bind fun form => form.lookup name

def methodName : Method → String
  | .get => "GET"
  | .post => "POST"

def toValue (request : Request) : Json.Value :=
  .ofMembers [
    ("method", .string (methodName request.method)),
    ("url", .string request.url.text),
    ("headers", .ofPairs request.headers),
    ("form", .ofOption .ofPairs request.form)]

def describeMethod : Method → String
  | .get => "Get"
  | .post => "Post"

def shownHeader : String × String → String × String
  | (name, value) =>
    (name, if Ascii.sameFold name "authorization" then Rendering.redacted else value)

def shownParameter : String × String → String × String
  | (name, value) => (name, if name = "client_secret" then Rendering.redacted else value)

/-- The diagnostic text, without credentials. -/
def describe (request : Request) : String :=
  Rendering.record "HttpRequest"
    [("method", describeMethod request.method),
      ("url", Rendering.quoted request.url.text),
      ("headers", Rendering.pairs (request.headers.map shownHeader)),
      ("form", Rendering.optional (fun form => Rendering.pairs (form.map shownParameter))
        request.form)]

end Request

end BearerIdentity
