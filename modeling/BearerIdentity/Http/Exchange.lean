import BearerIdentity.Http.Classification
import BearerIdentity.Operation

set_option autoImplicit false

namespace BearerIdentity

namespace Response

/-- The value at the start of the body. What follows that value is not looked at. -/
def json {α : Type} (decoder : Json.Decoder α) (response : Response) : Except TransientError α :=
  (Json.decodeStart decoder response.body).mapError fun flaw =>
    .responseParse flaw response.status

def unexpected (response : Response) (url : Url) : TransientError :=
  .unexpectedResponse s!"{url.text} answered HTTP {response.status}" response.status
    response.retryAfter

end Response

namespace Exchange

variable {σ α : Type}

/-- Sends a request and reads the body of a successful answer. -/
def fetch (decoder : Json.Decoder α) (refusal : Response → Error) (request : Request) :
    Operation Error σ α := do
  let response ← (Operation.send request).mapError .transport
  if response.isSuccess then
    (Operation.ofExcept (response.json decoder)).mapError .transient
  else Operation.fail (refusal response)

def getJson (decoder : Json.Decoder α) (url : Url) : Operation Error σ α :=
  fetch decoder (fun response => response.unexpected url) (.get url)

/-- Posts to an endpoint that explains its refusals as a token endpoint does. -/
def postForm (decoder : Json.Decoder α) (request : Request) : Operation Error σ α :=
  fetch decoder Response.refusal request

end Exchange

end BearerIdentity
