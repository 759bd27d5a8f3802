import BearerIdentity.Error
import BearerIdentity.Http.Response
import BearerIdentity.Text.Ascii

set_option autoImplicit false

/- What a token endpoint means by an answer without success. Its error code counts first, then its
description, then the start of the body, then the status. -/

namespace BearerIdentity

inductive Refusal where
  | grant
  | client
  | scope
  | passing
  deriving DecidableEq, Repr

namespace Refusal

def ofCode? (text : String) : Option Refusal :=
  [("invalid_grant", grant), ("access_denied", grant), ("invalid_client", client),
    ("unauthorized_client", client), ("invalid_scope", scope), ("insufficient_scope", scope),
    ("temporarily_unavailable", passing), ("server_error", passing)].lookup
      (String.ofList (Ascii.lower text.toList))

/-- The texts that hint at a meaning, the strongest first. -/
def hints : List (String × Refusal) :=
  [("invalid_grant", grant), ("invalid_client", client), ("insufficient_scope", scope),
    ("invalid_scope", scope), ("temporarily_unavailable", passing), ("retry", passing)]

def ofHint? (text : List Char) : Option Refusal :=
  (hints.find? fun (hint, _) => Ascii.occursIn hint.toList (Ascii.lower text)).map (·.2)

def ofStatus (status : Nat) : Refusal :=
  if [400, 404, 410].contains status then grant
  else if status = 401 then client
  else if status = 403 then scope
  else passing

structure Report where
  code : Option String
  description : Option String
  deriving DecidableEq, Repr

namespace Report

def fields : List (Json.Field Report) :=
  [.placed "error" (.option .string) fun code report => { report with code },
    .placed "error_description" (.option .string) fun description report =>
      { report with description }]

/-- The explanation in the body, blank if the body is no explanation as a whole. -/
def ofBody (body : Bytes) : Report :=
  match Json.decodeAll (Json.Record.decoder fields ⟨none, none⟩) body with
  | .ok report => report
  | .error _ => ⟨none, none⟩

def reason? (report : Report) : Option String :=
  (report.description.or report.code).filter (!·.isEmpty)

end Report

/-- How many characters of a body are searched for hints. -/
def previewLength : Nat := 256

/-- The start of a text, with a mark where the text is cut off. -/
def preview (text : List Char) : List Char :=
  if text.length ≤ previewLength then text else text.take previewLength ++ ['…']

def ofResponse (response : Response) : Refusal :=
  let report := Report.ofBody response.body
  (((report.code.bind ofCode?).or (report.description.bind ofCode?)).or
    (report.description.bind fun text => ofHint? text.toList)).or
      (ofHint? (preview (Utf8.decodeLossy response.body)))
        |>.getD (ofStatus response.status)

end Refusal

/-- The error for an answer without success. -/
def Response.refusal (response : Response) : Error :=
  let reason := (Refusal.Report.ofBody response.body).reason?.getD s!"HTTP {response.status}"
  match Refusal.ofResponse response with
  | .grant => .invalidGrant reason
  | .client => .invalidClient reason
  | .scope => .insufficientScope reason
  | .passing => .transient (.unexpectedResponse reason response.status response.retryAfter)

end BearerIdentity
