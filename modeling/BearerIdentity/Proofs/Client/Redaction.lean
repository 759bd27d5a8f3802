import BearerIdentity.Client.Access
import BearerIdentity.Proofs.Client.OwnToken
import BearerIdentity.Proofs.Rendering

set_option autoImplicit false

namespace BearerIdentity

open Rendering

namespace Request

variable {left right : Request}

/-- The requests differ at most in what is never shown. -/
structure LooksLike (left right : Request) : Prop where
  method : left.method = right.method
  url : left.url.text = right.url.text
  headers : left.headers.map shownHeader = right.headers.map shownHeader
  form : left.form.map (·.map shownParameter) = right.form.map (·.map shownParameter)

theorem isDelimited_describeMethod : IsDelimited describeMethod := by
  intro left right before after same
  cases left <;> cases right <;> simp [describeMethod] at same ⊢ <;> exact same

theorem describe_eq (request : Request) : request.describe =
    "HttpRequest \x7b method: " ++ describeMethod request.method ++ ", url: "
      ++ quoted request.url.text ++ ", headers: " ++ pairs (request.headers.map shownHeader)
      ++ ", form: " ++ optional pairs (request.form.map (·.map shownParameter)) ++ " \x7d" := by
  rw [optional_map]
  apply String.toList_injective
  simp [describe, record, fieldTexts, String.intercalate_cons_cons]

/-- Two requests have the same text exactly if they differ only in what is never shown. -/
theorem describe_eq_iff : left.describe = right.describe ↔ left.LooksLike right := by
  rw [describe_eq, describe_eq]
  constructor
  · intro same
    have same := congrArg String.toList same
    simp only [String.toList_append, List.append_assoc] at same
    obtain ⟨method, afterMethod⟩ := isDelimited_describeMethod (List.append_cancel_left same)
    obtain ⟨url, afterUrl⟩ := isDelimited_quoted (List.append_cancel_left afterMethod)
    obtain ⟨headers, afterHeaders⟩ := isDelimited_pairs (List.append_cancel_left afterUrl)
    obtain ⟨form, -⟩ := isDelimited_pairs.optional (List.append_cancel_left afterHeaders)
    exact ⟨method, url, headers, form⟩
  · rintro ⟨method, url, headers, form⟩
    rw [method, url, headers, form]

theorem LooksLike.withAuthorization (alike : left.LooksLike right) (value value' : String) :
    (left.withHeader "Authorization" value).LooksLike (right.withHeader "Authorization" value') where
  method := alike.method
  url := alike.url
  headers := by
    have named (request : Request) (value : String) :
        (request.withHeader "Authorization" value).headers.map shownHeader =
          (request.headers.map shownHeader).filter (!Ascii.sameFold ·.1 "Authorization") ++
            [("Authorization", redacted)] := by
      rw [withHeader, List.map_append, List.filter_map]
      rfl
    rw [named, named, alike.headers]
  form := alike.form

theorem looksLike_postForm (url : Url) {form form' : List (String × String)}
    (same : form.map shownParameter = form'.map shownParameter) :
    (postForm url form).LooksLike (postForm url form') where
  method := rfl
  url := rfl
  headers := rfl
  form := congrArg some same

end Request

namespace TokenResource

def withSecret (resource : TokenResource) (secret : Secret) : TokenResource :=
  { resource with grant := { resource.grant with clientSecret := secret } }

theorem looksLike_request (resource : TokenResource) (secret : Secret) :
    (resource.withSecret secret).request.LooksLike resource.request :=
  (Request.looksLike_postForm resource.endpoint rfl).withAuthorization _ _

end TokenResource

namespace Introspection

variable {endpoint : Url} {clientId : String} {secret secret' : Secret} {raw raw' : String}

theorem looksLike_request_iff :
    (request endpoint clientId secret raw).LooksLike (request endpoint clientId secret' raw') ↔
      raw = raw' := by
  constructor
  · intro alike
    have forms := alike.form
    simp [request, Request.withBasic, Request.withHeader, Request.postForm, Request.shownParameter]
      at forms
    exact forms
  · rintro rfl
    exact (Request.looksLike_postForm endpoint rfl).withAuthorization _ _

end Introspection

namespace ClientIdentity

variable {identity : ClientIdentity} {target : IdentityUri} {text : String}

def withSecret (identity : ClientIdentity) (secret : Secret) : ClientIdentity :=
  { identity with
    config := { identity.config with clientSecret := secret }
    resource := identity.resource.withSecret secret }

/-- A request for a ticket, to which the client has attached the token that it has then. -/
inductive AsksAccess (identity : ClientIdentity) (target : IdentityUri) (text : String) :
    Request → Prop where
  | asks {form : List (String × String)} {caches : Caches} {environment : Environment}
      {request : Request} (made : identity.accessForm target text = .ok form)
      (attached : (identity.authenticate (.postForm identity.resource.endpoint form) caches
        environment).result = .ok request) :
      AsksAccess identity target text request

theorem shown_accessForm (identity : ClientIdentity) (secret : Secret) (target : IdentityUri)
    (text : String) :
    ((identity.withSecret secret).accessForm target text).map (·.map Request.shownParameter) =
      (identity.accessForm target text).map (·.map Request.shownParameter) := by
  unfold accessForm
  split
  · rfl
  · simp [Except.map, Request.shownParameter, withSecret, wantsPermissions, accessGrant, isUma]

theorem eq_withBearer_of_authenticate {request given : Request} {caches : Caches}
    {environment : Environment}
    (attached : (identity.authenticate request caches environment).result = .ok given) :
    ∃ token : SignedToken, given = request.withBearer token.raw := by
  have attached := Outcome.eq_of_result attached
  simp only [authenticate, Operation.bind_eq_ok, Operation.succeed_eq_ok] at attached
  obtain ⟨token, _, _, -, rfl, -⟩ := attached
  exact ⟨token, rfl⟩

theorem AsksAccess.looksLike {secret : Secret} {request request' : Request}
    (asks : identity.AsksAccess target text request)
    (asks' : (identity.withSecret secret).AsksAccess target text request') :
    request.LooksLike request' := by
  obtain ⟨made, attached⟩ := asks
  obtain ⟨made', attached'⟩ := asks'
  have same := identity.shown_accessForm secret target text
  rw [made, made'] at same
  injection same with same
  obtain ⟨token, rfl⟩ := eq_withBearer_of_authenticate attached
  obtain ⟨token', rfl⟩ := eq_withBearer_of_authenticate attached'
  exact (Request.looksLike_postForm _ same.symm).withAuthorization _ _

/-- What the texts of a client's requests tell of its secret, of its own token and of the token that it asks
about. -/
structure Discretion (identity : ClientIdentity) : Prop where
  /-- The request for the client's own token does not tell the secret. -/
  own : ∀ secret : Secret,
    (identity.withSecret secret).resource.request.describe = identity.resource.request.describe
  /-- A request for a ticket tells neither the secret nor the token attached. -/
  access : ∀ (secret : Secret) (target : IdentityUri) (text : String) (request request' : Request),
    identity.AsksAccess target text request →
      (identity.withSecret secret).AsksAccess target text request' →
        request.describe = request'.describe
  /-- A request about a token does not tell the secret, but which token it is about. -/
  introspection : ∀ (endpoint : Url) (secret : Secret) (raw raw' : String),
    (Introspection.request endpoint identity.config.clientId identity.config.clientSecret raw).describe =
        (Introspection.request endpoint identity.config.clientId
          (identity.withSecret secret).config.clientSecret raw').describe ↔
      raw = raw'

/-- A client's requests tell no secret and no token, but for the token that it asks about. -/
theorem tells_introspected (identity : ClientIdentity) : identity.Discretion where
  own := fun secret => Request.describe_eq_iff.mpr (identity.resource.looksLike_request secret)
  access := fun _ _ _ _ _ asks asks' => Request.describe_eq_iff.mpr (asks.looksLike asks')
  introspection := fun _ _ _ _ => Request.describe_eq_iff.trans Introspection.looksLike_request_iff

end ClientIdentity

namespace Lookalike

open ClientIdentity

def identity : ClientIdentity :=
  Visit.identity

def secret : Secret :=
  ⟨"open"⟩

def target : IdentityUri where
  scheme := .oidc
  clientId := some "things"
  clientSecret := none
  host := none
  port := none
  path := ""
  params := []

/-- A token of a quarter of an hour. -/
def raw : String :=
  "eyJhbGciOiJIUzI1NiJ9.eyJleHAiOjkwMH0."

def holding (raw : String) : Caches :=
  { Caches.empty with
    tokens := { (Cache.lasting : Cache SignedToken) with value := (SignedToken.parse raw).toOption } }

def asking (identity : ClientIdentity) (raw : String) : Except (Fault Error) Request :=
  match identity.accessForm target "things" with
  | .ok form => (identity.authenticate (.postForm identity.resource.endpoint form) (holding raw)
      Visit.arrival).result
  | .error cause => .error (.error cause)

theorem asksAccess {identity : ClientIdentity} {raw : String} {request : Request}
    (asked : asking identity raw = .ok request) : identity.AsksAccess target "things" request := by
  unfold asking at asked
  split at asked
  · rename_i made
    exact .asks made asked
  · cases asked

theorem asked : (asking identity raw).isOk = true ∧
    (asking (identity.withSecret secret) Outage.raw).isOk = true ∧
    (asking identity raw).toOption.map (·.headers) ≠
      (asking (identity.withSecret secret) Outage.raw).toOption.map (·.headers) ∧
    (asking identity raw).toOption.map (·.form) ≠
      (asking (identity.withSecret secret) Outage.raw).toOption.map (·.form) := by
  decide +kernel

/-- Two clients that differ in their secret and hold different tokens. A look at their requests for a
ticket does not tell which is which. -/
theorem shown_alike : ∃ request request' : Request,
    identity.AsksAccess target "things" request ∧
      (identity.withSecret secret).AsksAccess target "things" request' ∧
      request.headers ≠ request'.headers ∧ request.form ≠ request'.form ∧
      request.describe = request'.describe ∧ identity.Discretion := by
  obtain ⟨succeeded, succeeded', headers, form⟩ := asked
  obtain ⟨request, asks⟩ := exists_ok_of_isOk succeeded
  obtain ⟨request', asks'⟩ := exists_ok_of_isOk succeeded'
  rw [asks, asks'] at headers form
  have discretion := tells_introspected identity
  refine ⟨request, request', asksAccess asks, asksAccess asks', ?_, ?_, ?_, discretion⟩
  · exact fun same => headers (congrArg some same)
  · exact fun same => form (congrArg some same)
  · exact discretion.access secret target "things" request request' (asksAccess asks) (asksAccess asks')

theorem not_always_hidden : ¬ ∀ (identity : ClientIdentity) (endpoint : Url) (raw raw' : String),
    (Introspection.request endpoint identity.config.clientId identity.config.clientSecret raw).describe =
      (Introspection.request endpoint identity.config.clientId identity.config.clientSecret
        raw').describe := by
  intro always
  have same := always identity (Visit.place "introspect") "opaque" "other"
  revert same
  decide +kernel

end Lookalike

end BearerIdentity
