import BearerIdentity.Client.Introspection
import BearerIdentity.Client.TokenResource
import BearerIdentity.Proofs.Http.Headers
import BearerIdentity.Proofs.Text.Base64
import BearerIdentity.Proofs.Text.Split
import BearerIdentity.Proofs.Text.Utf8

set_option autoImplicit false

/- What a server reads in the header for Basic credentials. The user name and the password are joined by
a colon, and a server cuts at the first one. So a password may have colons, but of a user name with a
colon only the start is taken for the name. -/

namespace BearerIdentity

namespace Request

variable {user password : String}

def userPass (user password : String) : List Char :=
  user.toList ++ ':' :: password.toList

theorem toList_basicCredentials (user password : String) : (basicCredentials user password).toList =
    "Basic ".toList ++ Base64.encodePadded Base64.standard (Utf8.encode (userPass user password)) := by
  simp [basicCredentials, userPass, Utf8.ofString]

/-- The user name and the password that a server reads in the value of an Authorization header. -/
def readBasic? (header : String) : Option (String × String) := do
  let digits ← Split.afterPrefix? "Basic ".toList header.toList
  let bytes ← Base64.decodePadded? Base64.standard digits
  let text ← Utf8.decode bytes
  let (user, password) ← Split.atFirst ':' text
  some (String.ofList user, String.ofList password)

theorem readBasic?_basicCredentials (user password : String) :
    readBasic? (basicCredentials user password) = (Split.atFirst ':' (userPass user password)).map
      fun (user, password) => (String.ofList user, String.ofList password) := by
  have digits := (Split.afterPrefix?_eq_some_iff _ _ _).mpr (toList_basicCredentials user password)
  have bytes := Base64.decodePadded?_encodePadded Base64.isReadable_standard
    (Utf8.encode (userPass user password))
  have text := (Utf8.decode_eq_some_iff _ _).mpr (rfl : Utf8.encode (userPass user password) = _)
  simp only [readBasic?, digits, bytes, text, Option.bind_eq_bind, Option.bind_some]
  cases Split.atFirst ':' (userPass user password) <;> rfl

theorem basicCredentials_eq_iff {user password user' password' : String} :
    basicCredentials user password = basicCredentials user' password' ↔
      userPass user password = userPass user' password' := by
  rw [← String.toList_inj, toList_basicCredentials, toList_basicCredentials]
  constructor
  · intro same
    have bytes := Base64.encodePadded_injective Base64.isReadable_standard (List.append_cancel_left same)
    have read := (Utf8.decode_eq_some_iff (Utf8.encode (userPass user password)) _).mpr rfl
    rw [bytes, (Utf8.decode_eq_some_iff (Utf8.encode (userPass user' password')) _).mpr rfl] at read
    exact (Option.some.inj read).symm
  · intro same
    rw [same]

structure SendsBasic (user password : String) : Prop where
  /-- The request has the header and no other of its name. -/
  sent : ∀ request : Request,
    (request.withBasic user password).headers.filter (Ascii.sameFold ·.1 "Authorization") =
      [("Authorization", basicCredentials user password)]
  /-- Requests for a token are sent with the client's own. -/
  asksToken : ∀ resource : TokenResource,
    resource.grant.clientId = user → resource.grant.clientSecret.exposed = password →
      resource.request.header? "Authorization" = some (basicCredentials user password)
  /-- So are those about a token. -/
  asksAbout : ∀ endpoint secret raw, secret.exposed = password →
    (Introspection.request endpoint user secret raw).header? "Authorization" =
      some (basicCredentials user password)
  /-- A server reads the pair if the user name has no colon. -/
  recovered : readBasic? (basicCredentials user password) = some (user, password) ↔ ':' ∉ user.toList
  /-- Otherwise it takes the end of the user name for the start of the password. -/
  cut : ∀ before after : String, user = before ++ ":" ++ after → ':' ∉ before.toList →
    readBasic? (basicCredentials user password) = some (before, after ++ ":" ++ password)
  /-- Two pairs have one header if they are equal when they are joined. -/
  shared : ∀ user' password', basicCredentials user password = basicCredentials user' password' ↔
    user ++ ":" ++ password = user' ++ ":" ++ password'
  /-- So pairs whose user names have no colon are told apart. -/
  apart : ∀ user' password', ':' ∉ user.toList → ':' ∉ user'.toList →
    basicCredentials user password = basicCredentials user' password' → user = user' ∧ password = password'

theorem header?_withBasic (request : Request) (user password : String) :
    (request.withBasic user password).header? "Authorization" = some (basicCredentials user password) :=
  (header?_withHeader _ _ _ _).trans (if_pos (Ascii.sameFold_iff.mpr rfl))

theorem ofList_atFirst_append {before after : String} (clear : ':' ∉ before.toList) :
    (Split.atFirst ':' (before.toList ++ ':' :: after.toList)).map
      (fun (user, password) => (String.ofList user, String.ofList password)) = some (before, after) := by
  simp [Split.atFirst_append clear]

theorem readBasic?_of_clear (clear : ':' ∉ user.toList) (password : String) :
    readBasic? (basicCredentials user password) = some (user, password) := by
  rw [readBasic?_basicCredentials, userPass, ofList_atFirst_append clear]

theorem not_mem_of_readBasic? {header : String} (read : readBasic? header = some (user, password)) :
    ':' ∉ user.toList := by
  simp only [readBasic?, Option.bind_eq_bind, Option.bind_eq_some_iff] at read
  obtain ⟨digits, -, bytes, -, text, -, ⟨before, after⟩, cut, same⟩ := read
  cases same
  rw [String.toList_ofList]
  exact (Split.eq_append_of_atFirst cut).2

theorem sendsBasic (user password : String) : SendsBasic user password where
  sent := fun request => filter_withHeader request _ _
  asksToken := by
    rintro resource rfl rfl
    exact header?_withBasic _ _ _
  asksAbout := by
    rintro endpoint secret raw rfl
    exact header?_withBasic _ _ _
  recovered := ⟨not_mem_of_readBasic?, fun clear => readBasic?_of_clear clear password⟩
  cut := by
    rintro before after rfl clear
    have joined : userPass (before ++ ":" ++ after) password =
        before.toList ++ ':' :: (after ++ ":" ++ password).toList := by
      simp [userPass]
    rw [readBasic?_basicCredentials, joined, ofList_atFirst_append clear]
  shared := by
    intro user' password'
    rw [basicCredentials_eq_iff, ← String.toList_inj]
    simp [userPass]
  apart := by
    intro user' password' clear clear' same
    have read := readBasic?_of_clear clear password
    rw [same, readBasic?_of_clear clear'] at read
    cases read
    exact ⟨rfl, rfl⟩

end Request

namespace Urn

def clientId : String := "urn:svc"

theorem shares_header :
    Request.basicCredentials clientId "secret" = Request.basicCredentials "urn" "svc:secret" := by
  decide +kernel

/-- A server need not read the pair that was sent, and two pairs can have one header. -/
theorem not_always_recovered :
    (¬ ∀ user password : String,
      Request.readBasic? (Request.basicCredentials user password) = some (user, password)) ∧
    ¬ ∀ user password user' password' : String,
      Request.basicCredentials user password = Request.basicCredentials user' password' →
        (user, password) = (user', password') := by
  constructor
  · intro always
    have read := always clientId "secret"
    rw [shares_header, always] at read
    exact absurd read (by decide)
  · intro always
    exact absurd (always _ _ _ _ shares_header) (by decide)

end Urn

end BearerIdentity
