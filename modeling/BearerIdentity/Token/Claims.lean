import BearerIdentity.Instant
import BearerIdentity.Json.Decode
import BearerIdentity.Json.Description
import BearerIdentity.Text.Blank

set_option autoImplicit false

namespace BearerIdentity

/-- Whom a token is meant for. -/
inductive Audience where
  | one (name : String)
  | many (names : List String)
  deriving DecidableEq, Repr

namespace Audience

def contains (audience : Audience) (name : String) : Bool :=
  match audience with
  | one only => only == name
  | many names => List.contains names name

def ofValue? : Json.Value → Option Audience
  | .string name => some (one name)
  | .array items => (items.mapM Json.Value.text?).map many
  | _ => none

def decoder : Json.Decoder Audience :=
  .ofValue? ofValue?

def toValue : Audience → Json.Value
  | one name => .string name
  | many names => .ofTexts names

def describe : Audience → String
  | one name => Rendering.tuple "One" [Rendering.quoted name]
  | many names => Rendering.tuple "Many" [Rendering.list Rendering.quoted names]

end Audience

structure Claims where
  issuer : Option String
  subject : Option String
  audience : Option Audience
  expiry : Option Json.Value
  issueDate : Option Json.Value
  startDate : Option Json.Value
  /-- The client that the token was issued to. -/
  authorizedParty : Option String
  type : Option String
  scope : Option String
  roles : Option (List String)
  groups : Option (List String)
  /-- Permissions on resources. -/
  authorization : Option Json.Value
  /-- All other claims, sorted by name. -/
  others : List (String × Json.Value)
  deriving Repr

namespace Claims

def blank : Claims where
  issuer := none
  subject := none
  audience := none
  expiry := none
  issueDate := none
  startDate := none
  authorizedParty := none
  type := none
  scope := none
  roles := none
  groups := none
  authorization := none
  others := []

def fields : List (Json.Field Claims) :=
  [.optional "iss" (.option .string) fun issuer claims => { claims with issuer },
    .optional "sub" (.option .string) fun subject claims => { claims with subject },
    .optional "aud" (.option Audience.decoder) fun audience claims => { claims with audience },
    .optional "exp" (.option Json.decodeValue) fun expiry claims => { claims with expiry },
    .optional "iat" (.option Json.decodeValue) fun issueDate claims => { claims with issueDate },
    .optional "nbf" (.option Json.decodeValue) fun startDate claims => { claims with startDate },
    .optional "azp" (.option .string) fun authorizedParty claims =>
      { claims with authorizedParty },
    .optional "typ" (.option .string) fun type claims => { claims with type },
    .optional "scope" (.option .string) fun scope claims => { claims with scope },
    .optional "roles" (.option (.list .string)) fun roles claims => { claims with roles },
    .optional "groups" (.option (.list .string)) fun groups claims => { claims with groups },
    .optional "authorization" (.option Json.decodeValue) fun authorization claims =>
      { claims with authorization }]

def keepOther : Json.Unknown Claims :=
  fun depth name node claims =>
    (Json.decodeValue depth node).map fun value =>
      { claims with others := Json.insertSorted name value claims.others }

/-- Claims are an object. An array does not do, since other claims have no position. -/
def decoder : Json.Decoder Claims :=
  Json.Record.ofObject fields keepOther blank

/-- The instant named by a number of seconds, if the calendar has it. Fractions are cut off. -/
def date? : Json.Value → Option Instant
  | .number (.whole seconds) => Instant.ofSeconds? seconds
  | .number (.real seconds) => Instant.ofSeconds? seconds.truncate
  | _ => none

def expiresAt? (claims : Claims) : Option Instant :=
  claims.expiry.bind date?

def issuedAt? (claims : Claims) : Option Instant :=
  claims.issueDate.bind date?

def notBefore? (claims : Claims) : Option Instant :=
  claims.startDate.bind date?

def scopes (claims : Claims) : List String :=
  match claims.scope with
  | some scope => (Blank.words scope.toList).map String.ofList
  | none => []

/-- The roles in the claim of that name, or else those granted in the realm. -/
def roleNames (claims : Claims) : List String :=
  match claims.roles with
  | some roles => roles
  | none =>
    (((claims.others.lookup "realm_access").bind (·.member? "roles")).bind (·.items?)).elim []
      (·.filterMap (·.text?))

/-- What the claims say, with dates in seconds and only the names of other claims. -/
def summary (claims : Claims) : Json.Value :=
  let date : Option Instant → Json.Value := .ofOption fun date => .ofInt date.seconds
  .ofMembers [
    ("iss", .ofText? claims.issuer),
    ("sub", .ofText? claims.subject),
    ("aud", .ofOption Audience.toValue claims.audience),
    ("azp", .ofText? claims.authorizedParty),
    ("typ", .ofText? claims.type),
    ("scope", .ofText? claims.scope),
    ("groups", .ofOption .ofTexts claims.groups),
    ("exp", date claims.expiresAt?),
    ("iat", date claims.issuedAt?),
    ("nbf", date claims.notBefore?),
    ("scopes", .ofTexts claims.scopes),
    ("roles", .ofTexts claims.roleNames),
    ("extra", .ofTexts (claims.others.map (·.1)))]

def describe (claims : Claims) : String :=
  let text := Rendering.optional Rendering.quoted
  let texts := Rendering.optional (Rendering.list Rendering.quoted)
  let value := Rendering.optional Json.Value.describe
  Rendering.record "TokenClaims"
    [("iss", text claims.issuer), ("sub", text claims.subject),
      ("aud", Rendering.optional Audience.describe claims.audience), ("exp", value claims.expiry),
      ("iat", value claims.issueDate), ("nbf", value claims.startDate),
      ("azp", text claims.authorizedParty), ("typ", text claims.type), ("scope", text claims.scope),
      ("roles", texts claims.roles), ("groups", texts claims.groups),
      ("authorization", value claims.authorization),
      ("extra", Rendering.mapping (claims.others.map fun (name, value) => (name, value.describe)))]

def has (claims : Claims) (name : String) : Bool :=
  match name with
  | "iss" => claims.issuer.isSome
  | "sub" => claims.subject.isSome
  | "aud" => claims.audience.isSome
  | "exp" => claims.expiry.isSome
  | "iat" => claims.issueDate.isSome
  | "nbf" => claims.startDate.isSome
  | "azp" => claims.authorizedParty.isSome
  | "typ" => claims.type.isSome
  | "scope" => claims.scope.isSome
  | "roles" => claims.roles.isSome
  | "groups" => claims.groups.isSome
  | "authorization" => claims.authorization.isSome
  | other => (claims.others.lookup other).isSome

end Claims

end BearerIdentity
