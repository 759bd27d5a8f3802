import BearerIdentity.Client.Access
import BearerIdentity.Proofs.Client.Acceptance
import BearerIdentity.Proofs.Client.IdentityUri
import BearerIdentity.Proofs.Client.Resolution
import Mathlib.Data.List.Basic

set_option autoImplicit false

namespace BearerIdentity

namespace IdentityUri

variable {target : IdentityUri} {name audience scope : String}

theorem param?_eq_none : target.param? name = none ↔ ClientOptions.IsUnset target.params name := by
  unfold param?
  rw [List.lookup_eq_none_iff]
  simp only [ClientOptions.IsUnset, bne_iff_ne, ne_comm]

/-- The audience that a target names: its client, or else what its first parameter for this says. -/
inductive NamesAudience (target : IdentityUri) : String → Prop where
  | client {audience : String} (named : target.clientId = some audience) : NamesAudience target audience
  | parameter {audience : String} (anonymous : target.clientId = none)
      (first : target.IsFirst "audience" audience) (filled : audience ≠ "") : NamesAudience target audience

/-- The target names no client, and its first parameter for the audience is missing or empty. -/
structure LacksAudience (target : IdentityUri) : Prop where
  anonymous : target.clientId = none
  unsaid : ClientOptions.IsUnset target.params "audience" ∨ target.IsFirst "audience" ""

/-- The scope to ask for: what the first parameter of the target for this says, or else the default. -/
inductive AsksScope (target : IdentityUri) : String → Prop where
  | said {scope : String} (first : target.IsFirst "scope" scope) : AsksScope target scope
  | unsaid (unset : ClientOptions.IsUnset target.params "scope") : AsksScope target "openid roles"

def permissions (target : IdentityUri) : List (String × String) :=
  target.params.filter (·.1 == "permission")

theorem name_of_mem_permissions {param : String × String} (member : param ∈ target.permissions) :
    param.1 = "permission" := by
  simpa using (List.mem_filter.mp member).2

theorem map_paramValues : (target.paramValues "permission").map (fun value => ("permission", value)) =
    target.permissions := by
  rw [paramValues, List.map_map]
  refine (List.map_congr_left fun param member => ?_).trans (List.map_id target.permissions)
  exact Prod.ext (name_of_mem_permissions member).symm rfl

theorem NamesAudience.filled (names : target.NamesAudience audience) (solid : target.clientId ≠ some "") :
    audience ≠ "" := by
  cases names with
  | client named =>
    rintro rfl
    exact solid named
  | parameter anonymous first filled => exact filled

theorem audience_eq_some (solid : target.clientId ≠ some "") :
    (target.clientId.or (target.param? "audience")).filter (!·.isEmpty) = some audience ↔
      target.NamesAudience audience := by
  rw [Option.filter_eq_some_iff]
  cases named : target.clientId with
  | some id =>
    rw [Option.some_or, Option.some.injEq]
    constructor
    · rintro ⟨rfl, -⟩
      exact .client named
    · intro names
      have filled := names.filled solid
      cases names with
      | client same =>
        rw [named] at same
        cases same
        exact ⟨rfl, by simpa using filled⟩
      | parameter anonymous =>
        rw [named] at anonymous
        cases anonymous
  | none =>
    rw [Option.none_or, param?_eq_some]
    constructor
    · rintro ⟨first, filled⟩
      exact .parameter named first (by simpa using filled)
    · intro names
      cases names with
      | client same =>
        rw [named] at same
        cases same
      | parameter anonymous first filled => exact ⟨first, by simpa using filled⟩

theorem audience_eq_none (solid : target.clientId ≠ some "") :
    (target.clientId.or (target.param? "audience")).filter (!·.isEmpty) = none ↔ target.LacksAudience := by
  cases named : target.clientId with
  | some id =>
    have kept : id ≠ "" := by
      rintro rfl
      exact solid named
    rw [Option.some_or, Option.filter_some, if_pos (by simpa using kept)]
    constructor
    · nofun
    · intro lacks
      rw [lacks.anonymous] at named
      cases named
  | none =>
    rw [Option.none_or]
    cases said : target.param? "audience" with
    | none => exact ⟨fun _ => ⟨named, .inl (param?_eq_none.mp said)⟩, fun _ => rfl⟩
    | some audience =>
      have first := param?_eq_some.mp said
      by_cases blank : audience = ""
      · subst blank
        exact ⟨fun _ => ⟨named, .inr first⟩, fun _ => rfl⟩
      · rw [Option.filter_some, if_pos (by simpa using blank)]
        constructor
        · nofun
        · rintro ⟨-, unset | empty⟩
          · rw [param?_eq_none.mpr unset] at said
            cases said
          · rw [param?_eq_some.mpr empty] at said
            cases said
            exact absurd rfl blank

theorem getD_scope_eq : (target.param? "scope").getD defaultAccessScope = scope ↔ target.AsksScope scope := by
  cases said : target.param? "scope" with
  | none =>
    have unset := param?_eq_none.mp said
    constructor
    · rintro rfl
      exact .unsaid unset
    · intro asks
      cases asks with
      | unsaid => rfl
      | said first =>
        rw [param?_eq_some.mpr first] at said
        cases said
  | some found =>
    have first := param?_eq_some.mp said
    constructor
    · rintro rfl
      exact .said first
    · intro asks
      cases asks with
      | unsaid unset =>
        rw [param?_eq_none.mpr unset] at said
        cases said
      | said other =>
        rw [param?_eq_some.mpr other] at said
        cases said
        rfl

end IdentityUri

namespace ClientIdentity

variable {identity : ClientIdentity} {target : IdentityUri} {text : String} {form : List (String × String)}

structure Negotiates (identity : ClientIdentity) (target : IdentityUri) : Prop where
  target : target.scheme = .uma2
  client : identity.config.uma = true

theorem wantsPermissions_iff : identity.wantsPermissions target = true ↔ identity.Negotiates target := by
  unfold wantsPermissions isUma
  rw [Bool.and_eq_true, beq_iff_eq]
  exact ⟨fun both => ⟨both.1, both.2⟩, fun both => ⟨both.target, both.client⟩⟩

def opening (identity : ClientIdentity) (grant audience scope : String) : List (String × String) :=
  [("grant_type", grant), ("audience", audience), ("scope", scope),
    ("client_id", identity.config.clientId), ("client_secret", identity.config.clientSecret.exposed)]

/-- The forms that say what has to be said to a target. -/
inductive Fills (identity : ClientIdentity) (target : IdentityUri) : List (String × String) → Prop where
  | permitted {audience scope : String} (addressed : target.NamesAudience audience)
      (ranged : target.AsksScope scope) (negotiates : identity.Negotiates target) :
      Fills identity target
        (identity.opening "urn:ietf:params:oauth:grant-type:uma-ticket" audience scope ++ target.permissions)
  | ordinary {audience scope : String} (addressed : target.NamesAudience audience)
      (ranged : target.AsksScope scope) (unable : ¬ identity.Negotiates target) :
      Fills identity target (identity.opening "client_credentials" audience scope)

theorem accessForm_eq_error (solid : target.clientId ≠ some "") {cause : Error} :
    identity.accessForm target text = .error cause ↔
      target.LacksAudience ∧ cause = .missingAudience text := by
  rw [← IdentityUri.audience_eq_none solid]
  unfold accessForm
  split
  · rename_i missing
    rw [Except.error.injEq, eq_comm]
    exact ⟨fun same => ⟨missing, same⟩, And.right⟩
  · rename_i audience found
    constructor
    · nofun
    · rintro ⟨missing, -⟩
      rw [found] at missing
      cases missing

/-- A form is the only one that says what has to be said. -/
theorem accessForm_eq_ok (solid : target.clientId ≠ some "") :
    identity.accessForm target text = .ok form ↔ identity.Fills target form := by
  have composed {audience : String} (names : target.NamesAudience audience) :
      identity.accessForm target text = .ok
        (identity.opening (identity.accessGrant target) audience
            ((target.param? "scope").getD defaultAccessScope) ++
          if identity.wantsPermissions target then target.permissions else []) := by
    unfold accessForm
    rw [(IdentityUri.audience_eq_some solid).mpr names]
    dsimp only
    congr 2
    split
    · exact IdentityUri.map_paramValues
    · rfl
  constructor
  · intro made
    cases found : (target.clientId.or (target.param? "audience")).filter (!·.isEmpty) with
    | none =>
      rw [accessForm, found] at made
      cases made
    | some audience =>
      have names := (IdentityUri.audience_eq_some solid).mp found
      rw [composed names, accessGrant] at made
      cases made
      split
      · rename_i wanted
        exact .permitted names (IdentityUri.getD_scope_eq.mp rfl) (wantsPermissions_iff.mp wanted)
      · rename_i unwanted
        rw [List.append_nil]
        exact .ordinary names (IdentityUri.getD_scope_eq.mp rfl) fun negotiates =>
          unwanted (wantsPermissions_iff.mpr negotiates)
  · intro fills
    cases fills with
    | permitted names ranged negotiates =>
      rw [composed names, IdentityUri.getD_scope_eq.mpr ranged, accessGrant,
        if_pos (wantsPermissions_iff.mpr negotiates), if_pos (wantsPermissions_iff.mpr negotiates)]
      rfl
    | ordinary names ranged unable =>
      have unwanted := fun wanted => unable (wantsPermissions_iff.mp wanted)
      rw [composed names, IdentityUri.getD_scope_eq.mpr ranged, accessGrant, if_neg unwanted,
        if_neg unwanted, List.append_nil]
      rfl

namespace Fills

def names : List String :=
  ["grant_type", "audience", "scope", "client_id", "client_secret"]

theorem map_opening (grant audience scope : String) :
    (identity.opening grant audience scope).map (·.1) = names := rfl

theorem exists_map (fills : identity.Fills target form) :
    ∃ later : List String, form.map (·.1) = names ++ later ∧ ∀ name ∈ later, name = "permission" := by
  cases fills with
  | permitted addressed ranged negotiates =>
    refine ⟨target.permissions.map (·.1), by rw [List.map_append, map_opening], fun name member => ?_⟩
    obtain ⟨param, listed, rfl⟩ := List.mem_map.mp member
    exact IdentityUri.name_of_mem_permissions listed
  | ordinary addressed ranged unable => exact ⟨[], by rw [map_opening, List.append_nil], nofun⟩

theorem count_eq_one (fills : identity.Fills target form) {name : String} (member : name ∈ names) :
    (form.map (·.1)).count name = 1 := by
  obtain ⟨later, listed, permissions⟩ := fills.exists_map
  have absent : name ∉ later := by
    intro later
    rw [permissions name later] at member
    revert member
    decide
  have once : ∀ name ∈ names, names.count name = 1 := by decide
  rw [listed, List.count_append, once name member, List.count_eq_zero.mpr absent]

theorem exists_audience (fills : identity.Fills target form) :
    ∃ audience, target.NamesAudience audience ∧ form.lookup "audience" = some audience := by
  cases fills with
  | permitted addressed ranged negotiates => exact ⟨_, addressed, rfl⟩
  | ordinary addressed ranged unable => exact ⟨_, addressed, rfl⟩

theorem filter_permissions (grant audience scope : String) :
    (identity.opening grant audience scope ++ target.permissions).filter (·.1 == "permission") =
      target.permissions := by
  have none : (identity.opening grant audience scope).filter (·.1 == "permission") = [] := rfl
  rw [List.filter_append, none, List.nil_append, List.filter_eq_self]
  intro param member
  exact beq_iff_eq.mpr (IdentityUri.name_of_mem_permissions member)

end Fills

structure Composition (identity : ClientIdentity) (target : IdentityUri) (text : String) : Prop where
  /-- There is none exactly if the target lacks an audience, which is what is reported then. -/
  fails : ∀ cause, identity.accessForm target text = .error cause ↔
    target.LacksAudience ∧ cause = .missingAudience text
  /-- Otherwise it is the one that says what has to be said. -/
  fills : ∀ form, identity.accessForm target text = .ok form ↔ identity.Fills target form
  /-- It begins with the same names for all targets, and each of these stands in it once. -/
  names : ∀ form, identity.accessForm target text = .ok form → Fills.names <+: form.map (·.1) ∧
    ∀ name ∈ Fills.names, (form.map (·.1)).count name = 1
  /-- It has an audience, and this is not empty. -/
  audience : ∀ form, identity.accessForm target text = .ok form →
    ∃ audience, audience ≠ "" ∧ target.NamesAudience audience ∧ form.lookup "audience" = some audience
  /-- It is for a grant with permissions, and ends with all that the target names, exactly if the target has
  permissions to give and the client knows of them. -/
  permitted : ∀ form, identity.accessForm target text = .ok form →
    (form.lookup "grant_type" = some "urn:ietf:params:oauth:grant-type:uma-ticket" ∧
        target.permissions <:+ form ∧ form.filter (·.1 == "permission") = target.permissions ↔
      identity.Negotiates target)
  /-- Otherwise it is for an ordinary grant, and asks for none. -/
  ordinary : ∀ form, identity.accessForm target text = .ok form → ¬ identity.Negotiates target →
    form.lookup "grant_type" = some "client_credentials" ∧ ∀ param ∈ form, param.1 ≠ "permission"

/-- Every target that can be read has its form in this way. -/
theorem composition_of_parse (identity : ClientIdentity) {source : String}
    (read : IdentityUri.parse source = .ok target) (text : String) : identity.Composition target text := by
  have solid := IdentityUri.clientId_ne_blank read
  have told {form : List (String × String)} (made : identity.accessForm target text = .ok form) :
      identity.Fills target form :=
    (accessForm_eq_ok solid).mp made
  constructor
  case fails => exact fun cause => accessForm_eq_error solid
  case fills => exact fun form => accessForm_eq_ok solid
  case names =>
    intro form made
    obtain ⟨later, listed, -⟩ := (told made).exists_map
    exact ⟨⟨later, listed.symm⟩, fun name => (told made).count_eq_one⟩
  case audience =>
    intro form made
    obtain ⟨audience, names, found⟩ := (told made).exists_audience
    exact ⟨audience, names.filled solid, names, found⟩
  case permitted =>
    intro form made
    cases told made with
    | permitted addressed ranged negotiates =>
      refine ⟨fun _ => negotiates, fun _ => ⟨rfl, List.suffix_append _ _, Fills.filter_permissions _ _ _⟩⟩
    | ordinary addressed ranged unable =>
      refine ⟨fun claimed => ?_, fun negotiates => absurd negotiates unable⟩
      exact absurd (Option.some.inj claimed.1) (by decide)
  case ordinary =>
    intro form made unable
    cases told made with
    | permitted addressed ranged negotiates => exact absurd negotiates unable
    | ordinary addressed ranged =>
      refine ⟨rfl, fun param member named => ?_⟩
      have listed : param.1 ∈ Fills.names := List.mem_map_of_mem member
      rw [named] at listed
      revert listed
      decide

end ClientIdentity

namespace Archive

open ClientIdentity

def place : String :=
  "uma2://idp.example?audience=api&permission=doc%23read&audience=&permission=doc%23write&" ++
    "permission=doc%23read"

def target : IdentityUri where
  scheme := .uma2
  clientId := none
  clientSecret := none
  host := some "idp.example"
  port := none
  path := ""
  params := [("audience", "api"), ("permission", "doc#read"), ("audience", ""),
    ("permission", "doc#write"), ("permission", "doc#read")]

theorem parse_place : IdentityUri.parse place = .ok target := by
  decide +kernel

/-- A client that knows of permissions. -/
def reader : ClientIdentity :=
  { Visit.identity with config := { Visit.identity.config with uma := true } }

/-- A target that names no client. It names its audience twice, the second time without saying which,
and one of its permissions twice. -/
theorem permissions_asked_for : IdentityUri.parse place = .ok target ∧ reader.accessForm target place = .ok
    [("grant_type", "urn:ietf:params:oauth:grant-type:uma-ticket"), ("audience", "api"),
      ("scope", "openid roles"), ("client_id", "api"), ("client_secret", "sesame"),
      ("permission", "doc#read"), ("permission", "doc#write"), ("permission", "doc#read")] := by
  have addressed : target.NamesAudience "api" :=
    .parameter rfl ⟨[], _, rfl, nofun⟩ (by decide)
  have ranged : target.AsksScope "openid roles" :=
    .unsaid (by decide)
  have fills := (composition_of_parse reader parse_place place).fills
  exact ⟨parse_place, (fills _).mpr (.permitted addressed ranged ⟨rfl, rfl⟩)⟩

end Archive

end BearerIdentity
