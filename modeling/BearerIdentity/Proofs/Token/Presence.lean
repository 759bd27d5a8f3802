import BearerIdentity.Proofs.Token.Lifetime
import BearerIdentity.Proofs.Token.Unreadable

set_option autoImplicit false

namespace BearerIdentity

namespace Claims

open Json

variable {claims : Claims} {members : List (String × Value)} {name other : String} {depth : Nat} {node : Node}

/-- The claims that have parts of their own, and whether they are present. -/
def standard (claims : Claims) : List (String × Bool) :=
  [("iss", claims.issuer.isSome), ("sub", claims.subject.isSome), ("aud", claims.audience.isSome),
    ("exp", claims.expiry.isSome), ("iat", claims.issueDate.isSome), ("nbf", claims.startDate.isSome),
    ("azp", claims.authorizedParty.isSome), ("typ", claims.type.isSome), ("scope", claims.scope.isSome),
    ("roles", claims.roles.isSome), ("groups", claims.groups.isSome),
    ("authorization", claims.authorization.isSome)]

theorem has_eq_lookup :
    claims.has name = (claims.standard.lookup name).getD (claims.others.lookup name).isSome := by
  unfold has
  split
  case h_13 => simp_all [standard, lookup_cons_eq_if]
  all_goals rfl

def standardNames : List String :=
  fields.map (·.name)

@[simp] theorem names_standard (claims : Claims) : claims.standard.map (·.1) = standardNames := rfl

theorem lookup_standard_eq_none_iff (claims : Claims) :
    claims.standard.lookup name = none ↔ name ∉ standardNames := by
  rw [List.lookup_eq_none_iff, ← names_standard claims, List.mem_map]
  constructor
  · rintro none ⟨entry, member, named⟩
    exact bne_iff_ne.mp (none entry member) named.symm
  · intro unlisted entry member
    exact bne_iff_ne.mpr fun same => unlisted ⟨entry, member, same.symm⟩

theorem exists_lookup_standard (claims : Claims) (listed : name ∈ standardNames) :
    ∃ known, claims.standard.lookup name = some known := by
  rw [← Option.ne_none_iff_exists']
  exact fun none => (lookup_standard_eq_none_iff claims).mp none listed

/-- An object has the claim. If the claim is a standard one, `null` is as good as nothing. -/
def Carries (members : List (String × Value)) (name : String) : Prop :=
  ∃ value, members.lookup name = some value ∧ (name ∈ standardNames → value ≠ .null)

theorem carries_insertSorted {value : Value} :
    Carries (insertSorted name value members) other ↔
      if other = name then name ∈ standardNames → value ≠ .null else Carries members other := by
  unfold Carries
  rw [lookup_insertSorted]
  split
  · rename_i same
    simp [same]
  · rfl

def Reflects (claims : Claims) (members : List (String × Value)) : Prop :=
  ∀ name, claims.has name = true ↔ Carries members name

/-- A part that may be missing is read from any value that the inner reader takes, and is missing if this is
`null`. -/
theorem exists_of_option {α : Type} {inner : Decoder α} (reads : inner.ReadsValues) {read : Option α}
    (given : Decoder.option inner depth node = .ok read) :
    ∃ value, decodeValue depth node = .ok value ∧ (read.isSome = true ↔ value ≠ .null) := by
  unfold Decoder.option at given
  split at given
  · cases given
    exact ⟨.null, by rw [decodeValue], by simp⟩
  · rename_i isOther
    obtain ⟨part, held, rfl⟩ := map_eq_ok.mp given
    obtain ⟨value, decoded⟩ := reads _ _ part held
    have filled : value ≠ .null := ne_null_of_decodeValue isOther decoded
    exact ⟨value, decoded, by simp [filled]⟩

theorem lookup_map_if (entries : List (String × Bool)) (known : Bool) :
    (entries.map fun entry => if entry.1 = name then (name, known) else entry).lookup other =
      if other = name then (entries.lookup name).map fun _ => known else entries.lookup other := by
  induction entries with
  | nil => simp
  | cons entry rest ih =>
    obtain ⟨first, kept⟩ := entry
    rw [List.map_cons]
    by_cases here : first = name
    · subst here
      simp only [if_true, lookup_cons_eq_if, ih]
      split
      · rfl
      · rfl
    · rw [if_neg here, lookup_cons_eq_if, ih, lookup_cons_eq_if, lookup_cons_eq_if]
      by_cases same : other = name
      · subst same
        simp [Ne.symm here]
      · simp [same]

/-- A member that belongs to a part makes this claim present, unless it is `null`, and no other. -/
theorem reflects_part {α : Type} {inner : Decoder α} {set : Option α → Claims → Claims}
    (reads : inner.ReadsValues) (listed : name ∈ standardNames)
    (own : ∀ read claims, (set read claims).standard =
      claims.standard.map fun entry => if entry.1 = name then (name, read.isSome) else entry)
    (others : ∀ read claims, (set read claims).others = claims.others) :
    Record.Adds Reflects name (Field.optional name (.option inner) set).read := by
  intro depth node claims claims' members given reflects
  obtain ⟨read, held, rfl⟩ := map_eq_ok.mp given
  obtain ⟨value, decoded, present⟩ := exists_of_option reads held
  refine ⟨value, decoded, fun other => ?_⟩
  rw [has_eq_lookup, own, others, lookup_map_if, carries_insertSorted]
  by_cases same : other = name
  · obtain ⟨known, found⟩ := exists_lookup_standard claims listed
    simp [same, found, present, listed]
  · rw [if_neg same, if_neg same, ← has_eq_lookup]
    exact reflects other

theorem reflects_field : ∀ field ∈ fields, Record.Adds Reflects field.name field.read := by
  have text := Decoder.readsValues_string
  have texts := Decoder.readsValues_string.list
  have audience : Audience.decoder.ReadsValues := Decoder.readsValues_ofValue?
  have value := Decoder.readsValues_decodeValue
  simp only [fields, List.forall_mem_cons, List.not_mem_nil, false_implies, implies_true, and_true]
  refine ⟨?issuer, ?subject, ?audience, ?expiry, ?issueDate, ?startDate, ?party, ?type, ?scope, ?roles,
    ?groups, ?authorization⟩
  case audience => exact reflects_part audience (by decide) (fun _ _ => rfl) (fun _ _ => rfl)
  case expiry | issueDate | startDate | authorization =>
    exact reflects_part value (by decide) (fun _ _ => rfl) (fun _ _ => rfl)
  case roles | groups => exact reflects_part texts (by decide) (fun _ _ => rfl) (fun _ _ => rfl)
  all_goals exact reflects_part text (by decide) (fun _ _ => rfl) (fun _ _ => rfl)

/-- Any other member makes the claim of its name present, also if it is `null`. -/
theorem reflects_other (unlisted : name ∉ standardNames) :
    Record.Adds Reflects name fun depth node claims => keepOther depth name node claims := by
  intro depth node claims claims' members given reflects
  obtain ⟨value, decoded, rfl⟩ := map_eq_ok.mp given
  refine ⟨value, decoded, fun other => ?_⟩
  have kept : ({ claims with others := insertSorted name value claims.others } : Claims).standard =
    claims.standard := rfl
  rw [has_eq_lookup, kept, lookup_insertSorted, carries_insertSorted]
  by_cases same : other = name
  · rw [same, (lookup_standard_eq_none_iff claims).mpr unlisted]
    simp [unlisted]
  · rw [if_neg same, if_neg same, ← has_eq_lookup]
    exact reflects other

theorem reflects_blank : blank.Reflects [] := by
  intro name
  have absent : blank.has name = false := by
    unfold has
    split <;> rfl
  rw [absent]
  exact ⟨nofun, nofun⟩

/-- A document that claims are read from is an object, and the claims that are present are those that it
carries. -/
theorem reflects_of_decoded {document : Bytes} (decoded : decodeAll decoder document = .ok claims) :
    ∃ members, decodeAll decodeValue document = .ok (.object members) ∧ claims.Reflects members := by
  refine Record.mirrors_of_decodeAll reflects_field (fun name unnamed => reflects_other ?_) reflects_blank decoded
  intro listed
  obtain ⟨field, known, named⟩ := List.mem_map.mp listed
  exact unnamed field known named

section Required

variable {required : List String} {now : Instant}

theorem checkRequired_eq_ok_iff_carries (reflects : claims.Reflects members) :
    claims.checkRequired required = .ok () ↔ ∀ name ∈ required, Carries members name := by
  rw [checkRequired_eq_ok_iff]
  exact forall₂_congr fun name _ => reflects name

/-- The other parts of the check do not ask for claims. -/
theorem check_eq_missingClaim_iff {missing : String} :
    claims.check required now = .error (.error (.missingClaim missing)) ↔
      claims.checkType = .ok () ∧ claims.checkRequired required = .error (.error (.missingClaim missing)) := by
  have type : claims.checkType ≠ .error (.error (.missingClaim missing)) := by
    unfold checkType
    split
    · simp
    · split <;> simp
  have expiry : claims.checkExpiry now ≠ .error (.error (.missingClaim missing)) := by
    unfold checkExpiry
    split
    · simp
    split
    · simp
    split
    · simp
    split <;> simp
  have start : claims.checkStart now ≠ .error (.error (.missingClaim missing)) := by
    unfold checkStart
    split
    · simp
    split
    · simp
    split
    · simp
    split <;> simp
  simp [check_eq_error, type, expiry, start]

theorem checkRequired_eq_error_iff_carries (reflects : claims.Reflects members) {missing : String} :
    claims.checkRequired required = .error (.error (.missingClaim missing)) ↔
      ∃ before after, required = before ++ missing :: after ∧
        (∀ name ∈ before, Carries members name) ∧ ¬ Carries members missing := by
  rw [checkRequired_eq_error_iff]
  constructor
  · rintro ⟨before, _, after, listed, present, absent, ⟨⟩⟩
    refine ⟨before, after, listed, fun name member => (reflects name).mp (present name member), ?_⟩
    rw [← reflects missing, absent]
    exact Bool.false_ne_true
  · rintro ⟨before, after, listed, carried, uncarried⟩
    rw [← reflects missing, Bool.not_eq_true] at uncarried
    exact ⟨before, missing, after, listed, fun name member => (reflects name).mpr (carried name member),
      uncarried, rfl⟩

end Required

/-- Which claims of an object are present, and what a check of the required ones takes. -/
structure Presence (claims : Claims) (members : List (String × Value)) : Prop where
  standard : ∀ name ∈ standardNames,
    (claims.has name = true ↔ ∃ value, members.lookup name = some value ∧ value ≠ .null)
  other : ∀ name ∉ standardNames, (claims.has name = true ↔ ∃ value, members.lookup name = some value)
  accepted : ∀ required now, claims.check required now = .ok () → ∀ name ∈ required, Carries members name
  /-- The first required claim that the object does not carry is reported, unless the token has the wrong
  type. -/
  refused : ∀ required now missing, claims.check required now = .error (.error (.missingClaim missing)) ↔
    claims.IsBearer ∧ ∃ before after, required = before ++ missing :: after ∧
      (∀ name ∈ before, Carries members name) ∧ ¬ Carries members missing

/-- A document that claims are read from is an object. Its standard claims are present unless they are missing
or `null`, its other claims unless they are missing, and only what is present satisfies a requirement. -/
theorem presence_of_decoded {document : Bytes} (decoded : decodeAll decoder document = .ok claims) :
    ∃ members, decodeAll decodeValue document = .ok (.object members) ∧ claims.Presence members := by
  obtain ⟨members, isObject, reflects⟩ := reflects_of_decoded decoded
  refine ⟨members, isObject, ?_, ?_, ?_, ?_⟩
  · intro name listed
    rw [reflects name]
    simp only [Carries, listed, true_imp_iff]
  · intro name unlisted
    rw [reflects name]
    simp only [Carries, unlisted, false_imp_iff, and_true]
  · intro required now passed
    exact (checkRequired_eq_ok_iff_carries reflects).mp (check_eq_ok.mp passed).2.1
  · intro required now missing
    rw [check_eq_missingClaim_iff, checkType_eq_ok_iff, checkRequired_eq_error_iff_carries reflects]
    rfl

end Claims

namespace Vacant

open Json

def now : Instant :=
  ⟨1700000000000⟩

def document : Bytes :=
  Utf8.ofString "\x7b\"typ\":\"Bearer\",\"sub\":null,\"department\":null\x7d"

def required : List String :=
  ["department"]

theorem decoded : ∃ claims, decodeAll Claims.decoder document = .ok claims ∧
    (claims.has "sub", claims.has "department", (claims.check required now).toOption) =
      (false, true, some ()) :=
  exists_of_map_toOption (by decide +kernel)

theorem lookup_department {members : List (String × Value)}
    (isObject : decodeAll decodeValue document = .ok (.object members)) :
    members.lookup "department" = some .null := by
  have found : ((decodeAll decodeValue document).toOption.bind (·.member? "department")).map
      (fun value => (Claims.unlessNull? value).isNone) = some true := by decide +kernel
  obtain ⟨value, given, null⟩ := Option.map_eq_some_iff.mp found
  rw [isObject] at given
  have named : members.lookup "department" = some value := given
  rw [named]
  by_cases isNull : value = .null
  · rw [isNull]
  · rw [Claims.unlessNull?_of_ne isNull] at null
    cases null

/-- Of two claims that are `null`, the one without a part of its own satisfies a requirement. -/
theorem department_accepted :
    ∃ claims members, decodeAll Claims.decoder document = .ok claims ∧
      decodeAll decodeValue document = .ok (.object members) ∧ claims.Presence members ∧
      members.lookup "department" = some .null ∧ claims.has "sub" = false ∧
      claims.has "department" = true ∧ claims.check required now = .ok () := by
  obtain ⟨claims, decoded, outcome⟩ := decoded
  obtain ⟨members, isObject, presence⟩ := Claims.presence_of_decoded decoded
  simp only [Prod.mk.injEq, toOption_eq_some] at outcome
  exact ⟨claims, members, decoded, isObject, presence, lookup_department isObject, outcome⟩

/-- Not every claim that is present has a value. -/
theorem not_always_filled :
    ¬ ∀ (document : Bytes) (claims : Claims) (members : List (String × Value)) (name : String),
      decodeAll Claims.decoder document = .ok claims →
      decodeAll decodeValue document = .ok (.object members) →
      (claims.has name = true ↔ ∃ value, members.lookup name = some value ∧ value ≠ .null) := by
  intro always
  obtain ⟨claims, read, outcome⟩ := decoded
  obtain ⟨members, isObject, -⟩ := Claims.reflects_of_decoded read
  simp only [Prod.mk.injEq] at outcome
  obtain ⟨value, named, filled⟩ := (always document claims members "department" read isObject).mp outcome.2.1
  rw [lookup_department isObject] at named
  exact filled (Option.some.inj named).symm

end Vacant

end BearerIdentity
