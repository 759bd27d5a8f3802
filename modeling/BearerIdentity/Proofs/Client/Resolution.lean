import BearerIdentity.Client.Config
import BearerIdentity.Proofs.Operation.Success

set_option autoImplicit false

namespace BearerIdentity

namespace IdentityUri

/-- The first of the parameters with this name has this value. -/
def IsFirst (uri : IdentityUri) (name value : String) : Prop :=
  ∃ before after, uri.params = before ++ (name, value) :: after ∧ ∀ param ∈ before, param.1 ≠ name

theorem param?_eq_some {uri : IdentityUri} {name value : String} :
    uri.param? name = some value ↔ uri.IsFirst name value := by
  unfold param?
  rw [List.lookup_eq_some_iff]
  simp only [IsFirst, bne_iff_ne, ne_comm]

end IdentityUri

namespace ClientOptions

/-- What both an option and an identity URI can decide. -/
inductive Choice where
  | issuer
  | clientId
  | clientSecret
  | grantType
  | scope

namespace Choice

variable {uri : IdentityUri} {text : String}

def set? (options : ClientOptions) : Choice → Option String
  | issuer => options.issuer
  | clientId => options.clientId
  | clientSecret => options.clientSecret
  | grantType => options.grantType
  | scope => options.scope

def Says (uri : IdentityUri) (text : String) : Choice → Prop
  | issuer => uri.issuer? = some text
  | clientId => uri.clientId = some text
  | clientSecret => uri.clientSecret = some text
  | grantType => uri.IsFirst "grant_type" text
  | scope => uri.IsFirst "scope" text

def default? : Choice → Option String
  | issuer => none
  | clientId => some ""
  | clientSecret => some ""
  | grantType => some "client_credentials"
  | scope => none

def value? (config : ClientConfig) : Choice → Option String
  | issuer => config.issuer
  | clientId => some config.clientId
  | clientSecret => some config.clientSecret.exposed
  | grantType => some config.grantType
  | scope => config.scope

/-- How a choice is made: by what is set, else by what the URI says, and else by the default. -/
inductive IsMade (options : ClientOptions) (uri : Option IdentityUri) (choice : Choice) :
    Option String → Prop where
  | set {text : String} (explicit : choice.set? options = some text) :
    IsMade options uri choice (some text)
  | said {known : IdentityUri} {text : String} (unset : choice.set? options = none)
      (named : uri = some known) (told : choice.Says known text) :
    IsMade options uri choice (some text)
  | left (unset : choice.set? options = none)
      (unsaid : ∀ known, uri = some known → ∀ text, ¬ choice.Says known text) :
    IsMade options uri choice choice.default?

def said? (uri : IdentityUri) : Choice → Option String
  | issuer => uri.issuer?
  | clientId => uri.clientId
  | clientSecret => uri.clientSecret
  | grantType => uri.param? "grant_type"
  | scope => uri.param? "scope"

theorem said?_eq_some (choice : Choice) : choice.said? uri = some text ↔ choice.Says uri text := by
  cases choice with
  | issuer => rfl
  | clientId => rfl
  | clientSecret => rfl
  | grantType => exact IdentityUri.param?_eq_some
  | scope => exact IdentityUri.param?_eq_some

theorem value?_resolveWith (options : ClientOptions) (uri : Option IdentityUri) (choice : Choice) :
    choice.value? (options.resolveWith uri) =
      ((choice.set? options).or (uri.bind choice.said?)).or choice.default? := by
  cases choice with
  | issuer => exact Option.or_none.symm
  | clientId => exact (Option.or_some ..).symm
  | clientSecret => exact (Option.or_some ..).symm
  | grantType => exact (Option.or_some ..).symm
  | scope => exact Option.or_none.symm

theorem isMade_resolveWith (options : ClientOptions) (uri : Option IdentityUri) (choice : Choice) :
    choice.IsMade options uri (choice.value? (options.resolveWith uri)) := by
  rw [value?_resolveWith]
  cases explicit : choice.set? options with
  | some text => exact .set explicit
  | none =>
    rw [Option.none_or]
    cases said : uri.bind choice.said? with
    | some text =>
      obtain ⟨known, named, told⟩ := Option.bind_eq_some_iff.mp said
      exact .said explicit named (choice.said?_eq_some.mp told)
    | none =>
      refine .left explicit fun known named text told => ?_
      have found : uri.bind choice.said? = some text := by
        rw [named]
        exact choice.said?_eq_some.mpr told
      rw [said] at found
      cases found

end Choice

def IsUnset (params : List (String × String)) (name : String) : Prop :=
  ∀ param ∈ params, param.1 ≠ name

instance (params : List (String × String)) (name : String) : Decidable (IsUnset params name) :=
  inferInstanceAs (Decidable (∀ param ∈ params, param.1 ≠ name))

theorem isUnset_cons {param : String × String} {later : List (String × String)} {name : String} :
    IsUnset (param :: later) name ↔ param.1 ≠ name ∧ IsUnset later name :=
  List.forall_mem_cons

/-- Of all parameters with one name, the last. -/
def lastOfEach : List (String × String) → List (String × String)
  | [] => []
  | param :: later => if IsUnset later param.1 then param :: lastOfEach later else lastOfEach later

/-- Setting parameters one after another leaves, of those before, the ones with other names, and of
those set, the last with each name. -/
theorem foldl_withParam (before set : List (String × String)) :
    set.foldl withParam before =
      before.filter (fun param => IsUnset set param.1) ++ lastOfEach set := by
  induction set generalizing before with
  | nil =>
    have all : before.filter (fun param => IsUnset [] param.1) = before := by
      simp [IsUnset]
    rw [all, lastOfEach, List.append_nil, List.foldl_nil]
  | cons param later ih =>
    have kept : (before.filter (·.1 != param.1)).filter (fun other => IsUnset later other.1) =
        before.filter (fun other => IsUnset (param :: later) other.1) := by
      rw [List.filter_filter]
      refine List.filter_congr fun other _ => ?_
      rw [Bool.eq_iff_iff]
      simp only [Bool.and_eq_true, decide_eq_true_iff, bne_iff_ne]
      rw [isUnset_cons, and_comm, ne_comm]
    have last : [param].filter (fun other => IsUnset later other.1) ++ lastOfEach later =
        lastOfEach (param :: later) := by
      rw [lastOfEach]
      by_cases unset : IsUnset later param.1
      · simp [unset]
      · simp [unset]
    rw [List.foldl_cons, ih, withParam, List.filter_append, kept, List.append_assoc, last]

example : [("a", "1"), ("c", "2"), ("a", "3")].foldl withParam [("b", "4"), ("a", "5"), ("b", "6")] =
    [("b", "4"), ("b", "6"), ("c", "2"), ("a", "3")] := by
  decide

/-- A parameter of the URI becomes a parameter of token requests: it is not read otherwise, and not set. -/
def IsPassedOn (options : ClientOptions) (param : String × String) : Prop :=
  param.1 ≠ "scope" ∧ param.1 ≠ "grant_type" ∧ IsUnset options.authParams param.1

instance (options : ClientOptions) : DecidablePred options.IsPassedOn :=
  fun _ => inferInstanceAs (Decidable (_ ∧ _))

theorem resolveParams_eq (options : ClientOptions) (uri : Option IdentityUri) :
    options.resolveParams uri =
      (uri.elim [] (·.params)).filter (options.IsPassedOn ·) ++ lastOfEach options.authParams := by
  rw [resolveParams, foldl_withParam, List.filter_filter]
  congr 1
  refine List.filter_congr fun param _ => ?_
  rw [Bool.eq_iff_iff]
  simp only [Bool.and_eq_true, decide_eq_true_iff, bne_iff_ne]
  exact and_rotate

/-- A configuration is what the options and an identity URI come to. -/
structure Settles (options : ClientOptions) (uri : Option IdentityUri) (config : ClientConfig) :
    Prop where
  made : ∀ choice : Choice, choice.IsMade options uri (choice.value? config)
  uma : config.uma = true ↔ options.uma = some true ∨
    options.uma = none ∧ ∃ known, uri = some known ∧ known.scheme = .uma2
  /-- The parameters of the URI come first, and repeat names if the URI does. -/
  authParams : config.authParams =
    (uri.elim [] (·.params)).filter (options.IsPassedOn ·) ++ lastOfEach options.authParams

theorem settles_resolveWith (options : ClientOptions) (uri : Option IdentityUri) :
    options.Settles uri (options.resolveWith uri) where
  made := Choice.isMade_resolveWith options uri
  uma := by
    show options.uma.getD (uri.elim .oidc (·.scheme) == .uma2) = true ↔ _
    cases options.uma with
    | some flag => simp
    | none =>
      cases uri with
      | none => simp
      | some known => simp
  authParams := options.resolveParams_eq uri

structure Resolution (options : ClientOptions) : Prop where
  /-- The URI has to be readable, even if nothing is left for it to decide. -/
  fails : ∀ cause, options.resolve = .error cause ↔
    ∃ text, options.identity = some text ∧ IdentityUri.parse text = .error cause
  anonymous : options.identity = none → ∃ config, options.resolve = .ok config ∧
    options.Settles none config
  named : ∀ text uri, options.identity = some text → IdentityUri.parse text = .ok uri →
    ∃ config, options.resolve = .ok config ∧ options.Settles (some uri) config

/-- What the options of a client come to. They are only refused for an identity URI that cannot be read.
Else every choice is made by the first of the options, the URI and the defaults that has a say in it,
and the parameters that are set replace those of the URI that have their names. -/
theorem resolution (options : ClientOptions) : options.Resolution where
  fails := by
    intro cause
    unfold resolve identityUri?
    cases options.identity with
    | none => simp [Except.map]
    | some text =>
      constructor
      · intro failed
        exact ⟨text, rfl, error_of_map (error_of_map failed)⟩
      · rintro ⟨_, same, unread⟩
        cases same
        simp only [unread]
        rfl
  anonymous := by
    intro anonymous
    refine ⟨_, ?_, options.settles_resolveWith none⟩
    rw [resolve, identityUri?, anonymous]
    rfl
  named := by
    intro text uri named read
    refine ⟨_, ?_, options.settles_resolveWith (some uri)⟩
    rw [resolve, identityUri?, named]
    simp only [read]
    rfl

end ClientOptions

end BearerIdentity
