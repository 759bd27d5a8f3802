import BearerIdentity.Proofs.Cache.Order
import BearerIdentity.Proofs.Client.Acceptance
import BearerIdentity.Proofs.Client.Incident
import BearerIdentity.Proofs.Client.Settings

set_option autoImplicit false

namespace BearerIdentity

open Operation

/-- The refresh that ends in a turn, if one does, has fetched the resource at some time. -/
def Renewal.Ends {σ α : Type} (renewal : Renewal σ α) (turn : Flight.Turn α) : Prop :=
  ∀ id outcome now, turn.move = .finish id outcome now →
    ∃ memory environment, (renewal.fetch memory environment).result = outcome.mapError .error

namespace ClientIdentity

variable {config : ClientConfig} {metadata : IssuerMetadata} {identity : ClientIdentity}

/-- What an identity relies on, since it could be built. -/
structure Equipped (identity : ClientIdentity) : Prop where
  met : ∀ setting, Setting.IsMet identity.config identity.issuer.metadata setting
  resource : identity.resource.issuer = identity.issuer

theorem equipped_of_ofParts (made : ofParts config metadata = .ok identity) : identity.Equipped := by
  obtain ⟨valid, rfl, rfl, resource⟩ := of_ofParts made
  exact ⟨ClientConfig.validate_eq_ok.mp valid, resource⟩

/-- What an identity does for an application, with the subject that it is attached to and with its
caches. -/
inductive Serves (identity : ClientIdentity) :
    {α : Type} → Operation Error (Subject × Caches) α → Prop where
  | token : Serves identity (onSecond identity.token)
  | renew : Serves identity (onSecond identity.renew)
  | authenticate (request : Request) : Serves identity (onSecond (identity.authenticate request))
  | requestAccess (holder target : String) :
      Serves identity (onSecond (identity.requestAccess holder target))
  | loginSelf : Serves identity (onSecond identity.loginSelf)
  | verifyToken (raw : String) : Serves identity (onSecond (identity.verifyToken raw))
  | authenticateCredentials (credentials : Credentials) :
      Serves identity (onSecond (identity.authenticateCredentials credentials))
  | login : Serves identity identity.login
  | logout : Serves identity identity.logoutFrom

theorem incident_of_refresh {α : Type} {operation : Operation Error (Cache SignedToken × Cache KeySet) α}
    (raises : Raises (fun cause => ∃ origin, origin.Incident ∧ cause = .refresh origin) operation) :
    Raises Error.Incident (Caches.onTokens operation) := by
  refine .mono (.onPart _ _ raises) ?_
  rintro _ ⟨origin, incident, rfl⟩
  exact .refresh incident

theorem checkClaims_raises (token : SignedToken) :
    Raises Error.Incident (identity.checkClaims token) :=
  .bind .now fun _ => .mapError (.ofDated fun _ => Claims.check_incident) fun _ => .verification

theorem parse_misaddressed {text : String} {cause : ConfigError}
    (unread : IdentityUri.parse text = .error cause) : (Error.config cause).Misaddressed := by
  have credential {text : String} {cause : ConfigError}
      (undecoded : IdentityUri.decodeCredential text = .error cause) :
      (Error.config cause).Misaddressed := by
    unfold IdentityUri.decodeCredential at undecoded
    split at undecoded
    · cases undecoded
    · cases undecoded
      exact .invalidIdentity _ _
  unfold IdentityUri.parse at unread
  split at unread
  · cases unread
    exact .invalidUrl _ _
  · split at unread
    · cases unread
      exact .invalidIdentity _ _
    · rcases bind_eq_error unread with user | ⟨user, -, unread⟩
      · exact credential user
      rcases bind_eq_error unread with password | ⟨password, -, impossible⟩
      · unfold IdentityUri.decodeCredential? at password
        split at password
        · cases password
        · exact credential (error_of_map password)
      · cases impossible

theorem accessForm_misaddressed {target : IdentityUri} {text : String} {cause : Error}
    (refused : identity.accessForm target text = .error cause) : cause.Misaddressed := by
  unfold accessForm at refused
  split at refused
  · cases refused
    exact .missingAudience text
  · cases refused

theorem unsupported_of_ensureSelf {holder : String} {cause : Error}
    (refused : identity.ensureSelf holder = .error cause) :
    cause = .unsupported "delegated access on behalf of another identity" := by
  unfold ensureSelf at refused
  split at refused
  · exact (Except.error.inj refused).symm
  · split at refused
    · cases refused
    · exact (Except.error.inj refused).symm

namespace Equipped

variable (equipped : identity.Equipped)

include equipped

theorem keySource : ∃ source, identity.issuer.keySource? = some source := by
  obtain ⟨endpoint, known⟩ := Option.isSome_iff_exists.mp (equipped.met .jwksEndpoint)
  exact ⟨⟨endpoint⟩, congrArg (Option.map KeySource.mk) known⟩

theorem fetch_raises : Raises Error.Incident identity.resource.renewal.fetch := by
  obtain ⟨source, known⟩ := equipped.keySource
  rw [← equipped.resource] at known
  exact TokenResource.fetch_raises known

theorem token_raises : Raises Error.Incident identity.token :=
  incident_of_refresh
    (Renewal.get_raises equipped.fetch_raises TokenResource.needsRefresh_ne_error)

theorem renew_raises : Raises Error.Incident identity.renew :=
  incident_of_refresh (Renewal.renew_raises equipped.fetch_raises)

theorem authenticate_raises (request : Request) :
    Raises Error.Incident (identity.authenticate request) :=
  .bind equipped.token_raises fun _ => .succeed _

theorem loginSelf_raises : Raises Error.Incident identity.loginSelf :=
  .observe _ (.mapError equipped.renew_raises fun _ => .authentication _)

theorem checkIssuer_raises (token : SignedToken) :
    Raises Error.Incident (identity.checkIssuer token) := by
  obtain ⟨source, known⟩ := equipped.keySource
  exact .mapError (.onPart _ _ (Issuer.check_raises known token)) fun _ => .verification

theorem introspect_raises (asks : identity.config.verification = .byIntrospection) (raw : String) :
    Raises Error.Incident (identity.introspect raw) := by
  obtain ⟨endpoint, known⟩ := Option.isSome_iff_exists.mp (equipped.met .introspectionEndpoint asks)
  refine .bind (.ofOption fun unknown => ?_) fun endpoint =>
    .bind (Exchange.postForm_raises _) fun answer => ?_
  · rw [known] at unknown
    cases unknown
  · split
    · exact .succeed _
    · exact .fail (.verification nofun)

theorem verifyToken_raises (raw : String) : Raises Error.Incident (identity.verifyToken raw) := by
  refine .bind (.mapError (.ofExcept fun _ => SignedToken.parse_incident) fun _ => .verification)
    fun token => .bind (equipped.checkIssuer_raises token) fun _ =>
      .bind (checkClaims_raises token) fun _ => ?_
  split
  · rename_i asks
    exact .bind (equipped.introspect_raises asks raw) fun _ => .succeed _
  · exact .succeed _

theorem requestAccess_raises (holder target : String) :
    Raises (fun cause => identity.ensureSelf holder = .error cause ∨ cause.Misaddressed ∨ cause.Incident)
      (identity.requestAccess holder target) :=
  .observe _ <| .bind (.ofExcept fun _ => .inl) fun _ =>
    .bind (.mapError (.ofExcept fun _ => parse_misaddressed) fun _ misaddressed => .inr (.inl misaddressed))
      fun _ => .bind (.ofExcept fun _ refused => .inr (.inl (accessForm_misaddressed refused))) fun _ =>
        .mono (.bind (equipped.authenticate_raises _) fun _ => .bind (Exchange.postForm_raises _)
          fun _ => .bind (.ofExcept fun _ => TokenResponse.token_incident) fun _ => .succeed _)
          fun _ incident => .inr (.inr incident)

theorem principal_raises (raw : String) : Raises Error.Incident (identity.verifier.principal raw) := by
  refine .bind (.mapError (equipped.verifyToken_raises raw) fun _ => .authentication _) fun token =>
    .bind (.ofExcept fun cause unnamed => ?_) fun _ => .succeed _
  unfold TokenVerifier.nameOf at unnamed
  split at unnamed
  · cases unnamed
  · cases unnamed
    exact .verification nofun

/-- The settings are looked at once more before a login, to no effect. -/
theorem ownPrincipal_raises : Raises Error.Incident identity.ownPrincipal := by
  have valid := ClientConfig.validate_eq_ok.mpr equipped.met
  refine .bind ?_ fun _ => .bind equipped.loginSelf_raises fun _ => .succeed _
  rw [valid]
  exact .mapError (.succeed ()) fun _ => False.elim

theorem authenticateCredentials_raises (credentials : Credentials) :
    Raises Error.Incident (identity.authenticateCredentials credentials) := by
  refine .observe _ ?_
  cases credentials with
  | configured => exact equipped.ownPrincipal_raises
  | bearer raw => exact equipped.principal_raises raw

theorem login_raises : Raises Error.Incident identity.login :=
  .bind (.onPart _ _ (equipped.authenticateCredentials_raises .configured)) fun _ =>
    .bind (.revise _) fun _ => .succeed _

omit equipped in
theorem logout_raises : Raises Error.Incident identity.logoutFrom :=
  .bind .memory fun _ => .bind (.revise _) fun _ =>
    .bind (.onPart _ _ (.bind (.revise _) fun _ => .revise _)) fun _ => .succeed _

/-- Nothing that an identity does comes upon a setting that is missing. -/
theorem serves_raises {α : Type} {operation : Operation Error (Subject × Caches) α}
    (served : identity.Serves operation) : Raises (¬ ·.Lacks) operation := by
  have unharmed {β : Type} {part : Operation Error Caches β} (raises : Raises Error.Incident part) :
      Raises (¬ ·.Lacks) (onSecond part : Operation Error (Subject × Caches) β) :=
    .onPart _ _ (.mono raises fun _ => Error.Incident.not_lacks)
  cases served with
  | token => exact unharmed equipped.token_raises
  | renew => exact unharmed equipped.renew_raises
  | authenticate request => exact unharmed (equipped.authenticate_raises request)
  | requestAccess holder target =>
    refine .onPart _ _ (.mono (equipped.requestAccess_raises holder target) ?_)
    rintro cause (refused | misaddressed | incident)
    · rw [unsupported_of_ensureSelf refused]
      nofun
    · exact misaddressed.not_lacks
    · exact incident.not_lacks
  | loginSelf => exact unharmed equipped.loginSelf_raises
  | verifyToken raw => exact unharmed (equipped.verifyToken_raises raw)
  | authenticateCredentials credentials =>
    exact unharmed (equipped.authenticateCredentials_raises credentials)
  | login => exact .mono equipped.login_raises fun _ => Error.Incident.not_lacks
  | logout => exact .mono logout_raises fun _ => Error.Incident.not_lacks

end Equipped

/-- Nor is a call told of a setting that is missing, if it has waited for the refresh of another one. -/
theorem incident_of_answered {σ α : Type} {renewal : Renewal σ α} {maxAge : Option Int}
    {retention : Retention} {turns : List (Flight.Turn α)} {turn : Flight.Turn α} {cause : Error}
    (fetched : Raises Error.Incident renewal.fetch) (ends_ : ∀ past ∈ turn :: turns, renewal.Ends past)
    (answered : ((Flight.after (.ofCache (Cache.empty maxAge retention)) turns).take turn).2 =
      .answered (.error cause)) :
    ∃ origin, cause = .refresh origin ∧ cause.Incident := by
  obtain ⟨origin, rfl, past, listed, id, now, made⟩ := Flight.exists_of_answered_error answered
  obtain ⟨memory, environment, failed⟩ := ends_ past listed id _ now made
  exact ⟨origin, rfl, .refresh (fetched _ _ _ failed)⟩

/-- What is decided when an identity is built, and no later. -/
structure Decided (config : ClientConfig) (metadata : IssuerMetadata) : Prop where
  /-- It can be built exactly if every setting is met. -/
  built : (∃ identity, ofParts config metadata = .ok identity) ↔
    ∀ setting, Setting.IsMet config metadata setting
  /-- Otherwise the first setting is reported that is not. -/
  refused : ∀ cause, ofParts config metadata = .error cause ↔
    ∃ setting, cause = .missingOption setting ∧ setting.IsMissed config metadata
  /-- Whatever the identity does, and whenever, no setting turns out to be missing. -/
  served : ∀ identity, ofParts config metadata = .ok identity →
    ∀ {α : Type} (operation : Operation Error (Subject × Caches) α), identity.Serves operation →
      Raises (¬ ·.Lacks) operation
  /-- This is also true of what a call for the token is told that has waited for another one. -/
  sharesToken : ∀ identity, ofParts config metadata = .ok identity →
    ∀ turns turn cause, (∀ past ∈ turn :: turns, identity.resource.renewal.Ends past) →
      ((Flight.after (.ofCache Caches.empty.tokens) turns).take turn).2 = .answered (.error cause) →
        ¬ cause.Lacks
  /-- And so it is of what a check is told for which the keys were fetched by another call. -/
  sharesKeys : ∀ identity, ofParts config metadata = .ok identity →
    ∀ source, identity.issuer.keySource? = some source →
      ∀ turns turn cause, (∀ past ∈ turn :: turns, (source.renewal (σ := Unit)).Ends past) →
        ((Flight.after (.ofCache Caches.empty.keys) turns).take turn).2 = .answered (.error cause) →
          ¬ (Error.verification (.keySetUnavailable (.refreshFailed cause.message))).Lacks

/-- Every configuration is judged once and for all. -/
theorem decided (config : ClientConfig) (metadata : IssuerMetadata) : Decided config metadata where
  built := by
    rw [← ClientConfig.validate_eq_ok]
    constructor
    · rintro ⟨identity, made⟩
      exact (of_ofParts made).1
    · exact ofParts_of_valid
  refused := by
    intro cause
    rw [← ClientConfig.validate_eq_error]
    refine ⟨fun failed => ?_, ofParts_of_invalid⟩
    cases valid : config.validate metadata with
    | error other =>
      rw [ofParts_of_invalid valid] at failed
      exact congrArg _ (Except.error.inj failed)
    | ok _ =>
      obtain ⟨identity, made⟩ := ofParts_of_valid valid
      rw [made] at failed
      cases failed
  served := fun identity made _ _ served => (equipped_of_ofParts made).serves_raises served
  sharesToken := by
    intro identity made turns turn cause ends_ answered
    obtain ⟨-, -, incident⟩ :=
      incident_of_answered (equipped_of_ofParts made).fetch_raises ends_ answered
    exact incident.not_lacks
  sharesKeys := by
    intro identity made source known turns turn cause ends_ answered
    obtain ⟨origin, rfl, -⟩ := incident_of_answered KeySource.fetch_raises ends_ answered
    exact (Error.Incident.verification (KeySource.refreshFailed_incident origin)).not_lacks

end ClientIdentity

namespace Provision

open ClientIdentity

def config : ClientConfig :=
  Visit.options.resolveWith none

def unasked : IssuerMetadata :=
  .ofIssuer "i" { config.endpoints with introspection := none }

def silence : Environment :=
  { Visit.arrival with network := fun _ _ => .error (.io "closed") }

/-- A client that is to ask its issuer about tokens. It cannot be built as long as it is not known
where; afterwards it can, and a login that fails for want of a network says nothing of settings. -/
theorem built_then_offline :
    ofParts config unasked = .error (.missingOption .introspectionEndpoint) ∧
      ofParts config Visit.metadata = .ok Visit.identity ∧ ∃ cause,
        (onSecond Visit.identity.loginSelf (Subject.empty, Caches.empty) silence).result =
          .error (.error cause) ∧ ¬ cause.Lacks := by
  have missed : Setting.introspectionEndpoint.IsMissed config unasked :=
    ⟨by decide, [.issuer, .clientId, .clientSecret, .tokenEndpoint, .jwksEndpoint], [], rfl, by decide⟩
  have refused := ((decided config unasked).refused _).mpr ⟨_, rfl, missed⟩
  have made : ofParts config Visit.metadata = .ok Visit.identity := rfl
  have failed : ∃ cause, (onSecond Visit.identity.loginSelf (Subject.empty, Caches.empty) silence).result =
      .error (.error cause) := ⟨_, rfl⟩
  obtain ⟨cause, failed⟩ := failed
  exact ⟨refused, made, cause, failed, (decided _ _).served _ made _ .loginSelf _ _ _ failed⟩

end Provision

end BearerIdentity
