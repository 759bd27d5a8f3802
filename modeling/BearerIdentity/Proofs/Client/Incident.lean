import BearerIdentity.Client.Access
import BearerIdentity.Login.Basic
import BearerIdentity.Proofs.Cache.Renewal
import BearerIdentity.Proofs.Operation.Failure

set_option autoImplicit false

namespace BearerIdentity

/-- A token is not good, or the keys to tell are not to be had, for another reason than that nobody knows
where they are published. -/
def VerifyError.Incident (error : VerifyError) : Prop :=
  ∀ flaw, error = .keySetUnavailable flaw → flaw.text ≠ KeySetFlaw.noEndpoint.text

namespace Error

inductive Incident : Error → Prop where
  | transient (cause : TransientError) : Incident (.transient cause)
  | transport (cause : TransportError) : Incident (.transport cause)
  | verification {cause : VerifyError} (incident : cause.Incident) : Incident (.verification cause)
  | insufficientScope (reason : String) : Incident (.insufficientScope reason)
  | invalidGrant (reason : String) : Incident (.invalidGrant reason)
  | invalidClient (reason : String) : Incident (.invalidClient reason)
  | malformedResponse (reason : String) : Incident (.malformedResponse reason)
  | authentication (reason : String) {cause : Error} (incident : Incident cause) :
      Incident (.authentication reason (some cause))
  | refresh {cause : Error} (incident : Incident cause) : Incident (.refresh cause)

inductive Misaddressed : Error → Prop where
  | missingAudience (target : String) : Misaddressed (.missingAudience target)
  | invalidUrl (option value : String) : Misaddressed (.config (.invalidUrl option value))
  | invalidIdentity (value : String) (flaw : IdentityFlaw) :
      Misaddressed (.config (.invalidIdentity value flaw))

/-- An error says that a setting is missing, or that it is not known where the keys are published. -/
inductive Lacks : Error → Prop where
  | setting (setting : Setting) : Lacks (.config (.missingOption setting))
  | keys (flaw : KeySetFlaw) (said : flaw.text = KeySetFlaw.noEndpoint.text) :
      Lacks (.verification (.keySetUnavailable flaw))
  | authentication (reason : String) {cause : Error} (lacks : Lacks cause) :
      Lacks (.authentication reason (some cause))
  | refresh {cause : Error} (lacks : Lacks cause) : Lacks (.refresh cause)

variable {cause : Error}

theorem Incident.not_lacks (incident : cause.Incident) : ¬ cause.Lacks := by
  intro lacks
  induction lacks with
  | setting setting => cases incident
  | keys flaw said =>
    cases incident with
    | verification incident => exact incident flaw rfl said
  | authentication reason lacks absurd =>
    cases incident with
    | authentication _ incident => exact absurd incident
  | refresh lacks absurd =>
    cases incident with
    | refresh incident => exact absurd incident

theorem Misaddressed.not_lacks (misaddressed : cause.Misaddressed) : ¬ cause.Lacks := by
  intro lacks
  cases misaddressed <;> cases lacks

end Error

open Operation

theorem Response.incident_refusal (response : Response) : response.refusal.Incident := by
  unfold Response.refusal
  cases Refusal.ofResponse response with
  | grant => exact .invalidGrant _
  | client => exact .invalidClient _
  | scope => exact .insufficientScope _
  | passing => exact .transient _

namespace Exchange

variable {σ α : Type} {decoder : Json.Decoder α}

theorem fetch_raises {refusal : Response → Error} (refused : ∀ response, (refusal response).Incident)
    (request : Request) : Raises Error.Incident (fetch decoder refusal request : Operation Error σ α) := by
  have sent : Raises (fun _ => True) (Operation.send request : Operation TransportError σ Response) :=
    fun _ _ _ _ => trivial
  refine .bind (.mapError sent fun cause _ => .transport cause) fun response => ?_
  split
  · have read : Raises (fun _ => True)
        (Operation.ofExcept (response.json decoder) : Operation TransientError σ α) :=
      fun _ _ _ _ => trivial
    exact .mapError read fun cause _ => .transient cause
  · exact .fail (refused response)

theorem getJson_raises (url : Url) :
    Raises Error.Incident (getJson decoder url : Operation Error σ α) :=
  fetch_raises (fun _ => .transient _) _

theorem postForm_raises (request : Request) :
    Raises Error.Incident (postForm decoder request : Operation Error σ α) :=
  fetch_raises Response.incident_refusal request

end Exchange

namespace Renewal

variable {σ α : Type} {renewal : Renewal σ α} {kind : Error → Prop}

theorem refresh_raises (fetched : Raises kind renewal.fetch) :
    Raises (fun cause => ∃ origin, kind origin ∧ cause = .refresh origin) renewal.refresh := by
  rintro ⟨cache, memory⟩ environment cause failed
  rw [refresh_apply] at failed
  rcases observed : observe renewal.kind renewal.fetch memory environment with
    ⟨(_ | origin) | value, memory₁, environment₁⟩
  · rw [observed] at failed
    cases failed
  · rw [observed] at failed
    cases failed
    exact ⟨origin, fetched.observe renewal.kind _ _ _ (congrArg Outcome.result observed), rfl⟩
  · rw [observed] at failed
    cases failed

theorem get_raises (fetched : Raises kind renewal.fetch)
    (tested : ∀ value now cause, renewal.isStale value now ≠ .error (.error cause)) :
    Raises (fun cause => ∃ origin, kind origin ∧ cause = .refresh origin) renewal.get := by
  rintro ⟨cache, memory⟩ environment cause failed
  rw [get_apply] at failed
  split at failed
  · exact refresh_raises fetched _ _ _ failed
  · split at failed
    · exact refresh_raises fetched _ _ _ failed
    · cases failed
    · rename_i origin stale
      exact absurd stale (tested _ _ _)
    · cases failed

theorem renew_raises (fetched : Raises kind renewal.fetch) :
    Raises (fun cause => ∃ origin, kind origin ∧ cause = .refresh origin) renewal.renew := by
  rintro ⟨cache, memory⟩ environment cause failed
  rw [renew_apply] at failed
  exact refresh_raises fetched _ _ _ failed

end Renewal

namespace KeySource

variable {source : KeySource}

theorem noKeysArray_incident : (VerifyError.keySetUnavailable .noKeysArray).Incident := by
  rintro _ ⟨⟩
  decide

theorem noSignatureKeys_incident : (VerifyError.keySetUnavailable .noSignatureKeys).Incident := by
  rintro _ ⟨⟩
  decide

/-- The report of a failed refresh begins with other words than that there is no endpoint. -/
theorem refreshFailed_incident (origin : Error) :
    (VerifyError.keySetUnavailable (.refreshFailed (Error.refresh origin).message)).Incident := by
  intro flaw same said
  rw [← VerifyError.keySetUnavailable.inj same] at said
  unfold Error.message at said
  have first := congrArg (·.toList.head?) said
  simp [KeySetFlaw.text, toString] at first

theorem ofDocument_incident {document : Json.Value} {cause : VerifyError}
    (refused : KeySet.ofDocument document = .error cause) : cause.Incident := by
  unfold KeySet.ofDocument at refused
  split at refused
  · cases refused
    exact noKeysArray_incident
  · split at refused
    · cases refused
      exact noSignatureKeys_incident
    · cases refused

theorem fetch_raises {σ : Type} : Raises Error.Incident (source.fetch : Operation Error σ KeySet) :=
  .bind (Exchange.getJson_raises _) fun _ =>
    .mapError (.ofExcept fun _ => ofDocument_incident) fun _ => .verification

/-- Whatever has kept the keys from being fetched, a check is told that this was so. -/
theorem onCache_raises {operation : Operation Error (Cache KeySet × Unit) KeySet} {kind : Error → Prop}
    (raises : Raises (fun cause => ∃ origin, kind origin ∧ cause = .refresh origin) operation) :
    Raises VerifyError.Incident (onCache operation) := by
  refine .mapError (.onPart _ _ raises) ?_
  rintro _ ⟨origin, -, rfl⟩
  exact refreshFailed_incident origin

theorem keys_raises : Raises VerifyError.Incident source.keys :=
  onCache_raises (Renewal.get_raises fetch_raises nofun)

theorem newKeys_raises : Raises VerifyError.Incident source.newKeys :=
  onCache_raises (Renewal.renew_raises fetch_raises)

theorem find_raises (kid : String) : Raises VerifyError.Incident (source.find kid) := by
  refine .bind keys_raises fun keys => .bind .now fun now => ?_
  split
  · exact .succeed _
  · refine .bind .memory fun cache => ?_
    split
    · exact .fail nofun
    · exact .bind newKeys_raises fun keys => .ofOption fun _ => nofun

theorem check_raises (token : SignedToken) : Raises VerifyError.Incident (source.check token) := by
  refine .bind (.ofOption fun _ => nofun) fun kid => .bind (.ofOption fun _ => nofun) fun algorithm =>
    .bind (find_raises kid) fun key => .ofExcept fun cause refused => ?_
  rintro _ rfl
  rcases bind_eq_error refused with unusable | ⟨material, -, unsigned⟩
  · unfold WebKey.verificationKey at unusable
    split at unusable
    · cases unusable
    · split at unusable <;> cases unusable
  · split at unsigned <;> cases unsigned

end KeySource

theorem SignedToken.parse_incident {raw : String} {cause : VerifyError}
    (unread : SignedToken.parse raw = .error cause) : cause.Incident := by
  unfold parse at unread
  split at unread
  · obtain ⟨flaw, -, rfl⟩ := exists_of_mapError unread
    nofun
  · cases unread
    nofun

namespace Issuer

variable {issuer : Issuer}

/-- An issuer whose keys have a place is never at a loss for it. -/
theorem check_raises {source : KeySource} (known : issuer.keySource? = some source)
    (token : SignedToken) : Raises VerifyError.Incident (issuer.check token) := by
  refine .bind (.ofExcept fun cause refused => ?_) fun _ => .bind .now fun now =>
    .bind (.ofExcept fun cause refused => ?_) fun _ => .bind (.ofOption fun unknown => ?_)
      fun source => KeySource.check_raises token
  · unfold checkName at refused
    split at refused
    · cases refused
    · cases refused
      nofun
  · unfold checkIssueDate at refused
    split at refused
    · split at refused
      · cases refused
      · cases refused
        nofun
    · cases refused
      nofun
  · rw [known] at unknown
    cases unknown

end Issuer

theorem TokenResponse.token_incident {response : TokenResponse} {cause : Error}
    (refused : response.token = .error cause) : cause.Incident := by
  unfold token at refused
  split at refused
  · cases refused
    exact .malformedResponse _
  · obtain ⟨origin, unread, rfl⟩ := exists_of_mapError refused
    exact .verification (SignedToken.parse_incident unread)

theorem Claims.check_incident {claims : Claims} {required : List String} {now : Instant}
    {cause : VerifyError} (refused : claims.check required now = .error (.error cause)) :
    cause.Incident := by
  rintro _ rfl
  rcases bind_eq_error refused with type | ⟨_, -, refused⟩
  · unfold checkType at type
    split at type
    · cases type
    · split at type <;> cases type
  rcases bind_eq_error refused with present | ⟨_, -, refused⟩
  · unfold checkRequired at present
    split at present <;> cases present
  rcases bind_eq_error refused with expiry | ⟨_, -, start⟩
  · unfold checkExpiry at expiry
    split at expiry
    · cases expiry
    · split at expiry
      · cases expiry
      · split at expiry
        · cases expiry
        · split at expiry <;> cases expiry
  · unfold checkStart at start
    split at start
    · cases start
    · split at start
      · cases start
      · split at start
        · cases start
        · split at start <;> cases start

namespace TokenResource

variable {resource : TokenResource}

theorem fetch_raises {source : KeySource} (known : resource.issuer.keySource? = some source) :
    Raises Error.Incident resource.fetch :=
  .bind (Exchange.postForm_raises _) fun _ => .bind (.ofExcept fun _ => TokenResponse.token_incident)
    fun _ => .bind (.mapError (Issuer.check_raises known _) fun _ => .verification) fun _ => .succeed _

theorem needsRefresh_ne_error (token : SignedToken) (now : Instant) (cause : Error) :
    token.needsRefresh now ≠ .error (.error cause) := by
  unfold SignedToken.needsRefresh
  split
  · nofun
  · split <;> nofun

end TokenResource

end BearerIdentity
