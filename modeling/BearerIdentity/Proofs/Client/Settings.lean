import BearerIdentity.Proofs.Client.Configured

set_option autoImplicit false

namespace BearerIdentity

namespace Setting

def all : List Setting :=
  [issuer, clientId, clientSecret, tokenEndpoint, jwksEndpoint, introspectionEndpoint]

/-- A setting is there and not blank, or is not needed. -/
def IsMet (config : ClientConfig) (metadata : IssuerMetadata) : Setting → Prop
  | issuer => config.issuer.getD "" ≠ ""
  | clientId => config.clientId ≠ ""
  | clientSecret => config.clientSecret.exposed ≠ ""
  | tokenEndpoint => metadata.endpoints.token.isSome = true
  | jwksEndpoint => metadata.endpoints.jwks.isSome = true
  | introspectionEndpoint =>
    config.verification = .byIntrospection → metadata.endpoints.introspection.isSome = true

instance (config : ClientConfig) (metadata : IssuerMetadata) :
    DecidablePred (IsMet config metadata)
  | issuer => inferInstanceAs (Decidable (_ ≠ _))
  | clientId => inferInstanceAs (Decidable (_ ≠ _))
  | clientSecret => inferInstanceAs (Decidable (_ ≠ _))
  | tokenEndpoint => inferInstanceAs (Decidable (_ = _))
  | jwksEndpoint => inferInstanceAs (Decidable (_ = _))
  | introspectionEndpoint => inferInstanceAs (Decidable (_ → _))

def IsMissed (config : ClientConfig) (metadata : IssuerMetadata) (setting : Setting) : Prop :=
  ¬ setting.IsMet config metadata ∧ ∃ before after, all = before ++ setting :: after ∧
    ∀ earlier ∈ before, earlier.IsMet config metadata

theorem mem_all (setting : Setting) : setting ∈ all := by
  cases setting <;> decide

end Setting

namespace ClientConfig

variable {config : ClientConfig} {metadata : IssuerMetadata}

/-- The setting that is missed is the first one that is not met. -/
theorem missingSetting?_eq_find : config.missingSetting? metadata =
    Setting.all.find? fun setting => !decide (setting.IsMet config metadata) := by
  have issuer : config.issuer.all (·.isEmpty) = true ↔ ¬ Setting.issuer.IsMet config metadata := by
    rw [Setting.IsMet]
    cases config.issuer <;> simp
  have clientId : config.clientId.isEmpty = true ↔ ¬ Setting.clientId.IsMet config metadata := by
    simp [Setting.IsMet]
  have clientSecret : config.clientSecret.exposed.isEmpty = true ↔
      ¬ Setting.clientSecret.IsMet config metadata := by
    simp [Setting.IsMet]
  have token : metadata.endpoints.token.isNone = true ↔
      ¬ Setting.tokenEndpoint.IsMet config metadata := by
    simp [Setting.IsMet]
  have jwks : metadata.endpoints.jwks.isNone = true ↔
      ¬ Setting.jwksEndpoint.IsMet config metadata := by
    simp [Setting.IsMet]
  have introspection :
      (config.verification == .byIntrospection && metadata.endpoints.introspection.isNone) = true ↔
        ¬ Setting.introspectionEndpoint.IsMet config metadata := by
    simp [Setting.IsMet]
  simp only [missingSetting?, issuer, clientId, clientSecret, token, jwks, introspection]
  clear issuer clientId clientSecret token jwks introspection
  simp only [Setting.all, List.find?_cons, List.find?_nil, ← decide_not]
  repeat' split
  all_goals simp_all

/-- Nothing is missed if all settings are met. -/
theorem validate_eq_ok : config.validate metadata = .ok () ↔
    ∀ setting, Setting.IsMet config metadata setting := by
  unfold validate
  rw [missingSetting?_eq_find]
  cases missed : Setting.all.find? fun setting => !decide (setting.IsMet config metadata) with
  | none =>
    rw [List.find?_eq_none] at missed
    simpa using fun setting => missed setting setting.mem_all
  | some setting =>
    have unmet := List.find?_some missed
    simp only [Bool.not_eq_true', decide_eq_false_iff_not] at unmet
    simpa using ⟨setting, unmet⟩

/-- Otherwise the first one is missed that is not met. -/
theorem validate_eq_error {cause : ConfigError} : config.validate metadata = .error cause ↔
    ∃ setting, cause = .missingOption setting ∧ setting.IsMissed config metadata := by
  have missed (setting : Setting) : config.missingSetting? metadata = some setting ↔
      setting.IsMissed config metadata := by
    rw [missingSetting?_eq_find, List.find?_eq_some_iff_append]
    simp only [Setting.IsMissed, Bool.not_eq_true', decide_eq_false_iff_not, Bool.not_not,
      decide_eq_true_iff]
  simp only [← missed]
  unfold validate
  cases config.missingSetting? metadata with
  | none => simp
  | some setting => simp [eq_comm]

end ClientConfig

namespace ClientIdentity

variable {config : ClientConfig} {metadata : IssuerMetadata}

/-- An identity can be built from what is valid. -/
theorem ofParts_of_valid (valid : config.validate metadata = .ok ()) :
    ∃ identity, ofParts config metadata = .ok identity := by
  have met := ClientConfig.validate_eq_ok.mp valid .tokenEndpoint
  obtain ⟨endpoint, known⟩ := Option.isSome_iff_exists.mp met
  unfold ofParts
  rw [valid]
  simp only [Bind.bind, Except.bind, known]
  exact ⟨_, rfl⟩

theorem ofParts_of_invalid {cause : ConfigError} (invalid : config.validate metadata = .error cause) :
    ofParts config metadata = .error cause := by
  unfold ofParts
  rw [invalid]
  rfl

end ClientIdentity

end BearerIdentity
