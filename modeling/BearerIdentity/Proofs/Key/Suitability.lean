import BearerIdentity.Proofs.Key.Provenance

set_option autoImplicit false

namespace BearerIdentity

open Operation

/-- The types and curves of the keys that algorithms work with. -/
inductive Algorithm.Uses : Algorithm → (type : String) → (curve : Option String) → Prop where
  | hmac (size : DigestSize) (curve : Option String) : Uses (.hmac size) "oct" curve
  | rsa (padding : Rsa.Padding) (size : DigestSize) (curve : Option String) :
      Uses (.rsa padding size) "RSA" curve
  | es256 : Uses .es256 "EC" (some "P-256")
  | es384 : Uses .es384 "EC" (some "P-384")
  | edDsa : Uses .edDsa "OKP" (some "Ed25519")

namespace Algorithm

theorem name_of_ofName? {name : String} {algorithm : Algorithm}
    (known : ofName? name = some algorithm) : algorithm.name = name := by
  simpa using List.find?_some known

theorem uses_of_family (algorithm : Algorithm) (curve : Option String) :
    match algorithm.family with
    | .secret => algorithm.Uses "oct" curve
    | .rsa => algorithm.Uses "RSA" curve
    | .p256 => algorithm.Uses "EC" (some "P-256")
    | .p384 => algorithm.Uses "EC" (some "P-384")
    | .ed25519 => algorithm.Uses "OKP" (some "Ed25519") := by
  cases algorithm <;> constructor

theorem Uses.type_of_secret {algorithm : Algorithm} {type : String} {curve : Option String}
    (uses : algorithm.Uses type curve) (secret : algorithm.family = .secret) : type = "oct" := by
  cases uses with
  | hmac size curve => rfl
  | rsa padding size curve => cases secret
  | es256 => cases secret
  | es384 => cases secret
  | edDsa => cases secret

end Algorithm

namespace WebKey

variable {key : WebKey} {algorithm : Algorithm}

/-- The family of a key is that of an algorithm exactly if the algorithm works with its type and
curve. -/
theorem family?_eq_some_family :
    key.family? = some algorithm.family ↔ algorithm.Uses key.type key.curve := by
  constructor
  · intro same
    have uses := algorithm.uses_of_family key.curve
    unfold family? at same
    split at same
    · rename_i type
      rw [← Option.some.inj same] at uses
      rw [type]
      exact uses
    · rename_i type
      rw [← Option.some.inj same] at uses
      rw [type]
      exact uses
    · rename_i type
      rw [type]
      split at same
      · rename_i curve
        rw [← Option.some.inj same] at uses
        rw [curve]
        exact uses
      · split at same
        · rename_i curve
          rw [← Option.some.inj same] at uses
          rw [curve]
          exact uses
        · cases same
    · rename_i type
      rw [type]
      split at same
      · rename_i curve
        rw [← Option.some.inj same] at uses
        rw [curve]
        exact uses
      · cases same
    · cases same
  · intro uses
    unfold family?
    generalize key.type = type at uses
    generalize key.curve = curve at uses
    cases uses <;> rfl

/-- A key serves a kid and an algorithm at an instant: it is the key of that id, for signatures, not
expired, of the right kind, and declared for no other algorithm. -/
structure Suits (key : WebKey) (kid : String) (algorithm : Algorithm) (now : Instant) : Prop where
  id : key.id = some kid
  usage : key.usage = none ∨ key.usage = some "sig"
  expiry : ∀ expiry, key.expiry = some expiry → now.millis < expiry * 1000
  declared : ∀ name, key.algorithm = some name → name = algorithm.name
  kind : algorithm.Uses key.type key.curve

theorem usage_of_isForSignatures (usable : key.isForSignatures = true) :
    key.usage = none ∨ key.usage = some "sig" := by
  unfold isForSignatures at usable
  split at usable
  · rename_i absent
    exact .inl absent
  · rename_i usage declared
    rw [declared, beq_iff_eq.mp usable]
    exact .inr rfl

theorem isForSignatures_iff :
    key.isForSignatures = true ↔ key.usage = none ∨ key.usage = some "sig" := by
  refine ⟨usage_of_isForSignatures, ?_⟩
  unfold isForSignatures
  rintro (undeclared | declared)
  · rw [undeclared]
  · rw [declared]
    rfl

/-- Expiries are whole seconds, so nothing is lost by comparing with the second that has begun. -/
theorem expiry_of_isValidAt {now : Instant} (valid : key.isValidAt now = true) :
    ∀ expiry, key.expiry = some expiry → now.millis < expiry * 1000 := by
  intro expiry declared
  simp only [isValidAt, declared, Instant.seconds] at valid
  have early := of_decide_eq_true valid
  omega

theorem isValidAt_iff {now : Instant} :
    key.isValidAt now = true ↔ ∀ expiry, key.expiry = some expiry → now.millis < expiry * 1000 := by
  refine ⟨expiry_of_isValidAt, fun unexpired => ?_⟩
  unfold isValidAt
  split
  · rfl
  · rename_i expiry declared
    have limit := unexpired expiry declared
    simp only [Instant.seconds]
    exact decide_eq_true (by omega)

theorem declared_of_allows (allowed : key.allows algorithm = true) :
    ∀ name, key.algorithm = some name → name = algorithm.name := by
  intro name declared
  simp only [allows, declared, beq_iff_eq] at allowed
  exact (Algorithm.name_of_ofName? allowed).symm

theorem verificationKey_eq_ok {kid : String} {material : VerificationKey} :
    key.verificationKey kid algorithm = .ok material ↔
      key.allows algorithm = true ∧ key.family? = some algorithm.family ∧
        key.material? algorithm.family = some material := by
  unfold verificationKey
  split
  · rename_i refused
    simp only [Bool.or_eq_true, Bool.not_eq_true', decide_eq_true_eq] at refused
    constructor
    · intro impossible
      cases impossible
    · rintro ⟨allowed, family, -⟩
      rw [allowed] at refused
      exact absurd family (refused.resolve_left Bool.noConfusion)
  · rename_i accepted
    simp only [Bool.or_eq_true, Bool.not_eq_true', decide_eq_true_eq, not_or, Bool.not_eq_false,
      ne_eq, Decidable.not_not] at accepted
    cases key.material? algorithm.family <;> simp [accepted]

/-- Secrets are the material of one family alone. -/
theorem family_of_secret {family : KeyFamily} {bytes : Bytes}
    (taken : key.material? family = some (.secret bytes)) : family = .secret := by
  cases family with
  | secret => rfl
  | rsa => simp [material?, Option.bind_eq_some_iff] at taken
  | p256 => simp [material?, Option.bind_eq_some_iff] at taken
  | p384 => simp [material?, Option.bind_eq_some_iff] at taken
  | ed25519 => simp [material?, Option.bind_eq_some_iff] at taken

end WebKey

end BearerIdentity
