import BearerIdentity.Proofs.Key.Repetition
import BearerIdentity.Proofs.Key.Revocation

set_option autoImplicit false

/- What the check of one token does to the next one while no keys can be fetched. A token under an
unknown key makes the keys be given up before it is known whether there are others, once they are old
enough. From then on a token is refused that was accepted before. -/

namespace BearerIdentity

namespace KeySource

open Operation

variable {source : KeySource} {token stray : SignedToken} {cache : Cache KeySet}
  {environment : Environment} {set : KeySet} {kid : String}

/-- From now on, no answer of the endpoint has keys in it. -/
def Fails (source : KeySource) (environment : Environment) : Prop :=
  ∀ earlier, environment.sent <+: earlier →
    ∃ cause, source.reading (environment.network earlier (.get source.endpoint)) = .error cause

/-- If the key of this token is unknown, its check has the keys fetched again: the token can be checked
at all, and the keys have been in the cache for long enough. -/
structure Recalls (token : SignedToken) (cache : Cache KeySet) (now : Instant) : Prop where
  named : token.header.keyId ≠ none
  known : Algorithm.ofName? token.header.algorithm ≠ none
  old : cooldown ≤ now.since cache.updatedAt

theorem Fails.later {later : Environment} (fails : source.Fails environment) (extends_ : environment.Extends later) :
    source.Fails later := by
  intro earlier follows
  rw [extends_.network]
  exact fails earlier (extends_.sent.trans follows)

theorem Fails.present (fails : source.Fails environment) :
    ∃ answer cause, environment.Answers (.get source.endpoint) answer ∧
      source.reading answer = .error cause := by
  obtain ⟨cause, unread⟩ := fails _ List.prefix_rfl
  exact ⟨_, cause, rfl, unread⟩

theorem check_of_fault {cache' : Cache KeySet} {environment' : Environment} {fault : Fault VerifyError}
    {algorithm : Algorithm} (named : token.header.keyId = some kid)
    (known : Algorithm.ofName? token.header.algorithm = some algorithm)
    (sought : source.find kid cache environment = ⟨.error fault, cache', environment'⟩) :
    source.check token cache environment = ⟨.error fault, cache', environment'⟩ := by
  simp only [check, named, known, ofOption, Bind.bind, andThen, succeed, sought]

theorem find_of_fails (fails : source.Fails environment)
    (stale : current? cache environment.now = none) (kid : String) :
    ∃ flaw, (source.find kid cache environment).result = .error (.error (.keySetUnavailable flaw)) := by
  obtain ⟨answer, cause, answers, unread⟩ := fails.present
  obtain ⟨cache', later, -, -, sought⟩ := find_of_stale answers stale kid
  rw [unread] at sought
  exact ⟨_, by rw [sought]; rfl⟩

/-- A search for an unknown key in old keys gives them up, although no others can be fetched. -/
theorem find_of_unlisted (fails : source.Fails environment)
    (current : current? cache environment.now = some set)
    (unlisted : set.find? kid environment.now = none)
    (old : cooldown ≤ environment.now.since cache.updatedAt) :
    ∃ fault cache' later, cache'.value = none ∧ environment.Proceeds later ∧
      source.find kid cache environment = ⟨.error fault, cache', later⟩ := by
  obtain ⟨answer, cause, answers, unread⟩ := fails.present
  obtain ⟨later, sends, renewed⟩ := newKeys_answered answers cache
  rw [unread, Cache.settle_error] at renewed
  have sought : source.find kid cache environment = _ := find_of_keys (keys_of_current current)
  simp only [unlisted, Int.not_lt.mpr old, ite_false, Bind.bind, andThen, renewed] at sought
  exact ⟨_, _, later, rfl, sends.toProceeds, sought⟩

theorem check_of_unlisted (current : current? cache environment.now = some set)
    (unlisted : ∀ kid, token.header.keyId = some kid → set.find? kid environment.now = none)
    (unmoved : ¬ Recalls token cache environment.now) :
    ∃ cause, source.check token cache environment = ⟨.error (.error cause), cache, environment⟩ := by
  cases named : token.header.keyId with
  | none => exact ⟨.missingKeyId, by simp only [check, named, ofOption]; rfl⟩
  | some kid =>
    cases known : Algorithm.ofName? token.header.algorithm with
    | none => exact ⟨.unsupportedAlgorithm token.header.algorithm, by
        simp only [check, named, known, ofOption]; rfl⟩
    | some algorithm =>
      have recent : environment.now.since cache.updatedAt < cooldown := by
        rw [← Int.not_le]
        intro old
        exact unmoved ⟨by rw [named]; simp, by rw [known]; simp, old⟩
      refine ⟨.unknownKey kid, check_of_fault named known ?_⟩
      rw [find_of_keys (keys_of_current current)]
      simp only [unlisted kid named, recent, ite_true]

theorem check_of_current {later : Environment} (current : current? cache environment.now = some set)
    (fails : source.Fails environment)
    (accepted : (source.check token cache environment).result = .ok ())
    (still : later.now = environment.now) :
    source.check token cache later = ⟨.ok (), cache, later⟩ := by
  obtain ⟨key, -, kid, algorithm, named, known, found, checked⟩ := uses_of_passes accepted
  have given : source.keys cache later = ⟨.ok set, cache, later⟩ := by
    rw [← still] at current
    exact keys_of_current current
  refine check_of_find named known ?_ checked
  cases listed : set.find? kid environment.now with
  | some other =>
    rw [find_of_keys (keys_of_current current), listed] at found
    cases found
    rw [find_of_keys given, still]
    simp only [listed]
  | none =>
    by_cases recent : environment.now.since cache.updatedAt < cooldown
    · rw [find_of_keys (keys_of_current current)] at found
      simp only [listed, recent, ite_true] at found
      cases found
    · obtain ⟨fault, cache', later, -, -, sought⟩ :=
        find_of_unlisted fails current listed (Int.not_lt.mp recent)
      rw [sought] at found
      cases found

/-- What the check of a token under an unknown key does to one that was accepted. -/
structure Disturbs (source : KeySource) (stray token : SignedToken) (cache : Cache KeySet)
    (environment : Environment) : Prop where
  /-- The token is accepted afterwards exactly if no keys were to be fetched. -/
  spares : ∀ later, (source.check stray cache environment).environment.Proceeds later →
    ((source.check token (source.check stray cache environment).memory later).result = .ok () ↔
      ¬ Recalls stray cache environment.now)
  /-- In that case nothing has happened to the cache. -/
  unmoved : ¬ Recalls stray cache environment.now →
    (source.check stray cache environment).memory = cache
  /-- Otherwise the keys are gone, and the token is refused for the lack of them. -/
  lost : Recalls stray cache environment.now →
    (source.check stray cache environment).memory.value = none ∧
      ∀ later, (source.check stray cache environment).environment.Proceeds later →
        ∃ flaw, (source.check token (source.check stray cache environment).memory later).result =
          .error (.error (.keySetUnavailable flaw))

/-- While no keys can be fetched, the check of a token under an unknown key takes the keys away from a
token that was accepted, exactly if it has them fetched again. -/
theorem disturbs_of_fails (fails : source.Fails environment)
    (current : current? cache environment.now = some set)
    (accepted : (source.check token cache environment).result = .ok ())
    (unlisted : ∀ kid, stray.header.keyId = some kid → set.find? kid environment.now = none) :
    source.Disturbs stray token cache environment := by
  obtain ⟨-, -, ours, _, owned, supported, -⟩ := uses_of_passes accepted
  have lost : Recalls stray cache environment.now →
      (source.check stray cache environment).memory.value = none ∧
        ∀ later, (source.check stray cache environment).environment.Proceeds later →
          ∃ flaw, (source.check token (source.check stray cache environment).memory later).result =
            .error (.error (.keySetUnavailable flaw)) := by
    intro recalls
    obtain ⟨kid, named⟩ := Option.ne_none_iff_exists'.mp recalls.named
    obtain ⟨algorithm, known⟩ := Option.ne_none_iff_exists'.mp recalls.known
    obtain ⟨fault, cache', after, emptied, proceeds, sought⟩ :=
      find_of_unlisted fails current (unlisted kid named) recalls.old
    rw [check_of_fault named known sought]
    refine ⟨emptied, fun later passed => ?_⟩
    have stale : current? cache' later.now = none := by
      rw [current?, Option.filter_eq_none_iff]
      intro found young
      rw [Cache.value_of_unaged? young] at emptied
      cases emptied
    obtain ⟨flaw, missing⟩ := find_of_fails (fails.later (proceeds.trans passed).toExtends) stale ours
    exact ⟨flaw, by rw [check_of_fault owned supported (Outcome.eq_of_result missing)]⟩
  have unmoved : ¬ Recalls stray cache environment.now →
      ∃ cause, source.check stray cache environment = ⟨.error (.error cause), cache, environment⟩ :=
    check_of_unlisted current unlisted
  refine ⟨fun later passed => ⟨fun again recalls => ?_, fun spared => ?_⟩, fun spared => ?_, lost⟩
  · obtain ⟨flaw, refused⟩ := (lost recalls).2 later passed
    rw [refused] at again
    cases again
  · obtain ⟨cause, refused⟩ := unmoved spared
    rw [refused] at passed ⊢
    rw [check_of_current current fails accepted passed.now]
  · obtain ⟨cause, refused⟩ := unmoved spared
    rw [refused]

end KeySource

namespace Disruption

open KeySource Operation

def source : KeySource :=
  KeyRotation.source

def token : SignedToken :=
  KeyRotation.token

def stray : SignedToken :=
  Withdrawal.stray

def set : KeySet :=
  ⟨[{ WebKey.blank with type := "oct", id := some "k", secret := some "c2VjcmV0" }]⟩

def held : Cache KeySet :=
  { emptyCache with value := some set }

def environment : Environment where
  now := ⟨30000⟩
  network := fun _ _ => .error (.io "closed")
  sent := []
  entropy := []
  flows := []

theorem fails : source.Fails environment :=
  fun _ _ => ⟨_, rfl⟩

set_option maxRecDepth 4000 in
theorem accepted : (source.check token held environment).result = .ok () := by
  have passed : (source.check token held environment).result.isOk = true := by decide +kernel
  obtain ⟨⟨⟩, accepted⟩ := exists_ok_of_isOk passed
  exact accepted

theorem unlisted : ∀ kid, stray.header.keyId = some kid → set.find? kid environment.now = none := by
  rintro _ ⟨⟩
  decide

theorem recalls : Recalls stray held environment.now :=
  ⟨by decide, by decide, by decide⟩

/-- Keys that are half a minute old, at an endpoint that cannot be reached. A token under one of them is
accepted, but not any more once a token has come under a key that was never published. -/
theorem keys_lost : (source.check token held environment).result = .ok () ∧
    (source.check stray held environment).memory.value = none ∧
    ∃ flaw, (source.check token (source.check stray held environment).memory
      (source.check stray held environment).environment).result =
        .error (.error (.keySetUnavailable flaw)) := by
  have disturbs := disturbs_of_fails fails (by decide) accepted unlisted
  obtain ⟨emptied, refused⟩ := disturbs.lost recalls
  exact ⟨accepted, emptied, refused _ (.refl _)⟩

set_option maxRecDepth 4000 in
/-- So a token that is accepted is not always accepted again after one under an unknown key. -/
theorem not_always_spared : ¬ ∀ (source : KeySource) (token stray : SignedToken) (cache : Cache KeySet)
    (environment : Environment) (set : KeySet) (kid : String), source.Fails environment →
      current? cache environment.now = some set →
      (source.check token cache environment).result = .ok () →
      stray.header.keyId = some kid → set.find? kid environment.now = none →
      (source.check token (source.check stray cache environment).memory
        (source.check stray cache environment).environment).result = .ok () := by
  intro always
  have again := always source token stray held environment set "stray" fails (by decide) accepted rfl
    (by decide)
  have refused : (source.check token (source.check stray held environment).memory
      (source.check stray held environment).environment).result.isOk = false := by
    decide +kernel
  rw [again] at refused
  cases refused

end Disruption

end BearerIdentity
