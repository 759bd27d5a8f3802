import BearerIdentity.Proofs.Json.Record
import BearerIdentity.Proofs.Key.Repetition
import BearerIdentity.Proofs.Key.Revocation

set_option autoImplicit false

namespace BearerIdentity

namespace WebKey

variable {key : WebKey} {algorithm : Algorithm}

theorem allows_of_declared {name : String} (known : Algorithm.ofName? name = some algorithm)
    (declared : ∀ other, key.algorithm = some other → other = name) : key.allows algorithm = true := by
  unfold allows
  split
  · rfl
  · rename_i other named
    rw [declared other named, known, beq_self_eq_true]

/-- The token is signed with the key: the key is of the kind of the token's algorithm, it is declared for no
other one, and it has the material under which the signature is valid. -/
structure Verifies (key : WebKey) (token : SignedToken) : Prop where
  declared : ∀ other, key.algorithm = some other → other = token.header.algorithm
  signed : ∃ algorithm material, Algorithm.ofName? token.header.algorithm = some algorithm ∧
    algorithm.Uses key.type key.curve ∧ key.material? algorithm.family = some material ∧
    Signature.isValid token.raw algorithm material = true

end WebKey

namespace KeySet

variable {kid : String} {now : Instant} {key : WebKey} {document entry : Json.Value}

/-- An entry of a document is a key for signatures that has the id and is valid. -/
structure IsCandidate (kid : String) (now : Instant) (entry : Json.Value) (key : WebKey) : Prop where
  decoded : Json.decodeFrom WebKey.decoder entry = .ok key
  usage : key.usage = none ∨ key.usage = some "sig"
  id : key.id = some kid
  unexpired : ∀ expiry, key.expiry = some expiry → now.millis < expiry * 1000

theorem isCandidate_iff : IsCandidate kid now entry key ↔
    ofEntry? entry = some key ∧ key.id = some kid ∧ key.isValidAt now = true := by
  rw [ofEntry?_eq_some, WebKey.isForSignatures_iff, WebKey.isValidAt_iff]
  constructor
  · intro ⟨decoded, usage, id, unexpired⟩
    exact ⟨⟨decoded, usage⟩, id, unexpired⟩
  · intro ⟨⟨decoded, usage⟩, id, unexpired⟩
    exact ⟨decoded, usage, id, unexpired⟩

def IsFirst (kid : String) (now : Instant) (key : WebKey) (entries : List Json.Value) : Prop :=
  ∃ before entry after, entries = before ++ entry :: after ∧ IsCandidate kid now entry key ∧
    ∀ other ∈ before, ∀ key, ¬ IsCandidate kid now other key

theorem find?_of_isFirst {entries : List Json.Value} (first : IsFirst kid now key entries) :
    find? ⟨entries.filterMap ofEntry?⟩ kid now = some key := by
  obtain ⟨before, entry, after, rfl, candidate, others⟩ := first
  obtain ⟨stands, id, valid⟩ := isCandidate_iff.mp candidate
  have none : (before.filterMap ofEntry?).find? (fun key => key.id == some kid && key.isValidAt now) = none := by
    rw [List.find?_eq_none]
    intro other listed fits
    obtain ⟨entry, member, stands⟩ := List.mem_filterMap.mp listed
    rw [Bool.and_eq_true, beq_iff_eq] at fits
    exact others entry member other (isCandidate_iff.mpr ⟨stands, fits⟩)
  have fits : (key.id == some kid && key.isValidAt now) = true := by
    rw [id, valid, beq_self_eq_true, Bool.and_true]
  rw [find?, List.filterMap_append, List.find?_append, none, Option.none_or,
    List.filterMap_cons_some stands, List.find?_cons_eq_some]
  exact .inl ⟨fits, rfl⟩

theorem ofDocument_of_find? {entries : List Json.Value} (listed : entries? document = some entries)
    (found : find? ⟨entries.filterMap ofEntry?⟩ kid now = some key) :
    ofDocument document = .ok ⟨entries.filterMap ofEntry?⟩ := by
  have member := (of_find? found).1
  unfold ofDocument
  rw [← entries?, listed]
  dsimp only at member ⊢
  split
  · rename_i empty
    rw [empty] at member
    cases member
  · rfl

end KeySet

namespace KeySource

open Operation

variable {source : KeySource} {token : SignedToken} {entries : List Json.Value} {kid : String}
  {key : WebKey} {cache cache' : Cache KeySet} {set : KeySet} {environment : Environment} {now : Instant}

def Publishes (source : KeySource) (entries : List Json.Value) (environment : Environment) : Prop :=
  ∃ response document, environment.Answers (.get source.endpoint) (.ok response) ∧
    response.isSuccess = true ∧ response.json Json.decodeValue = .ok document ∧
    KeySet.entries? document = some entries

/-- The keys in the cache are not to be used for the id any more. -/
inductive Outdated (kid : String) (cache : Cache KeySet) (now : Instant) : Prop
  | absent (empty : cache.value = none)
  | aged {limit : Int} (limited : cache.maxAge = some limit) (old : limit < now.since cache.updatedAt)
  | expired {set : KeySet} (stored : cache.value = some set)
      (invalid : ∀ key ∈ set.keys, key.isValidAt now = false)
  | unlisted {set : KeySet} (stored : cache.value = some set)
      (missing : ∀ key ∈ set.keys, key.id = some kid → key.isValidAt now = false)
      (old : cooldown ≤ now.since cache.updatedAt)

def Young (cache : Cache KeySet) (now : Instant) : Prop :=
  ∀ limit, cache.maxAge = some limit → now.since cache.updatedAt ≤ limit

theorem Outdated.not_settled (outdated : Outdated kid cache now) : ¬ Settled kid set cache now := by
  intro ⟨current, listed⟩
  obtain ⟨young, valid⟩ := Option.filter_eq_some_iff.mp current
  have stored := Cache.value_of_unaged? young
  cases outdated with
  | absent empty =>
    rw [empty] at stored
    cases stored
  | aged limited old => exact absurd (Cache.age_of_unaged? limited young) (Int.not_le.mpr old)
  | expired same invalid =>
    cases same.symm.trans stored
    obtain ⟨key, member, lasting⟩ := List.any_eq_true.mp valid
    rw [invalid key member] at lasting
    cases lasting
  | unlisted same missing old =>
    cases same.symm.trans stored
    refine absurd (listed ?_) (Int.not_lt.mpr old)
    rw [KeySet.find?, List.find?_eq_none]
    intro key member fits
    rw [Bool.and_eq_true, beq_iff_eq] at fits
    rw [missing key member fits.1] at fits
    cases fits.2

theorem find_of_outdated {answer : Except TransportError Response}
    (answers : environment.Answers (.get source.endpoint) answer)
    (outdated : Outdated kid cache environment.now) :
    ∃ cache' later, Refreshed (source.reading answer) environment.now cache' ∧
      environment.Sends (.get source.endpoint) later ∧ source.find kid cache environment =
        ⟨(judged (source.reading answer) kid environment.now).mapError .error, cache', later⟩ := by
  have lookup := find_lookup answers kid cache
  generalize source.find kid cache environment = outcome at lookup ⊢
  cases lookup with
  | served settled => exact absurd settled outdated.not_settled
  | fetched due sends refreshed => exact ⟨_, _, refreshed, sends, rfl⟩

theorem current?_of_young (stored : cache.value = some set) (young : Young cache now)
    (found : set.find? kid now = some key) : current? cache now = some set := by
  obtain ⟨member, -, valid⟩ := KeySet.of_find? found
  have unaged : cache.unaged? now = some set := by
    unfold Cache.unaged?
    split
    · exact stored
    · rename_i limit limited
      rw [if_neg (Int.not_lt.mpr (young limit limited)), stored]
  exact Option.filter_eq_some_iff.mpr ⟨unaged, List.any_eq_true.mpr ⟨key, member, valid⟩⟩

theorem Refreshed.value (refreshed : Refreshed (.ok set) now cache) : cache.value = some set := by
  obtain ⟨before, rfl⟩ := refreshed
  rw [Cache.settle_ok]

theorem reading_of_publishes (publishes : source.Publishes entries environment)
    (found : KeySet.find? ⟨entries.filterMap KeySet.ofEntry?⟩ kid now = some key) :
    ∃ answer, environment.Answers (.get source.endpoint) answer ∧
      source.reading answer = .ok ⟨entries.filterMap KeySet.ofEntry?⟩ := by
  obtain ⟨response, document, answers, success, body, listed⟩ := publishes
  refine ⟨_, answers, ?_⟩
  have read : Exchange.reading Json.decodeValue (·.unexpected source.endpoint) (.ok response) = .ok document :=
    Exchange.reading_eq_ok.mpr ⟨response, rfl, success, body⟩
  simp only [reading, read, Bind.bind, Except.bind, KeySet.ofDocument_of_find? listed found]
  rfl

/-- A token under the published key passes the check once its key is found. -/
theorem check_of_verifies {environment' : Environment} (named : token.header.keyId = some kid)
    (verifies : key.Verifies token)
    (found : source.find kid cache environment = ⟨.ok key, cache', environment'⟩) :
    source.check token cache environment = ⟨.ok (), cache', environment'⟩ := by
  obtain ⟨declared, algorithm, material, known, uses, taken, valid⟩ := verifies
  refine check_of_find named known found (checkWith_eq_ok.mpr ⟨material, ?_, valid⟩)
  exact WebKey.verificationKey_eq_ok.mpr
    ⟨WebKey.allows_of_declared known declared, WebKey.family?_eq_some_family.mpr uses, taken⟩

/-- The check of the token passes after one request, and leaves the keys of these entries behind. -/
structure PicksUp (source : KeySource) (entries : List Json.Value) (token : SignedToken)
    (cache : Cache KeySet) (environment : Environment) : Prop where
  passes : (source.check token cache environment).result = .ok ()
  asks : environment.Sends (.get source.endpoint) (source.check token cache environment).environment
  keeps : (source.check token cache environment).memory.value = some ⟨entries.filterMap KeySet.ofEntry?⟩
  stamped : (source.check token cache environment).memory.updatedAt = environment.now

/-- What the check of a token does while the endpoint publishes its key. -/
structure Follows (source : KeySource) (entries : List Json.Value) (kid : String) (key : WebKey)
    (token : SignedToken) (cache : Cache KeySet) (environment : Environment) : Prop where
  outdated : Outdated kid cache environment.now → source.PicksUp entries token cache environment
  listed : ∀ set, cache.value = some set → Young cache environment.now →
    set.find? kid environment.now = some key →
    source.check token cache environment = ⟨.ok (), cache, environment⟩

/-- A token is accepted under the first candidate that the endpoint publishes, however the cache came
about. -/
theorem follows_of_publishes (publishes : source.Publishes entries environment)
    (named : token.header.keyId = some kid)
    (first : KeySet.IsFirst kid environment.now key entries) (verifies : key.Verifies token)
    (cache : Cache KeySet) : source.Follows entries kid key token cache environment := by
  have found := KeySet.find?_of_isFirst first
  constructor
  · intro outdated
    obtain ⟨answer, answers, read⟩ := reading_of_publishes publishes found
    obtain ⟨cache', later, refreshed, sends, sought⟩ := find_of_outdated answers outdated
    rw [read] at refreshed sought
    have given : source.find kid cache environment = ⟨.ok key, cache', later⟩ := by
      rw [sought]
      simp only [judged, offered, Cache.reported, mapError_ok, Bind.bind, Except.bind, found]
    have checked := check_of_verifies named verifies given
    constructor
    · rw [checked]
    · rw [checked]
      exact sends
    · rw [checked]
      exact refreshed.value
    · rw [checked]
      exact refreshed.updatedAt
  · intro set stored young listed
    refine check_of_verifies named verifies ?_
    rw [find_of_keys (keys_of_current (current?_of_young stored young listed)), listed]

end KeySource

namespace Rollover

open KeySource

def source : KeySource :=
  KeyRotation.source

def token : SignedToken :=
  KeyRotation.token

def key : WebKey :=
  { WebKey.blank with
    type := "oct", id := some "k", usage := some "sig", algorithm := some "HS256", secret := some "c2VjcmV0" }

def held : Cache KeySet :=
  { emptyCache with
    value := some ⟨[{ WebKey.blank with type := "oct", id := some "old", secret := some "b2xk" }]⟩ }

def renewed : Cache KeySet :=
  { emptyCache with value := some ⟨[key]⟩ }

def environment : Environment where
  now := ⟨30000⟩
  network := KeyRotation.network
  sent := [.get source.endpoint]
  entropy := []
  flows := []

def decoded : Option (Bool × List (Option WebKey)) :=
  (environment.network environment.sent (.get source.endpoint)).toOption.bind fun response =>
    ((response.json Json.decodeValue).toOption.bind KeySet.entries?).map fun entries =>
      (response.isSuccess, entries.map fun entry => (Json.decodeFrom WebKey.decoder entry).toOption)

theorem decoded_eq : decoded = some (true, [none,
    some { WebKey.blank with
      type := "oct", id := some "k", usage := some "enc", secret := some "b2xk" },
    some { WebKey.blank with
      type := "oct", id := some "k", expiry := some 30, secret := some "b2xk" },
    some key]) := by
  decide +kernel

theorem published : ∃ entries, source.Publishes entries environment ∧
    KeySet.IsFirst "k" environment.now key entries := by
  obtain ⟨response, answered, rest⟩ := Option.bind_eq_some_iff.mp decoded_eq
  obtain ⟨entries, listed, parts⟩ := Option.map_eq_some_iff.mp rest
  obtain ⟨document, body, listed⟩ := Option.bind_eq_some_iff.mp listed
  obtain ⟨success, readings⟩ := Prod.mk.inj parts
  obtain ⟨other, rest, rfl, undecoded, readings⟩ := List.map_eq_cons_iff.mp readings
  obtain ⟨sealing, rest, rfl, encryption, readings⟩ := List.map_eq_cons_iff.mp readings
  obtain ⟨past, rest, rfl, expired, readings⟩ := List.map_eq_cons_iff.mp readings
  obtain ⟨entry, after, rfl, good, -⟩ := List.map_eq_cons_iff.mp readings
  simp only [Json.toOption_eq_some] at answered body encryption expired good
  refine ⟨_, ⟨response, document, answered, success, body, listed⟩, [other, sealing, past], entry, after,
    rfl, ⟨good, .inr rfl, rfl, nofun⟩, ?_⟩
  intro rival member key candidate
  have read := candidate.decoded
  simp only [List.mem_cons, List.not_mem_nil, or_false] at member
  rcases member with rfl | rfl | rfl
  · rw [read] at undecoded
    cases undecoded
  · cases encryption.symm.trans read
    rcases candidate.usage with none | signatures
    · cases none
    · exact absurd signatures (by decide)
  · cases expired.symm.trans read
    exact absurd (candidate.unexpired 30 rfl) (by decide)

theorem verifies : key.Verifies token := by
  refine ⟨?_, .hmac .bits256, .secret (Utf8.ofString "secret"), by decide, .hmac _ _, ?_, ?_⟩
  · rintro _ ⟨⟩
    rfl
  · decide +kernel
  · decide +kernel

theorem outdated : Outdated "k" held environment.now := by
  refine .unlisted rfl ?_ ?_
  · intro key member
    cases List.mem_singleton.mp member
    nofun
  · decide

theorem young : Young renewed environment.now := by
  rintro _ ⟨⟩
  decide

/-- Half a minute after the keys were fetched, the endpoint publishes a new one, after an entry that is
no key, a key for encryption and an expired key of the same id. At the first instant at which the keys
may be fetched again, the key is picked up. -/
theorem picked_up_once :
    environment.now.since held.updatedAt = cooldown ∧
    ∃ entries, source.PicksUp entries token held environment ∧
      source.check token renewed environment = ⟨.ok (), renewed, environment⟩ := by
  obtain ⟨entries, publishes, isFirst⟩ := published
  have found : KeySet.find? ⟨[key]⟩ "k" environment.now = some key := by decide
  exact ⟨rfl, entries, (follows_of_publishes publishes rfl isFirst verifies held).outdated outdated,
    (follows_of_publishes publishes rfl isFirst verifies renewed).listed _ rfl young found⟩

end Rollover

end BearerIdentity
