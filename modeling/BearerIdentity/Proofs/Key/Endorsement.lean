import BearerIdentity.Proofs.Key.Suitability

set_option autoImplicit false

namespace BearerIdentity

open Operation

namespace KeySource

variable {source : KeySource}

/-- How a cache of keys may come about: checks of tokens at any time, in any order, while others clear
the cache, give up its value, or end a refresh that they began. -/
inductive Reached (source : KeySource) : Cache KeySet → Environment → Prop where
  | fresh (age : Int) (environment : Environment) : Reached source (Cache.ageing age) environment
  | check {cache : Cache KeySet} {environment : Environment} (token : SignedToken)
      (reached : Reached source cache environment) :
      Reached source (source.check token cache environment).memory
        (source.check token cache environment).environment
  | clear {cache : Cache KeySet} {environment : Environment}
      (reached : Reached source cache environment) : Reached source cache.clear environment
  | reclaim {cache freed : Cache KeySet} {environment : Environment}
      (reached : Reached source cache environment) (given : cache.reclaim? = some freed) :
      Reached source freed environment
  /-- The clock moves, and others send requests. -/
  | elapse {cache : Cache KeySet} {earlier later : Environment}
      (reached : Reached source cache earlier) (extends_ : earlier.Extends later) :
      Reached source cache later
  /-- Another call ends its refresh, which began when the cache was of that generation. -/
  | settle {cache : Cache KeySet} {environment begun ended : Environment}
      {outcome : Except Error KeySet} (generation : Nat)
      (reached : Reached source cache environment)
      (fetched : (attempt source.fetch : Operation Error Unit _) () begun = ⟨.ok outcome, (), ended⟩)
      (extends_ : ended.Extends environment) :
      Reached source (cache.settle generation outcome environment.now) environment

theorem published_of_attempt {set : KeySet} {begun ended : Environment}
    (fetched : (attempt source.fetch : Operation Error Unit _) () begun = ⟨.ok (.ok set), (), ended⟩) :
    source.Published set ended :=
  fetch_published (attempt_eq_ok.mp fetched)

/-- A cache holds nothing but published keys, however it came about. -/
theorem Reached.backed {cache : Cache KeySet} {environment : Environment}
    (reached : source.Reached cache environment) : source.Backed cache environment := by
  induction reached with
  | fresh age environment => exact backed_ageing age environment
  | check token reached backed => exact (check_keeps token _ _ backed.tended).1
  | clear reached backed => exact .of_none rfl rfl
  | reclaim reached given backed => exact backed.reclaim given
  | elapse reached extends_ backed => exact backed.later extends_
  | settle generation reached fetched extends_ backed =>
    refine backed.settle generation ?_ _
    intro set same
    subst same
    exact (published_of_attempt fetched).later extends_

/-- A token is verified by an entry of a document of keys: the endpoint served the document, the entry
stands for a key that suits the token, and the signature of the token is valid under that key and the
one algorithm that the token names. -/
structure VerifiedBy (source : KeySource) (token : SignedToken) (environment : Environment)
    (document entry : Json.Value) (key : WebKey) (algorithm : Algorithm)
    (material : VerificationKey) : Prop where
  served : source.Served document environment
  listed : ∃ entries, KeySet.entries? document = some entries ∧ entry ∈ entries
  decoded : Json.decodeFrom WebKey.decoder entry = .ok key
  named : algorithm.name = token.header.algorithm
  suits : ∃ kid, token.header.keyId = some kid ∧ key.Suits kid algorithm environment.now
  taken : key.material? algorithm.family = some material
  valid : Signature.isValid token.raw algorithm material = true
  /-- No other material is ever used as a secret. -/
  confined : ∀ bytes, material = .secret bytes → key.type = "oct"

def Endorses (source : KeySource) (token : SignedToken) (environment : Environment) : Prop :=
  ∃ document entry key algorithm material,
    source.VerifiedBy token environment document entry key algorithm material

theorem Endorses.later {token : SignedToken} {earlier later : Environment}
    (endorsed : source.Endorses token earlier) (proceeds : earlier.Proceeds later) :
    source.Endorses token later := by
  obtain ⟨document, entry, key, algorithm, material, verified⟩ := endorsed
  exact ⟨document, entry, key, algorithm, material, { verified with
    served := verified.served.later proceeds.toExtends
    suits := by rw [proceeds.now]; exact verified.suits }⟩

variable {cache cache' : Cache KeySet} {environment environment' : Environment}

theorem find_eq_ok {kid : String} {key : WebKey} (backed : source.Backed cache environment)
    (found : source.find kid cache environment = ⟨.ok key, cache', environment'⟩) :
    ∃ set, source.Published set environment' ∧ set.find? kid environment'.now = some key := by
  obtain ⟨set, given, listed⟩ | ⟨set, cache₁, environment₁, anew, given, fetched, listed⟩ :=
    find_cases found
  · exact ⟨set, keys_published backed given, listed⟩
  · have tended := keys_keeps cache environment backed.tended
    rw [given] at tended
    have later := newKeys_keeps cache₁ environment₁ tended.1.tended
    rw [fetched] at later
    rw [← later.2.now] at listed
    exact ⟨anew, newKeys_published fetched, listed⟩

theorem checkWith_eq_ok {token : SignedToken} {kid : String} {algorithm : Algorithm} {key : WebKey} :
    checkWith token kid algorithm key = .ok () ↔
      ∃ material, key.verificationKey kid algorithm = .ok material ∧
        Signature.isValid token.raw algorithm material = true := by
  unfold checkWith
  cases key.verificationKey kid algorithm with
  | error cause => simp [Bind.bind, Except.bind]
  | ok material =>
    simp only [Bind.bind, Except.bind, Except.ok.injEq, exists_eq_left']
    cases Signature.isValid token.raw algorithm material <;> simp

theorem Published.verified {set : KeySet} {token : SignedToken} {kid : String}
    {algorithm : Algorithm} {key : WebKey} (published : source.Published set environment)
    (named : token.header.keyId = some kid)
    (known : Algorithm.ofName? token.header.algorithm = some algorithm)
    (found : set.find? kid environment.now = some key)
    (checked : checkWith token kid algorithm key = .ok ()) :
    source.Endorses token environment := by
  obtain ⟨document, served, read⟩ := published
  obtain ⟨entries, listed, keys⟩ := KeySet.keys_of_ofDocument read
  obtain ⟨member, id, unexpired⟩ := KeySet.of_find? found
  rw [keys] at member
  obtain ⟨entry, present, stands⟩ := List.mem_filterMap.mp member
  obtain ⟨decoded, usable⟩ := KeySet.ofEntry?_eq_some.mp stands
  obtain ⟨material, given, valid⟩ := checkWith_eq_ok.mp checked
  obtain ⟨allowed, family, taken⟩ := WebKey.verificationKey_eq_ok.mp given
  have kind := WebKey.family?_eq_some_family.mp family
  exact ⟨document, entry, key, algorithm, material, {
    served
    listed := ⟨entries, listed, present⟩
    decoded
    named := Algorithm.name_of_ofName? known
    suits := ⟨kid, named, {
      id
      usage := WebKey.usage_of_isForSignatures usable
      expiry := WebKey.expiry_of_isValidAt unexpired
      declared := WebKey.declared_of_allows allowed
      kind }⟩
    taken
    valid
    confined := by
      rintro bytes rfl
      exact kind.type_of_secret (WebKey.family_of_secret taken) }⟩

theorem endorses_of_backed {token : SignedToken} (backed : source.Backed cache environment)
    (passed : source.check token cache environment = ⟨.ok (), cache', environment'⟩) :
    source.Endorses token environment' := by
  simp only [check, bind_eq_ok, ofOption_eq_ok, ofExcept_eq_ok] at passed
  obtain ⟨kid, _, _, ⟨named, rfl, rfl⟩, algorithm, _, _, ⟨known, rfl, rfl⟩, key, cache₁,
    environment₁, found, checked, -, rfl⟩ := passed
  obtain ⟨set, published, listed⟩ := find_eq_ok backed found
  exact published.verified named known listed checked

/-- A token passes the check of its signature only if a published key verifies it. -/
theorem check_endorses {token : SignedToken} (reached : source.Reached cache environment)
    (passed : (source.check token cache environment).result = .ok ()) :
    source.Endorses token (source.check token cache environment).environment :=
  endorses_of_backed reached.backed (Outcome.eq_of_result passed)

end KeySource

namespace KeyRotation

def source : KeySource :=
  ⟨{ scheme := "https", username := "", password := none, host := some (.domain "id.example"),
     port := none, path := .rooted ["keys"], query := none, fragment := none }⟩

def token : SignedToken where
  secret := ⟨"eyJhbGciOiJIUzI1NiIsImtpZCI6ImsifQ." ++
    "eyJpc3MiOiJpIiwiaWF0Ijo1LCJ0eXAiOiJiZWFyZXIiLCJleHAiOjl9." ++
    "fwfXaMRYrU7nG5E2fs4rYP-Ll5SDt1-yLE3cyGGdJNY"⟩
  header := ⟨"HS256", some "k", none⟩
  claims := Claims.blank

def entry (kid secret : String) (others : List (String × Json.Value)) : Json.Value :=
  .ofMembers ([("kty", .string "oct"), ("kid", .string kid), ("k", .string secret)] ++ others)

def network : Network := fun earlier _ =>
  .ok <| .ofValue <| .ofMembers [("keys", .array <|
    if earlier.isEmpty then [entry "old" "b2xk" []]
    else
      [.ofInt 7, entry "k" "b2xk" [("use", .string "enc")], entry "k" "b2xk" [("exp", .ofInt 30)],
        entry "k" "c2VjcmV0" [("use", .string "sig"), ("alg", .string "HS256")]])]

def begun : Environment where
  now := .epoch
  network := network
  sent := []
  entropy := []
  flows := []

def first : Outcome VerifyError (Cache KeySet) Unit :=
  source.check token (Cache.ageing KeySource.maxAge) begun

def later : Environment :=
  { first.environment with now := ⟨30000⟩ }

theorem reached : source.Reached first.memory later := by
  have checked : source.Reached first.memory first.environment :=
    KeySource.Reached.check token (KeySource.Reached.fresh KeySource.maxAge begun)
  exact checked.elapse (Environment.Extends.elapse first.environment ⟨30000⟩)

set_option maxRecDepth 4000 in
/-- Keys that rotate: the first document lacks the key of a token, and in the next one it comes after an
entry that is no key, a key for encryption, and one that has expired. -/
theorem token_endorsed :
    (source.check token first.memory later).result = .ok () ∧
      source.Endorses token (source.check token first.memory later).environment := by
  have passed : (source.check token first.memory later).result.isOk = true := by decide +kernel
  obtain ⟨⟨⟩, accepted⟩ := exists_ok_of_isOk passed
  exact ⟨accepted, KeySource.check_endorses reached accepted⟩

end KeyRotation

end BearerIdentity
