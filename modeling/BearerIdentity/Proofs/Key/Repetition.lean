import BearerIdentity.Proofs.Issuer.Check
import BearerIdentity.Proofs.Operation.Repetition

set_option autoImplicit false

/- Checks can be repeated. While the clock stands still and the endpoint for keys answers in one way, a
second check of a token says what the first one said, whatever the first one has fetched, stored or
given up. Either the first check left the cache alone, or it has refreshed it, and from then on the
answer of the endpoint decides, be it read from the cache or fetched again. -/

namespace BearerIdentity

def Environment.Answers (environment : Environment) (request : Request)
    (answer : Except TransportError Response) : Prop :=
  environment.network environment.sent request = answer

def Environment.Steady (environment : Environment) (request : Request)
    (answer : Except TransportError Response) : Prop :=
  ∀ earlier, environment.sent <+: earlier → environment.network earlier request = answer

/-- One request is sent, and no other one, while the clock stands still. -/
structure Environment.Sends (earlier : Environment) (request : Request) (later : Environment) : Prop
    extends earlier.Proceeds later where
  only : later.sent = earlier.sent ++ [request]

theorem Environment.Steady.present {environment : Environment} {request : Request}
    {answer : Except TransportError Response} (steady : environment.Steady request answer) :
    environment.Answers request answer :=
  steady _ List.prefix_rfl

theorem Environment.Steady.later {earlier later : Environment} {request : Request}
    {answer : Except TransportError Response} (steady : earlier.Steady request answer)
    (extends_ : earlier.Extends later) : later.Steady request answer := by
  intro sent follows
  rw [extends_.network]
  exact steady sent (extends_.sent.trans follows)

namespace KeySource

open Operation

def reading (source : KeySource) (answer : Except TransportError Response) : Except Error KeySet := do
  let document ← Exchange.reading Json.decodeValue (·.unexpected source.endpoint) answer
  (KeySet.ofDocument document).mapError .verification

/-- How a check is told about the outcome of a refresh. -/
def offered (published : Except Error KeySet) : Except VerifyError KeySet :=
  (Cache.reported published).mapError fun error => .keySetUnavailable (.refreshFailed error.message)

/-- The key with an id according to the outcome of a refresh. -/
def judged (published : Except Error KeySet) (kid : String) (now : Instant) :
    Except VerifyError WebKey := do
  let keys ← offered published
  match keys.find? kid now with
  | some key => .ok key
  | none => .error (.unknownKey kid)

/-- The keys that the cache answers with by itself. -/
def current? (cache : Cache KeySet) (now : Instant) : Option KeySet :=
  (cache.unaged? now).filter (·.hasValidKey now)

/-- The last thing that happened to the cache is that a refresh ended with this outcome. -/
def Refreshed (published : Except Error KeySet) (now : Instant) (cache : Cache KeySet) : Prop :=
  ∃ before : Cache KeySet, cache = before.settle before.generation published now

variable {source : KeySource} {answer : Except TransportError Response}
  {published : Except Error KeySet} {cache : Cache KeySet} {environment : Environment}
  {kid : String} {set : KeySet} {now : Instant}

theorem fetch_apply {σ : Type} (memory : σ) (environment : Environment) :
    source.fetch memory environment =
      ⟨(source.reading (environment.network environment.sent (.get source.endpoint))).mapError .error,
        memory, (environment.exchange (.get source.endpoint)).2⟩ := by
  have pure : (source.fetch : Operation Error σ KeySet) =
      Exchange.getJson Json.decodeValue source.endpoint >>= fun document =>
        Operation.ofExcept ((KeySet.ofDocument document).mapError .verification) := by
    simp only [fetch, mapError_ofExcept]
  rw [pure, bind_ofExcept_apply, Exchange.getJson, Exchange.fetch_apply, reading]
  cases Exchange.reading Json.decodeValue _ _ <;> rfl

/-- A refresh stores and reports what the endpoint answers. -/
theorem refresh_answered (answers : environment.Answers (.get source.endpoint) answer)
    (cache : Cache KeySet) :
    ∃ later, environment.Sends (.get source.endpoint) later ∧
      source.renewal.refresh (cache, ()) environment =
        ⟨(Cache.reported (source.reading answer)).mapError .error,
          (cache.settle cache.generation (source.reading answer) environment.now, ()), later⟩ := by
  have begun := Environment.Proceeds.record environment .keySetRefresh .attempt
  have asked := begun.trans (.exchange _ (.get source.endpoint))
  have fetched : source.fetch () (environment.record .keySetRefresh .attempt) =
      ⟨(source.reading answer).mapError .error, (),
        ((environment.record .keySetRefresh .attempt).exchange (.get source.endpoint)).2⟩ := by
    rw [← answers]
    exact fetch_apply () _
  simp only [Renewal.refresh_apply, observe_apply, renewal, fetched]
  cases source.reading answer with
  | error cause => exact ⟨_, ⟨asked.trans (.record _ .keySetRefresh .failure), rfl⟩, rfl⟩
  | ok set => exact ⟨_, ⟨asked.trans (.record _ .keySetRefresh .success), rfl⟩, rfl⟩

/-- Keys in the cache that are young enough, and not all of which have expired, are looked at. -/
theorem keys_of_current (current : current? cache environment.now = some set) :
    source.keys cache environment = ⟨.ok set, cache, environment⟩ := by
  obtain ⟨young, valid⟩ := Option.filter_eq_some_iff.mp current
  simp only [keys, onCache, mapError, alone, onPart, Renewal.get_apply, young, renewal, valid, Bool.not_true,
    mapError_ok]

/-- Otherwise the keys are fetched. -/
theorem keys_of_stale (answers : environment.Answers (.get source.endpoint) answer)
    (stale : current? cache environment.now = none) :
    ∃ later, environment.Sends (.get source.endpoint) later ∧ source.keys cache environment =
      ⟨(offered (source.reading answer)).mapError .error,
        cache.settle cache.generation (source.reading answer) environment.now, later⟩ := by
  obtain ⟨later, sends, refreshed⟩ := refresh_answered answers cache
  have given : source.renewal.get (cache, ()) environment =
      source.renewal.refresh (cache, ()) environment := by
    rw [Renewal.get_apply]
    cases young : cache.unaged? environment.now with
    | none => rfl
    | some set =>
      have expired : set.hasValidKey environment.now = false := by
        simpa [current?, young] using stale
      simp only [renewal, expired, Bool.not_false]
  refine ⟨later, sends, ?_⟩
  simp only [keys, onCache, mapError, alone, onPart, given, refreshed]
  cases source.reading answer <;> rfl

theorem newKeys_answered (answers : environment.Answers (.get source.endpoint) answer)
    (cache : Cache KeySet) :
    ∃ later, environment.Sends (.get source.endpoint) later ∧ source.newKeys cache environment =
      ⟨(offered (source.reading answer)).mapError .error,
        cache.clear.settle cache.clear.generation (source.reading answer) environment.now, later⟩ := by
  obtain ⟨later, sends, refreshed⟩ := refresh_answered answers cache.clear
  refine ⟨later, sends, ?_⟩
  simp only [newKeys, onCache, mapError, alone, onPart, Renewal.renew_apply, refreshed]
  cases source.reading answer <;> rfl

/-- Keys that have just been fetched are too young to be fetched again for an unknown id. -/
theorem Refreshed.updatedAt (refreshed : Refreshed (.ok set) now cache) : cache.updatedAt = now := by
  obtain ⟨before, rfl⟩ := refreshed
  rw [Cache.settle_ok]

/-- A refreshed cache answers by itself only with what was fetched. -/
theorem Refreshed.eq_of_current (refreshed : Refreshed published now cache)
    (current : current? cache now = some set) : published = .ok set := by
  have stored := Cache.value_of_unaged? (Option.filter_eq_some_iff.mp current).1
  obtain ⟨before, rfl⟩ := refreshed
  cases published with
  | error cause =>
    rw [Cache.settle_error] at stored
    cases stored
  | ok fetched =>
    rw [Cache.settle_ok] at stored
    cases stored
    rfl

section Given

variable {cache₁ : Cache KeySet} {environment₁ : Environment}

theorem find_of_fault {fault : Fault VerifyError}
    (given : source.keys cache environment = ⟨.error fault, cache₁, environment₁⟩) :
    source.find kid cache environment = ⟨.error fault, cache₁, environment₁⟩ := by
  simp only [find, Bind.bind, andThen, given]

/-- Once the keys are looked up, the search for an id goes by what they are, and by their age. -/
theorem find_of_keys (given : source.keys cache environment = ⟨.ok set, cache₁, environment₁⟩) :
    source.find kid cache environment =
      match set.find? kid environment₁.now with
      | some key => ⟨.ok key, cache₁, environment₁⟩
      | none =>
        if environment₁.now.since cache₁.updatedAt < cooldown then
          ⟨.error (.error (.unknownKey kid)), cache₁, environment₁⟩
        else
          (source.newKeys >>= fun keys =>
            Operation.ofOption (.unknownKey kid) (keys.find? kid environment₁.now)) cache₁ environment₁ := by
  simp only [find, Bind.bind, andThen, given, Operation.now]
  cases set.find? kid environment₁.now with
  | some key => rfl
  | none =>
    by_cases recent : environment₁.now.since cache₁.updatedAt < cooldown
    · simp only [andThen, Operation.memory, recent, ite_true]
      rfl
    · simp only [andThen, Operation.memory, recent, ite_false]

/-- Keys that have just been stored are all that a search goes by. -/
theorem find_of_new (given : source.keys cache environment = ⟨.ok set, cache₁, environment₁⟩)
    (new : cache₁.updatedAt = environment₁.now) :
    source.find kid cache environment =
      ⟨(judged (.ok set) kid environment₁.now).mapError .error, cache₁, environment₁⟩ := by
  have age : environment₁.now.since cache₁.updatedAt = 0 := by
    rw [new, Instant.since, Int.sub_self]
  have recent : (0 : Int) < cooldown := by decide
  rw [find_of_keys given]
  simp only [judged, offered, Cache.reported, mapError_ok, age, recent, ite_true, Bind.bind, Except.bind]
  cases set.find? kid environment₁.now <;> rfl

end Given

/-- A search that had to fetch the keys goes by what was fetched. -/
theorem find_of_stale (answers : environment.Answers (.get source.endpoint) answer)
    (stale : current? cache environment.now = none) (kid : String) :
    ∃ cache' later, Refreshed (source.reading answer) environment.now cache' ∧
      environment.Sends (.get source.endpoint) later ∧ source.find kid cache environment =
        ⟨(judged (source.reading answer) kid environment.now).mapError .error, cache', later⟩ := by
  obtain ⟨later, sends, given⟩ := keys_of_stale answers stale
  have refreshed : Refreshed (source.reading answer) environment.now
      (cache.settle cache.generation (source.reading answer) environment.now) := ⟨cache, rfl⟩
  refine ⟨_, later, refreshed, sends, ?_⟩
  cases read : source.reading answer with
  | error cause =>
    rw [read] at given
    exact find_of_fault given
  | ok set =>
    rw [read] at given refreshed
    rw [find_of_new given (refreshed.updatedAt.trans sends.now.symm), sends.now]

/-- The cache answers a search by itself: it has keys to look at, and the id is among them, or they are
too recent to be fetched again for it. -/
structure Settled (kid : String) (set : KeySet) (cache : Cache KeySet) (now : Instant) : Prop where
  current : current? cache now = some set
  listed : set.find? kid now = none → now.since cache.updatedAt < cooldown

theorem find_of_settled (settled : Settled kid set cache environment.now) :
    source.find kid cache environment =
      ⟨(judged (.ok set) kid environment.now).mapError .error, cache, environment⟩ := by
  rw [find_of_keys (keys_of_current settled.current)]
  simp only [judged, offered, Cache.reported, mapError_ok, Bind.bind, Except.bind]
  cases missing : set.find? kid environment.now with
  | some key => rfl
  | none =>
    simp only [settled.listed missing, ite_true]
    rfl

/-- The keys are to be fetched: those in the cache have expired or are too old, or they are old enough to
be fetched again for an id that is unknown. -/
def Due (cache : Cache KeySet) (now : Instant) : Prop :=
  current? cache now = none ∨ cooldown ≤ now.since cache.updatedAt

/-- How a search for an id ends, what it asks of the endpoint, and what becomes of the cache. -/
inductive Lookup (source : KeySource) (answer : Except TransportError Response) (kid : String)
    (cache : Cache KeySet) (environment : Environment) :
    Outcome VerifyError (Cache KeySet) WebKey → Prop
  | served {set : KeySet} (settled : Settled kid set cache environment.now) :
      Lookup source answer kid cache environment
        ⟨(judged (.ok set) kid environment.now).mapError .error, cache, environment⟩
  | fetched {cache' : Cache KeySet} {later : Environment} (due : Due cache environment.now)
      (sends : environment.Sends (.get source.endpoint) later)
      (refreshed : Refreshed (source.reading answer) environment.now cache') :
      Lookup source answer kid cache environment
        ⟨(judged (source.reading answer) kid environment.now).mapError .error, cache', later⟩

/-- A search for an id is served from the cache, or sends one request for the keys. -/
theorem find_lookup (answers : environment.Answers (.get source.endpoint) answer) (kid : String)
    (cache : Cache KeySet) :
    source.Lookup answer kid cache environment (source.find kid cache environment) := by
  cases current : current? cache environment.now with
  | none =>
    obtain ⟨cache', later, refreshed, sends, found⟩ := find_of_stale answers current kid
    rw [found]
    exact .fetched (.inl current) sends refreshed
  | some set =>
    by_cases listed : set.find? kid environment.now = none → environment.now.since cache.updatedAt < cooldown
    · rw [find_of_settled ⟨current, listed⟩]
      exact .served ⟨current, listed⟩
    · obtain ⟨missing, old⟩ := Classical.not_imp.mp listed
      obtain ⟨later, sends, renewed⟩ := newKeys_answered answers cache
      have found : source.find kid cache environment =
          ⟨(judged (source.reading answer) kid environment.now).mapError .error,
            cache.clear.settle cache.clear.generation (source.reading answer) environment.now, later⟩ := by
        rw [find_of_keys (keys_of_current current)]
        simp only [missing, old, ite_false, Bind.bind, andThen, renewed, judged]
        cases offered (source.reading answer) with
        | error cause => rfl
        | ok anew =>
          simp only [mapError_ok, Except.bind]
          cases anew.find? kid environment.now <;> rfl
      rw [found]
      exact .fetched (.inr (Int.not_lt.mp old)) sends ⟨cache.clear, rfl⟩

/-- A refreshed cache leads every search to what was fetched, be it there still or fetched again. -/
theorem find_of_refreshed (steady : environment.Steady (.get source.endpoint) answer)
    (refreshed : Refreshed (source.reading answer) environment.now cache) (kid : String) :
    (source.find kid cache environment).result =
      (judged (source.reading answer) kid environment.now).mapError .error := by
  cases current : current? cache environment.now with
  | none =>
    obtain ⟨cache', later, -, -, found⟩ := find_of_stale steady.present current kid
    rw [found]
  | some set =>
    have read := refreshed.eq_of_current current
    rw [read] at refreshed ⊢
    rw [find_of_new (keys_of_current current) refreshed.updatedAt]

/-- A search that has refreshed the cache is repeated. -/
theorem repeats_of_refreshed (steady : environment.Steady (.get source.endpoint) answer)
    {cache' : Cache KeySet} {environment' : Environment}
    (refreshed : Refreshed (source.reading answer) environment.now cache')
    (proceeds : environment.Proceeds environment')
    (found : source.find kid cache environment =
      ⟨(judged (source.reading answer) kid environment.now).mapError .error, cache', environment'⟩) :
    Repeats (source.find kid) cache environment (judged (source.reading answer) kid environment.now) := by
  refine ⟨?_, ?_, ?_⟩
  · rw [found]
    exact proceeds
  · rw [found]
  · intro later passed
    rw [found] at passed ⊢
    have still := (proceeds.trans passed).now
    have unchanged := steady.later (proceeds.trans passed).toExtends
    rw [← still] at refreshed ⊢
    exact find_of_refreshed unchanged refreshed kid

/-- A search that the cache answers is repeated. -/
theorem repeats_of_unmoved {verdict : Except VerifyError WebKey}
    (found : ∀ later, later.now = environment.now →
      source.find kid cache later = ⟨verdict.mapError .error, cache, later⟩) :
    Repeats (source.find kid) cache environment verdict := by
  have begun := found environment rfl
  refine ⟨?_, ?_, ?_⟩
  · rw [begun]
    exact .refl environment
  · rw [begun]
  · intro later passed
    rw [begun] at passed ⊢
    rw [found later passed.now]

theorem find_repeats (steady : environment.Steady (.get source.endpoint) answer) (kid : String)
    (cache : Cache KeySet) : ∃ verdict, Repeats (source.find kid) cache environment verdict := by
  have lookup := find_lookup steady.present kid cache
  rcases found : source.find kid cache environment with ⟨result, cache', environment'⟩
  rw [found] at lookup
  cases lookup with
  | @served set settled =>
    refine ⟨judged (.ok set) kid environment.now, repeats_of_unmoved fun later still => ?_⟩
    rw [← still] at settled ⊢
    exact find_of_settled settled
  | fetched due sends refreshed =>
    exact ⟨_, repeats_of_refreshed steady refreshed sends.toProceeds found⟩

theorem check_repeats (steady : environment.Steady (.get source.endpoint) answer)
    (token : SignedToken) (cache : Cache KeySet) :
    ∃ verdict, Repeats (source.check token) cache environment verdict := by
  refine Repeats.ofOption_bind fun kid _ => Repeats.ofOption_bind fun algorithm _ => ?_
  obtain ⟨verdict, repeats⟩ := find_repeats steady kid cache
  exact ⟨_, repeats.bind_ofExcept (checkWith token kid algorithm)⟩

/-- Whatever the state of the cache, the check of a token gives the same verdict when it is made again
at once, and so does the check of an issuer that publishes its keys nowhere else. -/
theorem verdict_repeats (steady : environment.Steady (.get source.endpoint) answer)
    (token : SignedToken) (cache : Cache KeySet) :
    (∃ verdict, Repeats (source.check token) cache environment verdict) ∧
      ∀ issuer : Issuer, (∀ other, issuer.keySource? = some other → other = source) →
        ∃ verdict, Repeats (issuer.check token) cache environment verdict := by
  refine ⟨check_repeats steady token cache, fun issuer only => ?_⟩
  refine Repeats.ofExcept_bind fun _ _ => Repeats.now_bind <| Repeats.ofExcept_bind fun _ _ =>
    Repeats.ofOption_bind fun other known => ?_
  rw [only other known]
  exact check_repeats steady token cache

end KeySource

namespace LostKeys

open KeySource Operation

def source : KeySource :=
  KeyRotation.source

def issuer : Issuer :=
  ⟨.ofIssuer "i" { Endpoints.none with jwks := some source.endpoint }⟩

def token : SignedToken :=
  { KeyRotation.token with
    claims := { Claims.blank with issuer := some "i", issueDate := some (.ofInt 5) } }

def held : Cache KeySet :=
  { emptyCache with
    value := some ⟨[{ WebKey.blank with type := "oct", id := some "old" }]⟩ }

def environment : Environment where
  now := ⟨30000⟩
  network := fun _ _ => .error (.io "closed")
  sent := []
  entropy := []
  flows := []

/-- A key id that is unknown to keys which are half a minute old, at an endpoint that has failed since:
the first check gives up the keys, and the second one finds none. -/
theorem given_up_and_repeated :
    environment.Steady (.get source.endpoint) (.error (.io "closed")) ∧
      issuer.keySource? = some source ∧
      (current? held environment.now).isSome = true ∧
      (issuer.check token held environment).memory.value.isNone = true ∧
      (∃ verdict, Repeats (source.check token) held environment verdict) ∧
      ∃ verdict, Repeats (issuer.check token) held environment verdict := by
  have steady : environment.Steady (.get source.endpoint) (.error (.io "closed")) := fun _ _ => rfl
  have only : ∀ other, issuer.keySource? = some other → other = source := by
    intro other known
    exact (Option.some.inj known).symm
  obtain ⟨checks, issuerChecks⟩ := verdict_repeats steady token held
  exact ⟨steady, rfl, by decide, by decide +kernel, checks, issuerChecks issuer only⟩

end LostKeys

end BearerIdentity
