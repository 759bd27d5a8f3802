import BearerIdentity.Proofs.Key.Endorsement
import BearerIdentity.Proofs.Operation.Course

set_option autoImplicit false

namespace BearerIdentity

/-- A value that is young enough is within the age limit. -/
theorem Cache.age_of_unaged? {α : Type} {cache : Cache α} {age : Int} {now : Instant} {value : α}
    (limit : cache.maxAge = some age) (young : cache.unaged? now = some value) :
    now.since cache.updatedAt ≤ age := by
  unfold unaged? at young
  rw [limit] at young
  simp only at young
  split at young
  · cases young
  · rename_i recent
    exact Int.not_lt.mp recent

namespace KeySource

open Operation

variable {source : KeySource} {age : Int} {spans : List Span} {since : Environment}
  {cache cache' : Cache KeySet} {environment environment' : Environment} {set : KeySet}

def Fetched (source : KeySource) (document : Json.Value) (span : Span) : Prop :=
  ∃ response, span.after.Answered span.before.sent (.get source.endpoint) response ∧
    response.isSuccess = true ∧ response.json Json.decodeValue = .ok document

def Reads (source : KeySource) (set : KeySet) (span : Span) : Prop :=
  ∃ document, source.Fetched document span ∧ KeySet.ofDocument document = .ok set

theorem Reads.later {later : Environment} (reads : source.Reads set ⟨since, environment⟩)
    (extends_ : environment.Extends later) : source.Reads set ⟨since, later⟩ := by
  obtain ⟨document, ⟨response, answered, rest⟩, read⟩ := reads
  exact ⟨document, ⟨response, answered.later extends_, rest⟩, read⟩

/-- What is fetched in a call has been fetched in its span. -/
theorem fetch_reads {σ : Type} {memory memory' : σ} (proceeds : since.Proceeds environment)
    (fetched : source.fetch memory environment = ⟨.ok set, memory', environment'⟩) :
    source.Reads set ⟨since, environment'⟩ := by
  simp only [fetch, Exchange.getJson, bind_eq_ok, Exchange.fetch_eq_ok, mapError_eq_ok,
    ofExcept_eq_ok] at fetched
  obtain ⟨document, _, _, ⟨response, answer, success, body, -, rfl⟩, read, -, rfl⟩ := fetched
  have answered := Environment.answered_exchange answer
  exact ⟨document, ⟨response, answered.since proceeds.sent, success, body⟩, read⟩

/-- The cache has an age limit, and the keys in it were fetched when it says. -/
structure Dated (source : KeySource) (age : Int) (spans : List Span) (cache : Cache KeySet) :
    Prop where
  limit : cache.maxAge = some age
  stamped : ∀ set, cache.value = some set →
    ∃ span ∈ spans, source.Reads set span ∧ cache.updatedAt = span.before.now

theorem Dated.cleared (dated : source.Dated age spans cache) : source.Dated age spans cache.clear where
  limit := dated.limit
  stamped := by rintro _ ⟨⟩

theorem Dated.reclaimed (dated : source.Dated age spans cache) :
    source.Dated age spans (cache.reclaim?.getD cache) := by
  rcases cache.reclaimed with same | freed
  · rw [same]
    exact dated
  · rw [freed]
    refine ⟨dated.limit, ?_⟩
    rintro _ ⟨⟩

def DatedSince (source : KeySource) (age : Int) (spans : List Span) (since : Environment)
    (cache : Cache KeySet) (environment : Environment) : Prop :=
  source.Dated age (⟨since, environment⟩ :: spans) cache ∧ since.Proceeds environment

theorem lasting_datedSince : Lasting (source.DatedSince age spans since) := by
  rintro cache earlier later ⟨dated, proceeded⟩ proceeds
  refine ⟨⟨dated.limit, fun set stored => ?_⟩, proceeded.trans proceeds⟩
  obtain ⟨span, listed, reads, stamp⟩ := dated.stamped set stored
  rcases List.mem_cons.mp listed with rfl | listed
  · exact ⟨_, List.mem_cons_self, reads.later proceeds.toExtends, stamp⟩
  · exact ⟨span, List.mem_cons_of_mem _ listed, reads, stamp⟩

/-- The keys were fetched within the age limit before the present call, or in it. Under a negative limit
they are always fetched in it. -/
def Recent (source : KeySource) (age : Int) (spans : List Span) (since : Environment) (set : KeySet)
    (environment : Environment) : Prop :=
  ∃ span ∈ (⟨since, environment⟩ : Span) :: spans, source.Reads set span ∧
    since.now.since span.before.now ≤ max age 0

/-- What was fetched in this call is recent. -/
theorem Reads.recent (reads : source.Reads set ⟨since, environment⟩) :
    source.Recent age spans since set environment := by
  refine ⟨_, List.mem_cons_self, reads, ?_⟩
  simp only [Instant.since]
  omega

/-- A call that looks up keys leaves a dated cache behind, and the keys that it yields are recent. -/
structure Current {ε : Type} (source : KeySource) (age : Int) (spans : List Span)
    (since : Environment) (result : Except (Fault ε) KeySet) (cache : Cache KeySet)
    (environment : Environment) : Prop where
  dated : source.DatedSince age spans since cache environment
  recent : ∀ set, result = .ok set → source.Recent age spans since set environment

/-- What a refresh stores bears the present date. -/
theorem refresh_current (dated : source.DatedSince age spans since cache environment)
    {result : Except (Fault Error) KeySet} {whole : Cache KeySet × Unit}
    (refreshed : source.renewal.refresh (cache, ()) environment = ⟨result, whole, environment'⟩) :
    source.Current age spans since result whole.1 environment' := by
  rw [Renewal.refresh_apply] at refreshed
  have proceeds : environment.Proceeds
      (observe source.renewal.kind source.renewal.fetch () environment).environment :=
    (fetches (lasting_proceeds environment)).observe_proceeds (.refl environment)
  have later := lasting_datedSince _ _ _ dated proceeds
  rcases observed : observe source.renewal.kind source.renewal.fetch () environment with
    ⟨(_ | cause) | set, ⟨⟩, environment₁⟩
  · rw [observed] at refreshed later
    cases refreshed
    exact ⟨later, by rintro _ ⟨⟩⟩
  · rw [observed] at refreshed later
    cases refreshed
    rw [Cache.settle_error]
    refine ⟨⟨⟨later.1.limit, ?_⟩, later.2⟩, ?_⟩
    · rintro _ ⟨⟩
    · rintro _ ⟨⟩
  · have reads : source.Reads set ⟨since, environment₁⟩ := by
      obtain ⟨environment₂, fetched, rfl⟩ := observe_eq_ok.mp observed
      have begun := dated.2.trans (.record environment .keySetRefresh .attempt)
      exact (fetch_reads begun fetched).later (Environment.Proceeds.record _ _ _).toExtends
    rw [observed] at refreshed later
    cases refreshed
    rw [Cache.settle_ok]
    refine ⟨⟨⟨later.1.limit, ?_⟩, later.2⟩, ?_⟩
    · rintro _ ⟨⟩
      exact ⟨_, List.mem_cons_self, reads, later.2.now⟩
    · rintro _ ⟨⟩
      exact reads.recent

/-- Keys that are served from the cache are within its age limit. -/
theorem get_current (dated : source.DatedSince age spans since cache environment)
    {result : Except (Fault Error) KeySet} {whole : Cache KeySet × Unit}
    (given : source.renewal.get (cache, ()) environment = ⟨result, whole, environment'⟩) :
    source.Current age spans since result whole.1 environment' := by
  rw [Renewal.get_apply] at given
  split at given
  · exact refresh_current dated given
  · rename_i stored young
    split at given
    · exact refresh_current dated given
    · cases given
      refine ⟨dated, ?_⟩
      rintro _ ⟨⟩
      obtain ⟨span, listed, reads, stamp⟩ := dated.1.stamped stored (Cache.value_of_unaged? young)
      refine ⟨span, listed, reads, ?_⟩
      have within := Cache.age_of_unaged? dated.1.limit young
      rw [stamp, dated.2.now] at within
      omega
    · cases given
      exact ⟨dated, by rintro _ ⟨⟩⟩
    · cases given
      exact ⟨dated, by rintro _ ⟨⟩⟩

/-- Errors are told in another way when keys are looked up for a check. -/
theorem onCache_current {operation : Operation Error (Cache KeySet × Unit) KeySet}
    (current : ∀ {result whole environment'},
      operation (cache, ()) environment = ⟨result, whole, environment'⟩ →
        source.Current age spans since result whole.1 environment')
    {result : Except (Fault VerifyError) KeySet}
    (given : onCache operation cache environment = ⟨result, cache', environment'⟩) :
    source.Current age spans since result cache' environment' := by
  unfold onCache mapError alone onPart at given
  rcases run : operation (cache, ()) environment with ⟨fault | set, whole, environment₁⟩
  · rw [run] at given
    cases given
    exact ⟨(current run).dated, by rintro _ ⟨⟩⟩
  · rw [run] at given
    cases given
    refine ⟨(current run).dated, ?_⟩
    rintro _ ⟨⟩
    exact (current run).recent set rfl

theorem keys_current (dated : source.DatedSince age spans since cache environment)
    {result : Except (Fault VerifyError) KeySet}
    (given : source.keys cache environment = ⟨result, cache', environment'⟩) :
    source.Current age spans since result cache' environment' :=
  onCache_current (get_current dated) given

theorem newKeys_current (dated : source.DatedSince age spans since cache environment)
    {result : Except (Fault VerifyError) KeySet}
    (given : source.newKeys cache environment = ⟨result, cache', environment'⟩) :
    source.Current age spans since result cache' environment' := by
  refine onCache_current (fun renewed => ?_) given
  rw [Renewal.renew_apply] at renewed
  exact refresh_current ⟨dated.1.cleared, dated.2⟩ renewed

/-- A check keeps the cache dated, whether it passes or not. -/
theorem check_keeps_dated (token : SignedToken) :
    Keeps (source.DatedSince age spans since) (source.check token) := by
  have keys : Keeps (source.DatedSince age spans since) source.keys :=
    fun cache environment dated => (keys_current dated (Outcome.eq_of_result rfl)).dated
  have newKeys : Keeps (source.DatedSince age spans since) source.newKeys :=
    fun cache environment dated => (newKeys_current dated (Outcome.eq_of_result rfl)).dated
  exact check_keeps_of keys newKeys token

/-- The key that is found for an id belongs to recent keys, be they cached or fetched anew. -/
theorem find_recent {kid : String} {key : WebKey}
    (dated : source.DatedSince age spans since cache environment)
    (found : source.find kid cache environment = ⟨.ok key, cache', environment'⟩) :
    ∃ set, source.Recent age spans since set environment' ∧ set.find? kid since.now = some key := by
  obtain ⟨set, given, listed⟩ | ⟨set, cache₁, environment₁, anew, given, fetched, listed⟩ :=
    find_cases found
  · have current := keys_current dated given
    rw [current.dated.2.now] at listed
    exact ⟨set, current.recent set rfl, listed⟩
  · have current := keys_current dated given
    rw [current.dated.2.now] at listed
    exact ⟨anew, (newKeys_current current.dated fetched).recent anew rfl, listed⟩

def Lists (source : KeySource) (key : WebKey) (span : Span) : Prop :=
  ∃ document entry, source.Fetched document span ∧
    (∃ entries, KeySet.entries? document = some entries ∧ entry ∈ entries) ∧
    Json.decodeFrom WebKey.decoder entry = .ok key

theorem Reads.lists {span : Span} {kid : String} {now : Instant} {key : WebKey}
    (reads : source.Reads set span) (found : set.find? kid now = some key) :
    source.Lists key span := by
  obtain ⟨document, fetched, read⟩ := reads
  obtain ⟨entries, listed, keys⟩ := KeySet.keys_of_ofDocument read
  have member := (KeySet.of_find? found).1
  rw [keys] at member
  obtain ⟨entry, present, stands⟩ := List.mem_filterMap.mp member
  exact ⟨document, entry, fetched, ⟨entries, listed, present⟩, (KeySet.ofEntry?_eq_some.mp stands).1⟩

/-- The check of a token passes, and this is the key that it uses. -/
structure Uses (source : KeySource) (token : SignedToken) (key : WebKey) (cache : Cache KeySet)
    (environment : Environment) : Prop where
  passes : (source.check token cache environment).result = .ok ()
  found : ∃ kid algorithm, token.header.keyId = some kid ∧
    Algorithm.ofName? token.header.algorithm = some algorithm ∧
    (source.find kid cache environment).result = .ok key ∧
    checkWith token kid algorithm key = .ok ()

/-- A check that passes leaves cache and environment as the search for its key does. -/
theorem check_of_find {token : SignedToken} {kid : String} {algorithm : Algorithm} {key : WebKey}
    (named : token.header.keyId = some kid)
    (known : Algorithm.ofName? token.header.algorithm = some algorithm)
    (found : source.find kid cache environment = ⟨.ok key, cache', environment'⟩)
    (checked : checkWith token kid algorithm key = .ok ()) :
    source.check token cache environment = ⟨.ok (), cache', environment'⟩ := by
  simp only [check, bind_eq_ok, ofOption_eq_ok, ofExcept_eq_ok]
  exact ⟨kid, _, _, ⟨named, rfl, rfl⟩, algorithm, _, _, ⟨known, rfl, rfl⟩, key, cache', environment',
    found, checked, rfl, rfl⟩

theorem uses_of_passes {token : SignedToken}
    (passes : (source.check token cache environment).result = .ok ()) :
    ∃ key, source.Uses token key cache environment := by
  have passed := Outcome.eq_of_result passes
  simp only [check, bind_eq_ok, ofOption_eq_ok, ofExcept_eq_ok] at passed
  obtain ⟨kid, _, _, ⟨named, rfl, rfl⟩, algorithm, _, _, ⟨known, rfl, rfl⟩, key, cache₁,
    environment₁, found, checked, -, -⟩ := passed
  exact ⟨key, passes, kid, algorithm, named, known, congrArg Outcome.result found, checked⟩

/-- What may happen to the keys that tokens are checked with. -/
inductive Consults (source : KeySource) :
    {α : Type} → Operation VerifyError (Cache KeySet) α → Prop where
  | check (token : SignedToken) : Consults source (source.check token)
  | clear : Consults source (Operation.revise Cache.clear)
  | reclaim : Consults source (Operation.revise fun cache => cache.reclaim?.getD cache)

/-- The keys in the cache are dated, and no call was in the future. -/
structure Traced (source : KeySource) (age : Int) (spans : List Span) (cache : Cache KeySet)
    (environment : Environment) : Prop where
  dated : source.Dated age spans cache
  past : ∀ span ∈ spans, span.before.now ≤ environment.now

/-- When a call begins, its span counts as well. -/
theorem Traced.datedSince (traced : source.Traced age spans cache environment) :
    source.DatedSince age spans environment cache environment := by
  refine ⟨⟨traced.dated.limit, fun set stored => ?_⟩, .refl environment⟩
  obtain ⟨span, listed, rest⟩ := traced.dated.stamped set stored
  exact ⟨span, List.mem_cons_of_mem _ listed, rest⟩

/-- When a call ends, the cache is traced to it and to the calls before. -/
theorem DatedSince.traced (dated : source.DatedSince age spans since cache environment)
    (past : ∀ span ∈ spans, span.before.now ≤ since.now) :
    source.Traced age (⟨since, environment⟩ :: spans) cache environment := by
  refine ⟨dated.1, fun span listed => ?_⟩
  rw [dated.2.now]
  rcases List.mem_cons.mp listed with rfl | listed
  · exact Int.le_refl _
  · exact past span listed

theorem Consults.traced {α : Type} {operation : Operation VerifyError (Cache KeySet) α}
    (consults : source.Consults operation) (traced : source.Traced age spans cache environment) :
    source.Traced age (operation.span cache environment :: spans) (operation cache environment).memory
      (operation cache environment).environment := by
  refine DatedSince.traced ?_ traced.past
  have begun := traced.datedSince
  cases consults with
  | check token => exact check_keeps_dated token _ _ begun
  | clear => exact ⟨begun.1.cleared, begun.2⟩
  | reclaim => exact ⟨begun.1.reclaimed, begun.2⟩

/-- An empty cache is traced to no call. -/
theorem Traced.start (environment : Environment) :
    source.Traced age [] (Cache.ageing age) environment := by
  refine ⟨⟨rfl, ?_⟩, ?_⟩
  · rintro _ ⟨⟩
  · rintro _ ⟨⟩

theorem Traced.pass (passed : environment.Passes environment')
    (traced : source.Traced age spans cache environment) :
    source.Traced age spans cache environment' where
  dated := traced.dated
  past := fun span listed => Int.le_trans (traced.past span listed) passed.now

theorem traced_of_course
    (course : Course @source.Consults Environment.Passes (Cache.ageing age) spans cache environment) :
    source.Traced age spans cache environment :=
  course.keeps Traced.start Consults.traced Traced.pass

section Use

variable {token : SignedToken} {key : WebKey}

/-- The key that a check uses is one of recent keys, and the one that is found there now. -/
theorem Uses.recent (uses : source.Uses token key cache environment)
    (traced : source.Traced age spans cache environment) :
    ∃ set kid, source.Recent age spans environment set
        (source.check token cache environment).environment ∧
      set.find? kid environment.now = some key := by
  obtain ⟨kid, algorithm, named, known, found, checked⟩ := uses.found
  have found := Outcome.eq_of_result found
  obtain ⟨set, recent, listed⟩ := find_recent traced.datedSince found
  rw [check_of_find named known found checked]
  exact ⟨set, kid, recent, listed⟩

/-- The key that a check uses was listed within the age limit. -/
theorem Uses.lists (uses : source.Uses token key cache environment)
    (traced : source.Traced age spans cache environment) :
    ∃ span ∈ (source.check token).span cache environment :: spans, source.Lists key span ∧
      span.before.now ≤ environment.now ∧ environment.now.since span.before.now ≤ max age 0 := by
  obtain ⟨set, kid, ⟨span, listed, reads, within⟩, found⟩ := uses.recent traced
  refine ⟨span, listed, reads.lists found, ?_, within⟩
  rcases List.mem_cons.mp listed with rfl | listed
  · exact Int.le_refl _
  · exact traced.past span listed

end Use

/-- How long the keys that a token is checked with may live on, after the calls in these spans. -/
structure Bounds (source : KeySource) (age : Int) (spans : List Span) (cache : Cache KeySet)
    (environment : Environment) : Prop where
  /-- A check that passes uses a key. -/
  uses : ∀ token, (source.check token cache environment).result = .ok () →
    ∃ key, source.Uses token key cache environment
  /-- The key was listed in a document that was fetched within the age limit. -/
  recent : ∀ token key, source.Uses token key cache environment →
    ∃ span ∈ (source.check token).span cache environment :: spans, source.Lists key span ∧
      span.before.now ≤ environment.now ∧ environment.now.since span.before.now ≤ max age 0
  /-- The key has not expired. -/
  unexpired : ∀ token key, source.Uses token key cache environment →
    ∀ expiry, key.expiry = some expiry → environment.now.millis < expiry * 1000
  /-- A key is not used any more once the last document that lists it is past the age limit. -/
  withdrawn : ∀ token key, (∀ span ∈ (source.check token).span cache environment :: spans,
      source.Lists key span → max age 0 < environment.now.since span.before.now) →
    ¬ source.Uses token key cache environment

/-- However the keys were fetched, cleared and given up before, they are bounded. -/
theorem bounds_of_course
    (course : Course @source.Consults Environment.Passes (Cache.ageing age) spans cache environment) :
    source.Bounds age spans cache environment := by
  have traced := traced_of_course course
  refine ⟨fun token => uses_of_passes, fun token key uses => uses.lists traced, ?_, ?_⟩
  · intro token key uses
    obtain ⟨set, kid, -, found⟩ := uses.recent traced
    exact WebKey.expiry_of_isValidAt (KeySet.of_find? found).2.2
  · intro token key old uses
    obtain ⟨span, listed, lists, -, within⟩ := uses.lists traced
    exact absurd within (Int.not_le.mpr (old span listed lists))

end KeySource

namespace Withdrawal

open KeySource Operation

def source : KeySource :=
  KeyRotation.source

/-- A token under a key that has never been published. -/
def stray : SignedToken :=
  { KeyRotation.token with header := ⟨"HS256", some "stray", none⟩ }

def network : Network := fun earlier _ =>
  .ok <| .ofValue <| .ofMembers [("keys", .array
    [if earlier.isEmpty then KeyRotation.entry "k" "c2VjcmV0" []
      else KeyRotation.entry "new" "b2xk" []])]

def begun : Environment where
  now := .epoch
  network := network
  sent := []
  entropy := []
  flows := []

def first : Outcome VerifyError (Cache KeySet) Unit :=
  source.check stray emptyCache begun

def later (now : Instant) : Environment :=
  { first.environment with now }

theorem course (now : Instant) (forward : begun.now ≤ now) :
    Course @source.Consults Environment.Passes (Cache.ageing KeySource.maxAge)
      [(source.check stray).span emptyCache begun] first.memory (later now) := by
  have called : Course @source.Consults Environment.Passes (Cache.ageing KeySource.maxAge)
      [(source.check stray).span emptyCache begun] first.memory first.environment :=
    .call (.start begun) (.check stray)
  have proceeds : begun.Proceeds first.environment :=
    (check_keeps stray _ _ (backed_ageing KeySource.maxAge begun).tended).2
  rw [← proceeds.now] at forward
  exact called.pass ⟨.elapse first.environment now, forward⟩

set_option maxRecDepth 4000 in
theorem observed :
    (source.check KeyRotation.token first.memory (later ⟨300000⟩)).result.isOk = true ∧
      (source.check KeyRotation.token first.memory (later ⟨300001⟩)).result.isOk = false := by
  decide +kernel

/-- A key that is withdrawn right after it was fetched. It is used for five more minutes, and then no
longer. Five minutes on, the token still passes with a key that was then fetched, and a millisecond
later it does not. -/
theorem used_then_withdrawn :
    (∃ key, source.Uses KeyRotation.token key first.memory (later ⟨300000⟩) ∧
      ∃ span ∈ [(source.check KeyRotation.token).span first.memory (later ⟨300000⟩),
          (source.check stray).span emptyCache begun],
        source.Lists key span ∧ 300000 - span.before.now.millis ≤ 300000) ∧
    ¬ ∃ key, source.Uses KeyRotation.token key first.memory (later ⟨300001⟩) := by
  obtain ⟨passed, failed⟩ := observed
  obtain ⟨⟨⟩, accepted⟩ := exists_ok_of_isOk passed
  have bounds := bounds_of_course (course ⟨300000⟩ (by decide))
  obtain ⟨key, uses⟩ := bounds.uses KeyRotation.token accepted
  obtain ⟨span, listed, lists, -, within⟩ := bounds.recent KeyRotation.token key uses
  refine ⟨⟨key, uses, span, listed, lists, within⟩, ?_⟩
  rintro ⟨_, passes, -⟩
  rw [passes] at failed
  cases failed

end Withdrawal

end BearerIdentity
