import BearerIdentity.Proofs.Key.Repetition
import BearerIdentity.Proofs.Key.Revocation

set_option autoImplicit false

namespace BearerIdentity

theorem WebKey.isValidAt_of_le {key : WebKey} {now later : Instant} (before : now ≤ later)
    (valid : key.isValidAt later = true) : key.isValidAt now = true := by
  rw [isValidAt_iff] at valid ⊢
  exact fun expiry declared => Int.lt_of_le_of_lt before (valid expiry declared)

theorem KeySet.hasValidKey_of_le {set : KeySet} {now later : Instant} (before : now ≤ later)
    (valid : set.hasValidKey later = true) : set.hasValidKey now = true := by
  unfold hasValidKey at valid ⊢
  rw [List.any_eq_true] at valid ⊢
  obtain ⟨key, listed, lasting⟩ := valid
  exact ⟨key, listed, key.isValidAt_of_le before lasting⟩

def Span.requests (span : Span) : List Request :=
  span.after.sent.drop span.before.sent.length

theorem Span.requests_refl (environment : Environment) : Span.requests ⟨environment, environment⟩ = [] :=
  List.drop_length

theorem Environment.Sends.requests {environment later : Environment} {request : Request}
    (sends : environment.Sends request later) : Span.requests ⟨environment, later⟩ = [request] := by
  rw [Span.requests, sends.only]
  exact List.drop_left

namespace KeySource

open Operation

variable {source : KeySource} {token : SignedToken} {cache cache' : Cache KeySet}
  {environment environment' : Environment} {spans : List Span} {now final : Instant}

/-- Keys that are still valid are of no use only after the age limit of the cache. -/
theorem age_of_stale {age : Int} {set : KeySet} (limit : cache.maxAge = some age)
    (stored : cache.value = some set) (valid : set.hasValidKey now = true)
    (stale : current? cache now = none) : age < now.since cache.updatedAt := by
  unfold current? Cache.unaged? at stale
  rw [limit, stored] at stale
  simp only at stale
  split at stale
  · assumption
  · rw [Option.filter_some, valid] at stale
    cases stale

/-- A token that can be checked at all: it names a key and an algorithm that is known. -/
structure Checkable (token : SignedToken) : Prop where
  named : token.header.keyId ≠ none
  known : Algorithm.ofName? token.header.algorithm ≠ none

/-- What the check of a token asks of the endpoint, and what becomes of the cache. -/
inductive Inquires (source : KeySource) (token : SignedToken) (cache : Cache KeySet)
    (environment : Environment) : Cache KeySet → Environment → Prop
  | idle : Inquires source token cache environment cache environment
  | asks {cache' : Cache KeySet} {later : Environment} (checkable : Checkable token)
      (due : Due cache environment.now) (sends : environment.Sends (.get source.endpoint) later)
      (refreshed : Refreshed
        (source.reading (environment.network environment.sent (.get source.endpoint)))
        environment.now cache') :
      Inquires source token cache environment cache' later

theorem check_inquires (source : KeySource) (token : SignedToken) (cache : Cache KeySet)
    (environment : Environment) :
    source.Inquires token cache environment (source.check token cache environment).memory
      (source.check token cache environment).environment := by
  cases named : token.header.keyId with
  | none =>
    simp only [check, named, ofOption, Bind.bind, andThen, fail]
    exact .idle
  | some kid =>
    cases known : Algorithm.ofName? token.header.algorithm with
    | none =>
      simp only [check, named, known, ofOption, Bind.bind, andThen, succeed, fail]
      exact .idle
    | some algorithm =>
      have checked : source.check token cache environment =
          (source.find kid >>= fun key => Operation.ofExcept (checkWith token kid algorithm key)) cache
            environment := by
        simp only [check, named, known]
        rfl
      have answers : environment.Answers (.get source.endpoint)
          (environment.network environment.sent (.get source.endpoint)) := rfl
      have lookup := find_lookup answers kid cache
      rw [checked, bind_ofExcept_apply]
      generalize source.find kid cache environment = outcome at lookup ⊢
      cases lookup with
      | served settled => exact .idle
      | fetched due sends refreshed =>
        exact .asks ⟨by simp [named], by simp [known]⟩ due sends refreshed

namespace Inquires

theorem requests (inquires : source.Inquires token cache environment cache' environment') :
    Span.requests ⟨environment, environment'⟩ = [] ∨
      Span.requests ⟨environment, environment'⟩ = [.get source.endpoint] := by
  cases inquires with
  | idle => exact .inl (Span.requests_refl environment)
  | asks checkable due sends refreshed => exact .inr sends.requests

theorem proceeds (inquires : source.Inquires token cache environment cache' environment') :
    environment.Proceeds environment' := by
  cases inquires with
  | idle => exact .refl environment
  | asks checkable due sends refreshed => exact sends.toProceeds

end Inquires

/-- Tokens are checked, and the keys are neither cleared nor given up. -/
inductive Checks (source : KeySource) :
    {α : Type} → Operation VerifyError (Cache KeySet) α → Prop where
  | check (token : SignedToken) : Checks source (source.check token)

theorem Checks.consults {α : Type} {operation : Operation VerifyError (Cache KeySet) α}
    (checks : source.Checks operation) : source.Consults operation := by
  cases checks with
  | check token => exact .check token

/-- The requests that were sent in the spans of calls, the latest first, with the instants. -/
def sendings (spans : List Span) : List (Instant × Request) :=
  spans.flatMap fun span => span.requests.reverse.map fun request => (span.before.now, request)

/-- Whenever the endpoint was asked in these spans, it has answered with keys one of which is still valid
in the end. -/
def Supplied (source : KeySource) (final : Instant) (spans : List Span) : Prop :=
  ∀ span ∈ spans, ∀ earlier,
    span.before.sent ++ earlier ++ [.get source.endpoint] <+: span.after.sent →
      ∃ set, source.reading
          (span.before.network (span.before.sent ++ earlier) (.get source.endpoint)) = .ok set ∧
        set.hasValidKey final = true

theorem sendings_cons_idle {span : Span} (idle : span.requests = []) (spans : List Span) :
    sendings (span :: spans) = sendings spans := by
  rw [sendings, List.flatMap_cons, idle]
  rfl

theorem sendings_cons_asks {span : Span} {request : Request} (asks : span.requests = [request])
    (spans : List Span) :
    sendings (span :: spans) = (span.before.now, request) :: sendings spans := by
  rw [sendings, List.flatMap_cons, asks]
  rfl

/-- The keys were asked for at this pace, and what came of it is in the cache. -/
structure Paced (final : Instant) (spans : List Span) (cache : Cache KeySet) : Prop where
  apart : (sendings spans).Pairwise fun later earlier => cooldown ≤ later.1.since earlier.1
  stamped : ∀ sending ∈ sendings spans, sending.1 ≤ cache.updatedAt
  stocked : ∀ sending ∈ sendings spans, ∃ set, cache.value = some set ∧ set.hasValidKey final = true

namespace Paced

/-- When keys are due, the requests so far were sent long enough ago. Before the first one, there are
none; afterwards, the keys have not expired. -/
theorem apart_of_due (paced : Paced final spans cache) (limit : cache.maxAge = some maxAge)
    (due : Due cache now) (before : now ≤ final) :
    ∀ sending ∈ sendings spans, cooldown ≤ now.since sending.1 := by
  intro sending listed
  have old : cooldown ≤ now.since cache.updatedAt := by
    rcases due with stale | old
    · obtain ⟨set, stored, lasting⟩ := paced.stocked sending listed
      have age := age_of_stale limit stored (KeySet.hasValidKey_of_le before lasting) stale
      have longer : cooldown ≤ maxAge := by decide
      omega
    · exact old
  have stamped : sending.1.millis ≤ cache.updatedAt.millis := paced.stamped sending listed
  simp only [Instant.since] at old ⊢
  omega

theorem check (paced : Paced final spans cache) (limit : cache.maxAge = some maxAge)
    (before : environment.now ≤ final)
    (supplied : source.Supplied final [⟨environment, environment'⟩])
    (inquires : source.Inquires token cache environment cache' environment') :
    Paced final (⟨environment, environment'⟩ :: spans) cache' := by
  cases inquires with
  | idle =>
    have same : sendings (⟨environment, environment⟩ :: spans) = sendings spans :=
      sendings_cons_idle (Span.requests_refl environment) spans
    exact ⟨by rw [same]; exact paced.apart, by rw [same]; exact paced.stamped,
      by rw [same]; exact paced.stocked⟩
  | asks checkable due sends refreshed =>
    have apart := paced.apart_of_due limit due before
    have grown : sendings (⟨environment, environment'⟩ :: spans) =
        (environment.now, .get source.endpoint) :: sendings spans :=
      sendings_cons_asks sends.requests spans
    obtain ⟨set, read, lasting⟩ : ∃ set, source.reading
        (environment.network environment.sent (.get source.endpoint)) = .ok set ∧
          set.hasValidKey final = true := by
      have asked := supplied _ List.mem_cons_self []
      simp only [List.append_nil, sends.only] at asked
      exact asked List.prefix_rfl
    rw [read] at refreshed
    have now : cache'.updatedAt = environment.now := refreshed.updatedAt
    have stored : cache'.value = some set := by
      obtain ⟨before, rfl⟩ := refreshed
      rw [Cache.settle_ok]
    refine ⟨?_, ?_, ?_⟩
    · rw [grown]
      exact List.pairwise_cons.mpr ⟨apart, paced.apart⟩
    · rw [grown, now]
      intro sending listed
      rcases List.mem_cons.mp listed with rfl | listed
      · exact Int.le_refl _
      · have old := apart sending listed
        have some : (0 : Int) < cooldown := by decide
        show sending.1.millis ≤ environment.now.millis
        simp only [Instant.since] at old
        omega
    · intro sending listed
      exact ⟨set, stored, lasting⟩

end Paced

/-- What is sent in the spans of checks. -/
structure Spaced (source : KeySource) (spans : List Span) : Prop where
  /-- A check sends nothing but a request for the keys, and no second one. -/
  once : ∀ span ∈ spans, span.requests = [] ∨ span.requests = [.get source.endpoint]
  /-- Of any two requests, the later one is sent at least the cooldown after the earlier one. -/
  apart : (sendings spans).Pairwise fun later earlier => cooldown ≤ later.1.since earlier.1

/-- What the checks of tokens keep. The pace depends on how long the keys turn out to last. -/
structure Keeping (source : KeySource) (spans : List Span) (cache : Cache KeySet)
    (environment : Environment) : Prop where
  once : ∀ span ∈ spans, span.requests = [] ∨ span.requests = [.get source.endpoint]
  traced : source.Traced maxAge spans cache environment
  paced : ∀ final, environment.now ≤ final → source.Supplied final spans → Paced final spans cache

namespace Keeping

theorem start (environment : Environment) : source.Keeping [] emptyCache environment := by
  refine ⟨?_, .start environment, fun final before supplied => ⟨List.Pairwise.nil, ?_, ?_⟩⟩
  · rintro _ ⟨⟩
  · rintro _ ⟨⟩
  · rintro _ ⟨⟩

theorem call {α : Type} {operation : Operation VerifyError (Cache KeySet) α}
    (checks : source.Checks operation) (keeping : source.Keeping spans cache environment) :
    source.Keeping (operation.span cache environment :: spans) (operation cache environment).memory
      (operation cache environment).environment := by
  have traced := checks.consults.traced keeping.traced
  cases checks with
  | check token =>
    have inquires := source.check_inquires token cache environment
    refine ⟨?_, traced, ?_⟩
    · intro span listed
      rcases List.mem_cons.mp listed with rfl | listed
      · exact inquires.requests
      · exact keeping.once span listed
    · intro final before supplied
      have begun : environment.now ≤ final :=
        Int.le_trans (traced.past _ List.mem_cons_self) before
      have earlier : source.Supplied final spans :=
        fun span listed => supplied span (List.mem_cons_of_mem _ listed)
      have present : source.Supplied final [(source.check token).span cache environment] := by
        intro span listed
        rw [List.mem_singleton.mp listed]
        exact supplied _ List.mem_cons_self
      exact (keeping.paced final begun earlier).check keeping.traced.dated.limit begun present inquires

theorem pass {later : Environment} (passed : environment.Passes later)
    (keeping : source.Keeping spans cache environment) : source.Keeping spans cache later where
  once := keeping.once
  traced := keeping.traced.pass passed
  paced := fun final before => keeping.paced final (Int.le_trans passed.now before)

end Keeping

theorem keeping_of_course
    (course : Course @source.Checks Environment.Passes emptyCache spans cache environment) :
    source.Keeping spans cache environment :=
  course.keeps Keeping.start Keeping.call Keeping.pass

/-- Tokens are checked one after another, whichever they are, and the endpoint always answers with keys
one of which stays valid. The requests that it gets are at least the cooldown apart. -/
theorem requests_spaced
    (course : Course @source.Checks Environment.Passes emptyCache spans cache environment)
    (supplied : source.Supplied environment.now spans) : source.Spaced spans := by
  have keeping := keeping_of_course course
  exact ⟨keeping.once, (keeping.paced environment.now (Int.le_refl _) supplied).apart⟩

end KeySource

namespace Pestering

open KeySource Operation

def source : KeySource :=
  KeyRotation.source

def stray : SignedToken :=
  Withdrawal.stray

def answer (isFirst : Bool) : Except TransportError Response :=
  .ok <| .ofValue <| .ofMembers [("keys", .array
    [KeyRotation.entry (if isFirst then "k" else "new") "c2VjcmV0" [("exp", .ofInt 31)]])]

def network : Network :=
  fun earlier _ => answer earlier.isEmpty

def begun : Environment where
  now := .epoch
  network := network
  sent := []
  entropy := []
  flows := []

def first : Outcome VerifyError (Cache KeySet) Unit :=
  source.check stray emptyCache begun

def resumed : Environment :=
  { first.environment with now := ⟨30000⟩ }

def second : Outcome VerifyError (Cache KeySet) Unit :=
  source.check stray first.memory resumed

def spans : List Span :=
  [(source.check stray).span first.memory resumed, (source.check stray).span emptyCache begun]

theorem proceeds_first : begun.Proceeds first.environment :=
  (source.check_inquires stray emptyCache begun).proceeds

theorem network_resumed : resumed.network = network :=
  (Environment.Extends.elapse first.environment ⟨30000⟩).network.trans proceeds_first.network

theorem proceeds_second : resumed.Proceeds second.environment :=
  (source.check_inquires stray first.memory resumed).proceeds

theorem course :
    Course @source.Checks Environment.Passes emptyCache spans second.memory second.environment := by
  have called : Course @source.Checks Environment.Passes emptyCache
      [(source.check stray).span emptyCache begun] first.memory first.environment :=
    .call (.start begun) (.check stray)
  have forward : first.environment.now ≤ resumed.now := by
    rw [proceeds_first.now]
    decide
  exact (called.pass ⟨.elapse first.environment ⟨30000⟩, forward⟩).call (.check stray)

theorem lasting (isFirst : Bool) :
    (source.reading (answer isFirst)).toOption.any (·.hasValidKey ⟨30000⟩) = true := by
  cases isFirst <;> decide +kernel

theorem supplied : source.Supplied second.environment.now spans := by
  intro span listed earlier _
  have network : span.before.network = network := by
    rcases List.mem_cons.mp listed with rfl | listed
    · exact network_resumed
    · rw [List.mem_singleton.mp listed]
      rfl
  have valid := lasting (span.before.sent ++ earlier).isEmpty
  rw [network, proceeds_second.now]
  show ∃ set, source.reading (answer (span.before.sent ++ earlier).isEmpty) = .ok set ∧ _
  cases read : source.reading (answer (span.before.sent ++ earlier).isEmpty) with
  | error cause =>
    rw [read] at valid
    cases valid
  | ok set =>
    rw [read] at valid
    exact ⟨set, rfl, valid⟩

/-- A token under a key that was never published comes twice, as soon as it can make the keys be fetched
again. The endpoint changes its keys in between. -/
theorem asked_twice : source.Supplied second.environment.now spans ∧ source.Spaced spans ∧
    sendings spans = [(⟨30000⟩, .get source.endpoint), (⟨0⟩, .get source.endpoint)] :=
  ⟨supplied, requests_spaced course supplied, by decide +kernel⟩

end Pestering

end BearerIdentity
