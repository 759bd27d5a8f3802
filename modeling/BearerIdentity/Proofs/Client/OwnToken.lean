import BearerIdentity.Proofs.Client.Acceptance
import BearerIdentity.Proofs.Client.TokenFetch
import BearerIdentity.Proofs.Token.Validity

set_option autoImplicit false

namespace BearerIdentity

open Operation

namespace SignedToken

theorem expiry_of_needsRefresh {ε : Type} {token : SignedToken} {now : Instant}
    (lasts : (token.needsRefresh now : Except (Fault ε) Bool) = .ok false) :
    ∃ expiry, token.claims.expiresAt? = some expiry ∧ now.millis < expiry.millis - 60000 := by
  unfold needsRefresh at lasts
  split at lasts
  · cases lasts
  · rename_i expiry read
    split at lasts
    · cases lasts
    · rename_i deadline shifted
      have moved := Instant.millis_of_shift? shifted
      have early : ¬ deadline.millis ≤ now.millis := of_decide_eq_false (Except.ok.inj lasts)
      refine ⟨expiry, read, ?_⟩
      simp only [refreshMargin] at moved
      omega

end SignedToken

namespace TokenResource

variable {resource : TokenResource} {spans : List Span} {since environment : Environment}
  {cache : Cache SignedToken} {keys : Cache KeySet}

/-- A token was vouched for in one of these spans. -/
def Vouched (resource : TokenResource) (spans : List Span) (token : SignedToken) : Prop :=
  ∃ span ∈ spans, resource.Vouches token span

/-- In a call, fetches yield tokens that are vouched for, in this call or in an earlier one. -/
theorem vouching (spans : List Span) (since : Environment) :
    resource.renewal.Fetches
      (fun token environment => resource.Vouched (⟨since, environment⟩ :: spans) token)
      (resource.issuer.Tended since) where
  keeps := fetch_keeps
  proceeds := fun tended => (fetch_keeps _ _ tended.1.tended).2
  yields := fun tended fetched => ⟨_, List.mem_cons_self, fetch_vouches tended fetched⟩
  lasting := Issuer.lasting_tended since
  yields_lasting := by
    rintro token earlier later ⟨span, listed, vouches⟩ extends_
    rcases List.mem_cons.mp listed with rfl | listed
    · exact ⟨_, List.mem_cons_self, vouches.later extends_⟩
    · exact ⟨span, List.mem_cons_of_mem _ listed, vouches⟩

/-- What a call for the token may leave behind. -/
structure Honest (resource : TokenResource) (spans : List Span) (keys : Cache KeySet)
    (environment : Environment)
    (outcome : Outcome Error (Cache SignedToken × Cache KeySet) SignedToken) : Prop where
  /-- The token was vouched for, in this call or in an earlier one. -/
  yields : ∀ token, outcome.result = .ok token →
    resource.Vouched (⟨environment, outcome.environment⟩ :: spans) token
  /-- A token that was not fetched expires in more than a minute. -/
  serves : ∀ token, outcome.result = .ok token → outcome.environment.sent = environment.sent →
    ∃ expiry, token.claims.expiresAt? = some expiry ∧
      environment.now.millis < expiry.millis - 60000
  /-- A fetch that fails is reported, and leaves no token. -/
  fails : outcome.environment.sent ≠ environment.sent →
    resource.Fails keys (environment.record .tokenRefresh .attempt) →
    outcome.memory.1.value = none ∧ ∃ cause, outcome.result = .error (.error cause)

theorem refresh_sends (backed : resource.issuer.Backed keys environment) :
    (resource.renewal.refresh (cache, keys) environment).environment.sent ≠ environment.sent := by
  have begun := Issuer.lasting_tended _ _ _ _ backed.tended (.record environment .tokenRefresh .attempt)
  have sent := (fetch_sends begun.1.tended).length_le
  intro unsent
  rw [Renewal.sent_refresh] at unsent
  have same : (resource.fetch keys (environment.record .tokenRefresh .attempt)).environment.sent =
      environment.sent := unsent
  rw [same, List.length_append] at sent
  exact Nat.not_succ_le_self _ sent

theorem refresh_honest (backed : resource.issuer.Backed keys environment) :
    resource.Honest spans keys environment (resource.renewal.refresh (cache, keys) environment) where
  yields := fun token given =>
    (vouching spans environment).refresh_yields backed.tended (Outcome.eq_of_result given)
  serves := fun token given unsent => absurd unsent (refresh_sends backed)
  fails := by
    intro sent fails
    obtain ⟨cause, errs⟩ := fails_iff.mp fails
    obtain ⟨keys', environment', fetched⟩ : ∃ keys' environment',
        resource.renewal.fetch keys (environment.record resource.renewal.kind .attempt) =
          ⟨.error (.error cause), keys', environment'⟩ := ⟨_, _, Outcome.eq_of_result errs⟩
    simp only [Renewal.refresh_apply, observe_apply, fetched, Cache.settle_error]
    exact ⟨trivial, _, rfl⟩

/-- A cache whose tokens have been vouched for answers honestly, whether it fetches or not. -/
theorem get_honest (held : ∀ token, cache.value = some token → resource.Vouched spans token)
    (backed : resource.issuer.Backed keys environment) :
    resource.Honest spans keys environment (resource.renewal.get (cache, keys) environment) := by
  rw [Renewal.get_apply]
  split
  · exact refresh_honest backed
  · rename_i token young
    split
    · exact refresh_honest backed
    · rename_i lasts
      refine ⟨?_, ?_, fun sent => absurd rfl sent⟩
      · rintro _ ⟨⟩
        obtain ⟨span, listed, vouches⟩ := held token (Cache.value_of_unaged? young)
        exact ⟨span, List.mem_cons_of_mem _ listed, vouches⟩
      · rintro _ ⟨⟩ -
        exact SignedToken.expiry_of_needsRefresh lasts
    · refine ⟨?_, ?_, fun sent => absurd rfl sent⟩
      · rintro _ ⟨⟩
      · rintro _ ⟨⟩
    · refine ⟨?_, ?_, fun sent => absurd rfl sent⟩
      · rintro _ ⟨⟩
      · rintro _ ⟨⟩

theorem renew_honest (cache : Cache SignedToken) (backed : resource.issuer.Backed keys environment) :
    resource.Honest spans keys environment (resource.renewal.renew (cache, keys) environment) := by
  rw [Renewal.renew_apply]
  exact refresh_honest backed

end TokenResource

namespace ClientIdentity

variable {identity : ClientIdentity} {spans : List Span} {caches : Caches} {environment : Environment}
  {α : Type} {operation : Operation Error Caches α} {bear : SignedToken → α}

/-- The operations that hand out the client's own token, and in what shape. -/
inductive Hands (identity : ClientIdentity) :
    {α : Type} → Operation Error Caches α → (SignedToken → α) → Prop where
  | token : Hands identity identity.token id
  | renew : Hands identity identity.renew id
  | authenticate (request : Request) :
      Hands identity (identity.authenticate request) fun token => request.withBearer token.raw

/-- What may happen to the client's own token, and to the keys that it is checked with. -/
inductive Bears (identity : ClientIdentity) : {α : Type} → Operation Error Caches α → Prop where
  | hand {α : Type} {operation : Operation Error Caches α} {bear : SignedToken → α}
      (hands : Hands identity operation bear) : Bears identity operation
  | clearToken : Bears identity clearToken
  | clearKeys : Bears identity clearKeys
  | reclaim : Bears identity (Operation.revise fun caches => caches.reclaim?.getD caches)

/-- Every token that is cached has been vouched for, and the keys were published by the issuer. -/
structure Trusted (identity : ClientIdentity) (spans : List Span) (caches : Caches)
    (environment : Environment) : Prop where
  held : ∀ token, caches.tokens.value = some token → identity.resource.Vouched spans token
  backed : identity.resource.issuer.Backed caches.keys environment

theorem Trusted.sound (trusted : identity.Trusted spans caches environment) :
    Renewal.Sound (fun token later => identity.resource.Vouched (⟨environment, later⟩ :: spans) token)
      (identity.resource.issuer.Tended environment) (caches.tokens, caches.keys) environment := by
  refine ⟨⟨?_, ?_⟩, trusted.backed.tended⟩
  · rintro token stored _ ⟨⟩
    obtain ⟨span, listed, vouches⟩ := trusted.held token stored
    exact ⟨span, List.mem_cons_of_mem _ listed, vouches⟩
  · rintro failure - _ ⟨⟩

theorem Hands.obtains (hands : identity.Hands operation bear)
    (trusted : identity.Trusted spans caches environment) :
    ∃ obtained, identity.resource.Honest spans caches.keys environment obtained ∧
      identity.Trusted (⟨environment, obtained.environment⟩ :: spans)
        ⟨obtained.memory.1, obtained.memory.2⟩ obtained.environment ∧
      operation caches environment =
        ⟨obtained.result.map bear, ⟨obtained.memory.1, obtained.memory.2⟩, obtained.environment⟩ := by
  have fetches : identity.resource.renewal.Fetches
      (fun token later => identity.resource.Vouched (⟨environment, later⟩ :: spans) token)
      (identity.resource.issuer.Tended environment) := TokenResource.vouching spans environment
  have got := fetches.get_keeps _ _ trusted.sound
  have renewed := fetches.renew_keeps _ _ trusted.sound
  cases hands with
  | token =>
    refine ⟨_, TokenResource.get_honest trusted.held trusted.backed, ?_, ?_⟩
    · exact ⟨fun token stored => got.1.value stored, got.2.1⟩
    · rw [Except.map_id]
      rfl
  | renew =>
    refine ⟨_, TokenResource.renew_honest caches.tokens trusted.backed, ?_, ?_⟩
    · exact ⟨fun token stored => renewed.1.value stored, renewed.2.1⟩
    · rw [Except.map_id]
      rfl
  | authenticate request =>
    refine ⟨_, TokenResource.get_honest trusted.held trusted.backed, ?_, ?_⟩
    · exact ⟨fun token stored => got.1.value stored, got.2.1⟩
    · simp only [ClientIdentity.authenticate, ClientIdentity.token, Caches.onTokens, onPart, Bind.bind,
        andThen]
      rcases identity.resource.renewal.get (caches.tokens, caches.keys) environment with
        ⟨fault | token, ⟨tokens, keys⟩, environment₁⟩
      · rfl
      · rfl

theorem Bears.trusted (bears : identity.Bears operation)
    (trusted : identity.Trusted spans caches environment) :
    identity.Trusted (operation.span caches environment :: spans) (operation caches environment).memory
      (operation caches environment).environment := by
  have earlier : ∀ token, identity.resource.Vouched spans token →
      identity.resource.Vouched (operation.span caches environment :: spans) token := by
    rintro token ⟨span, listed, vouches⟩
    exact ⟨span, List.mem_cons_of_mem _ listed, vouches⟩
  cases bears with
  | hand hands =>
    obtain ⟨obtained, -, after, outcome⟩ := hands.obtains trusted
    rw [span, outcome]
    exact after
  | clearToken =>
    refine ⟨?_, trusted.backed⟩
    rintro _ ⟨⟩
  | clearKeys =>
    exact ⟨fun token stored => earlier token (trusted.held token stored), fun _ _ => .of_none rfl rfl⟩
  | reclaim =>
    show identity.Trusted _ (caches.reclaim?.getD caches) environment
    cases given : caches.reclaim? with
    | none => exact ⟨fun token stored => earlier token (trusted.held token stored), trusted.backed⟩
    | some freed =>
      obtain ⟨keys, reclaimed, rfl⟩ := Option.map_eq_some_iff.mp given
      exact ⟨fun token stored => earlier token (trusted.held token stored),
        fun source known => (trusted.backed source known).reclaim reclaimed⟩

/-- What is known of the client's own token, after the calls in these spans. -/
structure Guards (identity : ClientIdentity) (spans : List Span) (caches : Caches)
    (environment : Environment) : Prop where
  /-- Whatever is cached has been vouched for. -/
  held : ∀ token, caches.tokens.value = some token → identity.resource.Vouched spans token
  /-- Whatever is handed out next has been vouched for. Unless it is fetched, it expires in more than a
  minute. -/
  hands : ∀ {α : Type} {operation : Operation Error Caches α} {bear : SignedToken → α},
    identity.Hands operation bear → ∀ value, (operation caches environment).result = .ok value →
      ∃ token, value = bear token ∧
        identity.resource.Vouched (operation.span caches environment :: spans) token ∧
        ((operation caches environment).environment.sent = environment.sent →
          ∃ expiry, token.claims.expiresAt? = some expiry ∧
            environment.now.millis < expiry.millis - 60000)
  /-- A fetch that fails hands out nothing and leaves nothing. -/
  fails : ∀ {α : Type} {operation : Operation Error Caches α} {bear : SignedToken → α},
    identity.Hands operation bear →
      (operation caches environment).environment.sent ≠ environment.sent →
      identity.resource.Fails caches.keys (environment.record .tokenRefresh .attempt) →
        (operation caches environment).memory.tokens.value = none ∧
          ∃ cause, (operation caches environment).result = .error (.error cause)

theorem trusted_of_course
    (course : Course @identity.Bears Environment.Extends Caches.empty spans caches environment) :
    identity.Trusted spans caches environment := by
  refine course.keeps (fun environment => ⟨?_, ?_⟩) (fun bears trusted => bears.trusted trusted)
    fun passed trusted => ⟨trusted.held, trusted.backed.later passed⟩
  · rintro _ ⟨⟩
  · exact fun source known => KeySource.backed_ageing _ _

/-- The client's own token is guarded, whatever is done with it and whenever. -/
theorem guards_of_course
    (course : Course @identity.Bears Environment.Extends Caches.empty spans caches environment) :
    identity.Guards spans caches environment := by
  have trusted := trusted_of_course course
  refine ⟨trusted.held, fun hands value given => ?_, fun hands sent fails => ?_⟩
  · obtain ⟨obtained, honest, -, outcome⟩ := hands.obtains trusted
    rw [span]
    rw [outcome] at given ⊢
    cases yielded : obtained.result with
    | error fault =>
      rw [yielded] at given
      cases given
    | ok token =>
      rw [yielded] at given
      cases given
      exact ⟨token, rfl, honest.yields token yielded, honest.serves token yielded⟩
  · obtain ⟨obtained, honest, -, outcome⟩ := hands.obtains trusted
    rw [outcome] at sent ⊢
    obtain ⟨empty, cause, errs⟩ := honest.fails sent fails
    exact ⟨empty, cause, by rw [errs]; rfl⟩

end ClientIdentity

namespace Outage

open ClientIdentity

def identity : ClientIdentity :=
  Visit.identity

def raw : String :=
  "eyJhbGciOiJIUzI1NiIsImtpZCI6ImsifQ." ++
    "eyJpc3MiOiJpIiwiaWF0Ijo1LCJleHAiOjYwMH0." ++
    "m4iYE40SBrVzQRvfRSIk3ZozVHXr34cztMbSF6kYlxE"

def network : Network := fun earlier request =>
  match request.method with
  | .get =>
    .ok <| .ofValue <| .ofMembers [("keys", .array [.ofMembers
      [("kty", .string "oct"), ("kid", .string "k"), ("k", .string "c2VjcmV0")]])]
  | .post =>
    if earlier.isEmpty then .ok (.ofValue (.ofMembers [("access_token", .string raw)]))
    else .ok ⟨503, none, []⟩

def begun : Environment where
  now := ⟨60000⟩
  network := network
  sent := []
  entropy := []
  flows := []

def first : Outcome Error Caches SignedToken :=
  identity.token Caches.empty begun

def later (now : Instant) : Environment :=
  { first.environment with now }

def ninth : Environment :=
  later ⟨500000⟩

def tenth : Environment :=
  later ⟨550000⟩

def request : Request :=
  .get (Visit.place "things")

theorem course (now : Instant) :
    Course @identity.Bears Environment.Extends Caches.empty [identity.token.span Caches.empty begun]
      first.memory (later now) := by
  have called : Course @identity.Bears Environment.Extends Caches.empty
      [identity.token.span Caches.empty begun] first.memory first.environment :=
    .call (.start begun) (.hand .token)
  exact called.pass (.elapse first.environment now)

def isDown (environment : Environment) : Bool :=
  match environment.network environment.sent identity.resource.request with
  | .ok response => !response.isSuccess
  | .error _ => true

theorem fails_of_isDown {environment : Environment} (down : isDown environment = true)
    (keys : Cache KeySet) :
    identity.resource.Fails keys (environment.record .tokenRefresh .attempt) := by
  unfold isDown at down
  cases replied : environment.network environment.sent identity.resource.request with
  | error cause => exact .unreachable replied
  | ok response =>
    rw [replied] at down
    exact .refused replied (by simpa using down)

theorem observed :
    (identity.authenticate request first.memory ninth).result.isOk = true ∧
      (identity.authenticate request first.memory ninth).environment.sent = ninth.sent ∧
      (identity.token first.memory tenth).environment.sent ≠ tenth.sent ∧ isDown tenth = true := by
  decide +kernel

/-- A token of ten minutes, after which the token endpoint is down. The token is attached to requests in
the ninth minute, and is given up in the tenth. -/
theorem served_then_given_up :
    (∃ token : SignedToken, (identity.authenticate request first.memory ninth).result =
        .ok (request.withBearer token.raw) ∧
      ∃ expiry, token.claims.expiresAt? = some expiry ∧ ninth.now.millis < expiry.millis - 60000) ∧
    (identity.token first.memory tenth).memory.tokens.value = none := by
  obtain ⟨passed, unsent, sent, down⟩ := observed
  obtain ⟨value, given⟩ := exists_ok_of_isOk passed
  have inNinth : identity.Guards [identity.token.span Caches.empty begun] first.memory ninth :=
    guards_of_course (course ⟨500000⟩)
  have inTenth : identity.Guards [identity.token.span Caches.empty begun] first.memory tenth :=
    guards_of_course (course ⟨550000⟩)
  obtain ⟨token, rfl, -, lasts⟩ := inNinth.hands (.authenticate request) value given
  exact ⟨⟨token, given, lasts unsent⟩, (inTenth.fails .token sent (fails_of_isDown down _)).1⟩

end Outage

end BearerIdentity
