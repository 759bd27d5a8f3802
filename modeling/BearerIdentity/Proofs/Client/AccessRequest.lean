import BearerIdentity.Proofs.Client.Frugality
import BearerIdentity.Proofs.Client.OwnName
import BearerIdentity.Proofs.Client.TokenFetch

set_option autoImplicit false

namespace BearerIdentity

open Operation

/-- These requests are sent, and no other ones, over the same network. -/
structure Environment.Transmits (earlier : Environment) (requests : List Request) (later : Environment) :
    Prop where
  network : later.network = earlier.network
  sent : later.sent = earlier.sent ++ requests

namespace Environment

variable {first second third : Environment} {requests others : List Request} {request : Request}

theorem Transmits.silent (environment : Environment) (flows : Flows) :
    environment.Transmits [] { environment with flows } where
  network := rfl
  sent := (List.append_nil _).symm

theorem Transmits.exchange (environment : Environment) (request : Request) :
    environment.Transmits [request] (environment.exchange request).2 where
  network := rfl
  sent := rfl

theorem Transmits.append (near : first.Transmits requests second) (far : second.Transmits others third) :
    first.Transmits (requests ++ others) third where
  network := far.network.trans near.network
  sent := by rw [far.sent, near.sent, List.append_assoc]

theorem Sends.transmits (sends : first.Sends request second) : first.Transmits [request] second where
  network := sends.network
  sent := sends.only

end Environment

namespace TokenResource

/-- What the fetch of a token sends: the request for it, and then maybe one for the keys that it is
checked with. -/
inductive Asks (resource : TokenResource) : List Request → Prop where
  | token : Asks resource [resource.request]
  | keys {source : KeySource} (known : resource.issuer.keySource? = some source) :
      Asks resource [resource.request, .get source.endpoint]

theorem fetch_transmits (resource : TokenResource) (keys : Cache KeySet) (environment : Environment) :
    ∃ requests, resource.Asks requests ∧
      environment.Transmits requests (resource.fetch keys environment).environment := by
  have asked := Environment.Transmits.exchange environment resource.request
  have checked (token : SignedToken) (later : Environment)
      (inquires : resource.issuer.Inquires token keys (environment.exchange resource.request).2 later) :
      ∃ requests, resource.Asks requests ∧ environment.Transmits requests later := by
    cases inquires with
    | idle => exact ⟨_, .token, asked⟩
    | asks _ _ known _ _ sends => exact ⟨_, .keys known, asked.append sends.transmits⟩
  rw [fetch_apply]
  split
  · exact ⟨_, .token, asked⟩
  · split
    · split
      · exact ⟨_, .token, asked⟩
      · split
        · exact ⟨_, .token, asked⟩
        · rename_i token _
          have inquires := checked token _ (resource.issuer.check_inquires token keys _)
          revert inquires
          rcases resource.issuer.check token keys (environment.exchange resource.request).2 with
            ⟨fault | _, keys₁, later⟩
          · exact id
          · exact id
    · exact ⟨_, .token, asked⟩

end TokenResource

def Request.BearsToken (request : Request) : Prop :=
  ∃ raw, request.header? "Authorization" = some ("Bearer " ++ raw)

/-- An answer with success yields a token, for which the access token in its body is read. -/
def Response.Yields (response : Response) (token : SignedToken) : Prop :=
  (200 ≤ response.status ∧ response.status < 300) ∧
    ∃ body raw, response.json TokenResponse.decoder = .ok body ∧ body.accessToken = some raw ∧ raw ≠ "" ∧
      SignedToken.parse raw = .ok token

theorem exists_token_iff {answer : Except TransportError Response} {token : SignedToken} :
    (∃ body, Exchange.reading TokenResponse.decoder Response.refusal answer = .ok body ∧
      body.token = .ok token) ↔ ∃ response, answer = .ok response ∧ response.Yields token := by
  simp only [Exchange.reading_eq_ok, TokenResponse.token_eq_ok, Response.Yields, Response.isSuccess,
    Bool.and_eq_true, decide_eq_true_eq]
  constructor
  · rintro ⟨body, ⟨response, answered, success, read⟩, raw, access, filled, parsed⟩
    exact ⟨response, answered, success, body, raw, read, access, filled, parsed⟩
  · rintro ⟨response, answered, success, body, raw, read, access, filled, parsed⟩
    exact ⟨body, ⟨response, answered, success, read⟩, raw, access, filled, parsed⟩

namespace ClientIdentity

variable {identity : ClientIdentity} {holder target : String} {uri : IdentityUri}
  {form : List (String × String)} {requests : List Request}

inductive AsksForOwn (identity : ClientIdentity) : List Request → Prop where
  | nothing : AsksForOwn identity []
  | fetch {requests : List Request} (asks : identity.resource.Asks requests) : AsksForOwn identity requests

theorem token_transmits (identity : ClientIdentity) (caches : Caches) (environment : Environment) :
    ∃ requests, identity.AsksForOwn requests ∧
      environment.Transmits requests (identity.token caches environment).environment := by
  have ends : (identity.token caches environment).environment =
      (identity.resource.renewal.get (caches.tokens, caches.keys) environment).environment := rfl
  rw [ends]
  obtain same | refreshed :=
    identity.resource.renewal.environment_get caches.tokens caches.keys environment
  · rw [same]
    exact ⟨[], .nothing, .silent environment environment.flows⟩
  · rw [refreshed]
    obtain ⟨flows, same⟩ :=
      identity.resource.renewal.environment_refresh caches.tokens caches.keys environment
    obtain ⟨requests, asks, fetched⟩ :=
      identity.resource.fetch_transmits caches.keys (environment.record .tokenRefresh .attempt)
    rw [same]
    exact ⟨requests, .fetch asks, fetched.network, fetched.sent⟩

/-- For a token of its own, the client presents none. -/
theorem AsksForOwn.not_bearsToken (asks : identity.AsksForOwn requests) {request : Request}
    (member : request ∈ requests) : ¬ request.BearsToken := by
  have basic : ¬ identity.resource.request.BearsToken := by
    rintro ⟨raw, bears⟩
    have header : identity.resource.request.header? "Authorization" =
        some (Request.basicCredentials identity.resource.grant.clientId
          identity.resource.grant.clientSecret.exposed) := rfl
    rw [header, Request.basicCredentials, Option.some.injEq] at bears
    have same := congrArg (fun text => text.toList[1]?) bears
    simp [String.toList_append] at same
  have plain (url : Url) : ¬ (Request.get url).BearsToken := by
    rintro ⟨raw, bears⟩
    cases bears
  cases asks with
  | nothing => cases member
  | fetch asks =>
    cases asks with
    | token =>
      rw [List.mem_singleton.mp member]
      exact basic
    | keys known =>
      simp only [List.mem_cons, List.not_mem_nil, or_false] at member
      rcases member with rfl | rfl
      · exact basic
      · exact plain _

/-- Why access is not requested, in the order in which this is found out. -/
inductive Precludes (identity : ClientIdentity) (holder target : String) : Error → Prop where
  | foreign {cause : Error} (refused : identity.ensureSelf holder = .error cause) :
      Precludes identity holder target cause
  | unread {cause : ConfigError} (self : identity.ensureSelf holder = .ok ())
      (unread : IdentityUri.parse target = .error cause) : Precludes identity holder target (.config cause)
  | unaddressed {uri : IdentityUri} {cause : Error} (self : identity.ensureSelf holder = .ok ())
      (read : IdentityUri.parse target = .ok uri) (refused : identity.accessForm uri target = .error cause) :
      Precludes identity holder target cause

/-- The client itself asks for access to a target, with this form. -/
structure Addresses (identity : ClientIdentity) (holder target : String) (form : List (String × String)) :
    Prop where
  self : identity.ensureSelf holder = .ok ()
  posts : ∃ uri, IdentityUri.parse target = .ok uri ∧ identity.accessForm uri target = .ok form

def ticketRequest (identity : ClientIdentity) (form : List (String × String)) (own : SignedToken) :
    Request where
  method := .post
  url := identity.resource.endpoint
  headers := [("Authorization", "Bearer " ++ own.raw)]
  form := some form

def exchangeForm (identity : ClientIdentity) (holder target : String) (form : List (String × String))
    (grantType : String) : Operation Error Caches AccessTicket := do
  let request ← identity.authenticate (.postForm identity.resource.endpoint form)
  let response ← Exchange.postForm TokenResponse.decoder request
  let token ← Operation.ofExcept response.token
  Operation.succeed { holder, target, grantType, token }

theorem issued_iff {answer : Except Error TokenResponse} {grantType : String} {ticket : AccessTicket} :
    (answer >>= fun body => body.token.map (AccessTicket.mk holder target grantType)).mapError Fault.error =
        .ok ticket ↔
      ticket.holder = holder ∧ ticket.target = target ∧ ticket.grantType = grantType ∧
        ∃ body, answer = .ok body ∧ body.token = .ok ticket.token := by
  obtain ⟨holder', target', grantType', token'⟩ := ticket
  cases answer with
  | error cause => simp [Bind.bind, Except.bind]
  | ok body =>
    cases read : body.token with
    | error cause => simp [Bind.bind, Except.bind, Except.map, read]
    | ok token => simp [Bind.bind, Except.bind, Except.map, read, eq_comm]

/-- With a token of its own, the client sends one request, and makes a ticket of the answer. -/
theorem exchangeForm_apply (grantType : String) (caches : Caches) (environment : Environment) :
    identity.exchangeForm holder target form grantType caches environment =
      match identity.token caches environment with
      | ⟨.error fault, caches, environment⟩ => ⟨.error fault, caches, environment⟩
      | ⟨.ok own, caches, environment⟩ =>
        ⟨((Exchange.reading TokenResponse.decoder Response.refusal
            (environment.network environment.sent (identity.ticketRequest form own)) >>=
              fun body => body.token.map (AccessTicket.mk holder target grantType)).mapError .error),
          caches, (environment.exchange (identity.ticketRequest form own)).2⟩ := by
  simp only [exchangeForm, authenticate, Bind.bind, andThen]
  rcases identity.token caches environment with ⟨fault | own, caches₁, environment₁⟩
  · rfl
  · have sent : (Request.postForm identity.resource.endpoint form).withBearer own.raw =
        identity.ticketRequest form own := rfl
    simp only [succeed, sent, Exchange.postForm, Exchange.fetch_apply]
    cases Exchange.reading TokenResponse.decoder Response.refusal
        (environment₁.network environment₁.sent (identity.ticketRequest form own)) with
    | error cause => rfl
    | ok response =>
      simp only [mapError_ok, Except.bind]
      cases response.token with
      | error cause => rfl
      | ok token => rfl

/-- What a request for access does, given what becomes of the client's own token. -/
structure Effect (identity : ClientIdentity) (holder target : String) (caches : Caches)
    (environment : Environment) (own : Outcome Error Caches SignedToken)
    (outcome : Outcome Error Caches AccessTicket) : Prop where
  /-- Either something precludes it, or it can be addressed. -/
  decided : (∃ cause, identity.Precludes holder target cause) ∨
    ∃ form, identity.Addresses holder target form
  /-- What precludes it is reported. Nothing is sent, and nothing changes in the caches. -/
  precluded : ∀ cause, identity.Precludes holder target cause →
    outcome.result = .error (.error cause) ∧ outcome.memory = caches ∧
      outcome.environment.sent = environment.sent
  /-- Otherwise nothing changes but through the client's own token. No token is presented to obtain it. -/
  obtains : ∀ form, identity.Addresses holder target form → outcome.memory = own.memory ∧
    ∃ requests, identity.AsksForOwn requests ∧ own.environment.sent = environment.sent ++ requests ∧
      ∀ request ∈ requests, ¬ request.BearsToken
  /-- Without it, nothing more is sent. -/
  tokenless : ∀ form fault, identity.Addresses holder target form → own.result = .error fault →
    outcome.result = .error fault ∧ outcome.environment.sent = own.environment.sent
  /-- With it, one request more is sent, and the ticket is what the answer to this request yields. -/
  asked : ∀ form token, identity.Addresses holder target form → own.result = .ok token →
    outcome.environment.sent = own.environment.sent ++ [identity.ticketRequest form token] ∧
      ∀ ticket, outcome.result = .ok ticket ↔ ticket.holder = holder ∧ ticket.target = target ∧
        (identity.ticketRequest form token).formValue? "grant_type" = some ticket.grantType ∧
        ∃ response, environment.network own.environment.sent (identity.ticketRequest form token) =
          .ok response ∧ response.Yields ticket.token

theorem precludes_or_addresses (identity : ClientIdentity) (holder target : String) :
    (∃ cause, identity.Precludes holder target cause) ∨
      ∃ form, identity.Addresses holder target form := by
  cases self : identity.ensureSelf holder with
  | error cause => exact .inl ⟨cause, .foreign self⟩
  | ok _ =>
    cases read : IdentityUri.parse target with
    | error cause => exact .inl ⟨_, .unread self read⟩
    | ok uri =>
      cases posts : identity.accessForm uri target with
      | error cause => exact .inl ⟨cause, .unaddressed self read posts⟩
      | ok form => exact .inr ⟨form, self, uri, read, posts⟩

theorem requestAccess_of_read (self : identity.ensureSelf holder = .ok ())
    (read : IdentityUri.parse target = .ok uri) (caches : Caches) (environment : Environment) :
    identity.requestAccess holder target caches environment =
      observe .requestAccess (Operation.ofExcept (identity.accessForm uri target) >>= fun form =>
        identity.exchangeForm holder target form (identity.accessGrant uri)) caches environment := by
  rw [requestAccess, self, read]
  rfl

theorem requestAccess_of_precludes {cause : Error} (precludes : identity.Precludes holder target cause)
    (caches : Caches) (environment : Environment) :
    identity.requestAccess holder target caches environment =
      ⟨.error (.error cause), caches,
        (environment.record .requestAccess .attempt).record .requestAccess .failure⟩ := by
  cases precludes with
  | foreign refused => exact refused_of_ensureSelf refused target caches environment
  | unread self unread =>
    rw [requestAccess, self, unread]
    rfl
  | unaddressed self read refused =>
    rw [requestAccess_of_read self read, refused]
    rfl

theorem requestAccess_of_posts (self : identity.ensureSelf holder = .ok ())
    (read : IdentityUri.parse target = .ok uri) (posts : identity.accessForm uri target = .ok form)
    (caches : Caches) (environment : Environment) :
    ∃ flows, identity.requestAccess holder target caches environment =
      { identity.exchangeForm holder target form (identity.accessGrant uri) caches
          (environment.record .requestAccess .attempt) with
        environment :=
          { (identity.exchangeForm holder target form (identity.accessGrant uri) caches
              (environment.record .requestAccess .attempt)).environment with flows } } := by
  rw [requestAccess_of_read self read, posts]
  exact exists_observe .requestAccess (identity.exchangeForm holder target form _) caches environment

theorem formValue?_of_accessForm (posts : identity.accessForm uri target = .ok form) (own : SignedToken) :
    (identity.ticketRequest form own).formValue? "grant_type" = some (identity.accessGrant uri) := by
  unfold accessForm at posts
  split at posts
  · cases posts
  · cases posts
    rfl

/-- Every request for access has this effect, whatever is cached and whatever the network answers. -/
theorem requestAccess_effect (identity : ClientIdentity) (holder target : String) (caches : Caches)
    (environment : Environment) : identity.Effect holder target caches environment
      (identity.token caches (environment.record .requestAccess .attempt))
      (identity.requestAccess holder target caches environment) where
  decided := identity.precludes_or_addresses holder target
  precluded := by
    intro cause precludes
    rw [requestAccess_of_precludes precludes]
    exact ⟨rfl, rfl, rfl⟩
  obtains := by
    rintro form ⟨self, uri, read, posts⟩
    obtain ⟨flows, same⟩ := requestAccess_of_posts self read posts caches environment
    obtain ⟨requests, asks, transmitted⟩ :=
      identity.token_transmits caches (environment.record .requestAccess .attempt)
    refine ⟨?_, requests, asks, transmitted.sent, fun _ => asks.not_bearsToken⟩
    rw [same, exchangeForm_apply]
    rcases identity.token caches _ with ⟨fault | own, caches₁, environment₁⟩
    · rfl
    · rfl
  tokenless := by
    rintro form fault ⟨self, uri, read, posts⟩ failed
    obtain ⟨flows, same⟩ := requestAccess_of_posts self read posts caches environment
    rw [same, exchangeForm_apply, Outcome.eq_of_result failed]
    exact ⟨rfl, rfl⟩
  asked := by
    rintro form own ⟨self, uri, read, posts⟩ obtained
    obtain ⟨flows, same⟩ := requestAccess_of_posts self read posts caches environment
    obtain ⟨requests, -, transmitted⟩ :=
      identity.token_transmits caches (environment.record .requestAccess .attempt)
    have network : environment.network =
        (identity.token caches (environment.record .requestAccess .attempt)).environment.network :=
      transmitted.network.symm
    rw [same, exchangeForm_apply, network, Outcome.eq_of_result obtained]
    refine ⟨rfl, fun ticket => ?_⟩
    rw [formValue?_of_accessForm posts, ← exists_token_iff, issued_iff, Option.some.injEq,
      eq_comm (a := ticket.grantType)]

end ClientIdentity

end BearerIdentity
