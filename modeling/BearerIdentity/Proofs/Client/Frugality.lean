import BearerIdentity.Proofs.Client.Acceptance
import BearerIdentity.Proofs.Key.Pacing

set_option autoImplicit false

namespace BearerIdentity

open Operation

namespace Issuer

/-- What the check of a token asks of the endpoint for keys. -/
inductive Inquires (issuer : Issuer) (token : SignedToken) (keys : Cache KeySet)
    (environment : Environment) : Environment → Prop
  | idle : Inquires issuer token keys environment environment
  | asks {source : KeySource} {later : Environment}
      (name : token.claims.issuer = some issuer.metadata.issuer)
      (issued : ∃ issued, token.claims.issuedAt? = some issued ∧ issued ≤ environment.now)
      (known : issuer.keySource? = some source) (checkable : KeySource.Checkable token)
      (due : KeySource.Due keys environment.now) (sends : environment.Sends (.get source.endpoint) later) :
      Inquires issuer token keys environment later

theorem check_inquires (issuer : Issuer) (token : SignedToken) (keys : Cache KeySet)
    (environment : Environment) :
    issuer.Inquires token keys environment (issuer.check token keys environment).environment := by
  cases name : issuer.checkName token with
  | error cause =>
    simp only [check, name, Operation.ofExcept, Bind.bind, andThen, fail]
    exact .idle
  | ok _ =>
    cases date : checkIssueDate token environment.now with
    | error cause =>
      simp only [check, name, date, Operation.ofExcept, Bind.bind, andThen, succeed, Operation.now, fail]
      exact .idle
    | ok _ =>
      cases known : issuer.keySource? with
      | none =>
        simp only [check, name, date, known, Operation.ofExcept, ofOption, Bind.bind, andThen, succeed,
          Operation.now, fail]
        exact .idle
      | some source =>
        have checked : issuer.check token keys environment = source.check token keys environment := by
          simp only [check, name, date, known, Operation.ofExcept, ofOption, Bind.bind, andThen, succeed,
            Operation.now]
        have inquires := source.check_inquires token keys environment
        rw [checked]
        generalize source.check token keys environment = outcome at inquires ⊢
        rcases outcome with ⟨result, keys', later⟩
        cases inquires with
        | idle => exact .idle
        | asks checkable due sends refreshed =>
          exact .asks (checkName_eq_ok.mp name) (checkIssueDate_eq_ok.mp date) known checkable due sends

end Issuer

namespace ClientIdentity

variable {identity : ClientIdentity} {raw : String} {token : SignedToken} {caches : Caches}
  {environment : Environment}

/-- A token that others may be asked about: it can be read, names the issuer, was issued, and names a key
and an algorithm that is known. -/
structure Presentable (identity : ClientIdentity) (raw : String) (now : Instant) (token : SignedToken) :
    Prop where
  read : SignedToken.parse raw = .ok token
  issuer : token.claims.issuer = some identity.issuer.metadata.issuer
  configured : identity.Fits → token.claims.issuer = identity.config.issuer
  issued : ∃ issued, token.claims.issuedAt? = some issued ∧ issued ≤ now
  checkable : KeySource.Checkable token

theorem Presentable.of_issuer {now : Instant} (read : SignedToken.parse raw = .ok token)
    (issuer : token.claims.issuer = some identity.issuer.metadata.issuer)
    (issued : ∃ issued, token.claims.issuedAt? = some issued ∧ issued ≤ now)
    (checkable : KeySource.Checkable token) : identity.Presentable raw now token where
  read := read
  issuer := issuer
  configured := fun fits => by rw [issuer, fits.issuer]
  issued := issued
  checkable := checkable

/-- A token whose signature and claims were found good, after these requests for keys. -/
structure Vouched (identity : ClientIdentity) (raw : String) (token : SignedToken) (caches : Caches)
    (environment : Environment) (fetched : List Request) : Prop where
  presentable : identity.Presentable raw environment.now token
  signed : ∃ source, identity.issuer.keySource? = some source ∧
    (source.check token caches.keys environment).result = .ok () ∧
    (source.check token caches.keys environment).environment.sent = environment.sent ++ fetched
  claims : token.claims.check identity.config.requiredClaims environment.now = .ok ()

/-- What verification sends: requests for keys, and then requests about the token. -/
structure Traffic (identity : ClientIdentity) (raw : String) (caches : Caches)
    (environment : Environment) (fetched asked : List Request) : Prop where
  /-- Nothing else is sent. -/
  sent : (identity.verifyToken raw caches environment).environment.sent =
    environment.sent ++ fetched ++ asked
  /-- Nothing is sent at all for a token that is not presentable. -/
  presentable : fetched ++ asked ≠ [] → ∃ token, identity.Presentable raw environment.now token
  /-- The keys are fetched at most once, and only if they are due. -/
  fetches : fetched = [] ∨ ∃ source, identity.issuer.keySource? = some source ∧
    fetched = [.get source.endpoint] ∧ KeySource.Due caches.keys environment.now
  /-- The issuer is asked at most once, and only if it is to be asked, and about a good token. -/
  asks : asked = [] ∨ ∃ endpoint token, identity.config.verification = .byIntrospection ∧
    identity.issuer.metadata.endpoints.introspection = some endpoint ∧
    asked = [Introspection.request endpoint identity.config.clientId identity.config.clientSecret raw] ∧
    identity.Vouched raw token caches environment fetched

theorem introspect_sends (identity : ClientIdentity) (raw : String) (caches : Caches)
    (environment : Environment) :
    (identity.introspect raw caches environment).environment = environment ∨
      ∃ endpoint, identity.issuer.metadata.endpoints.introspection = some endpoint ∧
        (identity.introspect raw caches environment).environment.sent = environment.sent ++
          [Introspection.request endpoint identity.config.clientId identity.config.clientSecret raw] := by
  cases known : identity.issuer.metadata.endpoints.introspection with
  | none =>
    refine .inl ?_
    simp only [introspect, known, ofOption, Bind.bind, andThen, fail]
  | some endpoint =>
    refine .inr ⟨endpoint, rfl, ?_⟩
    simp only [introspect, known, ofOption, succeed, Bind.bind, andThen, Exchange.postForm,
      Exchange.fetch_apply]
    cases Exchange.reading Introspection.decoder Response.refusal _ with
    | error cause => rfl
    | ok answer =>
      simp only [mapError_ok]
      split <;> rfl

/-- Verification ends where the check of the issuer has ended, or goes on to introspection once signature
and claims were found good. -/
theorem environment_verifyToken (identity : ClientIdentity) (caches : Caches) (environment : Environment)
    (read : SignedToken.parse raw = .ok token) :
    (identity.verifyToken raw caches environment).environment =
        (identity.checkIssuer token caches environment).environment ∨
      ∃ caches₁ environment₁,
        identity.checkIssuer token caches environment = ⟨.ok (), caches₁, environment₁⟩ ∧
        token.claims.check identity.config.requiredClaims environment₁.now = .ok () ∧
        identity.config.verification = .byIntrospection ∧
        (identity.verifyToken raw caches environment).environment =
          (identity.introspect raw caches₁ environment₁).environment := by
  have onward : identity.verifyToken raw caches environment =
      (do
        identity.checkIssuer token
        identity.checkClaims token
        if identity.config.verification = .byIntrospection then identity.introspect raw
        Operation.succeed token : Operation Error Caches SignedToken) caches environment := by
    unfold verifyToken
    rw [read]
    rfl
  rw [onward]
  simp only [Bind.bind, andThen]
  rcases identity.checkIssuer token caches environment with ⟨fault | _, caches₁, environment₁⟩
  · exact .inl rfl
  · have claimed : identity.checkClaims token caches₁ environment₁ =
        ⟨(token.claims.check identity.config.requiredClaims environment₁.now).mapError
          (Fault.map .verification), caches₁, environment₁⟩ := rfl
    simp only [claimed]
    cases claims : token.claims.check identity.config.requiredClaims environment₁.now with
    | error fault => exact .inl rfl
    | ok _ =>
      by_cases mode : identity.config.verification = .byIntrospection
      · refine .inr ⟨caches₁, environment₁, rfl, claims, mode, ?_⟩
        simp only [mapError_ok, mode, ite_true, andThen]
        rcases identity.introspect raw caches₁ environment₁ with ⟨fault | _, caches₂, environment₂⟩ <;> rfl
      · refine .inl ?_
        simp only [mapError_ok, mode, ite_false, succeed]

theorem fetched_of_inquires {later : Environment} (read : SignedToken.parse raw = .ok token)
    (inquires : identity.issuer.Inquires token caches.keys environment later) :
    ∃ fetched, later.sent = environment.sent ++ fetched ∧
      (fetched ≠ [] → identity.Presentable raw environment.now token) ∧
      (fetched = [] ∨ ∃ source, identity.issuer.keySource? = some source ∧
        fetched = [.get source.endpoint] ∧ KeySource.Due caches.keys environment.now) := by
  cases inquires with
  | idle => exact ⟨[], (List.append_nil _).symm, fun some => absurd rfl some, .inl rfl⟩
  | @asks source later name issued known checkable due sends =>
    exact ⟨[.get source.endpoint], sends.only, fun _ => .of_issuer read name issued checkable,
      .inr ⟨source, known, rfl, due⟩⟩

theorem vouched_of_checked {fetched : List Request} {caches₁ : Caches} {environment₁ : Environment}
    (read : SignedToken.parse raw = .ok token)
    (checked : identity.checkIssuer token caches environment = ⟨.ok (), caches₁, environment₁⟩)
    (claims : token.claims.check identity.config.requiredClaims environment₁.now = .ok ())
    (sent : environment₁.sent = environment.sent ++ fetched) :
    identity.Vouched raw token caches environment fetched := by
  obtain ⟨keys, accepted, -⟩ := checkIssuer_eq_ok.mp checked
  obtain ⟨name, issued, source, known, signed⟩ := Issuer.check_eq_ok.mp accepted
  have passes : (source.check token caches.keys environment).result = .ok () := by rw [signed]
  obtain ⟨key, -, kid, algorithm, named, supported, -⟩ := KeySource.uses_of_passes passes
  have checkable : KeySource.Checkable token := ⟨by simp [named], by simp [supported]⟩
  have still : environment₁.now = environment.now := by
    have inquires := source.check_inquires token caches.keys environment
    rw [signed] at inquires
    exact inquires.proceeds.now
  rw [still] at claims
  refine ⟨.of_issuer read name issued checkable, ⟨source, known, passes, ?_⟩, claims⟩
  rw [signed]
  exact sent

/-- Whatever a token is, and whatever is cached and answered, verification sends no more than it has to,
and to nobody else. -/
theorem verifyToken_traffic (identity : ClientIdentity) (raw : String) (caches : Caches)
    (environment : Environment) :
    ∃ fetched asked, identity.Traffic raw caches environment fetched asked := by
  cases read : SignedToken.parse raw with
  | error flaw =>
    refine ⟨[], [], ?_, fun some => absurd rfl some, .inl rfl, .inl rfl⟩
    rw [verifyToken, read]
    simp only [List.append_nil]
    rfl
  | ok token =>
    have inquires : identity.issuer.Inquires token caches.keys environment
        (identity.checkIssuer token caches environment).environment :=
      identity.issuer.check_inquires token caches.keys environment
    obtain ⟨fetched, sent, presentable, fetches⟩ := fetched_of_inquires read inquires
    have unasked : (identity.verifyToken raw caches environment).environment.sent =
        environment.sent ++ fetched → identity.Traffic raw caches environment fetched [] := by
      intro ends
      refine ⟨by rw [ends, List.append_nil], ?_, fetches, .inl rfl⟩
      rw [List.append_nil]
      exact fun some => ⟨token, presentable some⟩
    obtain ended | ⟨caches₁, environment₁, checked, claims, mode, onward⟩ :=
      identity.environment_verifyToken caches environment read
    · exact ⟨fetched, [], unasked (by rw [ended, sent])⟩
    · rw [checked] at sent
      have vouched := vouched_of_checked read checked claims sent
      obtain silent | ⟨endpoint, known, asks⟩ := identity.introspect_sends raw caches₁ environment₁
      · exact ⟨fetched, [], unasked (by rw [onward, silent, sent])⟩
      · exact ⟨fetched, _, by rw [onward, asks, sent], fun _ => ⟨token, vouched.presentable⟩, fetches,
          .inr ⟨endpoint, token, mode, known, rfl, vouched⟩⟩

end ClientIdentity

namespace Visit

/-- For a good token and an empty cache, everything that can be sent is. -/
example : (identity.verifyToken raw Caches.empty arrival).environment.sent =
    [.get (place "keys"), Introspection.request (place "introspect") "api" ⟨"sesame"⟩ raw] := by
  decide +kernel

end Visit

end BearerIdentity
