import BearerIdentity.Client.TokenResource
import BearerIdentity.Proofs.Issuer.Check
import BearerIdentity.Proofs.Operation.Course

set_option autoImplicit false

namespace BearerIdentity

open Operation

namespace TokenResponse

variable {response : TokenResponse}

theorem token_of_filled {raw : String} (access : response.accessToken = some raw) (filled : raw ≠ "") :
    response.token = (SignedToken.parse raw).mapError .verification := by
  have kept : response.accessToken.filter (!·.isEmpty) = some raw := by
    rw [access, Option.filter_some, if_pos (by simp [filled])]
  rw [TokenResponse.token, kept]

theorem token_of_blank (blank : response.accessToken = none ∨ response.accessToken = some "") :
    response.token = .error (.malformedResponse "missing `access_token`") := by
  have dropped : response.accessToken.filter (!·.isEmpty) = none := by
    rcases blank with absent | empty
    · rw [absent, Option.filter_none]
    · rw [empty, Option.filter_some, if_neg (by simp)]
  rw [TokenResponse.token, dropped]

/-- There is no token in a response without an access token, or whose access token is empty or cannot
be parsed, and only in such a response. -/
theorem token_errs : (∃ cause, response.token = .error cause) ↔
    response.accessToken = none ∨ response.accessToken = some "" ∨
      ∃ raw flaw, response.accessToken = some raw ∧ SignedToken.parse raw = .error flaw := by
  cases access : response.accessToken with
  | none => simp [token_of_blank (.inl access)]
  | some raw =>
    by_cases empty : raw = ""
    · subst empty
      simp [token_of_blank (.inr access)]
    · rw [token_of_filled access empty]
      cases read : SignedToken.parse raw with
      | error flaw => simp [read]
      | ok found => simp [empty, read]

theorem token_eq_ok {found : SignedToken} : response.token = .ok found ↔
    ∃ raw, response.accessToken = some raw ∧ raw ≠ "" ∧ SignedToken.parse raw = .ok found := by
  cases access : response.accessToken with
  | none => simp [token_of_blank (.inl access)]
  | some raw =>
    by_cases empty : raw = ""
    · subst empty
      simp [token_of_blank (.inr access)]
    · rw [token_of_filled access empty]
      cases read : SignedToken.parse raw with
      | error flaw => simp [read]
      | ok other => simp [empty, read]

end TokenResponse

namespace TokenResource

variable {resource : TokenResource} {token : SignedToken} {since environment environment' : Environment}
  {keys keys' : Cache KeySet}

/-- A fetch sends one request, and gets no further than the answer is good. -/
theorem fetch_apply (resource : TokenResource) (keys : Cache KeySet) (environment : Environment) :
    resource.fetch keys environment =
      match environment.network environment.sent resource.request with
      | .error cause =>
        ⟨.error (.error (.transport cause)), keys, (environment.exchange resource.request).2⟩
      | .ok response =>
        if response.isSuccess then
          match response.json TokenResponse.decoder with
          | .error flaw =>
            ⟨.error (.error (.transient flaw)), keys, (environment.exchange resource.request).2⟩
          | .ok answer =>
            match answer.token with
            | .error cause =>
              ⟨.error (.error cause), keys, (environment.exchange resource.request).2⟩
            | .ok token =>
              match resource.issuer.check token keys (environment.exchange resource.request).2 with
              | ⟨.ok (), keys, environment⟩ => ⟨.ok token, keys, environment⟩
              | ⟨.error fault, keys, environment⟩ =>
                ⟨.error (fault.map .verification), keys, environment⟩
        else
          ⟨.error (.error response.refusal), keys, (environment.exchange resource.request).2⟩ := by
  simp only [fetch, Exchange.postForm, Exchange.fetch, Bind.bind, andThen, mapError, send,
    Environment.exchange]
  cases environment.network environment.sent resource.request with
  | error cause => rfl
  | ok response =>
    simp only [mapError_ok]
    cases response.isSuccess with
    | false => rfl
    | true =>
      cases response.json TokenResponse.decoder with
      | error flaw => rfl
      | ok answer =>
        simp only [ite_true, mapError, Operation.ofExcept, succeed, mapError_ok]
        cases answer.token with
        | error cause => rfl
        | ok token =>
          simp only [succeed]
          rcases resource.issuer.check token keys _ with ⟨fault | _, keys₁, environment₁⟩ <;> rfl

/-- A token was vouched for in the span of a call. The token endpoint answered a request with success
and with this token, and the issuer's check of the token succeeded there and then. So it names the
issuer, was not issued in the future, and is verified by a key that the issuer had published. -/
structure Vouches (resource : TokenResource) (token : SignedToken) (span : Span) : Prop where
  answered : ∃ response answer, span.after.Answered span.before.sent resource.request response ∧
    response.isSuccess = true ∧ response.json TokenResponse.decoder = .ok answer ∧
    answer.token = .ok token
  checked : ∃ keys keys' begun ended, span.before.Proceeds begun ∧
    resource.issuer.check token keys begun = ⟨.ok (), keys', ended⟩ ∧ ended.Extends span.after
  name : token.claims.issuer = some resource.issuer.metadata.issuer
  issued : ∃ issued, token.claims.issuedAt? = some issued ∧ issued ≤ span.before.now
  endorsed : ∃ source moment, resource.issuer.keySource? = some source ∧
    span.before.Proceeds moment ∧ moment.Extends span.after ∧ source.Endorses token moment

theorem fetch_vouches (tended : resource.issuer.Tended since keys environment)
    (fetched : resource.fetch keys environment = ⟨.ok token, keys', environment'⟩) :
    resource.Vouches token ⟨since, environment'⟩ := by
  simp only [fetch, Exchange.postForm, bind_eq_ok, Exchange.fetch_eq_ok, ofExcept_eq_ok,
    mapError_eq_ok, succeed_eq_ok] at fetched
  obtain ⟨answer, _, _, ⟨response, replied, success, body, rfl, rfl⟩, token', _, _, ⟨read, rfl, rfl⟩, _, _,
    _, checked, rfl, rfl, rfl⟩ := fetched
  have asked := Issuer.lasting_tended since _ _ _ tended (.exchange environment resource.request)
  have after := Issuer.check_keeps token' _ _ asked.1.tended
  rw [checked] at after
  have answered := (Environment.answered_exchange replied).later after.2.toExtends
  obtain ⟨name, ⟨issued, date, past⟩, source, known, signed⟩ := Issuer.check_eq_ok.mp checked
  have endorsed := KeySource.endorses_of_backed (asked.1 source known) signed
  exact {
    answered := ⟨response, answer, answered.since tended.2.sent, success, body, read⟩
    checked := ⟨_, _, _, _, asked.2, checked, Environment.Extends.refl _⟩
    name
    issued := ⟨issued, date, by rw [← asked.2.now]; exact past⟩
    endorsed := ⟨source, _, known, asked.2.trans after.2, Environment.Extends.refl _,
      endorsed⟩ }

theorem Vouches.later {later : Environment} (vouches : resource.Vouches token ⟨since, environment⟩)
    (extends_ : environment.Extends later) : resource.Vouches token ⟨since, later⟩ := by
  obtain ⟨response, answer, answered, rest⟩ := vouches.answered
  obtain ⟨keys, keys', begun, ended, proceeds, checked, extended⟩ := vouches.checked
  obtain ⟨source, moment, known, passed, onward, endorsed⟩ := vouches.endorsed
  exact { vouches with
    answered := ⟨response, answer, answered.later extends_, rest⟩
    checked := ⟨keys, keys', begun, ended, proceeds, checked, extended.trans extends_⟩
    endorsed := ⟨source, moment, known, passed, onward.trans extends_, endorsed⟩ }

theorem fetch_sends (tended : resource.issuer.Tended since keys environment) :
    environment.sent ++ [resource.request] <+: (resource.fetch keys environment).environment.sent := by
  have asked := Issuer.lasting_tended since _ _ _ tended (.exchange environment resource.request)
  have sent : environment.sent ++ [resource.request] <+:
      (environment.exchange resource.request).2.sent := List.prefix_rfl
  rw [fetch_apply]
  split
  · exact sent
  · split
    · split
      · exact sent
      · split
        · exact sent
        · rename_i token read
          have after := (Issuer.check_keeps token _ _ asked.1.tended).2.sent
          revert after
          rcases resource.issuer.check token keys (environment.exchange resource.request).2 with
            ⟨fault | _, keys₁, environment₁⟩
          · exact sent.trans
          · exact sent.trans
    · exact sent

/-- How a fetch can fail: the network, the endpoint, what it answers, or the issuer's check of the
token lets it down. -/
inductive Fails (resource : TokenResource) (keys : Cache KeySet) (environment : Environment) :
    Prop where
  | unreachable {cause : TransportError}
      (lost : environment.network environment.sent resource.request = .error cause)
  | refused {response : Response}
      (replied : environment.network environment.sent resource.request = .ok response)
      (unsuccessful : response.isSuccess = false)
  | unreadable {response : Response} {flaw : TransientError}
      (replied : environment.network environment.sent resource.request = .ok response)
      (success : response.isSuccess = true)
      (unreadable : response.json TokenResponse.decoder = .error flaw)
  | tokenless {response : Response} {answer : TokenResponse}
      (replied : environment.network environment.sent resource.request = .ok response)
      (success : response.isSuccess = true)
      (body : response.json TokenResponse.decoder = .ok answer)
      (absent : answer.accessToken = none ∨ answer.accessToken = some "")
  | malformed {response : Response} {answer : TokenResponse} {raw : String} {flaw : VerifyError}
      (replied : environment.network environment.sent resource.request = .ok response)
      (success : response.isSuccess = true)
      (body : response.json TokenResponse.decoder = .ok answer)
      (present : answer.accessToken = some raw) (malformed : SignedToken.parse raw = .error flaw)
  | unchecked {response : Response} {answer : TokenResponse} {token : SignedToken} {cause : VerifyError}
      (replied : environment.network environment.sent resource.request = .ok response)
      (success : response.isSuccess = true)
      (body : response.json TokenResponse.decoder = .ok answer) (read : answer.token = .ok token)
      (unchecked : (resource.issuer.check token keys (environment.exchange resource.request).2).result =
        .error (.error cause))

/-- A fetch errs exactly if it fails in one of these ways. -/
theorem fails_iff : resource.Fails keys environment ↔
    ∃ cause, (resource.fetch keys environment).result = .error (.error cause) := by
  rw [fetch_apply]
  constructor
  · intro fails
    cases fails with
    | unreachable lost => simp [lost]
    | refused replied unsuccessful => simp [replied, unsuccessful]
    | unreadable replied success unreadable => simp [replied, success, unreadable]
    | tokenless replied success body absent =>
      obtain ⟨cause, errs⟩ := TokenResponse.token_errs.mpr (absent.imp_right .inl)
      simp [replied, success, body, errs]
    | malformed replied success body present malformed =>
      obtain ⟨cause, errs⟩ := TokenResponse.token_errs.mpr (.inr (.inr ⟨_, _, present, malformed⟩))
      simp [replied, success, body, errs]
    | unchecked replied success body read unchecked =>
      simp only [replied, success, body, read, ite_true]
      rw [Outcome.eq_of_result unchecked]
      exact ⟨_, rfl⟩
  · rintro ⟨cause, errs⟩
    cases replied : environment.network environment.sent resource.request with
    | error cause => exact .unreachable replied
    | ok response =>
      cases success : response.isSuccess with
      | false => exact .refused replied success
      | true =>
        cases body : response.json TokenResponse.decoder with
        | error flaw => exact .unreadable replied success body
        | ok answer =>
          cases read : answer.token with
          | error cause =>
            obtain absent | empty | ⟨raw, flaw, present, malformed⟩ :=
              TokenResponse.token_errs.mp ⟨cause, read⟩
            · exact .tokenless replied success body (.inl absent)
            · exact .tokenless replied success body (.inr empty)
            · exact .malformed replied success body present malformed
          | ok token =>
            simp only [replied, success, body, read, ite_true] at errs
            rcases checked :
                resource.issuer.check token keys (environment.exchange resource.request).2 with
              ⟨(_ | cause) | _, keys₁, environment₁⟩
            · simp [checked, Fault.map] at errs
            · exact .unchecked replied success body read (by rw [checked])
            · simp [checked] at errs

end TokenResource

end BearerIdentity
