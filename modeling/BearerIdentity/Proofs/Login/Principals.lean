import BearerIdentity.Login.Basic
import BearerIdentity.Proofs.Client.AccessRequest
import BearerIdentity.Proofs.Keyed

set_option autoImplicit false

namespace BearerIdentity

open Operation

namespace Subject

variable {subject : Subject} {name : String}

def Distinct (subject : Subject) : Prop :=
  (subject.principals.map (·.name)).Nodup

theorem distinct_attach (distinct : subject.Distinct) (principal : Principal) :
    (subject.attach principal).Distinct :=
  Keyed.nodup_put Principal.name distinct principal

theorem distinct_detach (distinct : subject.Distinct) (name : String) : (subject.detach name).Distinct :=
  distinct.sublist (List.eraseP_sublist.map _)

/-- The first principal of a name is the only one, so all of this name are removed with it. -/
theorem principals_detach (distinct : subject.Distinct) (name : String) :
    (subject.detach name).principals = subject.principals.filter (·.name != name) := by
  obtain ⟨principals⟩ := subject
  simp only [Distinct, detach] at distinct ⊢
  induction principals with
  | nil => rfl
  | cons principal rest removed =>
    rw [List.map_cons, List.nodup_cons] at distinct
    by_cases same : principal.name = name
    · subst same
      have others : ∀ other ∈ rest, (other.name != principal.name) = true := by
        intro other listed
        refine bne_iff_ne.mpr fun named => distinct.1 ?_
        rw [← named]
        exact List.mem_map_of_mem listed
      rw [List.eraseP_cons_of_pos (by simp), List.filter_cons_of_neg (by simp),
        List.filter_eq_self.mpr others]
    · rw [List.eraseP_cons_of_neg (by simp [same]), List.filter_cons_of_pos (by simp [same]),
        removed distinct.2]

theorem principal?_attach (subject : Subject) (principal : Principal) (name : String) :
    (subject.attach principal).principal? name =
      if principal.name = name then some principal else subject.principal? name := by
  have found := Keyed.find?_put Principal.name subject.principals principal name
  simp only [beq_iff_eq] at found
  exact found

theorem principal?_detach (distinct : subject.Distinct) (removed name : String) :
    (subject.detach removed).principal? name =
      if removed = name then none else subject.principal? name := by
  have found := Keyed.find?_without Principal.name subject.principals removed name
  rw [← principals_detach distinct] at found
  simp only [beq_iff_eq] at found
  exact found

end Subject

namespace TokenResource

/-- What is handed out between two moments has been requested in between: the request for it is the first
that is sent, and the token is what the answer to this request yields. -/
structure Obtains (resource : TokenResource) (before : Environment)
    (result : Except (Fault Error) SignedToken) (after : Environment) : Prop where
  sent : before.sent ++ [resource.request] <+: after.sent
  yields : ∀ token, result = .ok token → ∃ response,
    before.network before.sent resource.request = .ok response ∧ response.Yields token

theorem fetch_obtains (resource : TokenResource) (keys : Cache KeySet) (environment : Environment) :
    resource.Obtains environment (resource.fetch keys environment).result
      (resource.fetch keys environment).environment where
  sent := by
    obtain ⟨requests, asks, transmits⟩ := resource.fetch_transmits keys environment
    rw [transmits.sent, List.prefix_append_right_inj]
    cases asks with
    | token => exact List.prefix_rfl
    | keys known => exact List.prefix_append [resource.request] _
  yields := by
    intro token yielded
    have fetched := Outcome.eq_of_result yielded
    simp only [fetch, Exchange.postForm, bind_eq_ok, Exchange.fetch_eq_ok, ofExcept_eq_ok, mapError_eq_ok,
      succeed_eq_ok] at fetched
    obtain ⟨answer, _, _, ⟨response, replied, success, body, rfl, rfl⟩, _, _, _, ⟨read, rfl, rfl⟩, _, _, _, _,
      rfl, -⟩ := fetched
    exact exists_token_iff.mp ⟨answer, Exchange.reading_eq_ok.mpr ⟨response, replied, success, body⟩, read⟩

/-- A refresh hands out what it has fetched. -/
theorem refresh_obtains (resource : TokenResource) (cache : Cache SignedToken) (keys : Cache KeySet)
    (environment : Environment) :
    resource.Obtains environment (resource.renewal.refresh (cache, keys) environment).result
      (resource.renewal.refresh (cache, keys) environment).environment := by
  have fetched := resource.fetch_obtains keys (environment.record .tokenRefresh .attempt)
  refine ⟨?_, fun token yielded => ?_⟩
  · rw [Renewal.sent_refresh]
    exact fetched.sent
  · obtain ⟨_, observed, -⟩ := resource.renewal.refresh_eq_ok.mp (Outcome.eq_of_result yielded)
    obtain ⟨_, unobserved, -⟩ := observe_eq_ok.mp observed
    exact fetched.yields token (congrArg Outcome.result unobserved)

end TokenResource

namespace ClientIdentity

variable {identity : ClientIdentity} {caches caches' : Caches} {environment environment' : Environment}
  {principal : Principal}

/-- A client that authenticates itself has requested a token. -/
theorem obtains_of_authenticate
    (authenticated : identity.authenticateCredentials .configured caches environment =
      ⟨.ok principal, caches', environment'⟩) :
    principal.name = identity.name ∧
      identity.resource.Obtains environment (.ok principal.token) environment' := by
  simp only [authenticateCredentials, ownPrincipal, loginSelf, renew, Caches.onTokens, observe_eq_ok,
    bind_eq_ok, mapError_eq_ok, onPart_eq_ok, ofExcept_eq_ok, succeed_eq_ok] at authenticated
  obtain ⟨_, ⟨_, _, _, ⟨-, rfl, rfl⟩, token, _, _, ⟨environment₁, ⟨kept, renewed, -⟩, rfl⟩, rfl, -, rfl⟩,
    rfl⟩ := authenticated
  rw [Renewal.renew_apply] at renewed
  have obtains := identity.resource.refresh_obtains caches.tokens.clear caches.keys
    ((environment.record .login .attempt).record .login .attempt)
  rw [renewed] at obtains
  exact ⟨rfl, obtains.sent, obtains.yields⟩

/-- A login attaches the principal of the client, if it can authenticate itself. -/
theorem login_apply (identity : ClientIdentity) (subject : Subject) (caches : Caches)
    (environment : Environment) :
    identity.login (subject, caches) environment =
      match identity.authenticateCredentials .configured caches environment with
      | ⟨.ok principal, caches, environment⟩ =>
        ⟨.ok principal, (subject.attach principal, caches), environment⟩
      | ⟨.error fault, caches, environment⟩ => ⟨.error fault, (subject, caches), environment⟩ := by
  simp only [login, Bind.bind, andThen, onSecond, onPart]
  rcases identity.authenticateCredentials .configured caches environment with
    ⟨fault | principal, caches₁, environment₁⟩
  · rfl
  · rfl

/-- To whom a client logs in makes no difference to what comes of it. -/
theorem result_login (identity : ClientIdentity) (subject other : Subject) (caches : Caches)
    (environment : Environment) :
    (identity.login (subject, caches) environment).result =
      (identity.login (other, caches) environment).result := by
  rw [login_apply, login_apply]
  rcases identity.authenticateCredentials .configured caches environment with
    ⟨fault | principal, caches₁, environment₁⟩
  · rfl
  · rfl

/-- What a login does. -/
structure Enters (identity : ClientIdentity) (subject : Subject) (environment : Environment)
    (outcome : Outcome Error (Subject × Caches) Principal) : Prop where
  /-- If it fails, the subject stays as it was. -/
  fails : ∀ fault, outcome.result = .error fault → outcome.memory.1 = subject
  /-- If it succeeds, its principal is the only one with the name of the client, -/
  enters : ∀ principal, outcome.result = .ok principal → principal.name = identity.name ∧
    outcome.memory.1.principals.filter (·.name == identity.name) = [principal]
  /-- and has a token that was requested since the login began. -/
  obtains : ∀ principal, outcome.result = .ok principal →
    identity.resource.Obtains environment (.ok principal.token) outcome.environment
  /-- Either way, the principals with other names stay, in the same order. -/
  others : outcome.memory.1.principals.filter (·.name != identity.name) =
    subject.principals.filter (·.name != identity.name)

theorem login_enters (identity : ClientIdentity) (subject : Subject) (caches : Caches)
    (environment : Environment) :
    identity.Enters subject environment (identity.login (subject, caches) environment) := by
  rw [login_apply]
  cases run : identity.authenticateCredentials .configured caches environment with
  | mk result caches₁ environment₁ =>
    cases result with
    | error fault =>
      refine ⟨fun _ _ => rfl, ?_, ?_, rfl⟩
      · rintro principal ⟨⟩
      · rintro principal ⟨⟩
    | ok principal =>
      obtain ⟨named, obtains⟩ := obtains_of_authenticate run
      refine ⟨?_, ?_, ?_, ?_⟩
      · rintro fault ⟨⟩
      · rintro _ ⟨⟩
        refine ⟨named, ?_⟩
        have absent : ∀ other ∈ subject.principals.filter (·.name != principal.name),
            ¬ (other.name == identity.name) = true := by
          intro other listed
          have different := (List.mem_filter.mp listed).2
          simpa [named] using different
        simp only [Subject.attach, List.filter_append, List.filter_eq_nil_iff.mpr absent, List.nil_append]
        exact List.filter_cons_of_pos (beq_iff_eq.mpr named)
      · rintro _ ⟨⟩
        exact obtains
      · simp [Subject.attach, List.filter_append, List.filter_filter, named]

/-- What a logout does. -/
structure Leaves (identity : ClientIdentity) (subject : Subject)
    (outcome : Outcome Error (Subject × Caches) (Option Principal)) : Prop where
  /-- It hands out the principal of the client, -/
  result : outcome.result = .ok (subject.principal? identity.name)
  /-- and removes it, but no other one. -/
  removes : outcome.memory.1.principals = subject.principals.filter (·.name != identity.name)
  /-- It empties both caches. -/
  tokens : outcome.memory.2.tokens.value = none ∧ outcome.memory.2.tokens.failure = none
  keys : outcome.memory.2.keys.value = none ∧ outcome.memory.2.keys.failure = none
  /-- The token that is asked for next is requested, whatever has become of the keys. -/
  obtains : ∀ keys later, identity.resource.Obtains later
    (identity.token ⟨outcome.memory.2.tokens, keys⟩ later).result
    (identity.token ⟨outcome.memory.2.tokens, keys⟩ later).environment

theorem logoutFrom_leaves (identity : ClientIdentity) {subject : Subject} (distinct : subject.Distinct)
    (caches : Caches) (environment : Environment) :
    identity.Leaves subject (identity.logoutFrom (subject, caches) environment) where
  result := rfl
  removes := Subject.principals_detach distinct identity.name
  tokens := ⟨rfl, rfl⟩
  keys := ⟨rfl, rfl⟩
  obtains := by
    intro keys later
    have missed : identity.resource.renewal.get (caches.tokens.clear, keys) later =
        identity.resource.renewal.refresh (caches.tokens.clear, keys) later := by
      rw [Renewal.get_apply, Cache.unaged?_clear]
    show identity.resource.Obtains later
      (identity.resource.renewal.get (caches.tokens.clear, keys) later).result
      (identity.resource.renewal.get (caches.tokens.clear, keys) later).environment
    rw [missed]
    exact identity.resource.refresh_obtains _ _ _

end ClientIdentity

/-- What can be done to a subject. Logins and logouts are those of any client, with whatever it has cached
and in any environment. -/
inductive Deed where
  | attach (principal : Principal)
  | detach (name : String)
  | login (identity : ClientIdentity) (caches : Caches) (environment : Environment)
  | logout (identity : ClientIdentity) (caches : Caches) (environment : Environment)

namespace Deed

def apply (subject : Subject) : Deed → Subject
  | attach principal => subject.attach principal
  | detach name => subject.detach name
  | login identity caches environment => (identity.login (subject, caches) environment).memory.1
  | logout identity caches environment => (identity.logoutFrom (subject, caches) environment).memory.1

def attached? : Deed → Option Principal
  | attach principal => some principal
  | login identity caches environment =>
    (identity.login (Subject.empty, caches) environment).result.toOption
  | detach _ | logout _ _ _ => none

def detached? : Deed → Option String
  | detach name => some name
  | logout identity _ _ => some identity.name
  | attach _ | login _ _ _ => none

def Spares (deed : Deed) (name : String) : Prop :=
  (∀ principal, deed.attached? = some principal → principal.name ≠ name) ∧ deed.detached? ≠ some name

/-- A deed attaches, detaches, or does nothing. -/
theorem apply_cases (deed : Deed) (subject : Subject) :
    (∃ principal, deed.attached? = some principal ∧ deed.detached? = none ∧
        deed.apply subject = subject.attach principal) ∨
      (∃ name, deed.attached? = none ∧ deed.detached? = some name ∧
        deed.apply subject = subject.detach name) ∨
      deed.attached? = none ∧ deed.detached? = none ∧ deed.apply subject = subject := by
  cases deed with
  | attach principal => exact .inl ⟨principal, rfl, rfl, rfl⟩
  | detach name => exact .inr (.inl ⟨name, rfl, rfl, rfl⟩)
  | login identity caches environment =>
    dsimp only [attached?, detached?, apply]
    rw [identity.login_apply Subject.empty, identity.login_apply subject]
    rcases identity.authenticateCredentials .configured caches environment with
      ⟨fault | principal, caches₁, environment₁⟩
    · exact .inr (.inr ⟨rfl, rfl, rfl⟩)
    · exact .inl ⟨principal, rfl, rfl, rfl⟩
  | logout identity caches environment => exact .inr (.inl ⟨identity.name, rfl, rfl, rfl⟩)

theorem apply_distinct {subject : Subject} (distinct : subject.Distinct) (deed : Deed) :
    (deed.apply subject).Distinct := by
  obtain ⟨principal, -, -, same⟩ | ⟨name, -, -, same⟩ | ⟨-, -, same⟩ := deed.apply_cases subject
  · rw [same]
    exact Subject.distinct_attach distinct principal
  · rw [same]
    exact Subject.distinct_detach distinct name
  · rw [same]
    exact distinct

end Deed

namespace Subject

variable {deeds : List Deed} {name : String} {principal : Principal}

/-- A subject after some deeds, the latest of which comes first. -/
def after : (deeds : List Deed) → Subject
  | [] => empty
  | deed :: earlier => deed.apply (after earlier)

theorem distinct_after (deeds : List Deed) : (after deeds).Distinct := by
  induction deeds with
  | nil => exact List.nodup_nil
  | cons deed earlier distinct => exact Deed.apply_distinct distinct deed

/-- A principal is the last that was attached under a name, and this name has not been detached since. -/
def Last (deeds : List Deed) (name : String) (principal : Principal) : Prop :=
  ∃ later deed earlier, deeds = later ++ deed :: earlier ∧ deed.attached? = some principal ∧
    principal.name = name ∧ ∀ other ∈ later, other.Spares name

theorem last_cons {deed : Deed} {earlier : List Deed} :
    Last (deed :: earlier) name principal ↔
      (deed.attached? = some principal ∧ principal.name = name) ∨
        (deed.Spares name ∧ Last earlier name principal) := by
  constructor
  · rintro ⟨later, attaching, before, split, attached, named, spared⟩
    cases later with
    | nil =>
      rw [List.nil_append, List.cons.injEq] at split
      obtain ⟨rfl, -⟩ := split
      exact .inl ⟨attached, named⟩
    | cons latest later =>
      rw [List.cons_append, List.cons.injEq] at split
      obtain ⟨rfl, split⟩ := split
      rw [List.forall_mem_cons] at spared
      exact .inr ⟨spared.1, later, attaching, before, split, attached, named, spared.2⟩
  · rintro (⟨attached, named⟩ | ⟨spared, later, attaching, before, split, attached, named, rest⟩)
    · exact ⟨[], deed, earlier, rfl, attached, named, by simp⟩
    · exact ⟨deed :: later, attaching, before, by rw [split, List.cons_append], attached, named,
        List.forall_mem_cons.mpr ⟨spared, rest⟩⟩

theorem principal?_after (deeds : List Deed) (name : String) (principal : Principal) :
    (after deeds).principal? name = some principal ↔ Last deeds name principal := by
  induction deeds with
  | nil =>
    constructor
    · rintro ⟨⟩
    · rintro ⟨later, deed, earlier, split, -⟩
      exact absurd split.symm (List.append_ne_nil_of_right_ne_nil _ (List.cons_ne_nil _ _))
  | cons deed earlier found =>
    rw [last_cons, ← found, after]
    obtain ⟨attached, attaches, undetached, same⟩ | ⟨removed, unattached, detaches, same⟩ |
      ⟨unattached, undetached, same⟩ := deed.apply_cases (after earlier)
    · have spares : deed.Spares name ↔ attached.name ≠ name := by
        simp [Deed.Spares, attaches, undetached]
      rw [same, principal?_attach, spares, attaches, Option.some.injEq]
      split
      · rename_i named
        rw [Option.some.injEq]
        constructor
        · rintro rfl
          exact .inl ⟨rfl, named⟩
        · rintro (⟨rfl, -⟩ | ⟨different, -⟩)
          · rfl
          · exact absurd named different
      · rename_i different
        constructor
        · exact fun found => .inr ⟨different, found⟩
        · rintro (⟨rfl, named⟩ | ⟨-, found⟩)
          · exact absurd named different
          · exact found
    · have spares : deed.Spares name ↔ removed ≠ name := by
        simp [Deed.Spares, unattached, detaches]
      rw [same, principal?_detach (distinct_after earlier), spares, unattached]
      split
      · rename_i named
        simp [named]
      · rename_i different
        simp [different]
    · have spares : deed.Spares name := by
        simp [Deed.Spares, unattached, undetached]
      simp [same, spares, unattached]

/-- How a subject is kept. -/
structure Kept (deeds : List Deed) : Prop where
  /-- No two principals have the same name. -/
  distinct : ((after deeds).principals.map (·.name)).Nodup
  /-- A name has the principal that was last attached under it, if it has not been detached since. -/
  last : ∀ name principal, (after deeds).principal? name = some principal ↔ Last deeds name principal
  /-- A logout removes the principal of the client, and nothing of it is left in the caches. -/
  logout : ∀ (identity : ClientIdentity) (caches : Caches) (environment : Environment),
    identity.Leaves (after deeds) (identity.logoutFrom (after deeds, caches) environment)

/-- Whatever has been done to a subject, it is kept in this way. A login enters a client in any subject,
and yields the same for each. -/
theorem kept_and_entered (deeds : List Deed) (identity : ClientIdentity) (subject : Subject)
    (caches : Caches) (environment : Environment) : Kept deeds ∧
      identity.Enters subject environment (identity.login (subject, caches) environment) ∧
      (identity.login (subject, caches) environment).result =
        (identity.login (empty, caches) environment).result :=
  ⟨⟨distinct_after deeds, principal?_after deeds,
      fun identity => identity.logoutFrom_leaves (distinct_after deeds)⟩,
    identity.login_enters subject caches environment, identity.result_login subject empty caches environment⟩

end Subject

end BearerIdentity
