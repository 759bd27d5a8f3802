import BearerIdentity.Client.Identity
import BearerIdentity.Proofs.Cache.Clearing
import BearerIdentity.Proofs.Cache.Renewal

set_option autoImplicit false

namespace BearerIdentity

open Operation

namespace Renewal

variable {σ α : Type} (renewal : Renewal σ α) (cache : Cache α) (memory : σ)
  (environment : Environment)

theorem result_renew :
    (renewal.renew (cache, memory) environment).result =
      (renewal.fetch memory (environment.record renewal.kind .attempt)).result.mapError
        (Fault.map .refresh) := by
  rw [renew_apply, refresh_apply, ← result_observe]
  rcases observe renewal.kind renewal.fetch memory environment with
    ⟨(_ | cause) | value, memory₁, environment₁⟩
  · rfl
  · rfl
  · rfl

/-- A renewal is a run of a single call that begins with a clearing. -/
theorem renew_eq_run (isStale : α → (updatedAt now : Instant) → Bool) (id : Nat)
    {outcome : Except Error α} {memory' : σ} {environment' : Environment}
    (fetched : (attempt (observe renewal.kind renewal.fetch) : Operation Error σ _) memory environment =
      ⟨.ok outcome, memory', environment'⟩) :
    renewal.renew (cache, memory) environment =
      ⟨(Cache.reported outcome).mapError .error,
        ((Flight.after (Flight.ofCache cache)
          (Flight.renewing isStale id outcome environment.now environment'.now)).cache, memory'),
        environment'⟩ := by
  rw [Flight.after_renewing, renew_apply, refresh_apply, attempt_eq_ok.mp fetched]
  cases outcome with
  | ok value => rfl
  | error cause => rfl

end Renewal

namespace ClientIdentity

def loginFault (identity : ClientIdentity) (cause : Error) : Error :=
  .authentication s!"client `{identity.config.clientId}` could not obtain a token"
    (some (.refresh cause))

theorem result_loginSelf (identity : ClientIdentity) (caches : Caches) (environment : Environment) :
    (identity.loginSelf caches environment).result =
      (identity.resource.fetch caches.keys
        ((environment.record .login .attempt).record .tokenRefresh .attempt)).result.mapError
        (Fault.map identity.loginFault) := by
  have renewed : (identity.resource.renewal.renew (caches.tokens, caches.keys)
      (environment.record .login .attempt)).result =
        (identity.resource.fetch caches.keys
          ((environment.record .login .attempt).record .tokenRefresh .attempt)).result.mapError
          (Fault.map .refresh) :=
    identity.resource.renewal.result_renew _ _ _
  rw [loginSelf, result_observe]
  show (identity.resource.renewal.renew (caches.tokens, caches.keys)
    (environment.record .login .attempt)).result.mapError _ = _
  rw [renewed]
  rcases (identity.resource.fetch caches.keys
    ((environment.record .login .attempt).record .tokenRefresh .attempt)).result with
    (_ | cause) | token
  · rfl
  · rfl
  · rfl

end ClientIdentity

/-- Clearing separates: whatever a cache has been through, only refreshes that begin after it was
cleared count from then on. Renewals and logins clear first, and so yield what is fetched then; what a
renewal does to its cache is what a run does that begins with a clearing. -/
theorem clearing_separates {α : Type} (maxAge : Option Int) (retention : Retention)
    (before since : List (Flight.Turn α)) (isStale : α → (updatedAt now : Instant) → Bool) :
    Flight.Forgets
        (Flight.after (Flight.ofCache (Cache.empty maxAge retention)) (⟨isStale, .clear⟩ :: before))
        since ∧
      (∀ {σ : Type} (renewal : Renewal σ α) (cache : Cache α) (memory : σ) (environment : Environment),
        (renewal.renew (cache, memory) environment).result =
          (renewal.fetch memory (environment.record renewal.kind .attempt)).result.mapError
            (Fault.map .refresh)) ∧
      (∀ {σ : Type} (renewal : Renewal σ α) (cache : Cache α) (memory memory' : σ)
        (environment environment' : Environment) (id : Nat) (outcome : Except Error α),
        (attempt (observe renewal.kind renewal.fetch) : Operation Error σ _) memory environment =
            ⟨.ok outcome, memory', environment'⟩ →
          renewal.renew (cache, memory) environment =
            ⟨(Cache.reported outcome).mapError .error,
              ((Flight.after (Flight.ofCache cache)
                (Flight.renewing isStale id outcome environment.now environment'.now)).cache, memory'),
              environment'⟩) ∧
      ∀ (identity : ClientIdentity) (caches : Caches) (environment : Environment),
        (identity.loginSelf caches environment).result =
          (identity.resource.fetch caches.keys
            ((environment.record .login .attempt).record .tokenRefresh .attempt)).result.mapError
            (Fault.map identity.loginFault) :=
  ⟨Flight.clear_forgets maxAge retention before since isStale, fun renewal => renewal.result_renew,
    fun renewal cache memory _ environment _ id _ => renewal.renew_eq_run cache memory environment isStale id,
    ClientIdentity.result_loginSelf⟩

namespace LateValue

def never : Nat → (updatedAt now : Instant) → Bool := fun _ _ _ => false

def before : List (Flight.Turn Nat) :=
  [⟨never, .acquire 1⟩, ⟨never, .start 1 ⟨0⟩⟩]

def cleared : Flight Nat :=
  .after (.ofCache (Cache.empty none .strong)) (⟨never, .clear⟩ :: before)

def since : List (Flight.Turn Nat) :=
  [⟨never, .acquire 2⟩, ⟨never, .finish 1 (.ok 1) ⟨20⟩⟩, ⟨never, .start 2 ⟨10⟩⟩]

def last : Flight.Turn Nat :=
  ⟨never, .finish 2 (.ok 2) ⟨30⟩⟩

/-- Credentials change while a value is being fetched. The old value comes late and is dropped, and the
call that started after the clearing fetches the new one. -/
theorem late_value_dropped :
    (Flight.after cleared since).cache.value = none ∧
      ((Flight.after cleared since).take last).2 = .answered (.ok 2) ∧
      ∃ outcome ∈ Flight.completed cleared (last :: since), .ok 2 = Cache.reported outcome := by
  have starts : Flight.Starts cleared (last :: since) 2 :=
    ⟨[last, ⟨never, .acquire 2⟩, ⟨never, .finish 1 (.ok 1) ⟨20⟩⟩], ⟨never, .start 2 ⟨10⟩⟩, [], ⟨10⟩,
      rfl, rfl, rfl⟩
  have forgets := (clearing_separates none .strong before since never).1
  exact ⟨rfl, rfl, forgets.answers last 2 (.ok 2) rfl rfl starts⟩

end LateValue

end BearerIdentity
