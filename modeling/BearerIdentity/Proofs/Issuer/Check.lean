import BearerIdentity.Issuer.Basic
import BearerIdentity.Proofs.Key.Endorsement

set_option autoImplicit false

namespace BearerIdentity.Issuer

open Operation

variable {issuer : Issuer} {token : SignedToken} {since environment environment' : Environment}
  {keys keys' : Cache KeySet}

/-- Whatever keys are cached for the issuer were published where it publishes its keys. -/
def Backed (issuer : Issuer) (keys : Cache KeySet) (environment : Environment) : Prop :=
  ∀ source, issuer.keySource? = some source → source.Backed keys environment

def Tended (issuer : Issuer) (since : Environment) (keys : Cache KeySet)
    (environment : Environment) : Prop :=
  issuer.Backed keys environment ∧ since.Proceeds environment

theorem Backed.later {later : Environment} (backed : issuer.Backed keys environment)
    (extends_ : environment.Extends later) : issuer.Backed keys later :=
  fun source known => (backed source known).later extends_

theorem Backed.tended (backed : issuer.Backed keys environment) :
    issuer.Tended environment keys environment :=
  ⟨backed, .refl environment⟩

theorem lasting_tended (since : Environment) : Lasting (issuer.Tended since) :=
  fun _ _ _ tended proceeds => ⟨tended.1.later proceeds.toExtends, tended.2.trans proceeds⟩

/-- Since an issuer publishes its keys in one place, its keys are tended if those of that place are. -/
theorem tended_iff {source : KeySource} (known : issuer.keySource? = some source) :
    issuer.Tended since keys environment ↔ source.Tended since keys environment := by
  constructor
  · rintro ⟨backed, proceeds⟩
    exact ⟨backed source known, proceeds⟩
  · rintro ⟨backed, proceeds⟩
    refine ⟨fun other same => ?_, proceeds⟩
    rw [known] at same
    rw [← Option.some.inj same]
    exact backed

theorem keeps_of_source {ε α : Type} {source : KeySource} {operation : Operation ε (Cache KeySet) α}
    (known : issuer.keySource? = some source) (keeps : Keeps (source.Tended since) operation) :
    Keeps (issuer.Tended since) operation :=
  fun keys environment tended =>
    (tended_iff known).mpr (keeps keys environment ((tended_iff known).mp tended))

theorem check_keeps (token : SignedToken) : Keeps (issuer.Tended since) (issuer.check token) := by
  refine .bind (.ofExcept _) fun _ => .bind .now fun now => .bind (.ofExcept _) fun _ => ?_
  cases known : issuer.keySource? with
  | none => exact Keeps.fail (VerifyError.keySetUnavailable .noEndpoint)
  | some source => exact keeps_of_source known (KeySource.check_keeps token)

theorem checkName_eq_ok :
    issuer.checkName token = .ok () ↔ token.claims.issuer = some issuer.metadata.issuer := by
  unfold checkName
  split
  · rename_i same
    exact ⟨fun _ => same, fun _ => rfl⟩
  · rename_i other
    constructor
    · intro impossible
      cases impossible
    · intro same
      exact absurd same other

theorem checkIssueDate_eq_ok {now : Instant} :
    checkIssueDate token now = .ok () ↔
      ∃ issued, token.claims.issuedAt? = some issued ∧ issued ≤ now := by
  unfold checkIssueDate
  cases token.claims.issuedAt? with
  | none => simp
  | some issued => simp

/-- A token passes exactly if it names the issuer, was issued, and passes the check of its signature. -/
theorem check_eq_ok :
    issuer.check token keys environment = ⟨.ok (), keys', environment'⟩ ↔
      token.claims.issuer = some issuer.metadata.issuer ∧
      (∃ issued, token.claims.issuedAt? = some issued ∧ issued ≤ environment.now) ∧
      ∃ source, issuer.keySource? = some source ∧
        source.check token keys environment = ⟨.ok (), keys', environment'⟩ := by
  simp only [check, bind_eq_ok, ofExcept_eq_ok, now_eq_ok, ofOption_eq_ok]
  constructor
  · rintro ⟨_, _, _, ⟨name, rfl, rfl⟩, _, _, _, ⟨rfl, rfl, rfl⟩, _, _, _, ⟨date, rfl, rfl⟩, source, _,
      _, ⟨known, rfl, rfl⟩, signed⟩
    exact ⟨checkName_eq_ok.mp name, checkIssueDate_eq_ok.mp date, source, known, signed⟩
  · rintro ⟨name, date, source, known, signed⟩
    exact ⟨(), _, _, ⟨checkName_eq_ok.mpr name, rfl, rfl⟩, _, _, _, ⟨rfl, rfl, rfl⟩, (), _, _,
      ⟨checkIssueDate_eq_ok.mpr date, rfl, rfl⟩, source, _, _, ⟨known, rfl, rfl⟩, signed⟩

end BearerIdentity.Issuer
