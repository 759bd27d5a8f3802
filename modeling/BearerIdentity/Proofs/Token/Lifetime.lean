import BearerIdentity.Proofs.Token.Calendar
import Mathlib.Data.List.Basic

set_option autoImplicit false

namespace BearerIdentity

namespace Instant

theorem ofSeconds?_of_isSome {second : Int} (inside : (ofSeconds? second).isSome = true) :
    ofSeconds? second = some ⟨second * 1000⟩ := by
  unfold ofSeconds? inCalendar? at inside ⊢
  split at inside
  · rename_i bounded
    rw [if_pos bounded]
  · cases inside

/-- The calendar has no gap. -/
theorem ofSeconds?_of_between {before second after : Int} (begun : (ofSeconds? before).isSome = true)
    (ended : (ofSeconds? after).isSome = true) (lower : before ≤ second) (upper : second ≤ after) :
    ofSeconds? second = some ⟨second * 1000⟩ := by
  have low := (bounds_of_inCalendar? (ofSeconds?_of_isSome begun)).1
  have high := (bounds_of_inCalendar? (ofSeconds?_of_isSome ended)).2
  rw [Claims.ofSeconds?_eq_some_iff]
  dsimp only at low high ⊢
  refine ⟨rfl, ?_, ?_⟩
  · omega
  · omega

/-- A whole second is moved to another one. -/
theorem shift?_second (second seconds : Int) :
    shift? ⟨second * 1000⟩ seconds = ofSeconds? (second + seconds) := by
  unfold shift? ofSeconds?
  rw [Int.add_mul]

end Instant

namespace Claims

variable {claims : Claims} {required : List String} {now : Instant} {fault : Fault VerifyError}

/-- The date is missing, or it names a second from which the calendar reaches a minute either way. -/
def IsMovable (date : Option Json.Value) : Prop :=
  ∀ value, date = some value → ∃ second, secondOf? value = some second ∧
    (Instant.ofSeconds? (second - 60)).isSome = true ∧ (Instant.ofSeconds? (second + 60)).isSome = true

def IsBearer (claims : Claims) : Prop :=
  ∃ type, claims.type = some type ∧ Ascii.sameFold type "Bearer" = true

def Unexpired (claims : Claims) (now : Instant) : Prop :=
  ∀ second, claims.expiry.bind secondOf? = some second → now.millis < (second + 60) * 1000

def Begun (claims : Claims) (now : Instant) : Prop :=
  ∀ second, claims.startDate.bind secondOf? = some second → (second - 60) * 1000 ≤ now.millis

/-- What is asked of claims. -/
structure Acceptable (claims : Claims) (required : List String) (now : Instant) : Prop where
  isBearer : claims.IsBearer
  complete : ∀ name ∈ required, claims.has name = true
  unexpired : claims.Unexpired now
  begun : claims.Begun now

/-- What claims are refused for: they have everything that is asked for before it. -/
inductive RefusedFor (claims : Claims) (required : List String) (now : Instant) : VerifyError → Prop
  | type (other : ¬ claims.IsBearer) :
      RefusedFor claims required now (.tokenType (claims.type.getD "<none>"))
  | claim {before after : List String} {missing : String} (isBearer : claims.IsBearer)
      (listed : required = before ++ missing :: after)
      (present : ∀ name ∈ before, claims.has name = true) (absent : claims.has missing = false) :
      RefusedFor claims required now (.missingClaim missing)
  | expiry (isBearer : claims.IsBearer) (complete : ∀ name ∈ required, claims.has name = true)
      (late : ¬ claims.Unexpired now) : RefusedFor claims required now .expired
  | start (isBearer : claims.IsBearer) (complete : ∀ name ∈ required, claims.has name = true)
      (unexpired : claims.Unexpired now) (early : ¬ claims.Begun now) :
      RefusedFor claims required now .notYetValid

theorem checkType_eq_error_iff : claims.checkType = .error fault ↔
    ¬ claims.IsBearer ∧ fault = .error (.tokenType (claims.type.getD "<none>")) := by
  unfold checkType IsBearer
  cases claims.type with
  | none =>
    simp only [reduceCtorEq, false_and, exists_false, not_false_eq_true, true_and, Except.error.injEq,
      Option.getD_none]
    exact eq_comm
  | some type =>
    simp only [Option.some.injEq, exists_eq_left', Option.getD_some]
    by_cases same : Ascii.sameFold type "Bearer" = true
    · simp only [same, ite_true, reduceCtorEq, not_true_eq_false, false_and]
    · simp only [same, Bool.false_eq_true, ite_false, not_false_eq_true, true_and, Except.error.injEq]
      exact eq_comm

theorem checkRequired_eq_error_iff : claims.checkRequired required = .error fault ↔
    ∃ before missing after, required = before ++ missing :: after ∧
      (∀ name ∈ before, claims.has name = true) ∧ claims.has missing = false ∧
        fault = .error (.missingClaim missing) := by
  have found (missing : String) : required.find? (!claims.has ·) = some missing ↔
      claims.has missing = false ∧ ∃ before after, required = before ++ missing :: after ∧
        ∀ name ∈ before, claims.has name = true := by
    rw [List.find?_eq_some_iff_append]
    simp
  unfold checkRequired
  constructor
  · intro refused
    split at refused
    · rename_i missing sought
      obtain ⟨absent, before, after, listed, present⟩ := (found missing).mp sought
      cases refused
      exact ⟨before, missing, after, listed, present, absent, rfl⟩
    · cases refused
  · rintro ⟨before, missing, after, listed, present, absent, rfl⟩
    rw [(found missing).mpr ⟨absent, before, after, listed, present⟩]

/-- A date that can be moved is read as a whole second, and it is moved by a minute either way. -/
theorem IsMovable.read {value : Json.Value} (movable : IsMovable (some value)) :
    ∃ second, secondOf? value = some second ∧ date? value = some ⟨second * 1000⟩ ∧
      Instant.shift? ⟨second * 1000⟩ clockSkew = some ⟨(second + 60) * 1000⟩ ∧
      Instant.shift? ⟨second * 1000⟩ (-clockSkew) = some ⟨(second - 60) * 1000⟩ := by
  obtain ⟨second, spelled, lower, upper⟩ := movable value rfl
  refine ⟨second, spelled, ?_, ?_, ?_⟩
  · rw [date?_eq, spelled, Option.bind_some]
    exact Instant.ofSeconds?_of_between lower upper (by omega) (by omega)
  · rw [Instant.shift?_second]
    exact Instant.ofSeconds?_of_isSome upper
  · rw [Instant.shift?_second]
    exact Instant.ofSeconds?_of_isSome lower

/-- An expiry that can be moved is checked without leaving the calendar. -/
theorem checkExpiry_of_movable (movable : IsMovable claims.expiry) :
    (claims.checkExpiry now = .ok () ↔ claims.Unexpired now) ∧
      ∀ fault, (claims.checkExpiry now = .error fault ↔ ¬ claims.Unexpired now ∧ fault = .error .expired) := by
  cases named : claims.expiry with
  | none => simp [checkExpiry, Unexpired, named]
  | some value =>
    rw [named] at movable
    obtain ⟨second, spelled, dated, moved, -⟩ := movable.read
    have unexpired : claims.Unexpired now ↔ now < ⟨(second + 60) * 1000⟩ := by
      simp [Unexpired, named, spelled]
      rfl
    rw [unexpired]
    simp only [checkExpiry, expiresAt?, named, Option.bind_some, dated, moved, Option.isNone_some,
      Bool.false_eq_true, ite_false]
    by_cases early : now < ⟨(second + 60) * 1000⟩
    · simp [early]
    · simp [early, eq_comm]

/-- A start that can be moved is checked without leaving the calendar. -/
theorem checkStart_of_movable (movable : IsMovable claims.startDate) :
    (claims.checkStart now = .ok () ↔ claims.Begun now) ∧
      ∀ fault, (claims.checkStart now = .error fault ↔ ¬ claims.Begun now ∧ fault = .error .notYetValid) := by
  cases named : claims.startDate with
  | none => simp [checkStart, Begun, named]
  | some value =>
    rw [named] at movable
    obtain ⟨second, spelled, dated, -, moved⟩ := movable.read
    have begun : claims.Begun now ↔ ⟨(second - 60) * 1000⟩ ≤ now := by
      simp [Begun, named, spelled]
      rfl
    rw [begun]
    simp only [checkStart, notBefore?, named, Option.bind_some, dated, moved, Option.isNone_some,
      Bool.false_eq_true, ite_false]
    by_cases late : ⟨(second - 60) * 1000⟩ ≤ now
    · simp [late]
    · simp [late, eq_comm]

section Movable

variable (expiry : IsMovable claims.expiry) (start : IsMovable claims.startDate)
include expiry start

theorem check_eq_ok_iff : claims.check required now = .ok () ↔ claims.Acceptable required now := by
  rw [check_eq_ok, checkType_eq_ok_iff, checkRequired_eq_ok_iff,
    (checkExpiry_of_movable expiry).1, (checkStart_of_movable start).1]
  constructor
  · intro ⟨isBearer, complete, unexpired, begun⟩
    exact ⟨isBearer, complete, unexpired, begun⟩
  · intro ⟨isBearer, complete, unexpired, begun⟩
    exact ⟨isBearer, complete, unexpired, begun⟩

theorem check_eq_error_iff : claims.check required now = .error fault ↔
    ∃ cause, fault = .error cause ∧ claims.RefusedFor required now cause := by
  rw [check_eq_error, checkType_eq_error_iff, checkType_eq_ok_iff, checkRequired_eq_error_iff,
    checkRequired_eq_ok_iff, (checkExpiry_of_movable expiry).2, (checkExpiry_of_movable expiry).1,
    (checkStart_of_movable start).2]
  constructor
  · rintro (⟨other, rfl⟩ | ⟨isBearer, ⟨before, missing, after, listed, present, absent, rfl⟩ |
      ⟨complete, ⟨late, rfl⟩ | ⟨unexpired, early, rfl⟩⟩⟩)
    · exact ⟨_, rfl, .type other⟩
    · exact ⟨_, rfl, .claim isBearer listed present absent⟩
    · exact ⟨_, rfl, .expiry isBearer complete late⟩
    · exact ⟨_, rfl, .start isBearer complete unexpired early⟩
  · rintro ⟨cause, rfl, refused⟩
    cases refused with
    | type other => exact .inl ⟨other, rfl⟩
    | claim isBearer listed present absent =>
      exact .inr ⟨isBearer, .inl ⟨_, _, _, listed, present, absent, rfl⟩⟩
    | expiry isBearer complete late => exact .inr ⟨isBearer, .inr ⟨complete, .inl ⟨late, rfl⟩⟩⟩
    | start isBearer complete unexpired early =>
      exact .inr ⟨isBearer, .inr ⟨complete, .inr ⟨unexpired, early, rfl⟩⟩⟩

end Movable

theorem Unexpired.of_le {later : Instant} (unexpired : claims.Unexpired later) (before : now ≤ later) :
    claims.Unexpired now := by
  intro second named
  have limit := unexpired second named
  change now.millis ≤ later.millis at before
  omega

theorem Begun.of_le {earlier : Instant} (begun : claims.Begun earlier) (after : earlier ≤ now) :
    claims.Begun now := by
  intro second named
  have limit := begun second named
  change earlier.millis ≤ now.millis at after
  omega

/-- A token that is not due for a refresh expires in more than a minute, and it is good for another one
after that. -/
theorem unexpired_of_needsRefresh {token : SignedToken} {peer : Instant}
    (served : (token.needsRefresh now : Except (Fault Error) Bool) = .ok false)
    (soon : peer.since now ≤ 120000) : token.claims.Unexpired peer := by
  intro second named
  unfold SignedToken.needsRefresh at served
  split at served
  · cases served
  · rename_i expiry read
    split at served
    · cases served
    · rename_i deadline shifted
      have moved := Instant.millis_of_shift? shifted
      have early : ¬ deadline.millis ≤ now.millis := decide_eq_false_iff_not.mp (Except.ok.inj served)
      have same : expiry.millis = second * 1000 := by
        obtain ⟨value, written, dated⟩ := Option.bind_eq_some_iff.mp read
        rw [written, Option.bind_some] at named
        rw [date?_eq, named, Option.bind_some] at dated
        exact (ofSeconds?_eq_some_iff.mp dated).1
      -- One minute is left before the expiry, and there is another one after it.
      simp only [SignedToken.refreshMargin] at moved
      unfold Instant.since at soon
      omega

/-- How claims are judged in the course of time. -/
structure HasLifetime (claims : Claims) (required : List String) : Prop where
  accepted : ∀ now, claims.check required now = .ok () ↔ claims.Acceptable required now
  refused : ∀ now fault, claims.check required now = .error fault ↔
    ∃ cause, fault = .error cause ∧ claims.RefusedFor required now cause
  /-- There is no gap in the time of acceptance. -/
  unbroken : ∀ earlier now later, earlier ≤ now → now ≤ later →
    claims.check required earlier = .ok () → claims.check required later = .ok () →
    claims.check required now = .ok ()
  /-- What has expired stays so. -/
  final : ∀ now later, now ≤ later → claims.check required now = .error (.error .expired) →
    claims.check required later = .error (.error .expired)
  /-- A token that is not due for a refresh is unexpired for those whose clock is up to two minutes
  ahead. -/
  lasting : ∀ (token : SignedToken) (now peer : Instant), token.claims = claims →
    (token.needsRefresh now : Except (Fault Error) Bool) = .ok false → peer.since now ≤ 120000 →
    claims.checkExpiry peer = .ok () ∧ claims.check required peer ≠ .error (.error .expired)

/-- Claims whose dates can be moved by a minute have a lifetime, whatever is required of them. -/
theorem hasLifetime_of_movable (expiry : IsMovable claims.expiry) (start : IsMovable claims.startDate)
    (required : List String) : claims.HasLifetime required := by
  have accepted (now : Instant) :
      claims.check required now = .ok () ↔ claims.Acceptable required now :=
    check_eq_ok_iff expiry start
  have refused (now : Instant) (fault : Fault VerifyError) : claims.check required now = .error fault ↔
      ∃ cause, fault = .error cause ∧ claims.RefusedFor required now cause :=
    check_eq_error_iff expiry start
  have expired (now : Instant) : claims.check required now = .error (.error .expired) ↔
      claims.IsBearer ∧ (∀ name ∈ required, claims.has name = true) ∧ ¬ claims.Unexpired now := by
    rw [refused]
    constructor
    · rintro ⟨_, ⟨⟩, refusal⟩
      cases refusal with
      | expiry isBearer complete late => exact ⟨isBearer, complete, late⟩
    · intro ⟨isBearer, complete, late⟩
      exact ⟨_, rfl, .expiry isBearer complete late⟩
  refine ⟨accepted, refused, ?_, ?_, ?_⟩
  · intro earlier now later after before first last
    obtain ⟨isBearer, complete, -, begun⟩ := (accepted earlier).mp first
    have unexpired := ((accepted later).mp last).unexpired
    exact (accepted now).mpr ⟨isBearer, complete, unexpired.of_le before, begun.of_le after⟩
  · intro now later before past
    obtain ⟨isBearer, complete, late⟩ := (expired now).mp past
    exact (expired later).mpr ⟨isBearer, complete, fun unexpired => late (unexpired.of_le before)⟩
  · rintro token now peer rfl served soon
    have unexpired := unexpired_of_needsRefresh served soon
    refine ⟨(checkExpiry_of_movable expiry).1.mpr unexpired, fun past => ?_⟩
    exact ((expired peer).mp past).2.2 unexpired

end Claims

namespace FiveMinutes

open Claims

def token : SignedToken where
  secret := ⟨"eyJhbGciOiJIUzI1NiJ9.e30.c2ln"⟩
  header := ⟨"HS256", none, none⟩
  claims := { Claims.blank with
    type := some "bearer", expiry := some (.ofInt 1700000300), startDate := some (.ofInt 1699999990) }

/-- A token that is good for five minutes from a start ten seconds ago. It is accepted within a minute
after it, and not any more when the minute is over. A minute before it, it is replaced. -/
theorem good_within_lifetime :
    IsMovable token.claims.expiry ∧ IsMovable token.claims.startDate ∧
      token.claims.HasLifetime ["exp", "nbf"] ∧
      token.claims.check ["exp", "nbf"] ⟨1699999930000⟩ = .ok () ∧
      token.claims.check ["exp", "nbf"] ⟨1700000359999⟩ = .ok () ∧
      token.claims.check ["exp", "nbf"] ⟨1700000360000⟩ = .error (.error .expired) ∧
      (token.needsRefresh ⟨1700000239999⟩ : Except (Fault Error) Bool) = .ok false ∧
      (token.needsRefresh ⟨1700000240000⟩ : Except (Fault Error) Bool) = .ok true := by
  have expiry : IsMovable token.claims.expiry := by
    rintro _ ⟨⟩
    exact ⟨1700000300, rfl, by decide, by decide⟩
  have start : IsMovable token.claims.startDate := by
    rintro _ ⟨⟩
    exact ⟨1699999990, rfl, by decide, by decide⟩
  exact ⟨expiry, start, hasLifetime_of_movable expiry start _, rfl, rfl, rfl, rfl, rfl⟩

end FiveMinutes

end BearerIdentity
