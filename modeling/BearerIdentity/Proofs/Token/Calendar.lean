import BearerIdentity.Proofs.Token.Validity
import BearerIdentity.Token.Signed

set_option autoImplicit false

namespace BearerIdentity

namespace Instant

variable {instant : Instant}

def IsInLastMinute (instant : Instant) : Prop :=
  last.millis < instant.millis + 60000

def IsInFirstMinute (instant : Instant) : Prop :=
  instant.millis - 60000 < first.millis

theorem inCalendar?_eq_none_iff {millis : Int} :
    inCalendar? ⟨millis⟩ = none ↔ millis < first.millis ∨ last.millis < millis := by
  unfold inCalendar? isInCalendar
  simp only [Bool.and_eq_true, decide_eq_true_eq, ite_eq_right_iff, reduceCtorEq, imp_false]
  omega

theorem bounds_of_inCalendar? {found : Instant} (inside : instant.inCalendar? = some found) :
    first.millis ≤ found.millis ∧ found.millis ≤ last.millis := by
  unfold inCalendar? isInCalendar at inside
  split at inside
  · rename_i bounded
    rw [Option.some.inj inside] at bounded
    simpa only [Bool.and_eq_true, decide_eq_true_eq] using bounded
  · cases inside

/-- Only in the last minute does a minute forward lead out of the calendar. -/
theorem shift?_forward_eq_none_iff (begun : first.millis ≤ instant.millis) :
    instant.shift? Claims.clockSkew = none ↔ instant.IsInLastMinute := by
  have minute : ((Claims.clockSkew : Nat) : Int) * 1000 = 60000 := by decide
  unfold shift? IsInLastMinute
  rw [inCalendar?_eq_none_iff, minute]
  omega

/-- Only in the first minute does a minute backward lead out of the calendar. -/
theorem shift?_backward_eq_none_iff (unended : instant.millis ≤ last.millis) :
    instant.shift? (-Claims.clockSkew) = none ↔ instant.IsInFirstMinute := by
  have minute : -((Claims.clockSkew : Nat) : Int) * 1000 = -60000 := by decide
  unfold shift? IsInFirstMinute
  rw [inCalendar?_eq_none_iff, minute]
  omega

end Instant

namespace Claims

open Instant

variable {claims : Claims} {required : List String} {now : Instant}

theorem bounds_of_date? {value : Json.Value} {instant : Instant} (read : date? value = some instant) :
    first.millis ≤ instant.millis ∧ instant.millis ≤ last.millis := by
  unfold date? at read
  split at read
  · exact bounds_of_inCalendar? read
  · exact bounds_of_inCalendar? read
  · cases read

/-- The second that a value names, fractions cut off, if the value is a number. -/
def secondOf? : Json.Value → Option Int
  | .number (.whole seconds) => some seconds
  | .number (.real seconds) => some seconds.truncate
  | _ => none

theorem date?_eq (value : Json.Value) : date? value = (secondOf? value).bind Instant.ofSeconds? := by
  unfold date? secondOf?
  split
  · rfl
  · rfl
  · simp

theorem ofSeconds?_eq_some_iff {second : Int} {instant : Instant} :
    Instant.ofSeconds? second = some instant ↔
      instant.millis = second * 1000 ∧ first.millis ≤ instant.millis ∧ instant.millis ≤ last.millis := by
  unfold Instant.ofSeconds?
  constructor
  · intro found
    refine ⟨?_, bounds_of_inCalendar? found⟩
    unfold inCalendar? at found
    split at found
    · rw [← Option.some.inj found]
    · cases found
  · intro ⟨same, bounded⟩
    rw [same] at bounded
    have inside : isInCalendar ⟨second * 1000⟩ = true := by
      simpa only [isInCalendar, Bool.and_eq_true, decide_eq_true_eq] using bounded
    rw [inCalendar?, if_pos inside, ← same]

/-- A date of a token is in the calendar if it is a number that names one of its seconds. -/
theorem exists_bind_date?_iff {date : Option Json.Value} {meets : Instant → Prop} :
    (∃ instant, date.bind date? = some instant ∧ meets instant) ↔
      ∃ second, date.bind secondOf? = some second ∧
        (-377705116800 ≤ second ∧ second ≤ 253402300799) ∧ meets ⟨second * 1000⟩ := by
  have firstly : first.millis = -377705116800000 := rfl
  have lastly : last.millis = 253402300799999 := rfl
  have inSteps : date.bind date? = (date.bind secondOf?).bind Instant.ofSeconds? := by
    rw [Option.bind_assoc]
    exact congrArg date.bind (funext date?_eq)
  rw [inSteps]
  constructor
  · intro ⟨instant, dated, met⟩
    obtain ⟨second, named, found⟩ := Option.bind_eq_some_iff.mp dated
    obtain ⟨same, begun, unended⟩ := ofSeconds?_eq_some_iff.mp found
    have whole : instant = ⟨second * 1000⟩ := congrArg Instant.mk same
    refine ⟨second, named, ⟨?_, ?_⟩, whole ▸ met⟩
    · omega
    · omega
  · intro ⟨second, named, ⟨begun, unended⟩, met⟩
    refine ⟨⟨second * 1000⟩, Option.bind_eq_some_iff.mpr ⟨second, named, ?_⟩, met⟩
    rw [ofSeconds?_eq_some_iff]
    refine ⟨rfl, ?_, ?_⟩
    · show first.millis ≤ second * 1000
      omega
    · show second * 1000 ≤ last.millis
      omega

/-- A date of a token names one of the sixty seconds after which the calendar ends within a minute. -/
def NamesLastMinute (date : Option Json.Value) : Prop :=
  ∃ second, date.bind secondOf? = some second ∧ 253402300740 ≤ second ∧ second ≤ 253402300799

/-- A date of a token names one of the sixty seconds with which the calendar begins. -/
def NamesFirstMinute (date : Option Json.Value) : Prop :=
  ∃ second, date.bind secondOf? = some second ∧ -377705116800 ≤ second ∧ second ≤ -377705116741

theorem exists_isInLastMinute_iff {date : Option Json.Value} :
    (∃ instant, date.bind date? = some instant ∧ instant.IsInLastMinute) ↔ NamesLastMinute date := by
  have lastly : last.millis = 253402300799999 := rfl
  rw [exists_bind_date?_iff]
  refine exists_congr fun second => and_congr_right fun _ => ?_
  simp only [IsInLastMinute, lastly]
  omega

theorem exists_isInFirstMinute_iff {date : Option Json.Value} :
    (∃ instant, date.bind date? = some instant ∧ instant.IsInFirstMinute) ↔ NamesFirstMinute date := by
  have firstly : first.millis = -377705116800000 := rfl
  rw [exists_bind_date?_iff]
  refine exists_congr fun second => and_congr_right fun _ => ?_
  simp only [IsInFirstMinute, firstly]
  omega

theorem bounds_of_expiresAt? {expiry : Instant} (read : claims.expiresAt? = some expiry) :
    first.millis ≤ expiry.millis ∧ expiry.millis ≤ last.millis := by
  obtain ⟨value, -, read⟩ := Option.bind_eq_some_iff.mp read
  exact bounds_of_date? read

theorem bounds_of_notBefore? {start : Instant} (read : claims.notBefore? = some start) :
    first.millis ≤ start.millis ∧ start.millis ≤ last.millis := by
  obtain ⟨value, -, read⟩ := Option.bind_eq_some_iff.mp read
  exact bounds_of_date? read

theorem checkType_ne_calendar : claims.checkType ≠ .error .calendar := by
  intro left
  unfold checkType at left
  split at left
  · cases left
  · split at left <;> cases left

theorem checkRequired_ne_calendar : claims.checkRequired required ≠ .error .calendar := by
  intro left
  unfold checkRequired at left
  split at left <;> cases left

theorem checkExpiry_eq_calendar_iff :
    claims.checkExpiry now = .error .calendar ↔ NamesLastMinute claims.expiry := by
  rw [← exists_isInLastMinute_iff, ← expiresAt?]
  unfold checkExpiry
  by_cases absent : claims.expiry.isNone = true
  · have unread : claims.expiresAt? = none := by
      rw [expiresAt?, Option.isNone_iff_eq_none.mp absent, Option.bind_none]
    simp [absent, unread]
  rw [if_neg absent]
  cases read : claims.expiresAt? with
  | none => simp
  | some expiry =>
    simp only [Option.some.injEq, exists_eq_left',
      ← shift?_forward_eq_none_iff (bounds_of_expiresAt? read).1]
    cases expiry.shift? clockSkew with
    | none => simp
    | some limit =>
      dsimp only
      split <;> simp

theorem checkStart_eq_calendar_iff :
    claims.checkStart now = .error .calendar ↔ NamesFirstMinute claims.startDate := by
  rw [← exists_isInFirstMinute_iff, ← notBefore?]
  unfold checkStart
  by_cases absent : claims.startDate.isNone = true
  · have unread : claims.notBefore? = none := by
      rw [notBefore?, Option.isNone_iff_eq_none.mp absent, Option.bind_none]
    simp [absent, unread]
  rw [if_neg absent]
  cases read : claims.notBefore? with
  | none => simp
  | some start =>
    simp only [Option.some.injEq, exists_eq_left',
      ← shift?_backward_eq_none_iff (bounds_of_notBefore? read).2]
    cases start.shift? (-clockSkew) with
    | none => simp
    | some limit =>
      dsimp only
      split <;> simp

/-- Either no expiry is named, or it can be read, is not in the last minute and is less than a minute
ago. -/
def Lasts (claims : Claims) (now : Instant) : Prop :=
  claims.expiry = none ∨ ¬ NamesLastMinute claims.expiry ∧
    ∃ expiry, claims.expiresAt? = some expiry ∧ now.millis < expiry.millis + 60000

theorem checkExpiry_eq_ok_iff : claims.checkExpiry now = .ok () ↔ claims.Lasts now := by
  constructor
  · intro passed
    cases named : claims.expiry with
    | none => exact .inl named
    | some value =>
      have hasNext : ¬ NamesLastMinute claims.expiry := by
        intro ending
        rw [checkExpiry_eq_calendar_iff.mpr ending] at passed
        cases passed
      exact .inr ⟨hasNext, expiry_of_checkExpiry passed (by rw [named]; rfl)⟩
  · intro lasts
    rcases lasts with absent | ⟨hasNext, expiry, read, early⟩
    · simp [checkExpiry, absent]
    · have named : claims.expiry.isNone = false := by
        obtain ⟨value, named, -⟩ := Option.bind_eq_some_iff.mp read
        rw [named]
        rfl
      have moves : expiry.shift? clockSkew ≠ none := by
        rw [Ne, shift?_forward_eq_none_iff (bounds_of_expiresAt? read).1]
        intro ending
        exact hasNext (exists_isInLastMinute_iff.mp ⟨expiry, read, ending⟩)
      obtain ⟨limit, shifted⟩ := Option.ne_none_iff_exists'.mp moves
      have limited := millis_of_shift? shifted
      have before : now < limit := by
        change now.millis < limit.millis
        simp only [clockSkew] at limited
        omega
      simp only [checkExpiry, named, read, shifted, before, Bool.false_eq_true, ite_false, ite_true]

/-- The check of claims comes to a date that a minute leads out of the calendar from: what is checked
before the date is in order. -/
structure Overruns (claims : Claims) (required : List String) (now : Instant) : Prop where
  isBearer : ∃ type, claims.type = some type ∧ Ascii.sameFold type "Bearer" = true
  complete : ∀ name ∈ required, claims.has name = true
  close : NamesLastMinute claims.expiry ∨ claims.Lasts now ∧ NamesFirstMinute claims.startDate

theorem check_eq_calendar_iff :
    claims.check required now = .error .calendar ↔ claims.Overruns required now := by
  have typed : claims.checkType ≠ .error .calendar := checkType_ne_calendar
  have listed : claims.checkRequired required ≠ .error .calendar := checkRequired_ne_calendar
  simp only [check_eq_error, typed, listed, false_or]
  rw [checkType_eq_ok_iff, checkRequired_eq_ok_iff, checkExpiry_eq_calendar_iff,
    checkExpiry_eq_ok_iff, checkStart_eq_calendar_iff]
  constructor
  · intro ⟨isBearer, complete, close⟩
    exact ⟨isBearer, complete, close⟩
  · intro ⟨isBearer, complete, close⟩
    exact ⟨isBearer, complete, close⟩

end Claims

namespace SignedToken

open Instant

variable {token : SignedToken} {now : Instant}

theorem needsRefresh_eq_calendar_iff {ε : Type} :
    (token.needsRefresh now : Except (Fault ε) Bool) = .error .calendar ↔
      Claims.NamesFirstMinute token.claims.expiry := by
  rw [← Claims.exists_isInFirstMinute_iff, ← Claims.expiresAt?]
  unfold needsRefresh
  cases read : token.claims.expiresAt? with
  | none => simp
  | some expiry =>
    have margin : (-refreshMargin : Int) = -Claims.clockSkew := rfl
    simp only [Option.some.injEq, exists_eq_left', margin,
      ← shift?_backward_eq_none_iff (Claims.bounds_of_expiresAt? read).2]
    cases expiry.shift? (-Claims.clockSkew) with
    | none => simp
    | some deadline => simp

end SignedToken

end BearerIdentity
