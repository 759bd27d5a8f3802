import BearerIdentity.Token.Validity

set_option autoImplicit false

namespace BearerIdentity

namespace Instant

variable {instant limit : Instant} {seconds : Int}

theorem millis_of_shift? (shifted : instant.shift? seconds = some limit) :
    limit.millis = instant.millis + seconds * 1000 := by
  unfold shift? inCalendar? at shifted
  split at shifted
  · rw [← Option.some.inj shifted]
  · cases shifted

end Instant

namespace Claims

variable {claims : Claims} {now : Instant}

theorem type_of_checkType (passed : claims.checkType = .ok ()) :
    ∃ type, claims.type = some type ∧ Ascii.sameFold type "Bearer" = true := by
  unfold checkType at passed
  split at passed
  · cases passed
  · rename_i type named
    split at passed
    · rename_i same
      exact ⟨type, named, same⟩
    · cases passed

theorem has_of_checkRequired {required : List String}
    (passed : claims.checkRequired required = .ok ()) :
    ∀ name ∈ required, claims.has name = true := by
  unfold checkRequired at passed
  split at passed
  · cases passed
  · rename_i complete
    intro name listed
    have present := List.find?_eq_none.mp complete name listed
    rw [Bool.not_eq_true, Bool.not_eq_false'] at present
    exact present

theorem checkType_eq_ok_iff : claims.checkType = .ok () ↔
    ∃ type, claims.type = some type ∧ Ascii.sameFold type "Bearer" = true := by
  constructor
  · exact type_of_checkType
  · intro ⟨type, named, same⟩
    rw [checkType, named]
    simp only [same, ite_true]

theorem checkRequired_eq_ok_iff {required : List String} :
    claims.checkRequired required = .ok () ↔ ∀ name ∈ required, claims.has name = true := by
  constructor
  · exact has_of_checkRequired
  · intro complete
    have none : required.find? (!claims.has ·) = none := by
      rw [List.find?_eq_none]
      intro name listed
      simp only [complete name listed, Bool.not_true, Bool.false_eq_true, not_false_eq_true]
    rw [checkRequired, none]

/-- An expiry that is named can be read, and the present is less than a minute after it. -/
theorem expiry_of_checkExpiry (passed : claims.checkExpiry now = .ok ())
    (named : claims.expiry.isSome = true) :
    ∃ expiry, claims.expiresAt? = some expiry ∧ now.millis < expiry.millis + 60000 := by
  unfold checkExpiry at passed
  rw [Option.isNone_eq_false_iff.mpr named] at passed
  simp only [Bool.false_eq_true, ite_false] at passed
  split at passed
  · cases passed
  · rename_i expiry read
    split at passed
    · cases passed
    · rename_i limit shifted
      have moved := Instant.millis_of_shift? shifted
      split at passed
      · rename_i early
        change now.millis < limit.millis at early
        refine ⟨expiry, read, ?_⟩
        simp only [clockSkew] at moved
        omega
      · cases passed

/-- A start that is named can be read, and it is at most a minute in the future. -/
theorem start_of_checkStart (passed : claims.checkStart now = .ok ())
    (named : claims.startDate.isSome = true) :
    ∃ start, claims.notBefore? = some start ∧ start.millis - 60000 ≤ now.millis := by
  unfold checkStart at passed
  rw [Option.isNone_eq_false_iff.mpr named] at passed
  simp only [Bool.false_eq_true, ite_false] at passed
  split at passed
  · cases passed
  · rename_i start read
    split at passed
    · cases passed
    · rename_i limit shifted
      have moved := Instant.millis_of_shift? shifted
      split at passed
      · rename_i late
        change limit.millis ≤ now.millis at late
        refine ⟨start, read, ?_⟩
        simp only [clockSkew] at moved
        omega
      · cases passed

theorem check_eq_ok {required : List String} :
    claims.check required now = .ok () ↔
      claims.checkType = .ok () ∧ claims.checkRequired required = .ok () ∧
        claims.checkExpiry now = .ok () ∧ claims.checkStart now = .ok () := by
  unfold check
  cases claims.checkType with
  | error fault => simp [Bind.bind, Except.bind]
  | ok _ =>
    cases claims.checkRequired required with
    | error fault => simp [Bind.bind, Except.bind]
    | ok _ =>
      cases claims.checkExpiry now with
      | error fault => simp [Bind.bind, Except.bind]
      | ok _ => simp [Bind.bind, Except.bind]

/-- A fault is that of the first part of the check which has one. -/
theorem check_eq_error {required : List String} {fault : Fault VerifyError} :
    claims.check required now = .error fault ↔
      claims.checkType = .error fault ∨ claims.checkType = .ok () ∧
        (claims.checkRequired required = .error fault ∨ claims.checkRequired required = .ok () ∧
          (claims.checkExpiry now = .error fault ∨
            claims.checkExpiry now = .ok () ∧ claims.checkStart now = .error fault)) := by
  unfold check
  cases claims.checkType with
  | error fault => simp [Bind.bind, Except.bind]
  | ok _ =>
    cases claims.checkRequired required with
    | error fault => simp [Bind.bind, Except.bind]
    | ok _ =>
      cases claims.checkExpiry now with
      | error fault => simp [Bind.bind, Except.bind]
      | ok _ => simp [Bind.bind, Except.bind]

end Claims

end BearerIdentity
