import BearerIdentity.Proofs.Json.Record
import BearerIdentity.Proofs.Token.Calendar

set_option autoImplicit false

namespace BearerIdentity

namespace Claims

open Json

variable {claims : Claims} {required : List String} {now : Instant} {members : List (String × Value)}
  {value : Value} {document : Bytes}

/-- The value names no second of the calendar: it is no number, or a number beyond it. -/
def IsUnreadable (value : Value) : Prop :=
  ¬ ∃ second, secondOf? value = some second ∧ -377705116800 ≤ second ∧ second ≤ 253402300799

def unlessNull? : Value → Option Value
  | .null => none
  | value => some value

/-- The dates of the claims are those that an object has, except for `null`. -/
structure Mirrors (claims : Claims) (members : List (String × Value)) : Prop where
  expiry : claims.expiry = (members.lookup "exp").bind unlessNull?
  startDate : claims.startDate = (members.lookup "nbf").bind unlessNull?

theorem unlessNull?_of_ne (other : value ≠ .null) : unlessNull? value = some value := by
  unfold unlessNull?
  split
  · exact absurd rfl other
  · rfl

theorem Mirrors.insert {claims' : Claims} {name : String} (mirrors : claims.Mirrors members)
    (expiry : claims'.expiry = if "exp" = name then unlessNull? value else claims.expiry)
    (startDate : claims'.startDate = if "nbf" = name then unlessNull? value else claims.startDate) :
    claims'.Mirrors (insertSorted name value members) := by
  constructor
  · rw [expiry, lookup_insertSorted]
    split
    · rfl
    · exact mirrors.expiry
  · rw [startDate, lookup_insertSorted]
    split
    · rfl
    · exact mirrors.startDate

/-- A member that is no date leaves the dates as they are. -/
theorem adds_other {α : Type} {inner : Decoder α} {set : α → Claims → Claims} {name : String}
    (reads : inner.ReadsValues)
    (keeps : ∀ read claims, (set read claims).expiry = claims.expiry ∧
      (set read claims).startDate = claims.startDate)
    (notExpiry : "exp" ≠ name) (notStart : "nbf" ≠ name) :
    Record.Adds Mirrors name (Field.optional name inner set).read := by
  intro depth node claims claims' members given mirrors
  obtain ⟨read, held, rfl⟩ := map_eq_ok.mp given
  obtain ⟨value, decoded⟩ := reads _ _ read held
  obtain ⟨expiry, startDate⟩ := keeps read claims
  refine ⟨value, decoded, mirrors.insert ?_ ?_⟩
  · rw [expiry, if_neg notExpiry]
  · rw [startDate, if_neg notStart]

/-- A date is kept as it was written, unless it is `null`. -/
theorem exists_of_optional {depth : Nat} {node : Node} {read : Option Value}
    (given : Decoder.option decodeValue depth node = .ok read) :
    ∃ value, decodeValue depth node = .ok value ∧ read = unlessNull? value := by
  unfold Decoder.option at given
  split at given
  · cases given
    exact ⟨.null, by rw [decodeValue], rfl⟩
  · rename_i other
    obtain ⟨value, held, rfl⟩ := map_eq_ok.mp given
    exact ⟨value, held, (unlessNull?_of_ne (ne_null_of_decodeValue other held)).symm⟩

/-- A member that is a date is kept as that date. -/
theorem adds_date {set : Option Value → Claims → Claims} {name : String}
    (expiry : ∀ read claims, (set read claims).expiry = if "exp" = name then read else claims.expiry)
    (startDate : ∀ read claims,
      (set read claims).startDate = if "nbf" = name then read else claims.startDate) :
    Record.Adds Mirrors name (Field.optional name (.option decodeValue) set).read := by
  intro depth node claims claims' members given mirrors
  obtain ⟨read, held, rfl⟩ := map_eq_ok.mp given
  obtain ⟨value, decoded, rfl⟩ := exists_of_optional held
  exact ⟨value, decoded, mirrors.insert (expiry _ _) (startDate _ _)⟩

theorem adds_field : ∀ field ∈ fields, Record.Adds Mirrors field.name field.read := by
  have text := Decoder.readsValues_string.option
  have texts := Decoder.readsValues_string.list.option
  have audience : (Decoder.option Audience.decoder).ReadsValues := Decoder.readsValues_ofValue?.option
  have value := Decoder.readsValues_decodeValue.option
  simp only [fields, List.forall_mem_cons, List.not_mem_nil, false_implies, implies_true, and_true]
  refine ⟨?issuer, ?subject, ?audience, ?expiry, ?issueDate, ?startDate, ?party, ?type, ?scope, ?roles,
    ?groups, ?authorization⟩
  case expiry => exact adds_date (fun _ _ => rfl) (fun _ _ => rfl)
  case startDate => exact adds_date (fun _ _ => rfl) (fun _ _ => rfl)
  case audience => exact adds_other audience (fun _ _ => ⟨rfl, rfl⟩) (by decide) (by decide)
  case issueDate | authorization => exact adds_other value (fun _ _ => ⟨rfl, rfl⟩) (by decide) (by decide)
  case roles | groups => exact adds_other texts (fun _ _ => ⟨rfl, rfl⟩) (by decide) (by decide)
  all_goals exact adds_other text (fun _ _ => ⟨rfl, rfl⟩) (by decide) (by decide)

/-- A document that claims are read from is an object with their dates. -/
theorem mirrors_of_decoded (decoded : decodeAll decoder document = .ok claims) :
    ∃ members, decodeAll decodeValue document = .ok (.object members) ∧ claims.Mirrors members := by
  refine Record.mirrors_of_decodeAll adds_field ?_ ⟨rfl, rfl⟩ decoded
  intro name unnamed depth node claims claims' members given mirrors
  obtain ⟨value, held, rfl⟩ := map_eq_ok.mp given
  have notExpiry : "exp" ≠ name :=
    unnamed (.optional "exp" (.option decodeValue) fun expiry claims => { claims with expiry })
      (by simp [fields])
  have notStart : "nbf" ≠ name :=
    unnamed (.optional "nbf" (.option decodeValue) fun startDate claims => { claims with startDate })
      (by simp [fields])
  refine ⟨value, held, mirrors.insert ?_ ?_⟩
  · rw [if_neg notExpiry]
  · rw [if_neg notStart]

theorem date?_eq_none_iff : date? value = none ↔ IsUnreadable value := by
  have read : (∃ instant, (some value).bind date? = some instant ∧ True) ↔ _ := exists_bind_date?_iff
  simp only [Option.bind_some, and_true] at read
  rw [IsUnreadable, ← read, not_exists, Option.eq_none_iff_forall_ne_some]

theorem checkExpiry_of_unreadable (named : claims.expiry = some value) (unreadable : IsUnreadable value) :
    claims.checkExpiry now = .error (.error .expired) := by
  have unread : claims.expiresAt? = none := by
    rw [expiresAt?, named, Option.bind_some, date?_eq_none_iff]
    exact unreadable
  simp only [checkExpiry, named, unread, Option.isNone_some, Bool.false_eq_true, ite_false]

theorem checkStart_of_unreadable (named : claims.startDate = some value) (unreadable : IsUnreadable value) :
    claims.checkStart now = .error (.error .notYetValid) := by
  have unread : claims.notBefore? = none := by
    rw [notBefore?, named, Option.bind_some, date?_eq_none_iff]
    exact unreadable
  simp only [checkStart, named, unread, Option.isNone_some, Bool.false_eq_true, ite_false]

def IsRefused (claims : Claims) (required : List String) (now : Instant) : Prop :=
  ∃ cause, claims.check required now = .error (.error cause)

theorem refused_or_calendar (fails : claims.check required now ≠ .ok ()) :
    claims.IsRefused required now ∨ claims.check required now = .error .calendar := by
  rcases outcome : claims.check required now with (_ | cause) | _
  · exact .inr rfl
  · exact .inl ⟨cause, outcome⟩
  · exact absurd outcome fails

theorem refused_of_unreadable_expiry (named : claims.expiry = some value) (unreadable : IsUnreadable value) :
    claims.IsRefused required now := by
  have failed : claims.checkExpiry now = .error (.error .expired) := checkExpiry_of_unreadable named unreadable
  have fails : claims.checkExpiry now ≠ .ok () := by simp [failed]
  rcases refused_or_calendar fun passed => fails (check_eq_ok.mp passed).2.2.1 with refused | left
  · exact refused
  · rcases (check_eq_calendar_iff.mp left).close with ending | ⟨lasts, -⟩
    · have overrun := (checkExpiry_eq_calendar_iff.mpr ending).symm.trans failed
      cases overrun
    · exact absurd (checkExpiry_eq_ok_iff.mpr lasts) fails

/-- The check may come to an expiry that leads out of the calendar first. -/
theorem refused_of_unreadable_start (named : claims.startDate = some value) (unreadable : IsUnreadable value) :
    claims.IsRefused required now ∨
      NamesLastMinute claims.expiry ∧ claims.check required now = .error .calendar := by
  have failed : claims.checkStart now = .error (.error .notYetValid) := checkStart_of_unreadable named unreadable
  have fails : claims.checkStart now ≠ .ok () := by simp [failed]
  refine (refused_or_calendar fun passed => fails (check_eq_ok.mp passed).2.2.2).imp_right fun left => ?_
  -- The start itself cannot be moved out of the calendar, as it is not in it.
  rcases (check_eq_calendar_iff.mp left).close with ending | ⟨-, beginning⟩
  · exact ⟨ending, left⟩
  · have overrun := (checkStart_eq_calendar_iff.mpr beginning).symm.trans failed
    cases overrun

/-- What becomes of the unreadable dates of an object that the claims are read from. -/
structure FailsClosed (claims : Claims) (members : List (String × Value)) : Prop where
  expiry : ∀ value, members.lookup "exp" = some value → IsUnreadable value → value ≠ .null →
    ∀ required now, claims.IsRefused required now
  startDate : ∀ value, members.lookup "nbf" = some value → IsUnreadable value → value ≠ .null →
    ∀ required now, claims.IsRefused required now ∨
      NamesLastMinute claims.expiry ∧ claims.check required now = .error .calendar
  /-- With `null` for an expiry, claims have none, and they never expire. -/
  nullExpiry : members.lookup "exp" = some .null →
    claims.has "exp" = false ∧ ∀ now, claims.checkExpiry now = .ok ()
  nullStart : members.lookup "nbf" = some .null →
    claims.has "nbf" = false ∧ ∀ now, claims.checkStart now = .ok ()

/-- A document that claims are read from is an object, and but for `null`, none of its dates is taken for
missing. -/
theorem failsClosed_of_decoded (decoded : decodeAll decoder document = .ok claims) :
    ∃ members, decodeAll decodeValue document = .ok (.object members) ∧ claims.FailsClosed members := by
  obtain ⟨members, isObject, mirrors⟩ := mirrors_of_decoded decoded
  refine ⟨members, isObject, ?_, ?_, ?_, ?_⟩
  · intro value given unreadable other required now
    refine refused_of_unreadable_expiry ?_ unreadable
    rw [mirrors.expiry, given, Option.bind_some, unlessNull?_of_ne other]
  · intro value given unreadable other required now
    refine refused_of_unreadable_start ?_ unreadable
    rw [mirrors.startDate, given, Option.bind_some, unlessNull?_of_ne other]
  · intro given
    have absent : claims.expiry = none := by
      rw [mirrors.expiry, given, Option.bind_some, unlessNull?]
    exact ⟨by simp [has, absent], fun now => by simp [checkExpiry, absent]⟩
  · intro given
    have absent : claims.startDate = none := by
      rw [mirrors.startDate, given, Option.bind_some, unlessNull?]
    exact ⟨by simp [has, absent], fun now => by simp [checkStart, absent]⟩

end Claims

namespace Timeless

open Json

def now : Instant :=
  ⟨1700000000000⟩

def worded : Bytes :=
  Utf8.ofString "\x7b\"typ\":\"Bearer\",\"exp\":\"never\"\x7d"

def empty : Bytes :=
  Utf8.ofString "\x7b\"typ\":\"Bearer\",\"exp\":null\x7d"

def expiryOf (document : Bytes) : Option Value :=
  (decodeAll decodeValue document).toOption.bind (·.member? "exp")

theorem lookup_eq_expiryOf {document : Bytes} {members : List (String × Value)}
    (isObject : decodeAll decodeValue document = .ok (.object members)) :
    members.lookup "exp" = expiryOf document := by
  rw [expiryOf, isObject]
  rfl

theorem worded_expiry : expiryOf worded = some (.string "never") := by
  have found : (expiryOf worded).bind Value.text? = some "never" := by decide +kernel
  obtain ⟨value, given, text⟩ := Option.bind_eq_some_iff.mp found
  unfold Value.text? at text
  split at text
  · rw [given, Option.some.inj text]
  · cases text

theorem empty_expiry : expiryOf empty = some .null := by
  have found : (expiryOf empty).map (fun value => (Claims.unlessNull? value).isNone) = some true := by
    decide +kernel
  obtain ⟨value, given, null⟩ := Option.map_eq_some_iff.mp found
  rw [given]
  by_cases isNull : value = .null
  · rw [isNull]
  · rw [Claims.unlessNull?_of_ne isNull] at null
    cases null

theorem worded_decoded : ∃ claims, decodeAll Claims.decoder worded = .ok claims ∧
    claims.type = some "Bearer" :=
  exists_of_map_toOption (by decide +kernel)

theorem empty_decoded : ∃ claims, decodeAll Claims.decoder empty = .ok claims ∧
    claims.check [] now = .ok () := by
  obtain ⟨claims, decoded, passed⟩ := exists_of_map_toOption
    (show (decodeAll Claims.decoder empty).toOption.map (fun claims => (claims.check [] now).toOption) =
      some (some ()) by decide +kernel)
  refine ⟨claims, decoded, ?_⟩
  cases outcome : claims.check [] now with
  | error fault =>
    rw [outcome] at passed
    cases passed
  | ok _ => rfl

/-- What is no date closes the token, and what is nothing leaves it open. -/
theorem worded_refused :
    (∃ claims members, decodeAll Claims.decoder worded = .ok claims ∧
      members.lookup "exp" = some (.string "never") ∧ claims.FailsClosed members ∧
      claims.IsRefused [] now) ∧
    ∃ claims members, decodeAll Claims.decoder empty = .ok claims ∧
      members.lookup "exp" = some .null ∧ claims.FailsClosed members ∧ claims.check [] now = .ok () := by
  obtain ⟨claims, decoded, -⟩ := worded_decoded
  obtain ⟨claims', decoded', passed⟩ := empty_decoded
  obtain ⟨members, isObject, closed⟩ := Claims.failsClosed_of_decoded decoded
  obtain ⟨members', isObject', closed'⟩ := Claims.failsClosed_of_decoded decoded'
  have given := lookup_eq_expiryOf isObject
  have given' := lookup_eq_expiryOf isObject'
  rw [worded_expiry] at given
  rw [empty_expiry] at given'
  have unreadable : Claims.IsUnreadable (.string "never") := by
    rintro ⟨second, ⟨⟩, -⟩
  have refused := closed.expiry _ given unreadable nofun [] now
  exact ⟨⟨claims, members, decoded, given, closed, refused⟩,
    ⟨claims', members', decoded', given', closed', passed⟩⟩

/-- Not every unreadable date closes the token that it is part of. -/
theorem not_always_refused :
    ¬ ∀ (document : Bytes) (claims : Claims) (members : List (String × Value)) (value : Value),
      decodeAll Claims.decoder document = .ok claims →
      decodeAll decodeValue document = .ok (.object members) →
      members.lookup "exp" = some value ∨ members.lookup "nbf" = some value →
      Claims.IsUnreadable value → ∀ required now, ∃ fault, claims.check required now = .error fault := by
  intro always
  obtain ⟨claims, decoded, passed⟩ := empty_decoded
  obtain ⟨members, isObject, -⟩ := Claims.mirrors_of_decoded decoded
  have given := lookup_eq_expiryOf isObject
  rw [empty_expiry] at given
  have unreadable : Claims.IsUnreadable .null := by
    rintro ⟨second, ⟨⟩, -⟩
  obtain ⟨fault, refused⟩ := always empty claims members .null decoded isObject (.inl given) unreadable [] now
  rw [passed] at refused
  cases refused

end Timeless

end BearerIdentity
