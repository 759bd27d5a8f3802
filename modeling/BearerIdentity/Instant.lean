set_option autoImplicit false

namespace BearerIdentity

/-- Milliseconds since the start of 1970. -/
structure Instant where
  millis : Int
  deriving DecidableEq, Repr, Inhabited

namespace Instant

/-- The start of 1970. -/
def epoch : Instant := ⟨0⟩

/-- The first instant of the year -9999. -/
def first : Instant := ⟨-377705116800000⟩

/-- The last millisecond of the year 9999. -/
def last : Instant := ⟨253402300799999⟩

def isInCalendar (instant : Instant) : Bool :=
  first.millis ≤ instant.millis && instant.millis ≤ last.millis

def inCalendar? (instant : Instant) : Option Instant :=
  if instant.isInCalendar then some instant else none

/-- The instant that many seconds after the start of 1970, if the calendar has it. -/
def ofSeconds? (seconds : Int) : Option Instant :=
  inCalendar? ⟨seconds * 1000⟩

/-- The instant some seconds later, or earlier, if the calendar has it. -/
def shift? (instant : Instant) (seconds : Int) : Option Instant :=
  inCalendar? ⟨instant.millis + seconds * 1000⟩

/-- Whole seconds since the start of 1970, rounding down. -/
def seconds (instant : Instant) : Int :=
  instant.millis / 1000

/-- Milliseconds from an earlier instant. -/
def since (instant earlier : Instant) : Int :=
  instant.millis - earlier.millis

instance : LE Instant := ⟨fun left right => left.millis ≤ right.millis⟩

instance : LT Instant := ⟨fun left right => left.millis < right.millis⟩

instance (left right : Instant) : Decidable (left ≤ right) :=
  inferInstanceAs (Decidable (left.millis ≤ right.millis))

instance (left right : Instant) : Decidable (left < right) :=
  inferInstanceAs (Decidable (left.millis < right.millis))

end Instant

end BearerIdentity
