import BearerIdentity.Instant

set_option autoImplicit false

namespace BearerIdentity

structure Date where
  year : Int
  month : Nat
  day : Nat
  deriving DecidableEq, Repr

namespace Date

/-- The date some days after the start of 1970. Years are counted from March, so that the day that
is added in leap years comes last, and in eras of 400 years, which are of equal length. -/
def ofDays (days : Int) : Date :=
  let shifted := days + 719468
  let dayOfEra := (shifted % 146097).toNat
  let yearOfEra := (dayOfEra - dayOfEra / 1460 + dayOfEra / 36524 - dayOfEra / 146096) / 365
  let dayOfYear := dayOfEra - (365 * yearOfEra + yearOfEra / 4 - yearOfEra / 100)
  let fromMarch := (5 * dayOfYear + 2) / 153
  let month := if fromMarch < 10 then fromMarch + 3 else fromMarch - 9
  let year : Int := yearOfEra + shifted / 146097 * 400
  { year := if month ≤ 2 then year + 1 else year
    month
    day := dayOfYear - (153 * fromMarch + 2) / 5 + 1 }

end Date

namespace Instant

def padded (width value : Nat) : String :=
  let digits := Nat.toDigits 10 value
  String.ofList (List.replicate (width - digits.length) '0' ++ digits)

def describeDate (date : Date) : String :=
  (if date.year < 0 then "-" else "") ++ padded 4 date.year.natAbs ++ "-" ++ padded 2 date.month
    ++ "-" ++ padded 2 date.day

def fractionText (millis : Nat) : String :=
  if millis % 100 = 0 then padded 1 (millis / 100)
  else if millis % 10 = 0 then padded 2 (millis / 10)
  else padded 3 millis

def describeTime (millis : Nat) : String :=
  let seconds := millis / 1000
  toString (seconds / 3600) ++ ":" ++ padded 2 (seconds / 60 % 60) ++ ":" ++ padded 2 (seconds % 60)
    ++ "." ++ fractionText (millis % 1000)

def describe (instant : Instant) : String :=
  describeDate (Date.ofDays (instant.millis / 86400000)) ++ " "
    ++ describeTime (instant.millis % 86400000).toNat ++ " +00:00:00"

def describeSpan (millis : Int) : String :=
  "SignedDuration \x7b seconds: " ++ toString (millis.tdiv 1000) ++ ", nanoseconds: "
    ++ toString (millis.tmod 1000 * 1000000) ++ " \x7d"

end Instant

end BearerIdentity
