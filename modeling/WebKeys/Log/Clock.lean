import WebKeys.Log.Record

/-!
# Moments from a clock

The date and time of a number of microseconds since the beginning of 1970, in the Gregorian
calendar and in Coordinated Universal Time. Years are counted from March here, so that the day that
some years have more is their last.
-/

namespace WebKeys.Log

/-- A day of the calendar. -/
structure Date where
  year : Nat
  month : Nat
  day : Nat
  deriving DecidableEq

/-- The days from the first of March of the year 0 to the beginning of 1970. -/
def daysBefore1970 : Nat := 719468

/-- The days of four hundred years, after which the calendar repeats itself. -/
def daysOfCycle : Nat := 146097

/-- The date that is a number of days after the beginning of 1970. -/
def Date.ofDays (days : Nat) : Date :=
  let count := days + daysBefore1970
  let inCycle := count % daysOfCycle
  let year := (inCycle - inCycle / 1460 + inCycle / 36524 - inCycle / 146096) / 365
  let inYear := inCycle - (365 * year + year / 4 - year / 100)
  let month := (5 * inYear + 2) / 153
  let day := inYear - (153 * month + 2) / 5 + 1
  let year := 400 * (count / daysOfCycle) + year
  if month < 10 then ⟨year, month + 3, day⟩ else ⟨year + 1, month - 9, day⟩

/-- A number with at least so many digits. -/
def digitsOf (width n : Nat) : String :=
  let s := toString n
  String.ofList (List.replicate (width - s.length) '0') ++ s

def Date.text (d : Date) : String := s!"{digitsOf 4 d.year}-{digitsOf 2 d.month}-{digitsOf 2 d.day}"

def microsPerSecond : Nat := 1000000

/-- Hours, minutes and seconds of a day. -/
def clockText (seconds : Nat) : String :=
  let hours := digitsOf 2 (seconds / 3600)
  let minutes := digitsOf 2 (seconds / 60 % 60)
  s!"{hours}:{minutes}:{digitsOf 2 (seconds % 60)}"

/-- The moment so many microseconds after the beginning of 1970. -/
def Moment.ofMicros (micros : Nat) (elapsed : Decimal) : Moment :=
  let seconds := micros / microsPerSecond
  let rest := micros % microsPerSecond
  let clock := clockText (seconds % 86400)
  let date := (Date.ofDays (seconds / 86400)).text
  let fraction := if rest = 0 then "" else "." ++ digitsOf 6 rest
  { timestamp := s!"{date}T{clock}{fraction}+00:00"
    timeOfDay := s!"{clock}.{digitsOf 3 (rest / 1000)}"
    elapsed := elapsed }

end WebKeys.Log
