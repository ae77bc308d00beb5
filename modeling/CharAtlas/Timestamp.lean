import CharAtlas.Numeral

/-! # Points in time

Seconds since the beginning of 1970, and their text `YYYY-MM-DD HH:MM:SS` in universal time. The
database compares points in time by their texts. -/

namespace CharAtlas

structure Timestamp where
  seconds : Int
deriving DecidableEq

namespace Timestamp

def secondsPerDay : Int := 86400

def addDays (t : Timestamp) (days : Int) : Timestamp :=
  ⟨t.seconds + days * secondsPerDay⟩

def addMinutes (t : Timestamp) (minutes : Int) : Timestamp :=
  ⟨t.seconds + minutes * 60⟩

/-- Year, month and day of a day counted from the beginning of 1970. Years are taken to begin in
March, so that a leap day is the last day of its year. -/
def civilDate (day : Int) : Int × Int × Int :=
  let shifted := day + 719468
  let era := shifted.fdiv 146097
  let dayOfEra := shifted.fmod 146097
  let yearOfEra :=
    (dayOfEra - dayOfEra.fdiv 1460 + dayOfEra.fdiv 36524 - dayOfEra.fdiv 146096).fdiv 365
  let dayOfYear :=
    dayOfEra - (365 * yearOfEra + yearOfEra.fdiv 4 - yearOfEra.fdiv 100)
  let marchMonth := (5 * dayOfYear + 2).fdiv 153
  let dayOfMonth := dayOfYear - (153 * marchMonth + 2).fdiv 5 + 1
  let month := if marchMonth < 10 then marchMonth + 3 else marchMonth - 9
  let year := yearOfEra + era * 400 + (if month ≤ 2 then 1 else 0)
  (year, month, dayOfMonth)

def padded (width : Nat) (n : Int) : String :=
  String.ofList (Numeral.paddedDigits 10 width n.toNat)

/-- Years before the year zero and after 9999 carry a sign. -/
def yearText (year : Int) : String :=
  if year < 0 then "-" ++ padded 4 (-year)
  else if 9999 < year then "+" ++ padded 4 year
  else padded 4 year

def text (t : Timestamp) : String :=
  let (year, month, day) := civilDate (t.seconds.fdiv secondsPerDay)
  let second := t.seconds.fmod secondsPerDay
  yearText year ++ "-" ++ padded 2 month ++ "-" ++ padded 2 day ++ " " ++
    padded 2 (second.fdiv 3600) ++ ":" ++ padded 2 ((second.fmod 3600).fdiv 60) ++ ":" ++
      padded 2 (second.fmod 60)

end Timestamp
end CharAtlas
