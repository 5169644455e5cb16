/-!
A moment as text, in the form of RFC 3339: date and time of universal time, and as many groups of
three digits of the second as it needs.
-/
namespace NetNames.Stamp

/-- Year, month and day of a day counted from the first of January 1970. Years are counted from
March on, so that a leap day ends its year. -/
def civil (day : Nat) : Nat × Nat × Nat :=
  let n := day + 719468
  let era := n / 146097
  let dayOfEra := n % 146097
  let yearOfEra := (dayOfEra - dayOfEra / 1460 + dayOfEra / 36524 - dayOfEra / 146096) / 365
  let dayOfYear := dayOfEra - (365 * yearOfEra + yearOfEra / 4 - yearOfEra / 100)
  let month := (5 * dayOfYear + 2) / 153
  let dayOfMonth := dayOfYear - (153 * month + 2) / 5 + 1
  let year := yearOfEra + era * 400
  if month < 10 then (year, month + 3, dayOfMonth) else (year + 1, month - 9, dayOfMonth)

/-- The number with zeros in front, up to `places` digits. -/
def padded (places n : Nat) : String :=
  let digits := Nat.toDigits 10 n
  String.ofList (List.replicate (places - digits.length) '0' ++ digits)

def fraction (nanos : Nat) : String :=
  if nanos = 0 then ""
  else if nanos % 1000000 = 0 then "." ++ padded 3 (nanos / 1000000)
  else if nanos % 1000 = 0 then "." ++ padded 6 (nanos / 1000)
  else "." ++ padded 9 nanos

/-- The text of a moment in nanoseconds after the beginning of 1970. -/
def ofNanos (n : Nat) : String :=
  let seconds := n / 1000000000
  let (year, month, day) := civil (seconds / 86400)
  let clock := [seconds / 3600 % 24, seconds / 60 % 60, seconds % 60]
  padded 4 year ++ "-" ++ padded 2 month ++ "-" ++ padded 2 day ++ "T" ++
    ":".intercalate (clock.map (padded 2)) ++ fraction (n % 1000000000) ++ "+00:00"

example : ofNanos 1704164645678000000 = "2024-01-02T03:04:05.678+00:00" := by decide +kernel

end NetNames.Stamp
