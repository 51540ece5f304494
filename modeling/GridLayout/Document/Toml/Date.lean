import GridLayout.Document.Toml.Number

/-!
# TOML dates and times

A date, a time, or a date and a time with or without an offset from universal time.  Dates are not
used for anything; they are checked, and kept as text in one standard form.
-/

namespace GridLayout

namespace Toml

/-! ## Numbers of fixed width -/

/-- So many decimal digits, and no fewer. -/
def fixedDigits (count : Nat) (c : Cursor) : Step Nat :=
  let ds := c.rest.take count
  if ds.length = count && ds.all isDigit then
    .ok (digitsValue 10 ds, ⟨c.rest.drop count, c.offset + count⟩)
  else failAt c

/-- Two digits between two bounds. -/
def twoDigits (low high : Nat) (c : Cursor) : Step Nat :=
  match fixedDigits 2 c with
  | .ok (n, behind) => if low ≤ n && n ≤ high then .ok (n, behind) else failFor c .outOfRange
  | .error f => .error f

/-- A number with zeros in front up to a width. -/
def padded (width n : Nat) : String :=
  let ds := Nat.toDigits 10 n
  String.ofList (List.replicate (width - ds.length) '0' ++ ds)

/-! ## Dates -/

/-- Whether a year has a leap day. -/
def isLeapYear (year : Nat) : Bool := year % 4 == 0 && (year % 100 != 0 || year % 400 == 0)

/-- The number of days of a month. -/
def daysIn (year month : Nat) : Nat :=
  if month = 2 then (if isLeapYear year then 29 else 28)
  else if month = 4 || month = 6 || month = 9 || month = 11 then 30
  else 31

/-- A date. -/
def date (c : Cursor) : Except Failure (String × Cursor) := do
  let (year, c) ← fixedDigits 4 c
  let (_, c) ← char '-' c
  let (month, c) ← final (twoDigits 1 12 c)
  let (_, c) ← final (char '-' c)
  let (day, behind) ← final (twoDigits 1 31 c)
  if daysIn year month < day then return ← final (failFor c .outOfRange)
  return (s!"{padded 4 year}-{padded 2 month}-{padded 2 day}", behind)

/-! ## Times -/

/-- The greatest number of decimals of a second that count. -/
def secondDecimals : Nat := 9

/-- The decimals of a second, without zeros at the end. -/
def secondFraction (c : Cursor) : Except Failure (String × Cursor) := do
  let (_, c) ← char '.' c
  let (ds, behind) := c.takeWhile isDigit
  if ds.isEmpty then return ← failAt c
  let kept := ((ds.take secondDecimals).reverse.dropWhile fun d => d == '0').reverse
  return (if kept.isEmpty then "" else "." ++ String.ofList kept, behind)

/-- A time. -/
def time (c : Cursor) : Except Failure (String × Cursor) := do
  let (hour, c) ← twoDigits 0 23 c
  let (_, c) ← char ':' c
  let (minute, c) ← final (twoDigits 0 59 c)
  let (_, c) ← final (char ':' c)
  let (second, c) ← final (twoDigits 0 60 c)
  let (decimals, c) ← optional c (secondFraction c)
  let shown := decimals.getD ""
  return (s!"{padded 2 hour}:{padded 2 minute}:{padded 2 second}{shown}", c)

/-- An offset from universal time in hours and minutes. -/
def numericOffset (c : Cursor) : Except Failure (String × Cursor) := do
  let (s, behind) := sign c
  match s with
  | none => failAt c
  | some s =>
    let (hour, c) ← final (twoDigits 0 23 behind)
    let (_, c) ← final (char ':' c)
    let (minute, c) ← final (twoDigits 0 59 c)
    let shown := if hour = 0 && minute = 0 then '+' else s
    return (s!"{shown}{padded 2 hour}:{padded 2 minute}", c)

/-- An offset from universal time. -/
def timeOffset (c : Cursor) : Step String :=
  if c.at? 'Z' || c.at? 'z' then .ok ("Z", c.next)
  else reading "time offset" (numericOffset c)

/-! ## Both -/

/-- The time behind a date. -/
def timeBehindDate (c : Cursor) : Except Failure (String × Cursor) := do
  if !(c.at? 'T' || c.at? 't' || c.at? ' ') then return ← failAt c
  let (t, c) ← time c.next
  let (zone, c) ← optional c (timeOffset c)
  return ("T" ++ t ++ zone.getD "", c)

/-- A date, with a time or without. -/
def fullDate (c : Cursor) : Except Failure (String × Cursor) := do
  let (d, c) ← date c
  let (t, c) ← optional c (timeBehindDate c)
  return (d ++ t.getD "", c)

/-- A date, a time, or both, in standard form. -/
def dateTime (c : Cursor) : Step String :=
  orElse (reading "date-time" (fullDate c)) fun _ => reading "time" (time c)

end Toml

end GridLayout
