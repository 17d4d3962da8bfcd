import ProcessStubs.Text.Quoted

/-!
# Moments

A moment is a date, a time of day, or both with or without the distance of its zone from universal
time. Moments are written in the order from years to fractions of seconds.
-/

namespace ProcessStubs

/-- A day of a month of a year. -/
structure Date where
  year : Nat
  month : Nat
  day : Nat
deriving Repr, DecidableEq

/-- A time of day. -/
structure TimeOfDay where
  hour : Nat
  minute : Nat
  second : Nat
  microsecond : Nat
deriving Repr, DecidableEq

/-- A zone by its name and its distance from universal time in seconds. -/
structure Zone where
  name : String
  seconds : Int
deriving Repr, DecidableEq

/-- A date, a time of day, or both. -/
inductive Moment where
  | date (d : Date)
  | time (t : TimeOfDay)
  | dateTime (d : Date) (t : TimeOfDay) (zone : Option Zone)
deriving Repr, DecidableEq

/-- Whether a year has a day at the end of its February. -/
def isLeapYear (year : Nat) : Bool := year % 4 = 0 && (year % 100 != 0 || year % 400 = 0)

/-- The number of days of a month. -/
def daysOfMonth (year month : Nat) : Nat :=
  if month = 2 then (if isLeapYear year then 29 else 28)
  else if month ∈ [4, 6, 9, 11] then 30
  else 31

/-- Whether a date is in the calendar, which has the years from 1 to 9999. -/
def Date.isValid (d : Date) : Bool :=
  1 ≤ d.year && d.year ≤ 9999 && 1 ≤ d.month && d.month ≤ 12 && 1 ≤ d.day &&
    d.day ≤ daysOfMonth d.year d.month

/-- Whether a time is on the clock. -/
def TimeOfDay.isValid (t : TimeOfDay) : Bool := t.hour < 24 && t.minute < 60 && t.second < 60

/-- A number with zeros in front of it up to a width. -/
def padded (width n : Nat) : String :=
  let digits := (toString n).toList
  String.ofList (List.replicate (width - digits.length) '0' ++ digits)

/-- How a date is written. -/
def Date.text (d : Date) : String :=
  padded 4 d.year ++ "-" ++ padded 2 d.month ++ "-" ++ padded 2 d.day

/-- How a time is written; a fraction only if there is one. -/
def TimeOfDay.text (t : TimeOfDay) : String :=
  padded 2 t.hour ++ ":" ++ padded 2 t.minute ++ ":" ++ padded 2 t.second ++
    (if t.microsecond = 0 then "" else "." ++ padded 6 t.microsecond)

/-- How a zone's distance is written. -/
def Zone.text (z : Zone) : String :=
  let minutes := z.seconds.natAbs / 60
  (if z.seconds < 0 then "-" else "+") ++ padded 2 (minutes / 60) ++ ":" ++ padded 2 (minutes % 60)

/-- How a moment is written. -/
def Moment.text : Moment → String
  | date d => d.text
  | time t => t.text
  | dateTime d t zone => d.text ++ "T" ++ t.text ++ ((zone.map Zone.text).getD "")

/-- The name of the kind of a moment. -/
def Moment.kindName : Moment → String
  | date _ => "date"
  | time _ => "time"
  | dateTime _ _ _ => "datetime"

/-- The hour and minute of a time, and its seconds and fraction as far as they are not zero. -/
def TimeOfDay.fields (t : TimeOfDay) : List Nat :=
  [t.hour, t.minute] ++
    (if t.microsecond ≠ 0 then [t.second, t.microsecond]
    else if t.second ≠ 0 then [t.second] else [])

/-- The year, month and day of a date. -/
def Date.fields (d : Date) : List Nat := [d.year, d.month, d.day]

/-- Numbers between commas. -/
def fieldList (fields : List Nat) : String := ", ".intercalate (fields.map toString)

/-- The call that makes a span of time: its days if it is negative, and its seconds. -/
def spanCall (seconds : Int) : String :=
  let days := seconds / 86400
  let rest := seconds % 86400
  let parts :=
    (if days = 0 then [] else ["days=" ++ toString days]) ++
    (if rest = 0 then [] else ["seconds=" ++ toString rest])
  "datetime.timedelta(" ++ (if parts.isEmpty then "0" else ", ".intercalate parts) ++ ")"

/-- The call that makes a zone. -/
def Zone.call (z : Zone) : String :=
  "datetime.timezone(" ++ spanCall z.seconds ++ ", " ++ Text.quoted z.name ++ ")"

/-- The call that makes a moment. -/
def Moment.call : Moment → String
  | date d => "datetime.date(" ++ fieldList d.fields ++ ")"
  | time t => "datetime.time(" ++ fieldList t.fields ++ ")"
  | dateTime d t zone =>
    "datetime.datetime(" ++ fieldList (d.fields ++ t.fields) ++
      ((zone.map fun z => ", tzinfo=" ++ z.call).getD "") ++ ")"

end ProcessStubs
