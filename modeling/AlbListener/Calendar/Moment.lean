import AlbListener.Calendar.Date

/-!
# Moments

A date with a time of day, and with the offset from UTC if it is known. An offset is less than
a day either way; without one a moment has no place among the instants.

Results:
* `instant?_eq_none_iff`: exactly the moments without an offset have no instant.
-/

namespace AlbListener.Calendar

/-! ## Spans of time -/

/-- The seconds of a day. -/
def secondsOfDay : Int := 86400

/-- A span of seconds as a literal, in days and the seconds of a last day that has begun. -/
def spanLiteral (seconds : Int) : String :=
  let days := seconds.fdiv secondsOfDay
  let rest := seconds.fmod secondsOfDay
  let part (name : String) (n : Int) : List String :=
    if n = 0 then [] else [name ++ "=" ++ Text.intText n]
  let parts := part "days" days ++ part "seconds" rest
  "datetime.timedelta(" ++ (if parts.isEmpty then "0" else String.intercalate ", " parts) ++ ")"

/-- The wording of a problem. -/
def Problem.message : Problem → String
  | .year n => "year " ++ Text.natText n ++ " is out of range"
  | .month => "month must be in 1..12"
  | .day => "day is out of range for month"
  | .hour => "hour must be in 0..23"
  | .minute => "minute must be in 0..59"
  | .second => "second must be in 0..59"
  | .offset seconds =>
    "offset must be a timedelta strictly between -timedelta(hours=24) and timedelta(hours=24), not "
      ++ spanLiteral seconds ++ "."

/-- An offset of less than a day. -/
def checkOffset (seconds : Int) : Except Problem Unit :=
  if seconds.natAbs < secondsOfDay.natAbs then .ok () else .error (.offset seconds)

/-- An offset as a literal. -/
def offsetLiteral (seconds : Int) : String :=
  if seconds = 0 then "datetime.timezone.utc"
  else "datetime.timezone(" ++ spanLiteral seconds ++ ")"

/-- An offset as hours and minutes with a sign. -/
def offsetText (seconds : Int) : String :=
  let minutes := seconds.natAbs / 60
  (if seconds < 0 then "-" else "+") ++ padded 2 (minutes / 60) ++ ":" ++ padded 2 (minutes % 60)

/-! ## Moments -/

/-- A date with a time of day, and the offset from UTC in seconds if it is known. -/
structure Moment where
  date : Date
  hour : Nat
  minute : Nat
  second : Nat
  microsecond : Nat
  offset? : Option Int
  deriving DecidableEq, Repr

namespace Moment

/-- The first field of a moment that is out of its range, if there is one. -/
def check (m : Moment) : Except Problem Unit := do
  match m.offset? with
  | some offset => checkOffset offset
  | none => pure ()
  m.date.check
  if 23 < m.hour then throw .hour
  if 59 < m.minute then throw .minute
  if 59 < m.second then throw .second

/-- A moment as a literal, without seconds and parts of seconds that are zero. -/
def literal (m : Moment) : String :=
  let seconds :=
    if m.microsecond != 0 then [m.second, m.microsecond]
    else if m.second != 0 then [m.second]
    else []
  let fields := (m.date.fields ++ [m.hour, m.minute] ++ seconds).map Text.natText
  let offset := m.offset?.toList.map fun offset => "tzinfo=" ++ offsetLiteral offset
  "datetime.datetime(" ++ String.intercalate ", " (fields ++ offset) ++ ")"

/-- A moment as it stands in a message. -/
def text (m : Moment) : String :=
  m.date.text ++ " " ++ padded 2 m.hour ++ ":" ++ padded 2 m.minute ++ ":" ++ padded 2 m.second
    ++ (if m.microsecond = 0 then "" else "." ++ padded 6 m.microsecond)
    ++ (m.offset?.map offsetText).getD ""

/-- The microseconds of a moment on the clock that shows it. -/
def clock (m : Moment) : Int :=
  let seconds := m.date.days * secondsOfDay + m.hour * 3600 + m.minute * 60 + m.second
  seconds * 1000000 + m.microsecond

/-- The microseconds of a moment in UTC, if its offset is known. -/
def instant? (m : Moment) : Option Int := m.offset?.map fun offset => m.clock - offset * 1000000

/-- Whether two moments are the same: the same instant, or the same fields without an offset. -/
def same (a b : Moment) : Bool :=
  match a.instant?, b.instant? with
  | some x, some y => x == y
  | none, none => a.clock == b.clock
  | _, _ => false

theorem instant?_eq_none_iff {m : Moment} : m.instant? = none ↔ m.offset? = none := by
  simp [instant?]

theorem same_refl (m : Moment) : m.same m = true := by
  unfold same
  cases m.instant? <;> simp

end Moment

end AlbListener.Calendar
