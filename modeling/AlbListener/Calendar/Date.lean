import AlbListener.Text.Numeral

/-!
# Dates

The dates of the Gregorian calendar from the year 1 to the year 9999. To count days, years
begin in March, so that a leap day is the last day of its year; 400 such years are always
146097 days.

Results:
* `check_eq_ok_iff`: which numbers are a date.
* `length_padded`: a field has the width that it should have.
-/

namespace AlbListener.Calendar

/-- A field of a date or time that is out of its range, or an offset from UTC of a day or
    more, in seconds. -/
inductive Problem
  | year (year : Nat)
  | month
  | day
  | hour
  | minute
  | second
  | offset (seconds : Int)
  deriving DecidableEq, Repr

/-- A number in at least `width` digits. -/
def padded (width n : Nat) : String :=
  let digits := Nat.toDigits 10 n
  String.ofList (List.replicate (width - digits.length) '0' ++ digits)

/-- A date. -/
structure Date where
  year : Nat
  month : Nat
  day : Nat
  deriving DecidableEq, Repr

namespace Date

/-- Whether a year has a leap day. -/
def isLeap (year : Nat) : Bool := year % 4 == 0 && (year % 100 != 0 || year % 400 == 0)

/-- The number of days in a month. -/
def daysInMonth (year month : Nat) : Nat :=
  if month = 2 then if isLeap year then 29 else 28
  else if month = 4 ∨ month = 6 ∨ month = 9 ∨ month = 11 then 30
  else 31

/-- The first field of a date that is out of its range, if there is one. -/
def check (date : Date) : Except Problem Unit :=
  if date.year = 0 ∨ 9999 < date.year then .error (.year date.year)
  else if date.month = 0 ∨ 12 < date.month then .error .month
  else if date.day = 0 ∨ daysInMonth date.year date.month < date.day then .error .day
  else .ok ()

/-- The date that is some days after the first of March of the year zero. -/
def ofDays (days : Nat) : Date :=
  let era := days / 146097
  let dayOfEra := days % 146097
  let yearOfEra := (dayOfEra - dayOfEra / 1460 + dayOfEra / 36524 - dayOfEra / 146096) / 365
  let dayOfYear := dayOfEra - (365 * yearOfEra + yearOfEra / 4 - yearOfEra / 100)
  let marchMonth := (5 * dayOfYear + 2) / 153
  let day := dayOfYear - (153 * marchMonth + 2) / 5 + 1
  let year := 400 * era + yearOfEra
  if marchMonth < 10 then ⟨year, marchMonth + 3, day⟩ else ⟨year + 1, marchMonth - 9, day⟩

/-- The number of days from the first of March of the year zero to a date after it. -/
def days (date : Date) : Nat :=
  let (year, marchMonth) :=
    if date.month < 3 then (date.year - 1, date.month + 9) else (date.year, date.month - 3)
  365 * year + year / 4 - year / 100 + year / 400 + (153 * marchMonth + 2) / 5 + (date.day - 1)

/-- A date as year, month and day with dashes between. -/
def text (date : Date) : String :=
  padded 4 date.year ++ "-" ++ padded 2 date.month ++ "-" ++ padded 2 date.day

/-- The fields of a date, as they stand in a literal. -/
def fields (date : Date) : List Nat := [date.year, date.month, date.day]

/-- A date as a literal. -/
def literal (date : Date) : String :=
  "datetime.date(" ++ String.intercalate ", " (date.fields.map Text.natText) ++ ")"

theorem check_eq_ok_iff {date : Date} :
    date.check = .ok () ↔
      (1 ≤ date.year ∧ date.year ≤ 9999) ∧ (1 ≤ date.month ∧ date.month ≤ 12)
        ∧ 1 ≤ date.day ∧ date.day ≤ daysInMonth date.year date.month := by
  unfold check
  split
  · simp only [reduceCtorEq, false_iff]; omega
  · split
    · simp only [reduceCtorEq, false_iff]; omega
    · split
      · simp only [reduceCtorEq, false_iff]; omega
      · simp only [true_iff]; omega

end Date

theorem length_padded {width n : Nat} (h : (Nat.toDigits 10 n).length ≤ width) :
    (padded width n).length = width := by
  simp [padded]
  omega

example : (⟨2024, 2, 29⟩ : Date).check = .ok () := rfl

example : (⟨1900, 2, 29⟩ : Date).check = .error .day := rfl

example : Date.ofDays (⟨2024, 2, 29⟩ : Date).days = ⟨2024, 2, 29⟩ := by decide

end AlbListener.Calendar
