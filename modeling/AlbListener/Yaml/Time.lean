import AlbListener.Binary64.Basic
import AlbListener.Calendar.Moment
import AlbListener.Yaml.Placed

/-!
# Times

A date, or a date with a time of day, as it is written in a scalar: year, month and day with
dashes between, then a `T` or blanks, then hour, minute and second with colons between, a
fraction of a second, and `Z` or an offset from UTC. A date alone has two digits for month and
day where it stands plain; a longer fraction than six digits is cut.

Results:
* `isTime_of_clock`: with a time of day, one digit is enough for month and day.
-/

namespace AlbListener.Yaml

/-- A time of day as it is written, with the offset from UTC in seconds. -/
structure Clock where
  hour : Nat
  minute : Nat
  second : Nat
  fraction : List Char
  offset? : Option Int

/-- A date as it is written, with a time of day or without. -/
structure Timestamp where
  year : Nat
  month : List Char
  day : List Char
  clock? : Option Clock

namespace Timestamp

/-! ## Reading -/

/-- The digits at the front, if there are between `least` and `most`, and what follows them. -/
def digits? (least most : Nat) (cs : List Char) : Option (List Char × List Char) :=
  let digits := cs.takeWhile Char.isDigit
  if least ≤ digits.length ∧ digits.length ≤ most then some (digits, cs.drop digits.length)
  else none

/-- The number that decimal digits stand for. -/
def numberOf (digits : List Char) : Nat := Nat.ofDigitChars 10 digits 0

/-- What follows a mark. -/
def afterMark? (mark : Char) : List Char → Option (List Char)
  | c :: rest => if c = mark then some rest else none
  | [] => none

/-- What follows the separator of date and time. -/
def afterSeparator? : List Char → Option (List Char)
  | 'T' :: rest => some rest
  | 't' :: rest => some rest
  | c :: rest => if isSpaceOrTab c then some (rest.dropWhile isSpaceOrTab) else none
  | [] => none

/-- The minutes at the end of an offset, if there are any. -/
def offsetMinutes? : List Char → Option Nat
  | [] => some 0
  | cs => do
    match ← digits? 2 2 (← afterMark? ':' cs) with
    | (minutes, []) => some (numberOf minutes)
    | _ => none

/-- The offset in seconds that stands behind a time, if there is one. -/
def offset? (cs : List Char) : Option (Option Int) :=
  match cs.dropWhile isSpaceOrTab with
  | [] => if cs.isEmpty then some none else none
  | ['Z'] => some (some 0)
  | sign :: rest =>
    if sign == '-' || sign == '+' then do
      let (hours, rest) ← digits? 1 2 rest
      let seconds : Int := 3600 * numberOf hours + 60 * (← offsetMinutes? rest)
      return some (if sign == '-' then -seconds else seconds)
    else none

/-- The fraction of a second at the front and what follows it. -/
def fraction : List Char → List Char × List Char
  | '.' :: rest => (rest.takeWhile Char.isDigit, rest.dropWhile Char.isDigit)
  | cs => ([], cs)

/-- The time of day that characters are. -/
def clockOf? (cs : List Char) : Option Clock := do
  let (hour, cs) ← digits? 1 2 cs
  let (minute, cs) ← digits? 2 2 (← afterMark? ':' cs)
  let (second, cs) ← digits? 2 2 (← afterMark? ':' cs)
  let (fraction, cs) := fraction cs
  return {
    hour := numberOf hour, minute := numberOf minute, second := numberOf second
    fraction, offset? := ← offset? cs }

/-- The date that characters are, with a time of day or without. -/
def ofChars? (cs : List Char) : Option Timestamp := do
  let (year, cs) ← digits? 4 4 cs
  let (month, cs) ← digits? 1 2 (← afterMark? '-' cs)
  let (day, cs) ← digits? 1 2 (← afterMark? '-' cs)
  let clock? ← if cs.isEmpty then pure none else some <$> (clockOf? (← afterSeparator? cs))
  return { year := numberOf year, month, day, clock? }

/-- Whether a time stands for itself without a tag: a date alone needs all of its digits. -/
def isSelfEvident (stamp : Timestamp) : Bool :=
  stamp.clock?.isSome || (stamp.month.length == 2 && stamp.day.length == 2)

/-! ## What it stands for -/

/-- The date of a time. -/
def date (stamp : Timestamp) : Calendar.Date :=
  { year := stamp.year, month := numberOf stamp.month, day := numberOf stamp.day }

/-- The microseconds that a fraction of a second stands for, of which six digits count. -/
def microseconds (fraction : List Char) : Nat :=
  let digits := fraction.take 6
  numberOf digits * tenTo (6 - digits.length)

/-- The moment of a time of day on a date. -/
def moment (stamp : Timestamp) (clock : Clock) : Calendar.Moment :=
  { date := stamp.date, hour := clock.hour, minute := clock.minute, second := clock.second
    microsecond := microseconds clock.fraction, offset? := clock.offset? }

end Timestamp

/-- Whether characters without a tag are a time. -/
def isTime (cs : List Char) : Bool := (Timestamp.ofChars? cs).any Timestamp.isSelfEvident

theorem isTime_of_clock {cs : List Char} {stamp : Timestamp} (h : Timestamp.ofChars? cs = some stamp)
    (hc : stamp.clock?.isSome = true) : isTime cs = true := by
  simp [isTime, h, Timestamp.isSelfEvident, hc]

end AlbListener.Yaml
