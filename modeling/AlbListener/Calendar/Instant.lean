import AlbListener.Calendar.Date

/-!
# Instants

A point in time in UTC, as a date and a time of day with six places behind the second.
-/

namespace AlbListener.Calendar

/-- The number of days from the first of March of the year zero to the first of January 1970. -/
def epochDays : Nat := 719468

/-- The instant that is some microseconds after the beginning of 1970. -/
def instantText (microseconds : Nat) : String :=
  let seconds := microseconds / 1000000
  let date := Date.ofDays (epochDays + seconds / 86400)
  date.text ++ "T" ++ padded 2 (seconds / 3600 % 24) ++ ":" ++ padded 2 (seconds / 60 % 60)
    ++ ":" ++ padded 2 (seconds % 60) ++ "." ++ padded 6 (microseconds % 1000000) ++ "Z"

example : Date.ofDays epochDays = ⟨1970, 1, 1⟩ := by decide

example : Date.ofDays (epochDays + 19782) = ⟨2024, 2, 29⟩ := by decide

end AlbListener.Calendar
