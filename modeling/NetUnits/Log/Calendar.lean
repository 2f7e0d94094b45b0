/-!
# Dates and times

A moment is counted in seconds from the beginning of the year 1970. Its date is found by counting
days from the first of March, so that a leap day is the last day of its year, in eras of 400 years.

* **`Calendar.date`** — the date of a day.
* **`Calendar.momentText`** — the text of a moment.
-/

namespace NetUnits.Calendar

/-- **A date.** -/
structure Date where
  /-- The year. -/
  year : Nat
  /-- The month, from 1 on. -/
  month : Nat
  /-- The day of the month, from 1 on. -/
  day : Nat
deriving DecidableEq, Inhabited

/-- The days from the first of March of the year 0 to the beginning of 1970. -/
def daysBefore1970 : Nat := 719468

/-- The days of an era, which is 400 years. -/
def daysOfEra : Nat := 146097

/-- The year in its era of a day of the era. -/
def yearOfEra (day : Nat) : Nat :=
  (day - day / 1460 + day / 36524 - day / 146096) / 365

/-- The day in its year of a day of the era. -/
def dayOfYear (day : Nat) : Nat :=
  let year := yearOfEra day
  day + year / 100 - (365 * year + year / 4)

/-- **The date of a day**, counted from the beginning of 1970. -/
def date (day : Nat) : Date :=
  let day := day + daysBefore1970
  let era := day / daysOfEra
  let dayInEra := day % daysOfEra
  let dayInYear := dayOfYear dayInEra
  -- months are counted from March, whose number is 0
  let month := (5 * dayInYear + 2) / 153
  let dayOfMonth := dayInYear - (153 * month + 2) / 5 + 1
  let year := yearOfEra dayInEra + era * 400
  if month < 10 then ⟨year, month + 3, dayOfMonth⟩ else ⟨year + 1, month - 9, dayOfMonth⟩

/-- A number with at least so many digits. -/
def padded (width n : Nat) : String :=
  let digits := toString n
  String.ofList (List.replicate (width - digits.length) '0') ++ digits

/-- The text of a date. -/
def Date.text (d : Date) : String :=
  "-".intercalate [padded 4 d.year, padded 2 d.month, padded 2 d.day]

/-- The seconds of a day. -/
def secondsOfDay : Nat := 86400

/-- **The text of a moment**: date and time of day. -/
def momentText (seconds : Nat) : String :=
  let time := seconds % secondsOfDay
  (date (seconds / secondsOfDay)).text ++ " " ++
    ":".intercalate [padded 2 (time / 3600), padded 2 (time / 60 % 60), padded 2 (time % 60)]

/-- The first day. -/
example : date 0 = ⟨1970, 1, 1⟩ := by decide

/-- A leap day, and the day after it. -/
example : date 19782 = ⟨2024, 2, 29⟩ ∧ date 19783 = ⟨2024, 3, 1⟩ := by decide

/-- The last day of a century without a leap day. -/
example : date 47540 = ⟨2100, 2, 28⟩ ∧ date 47541 = ⟨2100, 3, 1⟩ := by decide

end NetUnits.Calendar
