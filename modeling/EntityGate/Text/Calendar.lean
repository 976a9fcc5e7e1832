import EntityGate.Number.Numeral
import EntityGate.Text.Blank

/-!
# Dates and times

Two notations. The flexible one reads numbers with white space before them and with fewer digits
than usual, `2024-1-1 1:02:03`; its year takes any number of digits after a sign and at most four
without one. The strict one is that of internet time stamps, with fixed widths, an optional
fraction of a second and an offset. A second may be 60, for the leap seconds.
-/

namespace EntityGate.Calendar

/-- Whether the year is a leap year of the Gregorian calendar. -/
def isLeapYear (year : Int) : Bool :=
  year % 4 == 0 && (year % 100 != 0 || year % 400 == 0)

/-- The number of days of a month. -/
def daysInMonth (year : Int) (month : Nat) : Nat :=
  if month = 2 then if isLeapYear year then 29 else 28
  else if month = 4 ∨ month = 6 ∨ month = 9 ∨ month = 11 then 30
  else 31

/-- Whether year, month and day are a day of the calendar within the years it covers. -/
def isDay (year : Int) (month day : Nat) : Bool :=
  decide (-262143 ≤ year) && decide (year ≤ 262142) && decide (1 ≤ month) && decide (month ≤ 12) &&
    decide (1 ≤ day) && decide (day ≤ daysInMonth year month)

/-- Whether hour, minute and second are a time of day. -/
def isTime (hour minute second : Nat) : Bool :=
  decide (hour ≤ 23) && decide (minute ≤ 59) && decide (second ≤ 60)

/-- A number of at least one and at most `width` digits, with white space before it. -/
def flexibleNumber (width : Nat) (chars : List Char) : Option (Nat × List Char) :=
  let start := chars.dropWhile Text.isBlank
  let digits := (start.takeWhile Char.isDigit).take width
  if digits.isEmpty then none
  else some (Numeral.digitsValue digits, start.drop digits.length)

/-- A year, with white space before it. -/
def flexibleYear (chars : List Char) : Option (Int × List Char) :=
  let unlimited (rest : List Char) : Option (Nat × List Char) :=
    match rest with
    | digit :: _ => if digit.isDigit then flexibleNumber rest.length rest else none
    | [] => none
  match chars.dropWhile Text.isBlank with
  | '-' :: rest => (unlimited rest).map fun read => (-(read.1 : Int), read.2)
  | '+' :: rest => (unlimited rest).map fun read => ((read.1 : Int), read.2)
  | rest => (flexibleNumber 4 rest).map fun read => ((read.1 : Int), read.2)

/-- What follows a required character. -/
def expect (wanted : Char) : List Char → Option (List Char)
  | char :: rest => if char = wanted then some rest else none
  | [] => none

/-- A day in the flexible notation. -/
def flexibleDay (chars : List Char) : Option (List Char) := do
  let (year, afterYear) ← flexibleYear chars
  let (month, afterMonth) ← flexibleNumber 2 (← expect '-' afterYear)
  let (day, rest) ← flexibleNumber 2 (← expect '-' afterMonth)
  if isDay year month day then some rest else none

/-- A time of day in the flexible notation. -/
def flexibleTime (chars : List Char) : Option (List Char) := do
  let (hour, afterHour) ← flexibleNumber 2 chars
  let (minute, afterMinute) ← flexibleNumber 2 (← expect ':' afterHour)
  let (second, rest) ← flexibleNumber 2 (← expect ':' afterMinute)
  if isTime hour minute second then some rest else none

/-- Whether the text is a day in the flexible notation. -/
def isFlexibleDay (text : String) : Bool :=
  flexibleDay text.toList == some []

/-- Whether the text is a day and a time parted by white space, in the flexible notation. -/
def isSpacedDayTime (text : String) : Bool :=
  (flexibleDay text.toList).bind flexibleTime == some []

/-- Whether the text is a day and a time parted by the letter T, in the flexible notation. -/
def isLetteredDayTime (text : String) : Bool :=
  ((flexibleDay text.toList).bind (expect 'T')).bind flexibleTime == some []

/-- A number of exactly `width` digits. -/
def fixedNumber (width : Nat) (chars : List Char) : Option (Nat × List Char) :=
  let digits := chars.take width
  if digits.length = width ∧ digits.all Char.isDigit then
    some (Numeral.digitsValue digits, chars.drop width)
  else none

/-- Skips a point and at least one digit, if there is a point. -/
def skipFraction : List Char → Option (List Char)
  | '.' :: rest =>
    if (rest.takeWhile Char.isDigit).isEmpty then none else some (rest.dropWhile Char.isDigit)
  | rest => some rest

/-- The offset at the end of a time stamp: the letter Z, or a sign, hours below 24 and minutes
below 60. -/
def isOffset : List Char → Bool
  | ['Z'] | ['z'] => true
  | sign :: rest =>
    (sign == '+' || sign == '-' || sign == '\u2212') &&
      (match fixedNumber 2 rest with
        | some (hours, ':' :: minuteText) =>
          match fixedNumber 2 minuteText with
          | some (minutes, []) => decide (hours ≤ 23) && decide (minutes ≤ 59)
          | _ => false
        | _ => false)
  | [] => false

/-- What follows the letter or blank between day and time. -/
def skipDayTimeSeparator : List Char → Option (List Char)
  | char :: rest => if char = 'T' ∨ char = 't' ∨ char = ' ' then some rest else none
  | [] => none

/-- Whether the text is a time stamp in the strict notation. -/
def isTimeStamp (text : String) : Bool :=
  let read : Option (List Char) := do
    let (year, afterYear) ← fixedNumber 4 text.toList
    let (month, afterMonth) ← fixedNumber 2 (← expect '-' afterYear)
    let (day, afterDay) ← fixedNumber 2 (← expect '-' afterMonth)
    let (hour, afterHour) ← fixedNumber 2 (← skipDayTimeSeparator afterDay)
    let (minute, afterMinute) ← fixedNumber 2 (← expect ':' afterHour)
    let (second, afterSecond) ← fixedNumber 2 (← expect ':' afterMinute)
    if isDay year month day && isTime hour minute second then skipFraction afterSecond else none
  match read with
  | some offset => isOffset offset
  | none => false

end EntityGate.Calendar
