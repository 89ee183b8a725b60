import ContractScan.Fault
import ContractScan.Number.Power

/-!
# Calendar -- seconds since 1970 as a date and a time of day

The calendar is the Gregorian one, extended to the years 1 to 9999, without leap seconds. A day number
is taken apart into cycles of 400, 100, 4 and 1 years; months are walked through.
-/

namespace ContractScan.Chain

open ContractScan.Number

/-- A date and a time of day. -/
structure Moment where
  /-- From 1 to 9999. -/
  year : Nat
  /-- From 1 to 12. -/
  month : Nat
  /-- From 1 to 31. -/
  day : Nat
  /-- From 0 to 23. -/
  hour : Nat
  /-- From 0 to 59. -/
  minute : Nat
  /-- From 0 to 59. -/
  second : Nat
  deriving DecidableEq, Repr

/-- The seconds from the start of the year 1 to the start of the year 1970. -/
def secondsBefore1970 : Int := 62135596800

/-- The seconds from the start of the year 1 to the end of the year 9999. -/
def secondsOfCalendar : Int := 315537897600

/-- Whether a year has a day more. -/
def isLeap (year : Nat) : Bool := year % 4 == 0 && (year % 100 != 0 || year % 400 == 0)

/-- The lengths of the months of a year. -/
def monthLengths (year : Nat) : List Nat :=
  [31, if isLeap year then 29 else 28, 31, 30, 31, 30, 31, 31, 30, 31, 30, 31]

/-- The year of a day, counted from the first day of the year 1, and the day within it, from 0. -/
def yearAndDay (n : Nat) : Nat × Nat :=
  let n400 := n / 146097
  let r400 := n % 146097
  let n100 := min (r400 / 36524) 3
  let r100 := r400 - n100 * 36524
  let n4 := r100 / 1461
  let r4 := r100 % 1461
  let n1 := min (r4 / 365) 3
  (400 * n400 + 100 * n100 + 4 * n4 + n1 + 1, r4 - n1 * 365)

/-- The month and the day of the month of a day within the months that follow `month`. -/
def monthAndDay (month : Nat) : List Nat → Nat → Nat × Nat
  | [], d => (month, d + 1)
  | [_], d => (month, d + 1)
  | l :: ls, d => if d < l then (month, d + 1) else monthAndDay (month + 1) ls (d - l)

/-- The moment that many seconds after the start of the year 1. -/
def Moment.ofSecondsSinceYear1 (n : Nat) : Moment :=
  let (year, d) := yearAndDay (n / 86400)
  let (month, day) := monthAndDay 1 (monthLengths year) d
  let s := n % 86400
  ⟨year, month, day, s / 3600, s % 3600 / 60, s % 60⟩

/-- Decimal digits of the given number, the last `width` of them. -/
def fixedDigits : Nat → Nat → List Char
  | 0, _ => []
  | width + 1, n => fixedDigits width (n / 10) ++ [Nat.digitChar (n % 10)]

/-- The written form of a moment, with its distance from universal time, which is none. -/
def Moment.text (m : Moment) : String :=
  String.ofList <|
    fixedDigits 4 m.year ++ '-' :: fixedDigits 2 m.month ++ '-' :: fixedDigits 2 m.day ++
      'T' :: fixedDigits 2 m.hour ++ ':' :: fixedDigits 2 m.minute ++ ':' :: fixedDigits 2 m.second ++
      "+00:00".toList

/-- The instant at which a clock of 64 bits runs over. -/
def clockBound : Int := twoTo 63

/-- The written form of an instant in seconds since 1970. A clock has 64 bits, and the calendar the
years 1 to 9999. -/
def instantText (t : Int) : Except Fault String :=
  if t < -clockBound ∨ clockBound ≤ t then .error .clockOverflow
  else
    let n := t + secondsBefore1970
    if 0 ≤ n ∧ n < secondsOfCalendar then .ok (Moment.ofSecondsSinceYear1 n.toNat).text
    else .error .yearOutOfRange

end ContractScan.Chain
