/-!
# Dates and times

Dates, times of day and offsets from universal time, alone or together, as TOML has them.
-/

namespace Highlighter.Toml

/-- A day of the calendar. -/
structure Date where
  year : Nat
  month : Nat
  day : Nat
  deriving DecidableEq, Repr

/-- A time of day. -/
structure Time where
  hour : Nat
  minute : Nat
  /-- Up to 60, for a leap second. -/
  second : Nat
  nanosecond : Nat
  deriving DecidableEq, Repr

/-- The distance from universal time. -/
inductive Offset where
  | universal
  | minutes (count : Int)
  deriving DecidableEq, Repr

/-- A date, a time, or both; an offset only stands with both. -/
structure Datetime where
  date : Option Date := none
  time : Option Time := none
  offset : Option Offset := none
  deriving DecidableEq, Repr

/-- Whether a year has 366 days. -/
def isLeapYear (year : Nat) : Bool :=
  year % 4 == 0 && (year % 100 != 0 || year % 400 == 0)

/-- The number of days of a month. -/
def daysInMonth (year month : Nat) : Nat :=
  if month = 2 then (if isLeapYear year then 29 else 28)
  else if month = 4 ∨ month = 6 ∨ month = 9 ∨ month = 11 then 30
  else 31

/-- A number with leading zeros up to `width` digits. -/
def padded (width n : Nat) : List Char :=
  let digits := Nat.toDigits 10 n
  List.replicate (width - digits.length) '0' ++ digits

/-- Year, month and day with hyphens between them. -/
def Date.toText (date : Date) : List Char :=
  padded 4 date.year ++ '-' :: padded 2 date.month ++ '-' :: padded 2 date.day

/-- Hour, minute and second with colons between them, and the fraction of a second without its
trailing zeros. -/
def Time.toText (time : Time) : List Char :=
  let fraction :=
    if time.nanosecond = 0 then []
    else '.' :: ((padded 9 time.nanosecond).reverse.dropWhile (· == '0')).reverse
  padded 2 time.hour ++ ':' :: padded 2 time.minute ++ ':' :: padded 2 time.second ++ fraction

/-- A `Z`, or a sign with hours and minutes. -/
def Offset.toText : Offset → List Char
  | .universal => ['Z']
  | .minutes count =>
    let distance := count.natAbs
    (if count < 0 then '-' else '+')
      :: (padded 2 (distance / 60) ++ ':' :: padded 2 (distance % 60))

/-- The parts that are there, with a `T` between date and time. -/
def Datetime.toText (datetime : Datetime) : List Char :=
  let date := (datetime.date.map Date.toText).getD []
  let time := (datetime.time.map Time.toText).getD []
  let offset := (datetime.offset.map Offset.toText).getD []
  let separator := if datetime.date.isSome && datetime.time.isSome then ['T'] else []
  date ++ separator ++ time ++ offset

end Highlighter.Toml
