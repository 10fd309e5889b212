import Passkey.Asn1.Der

/-!
# Calendar times

The two time types of certificates, as seconds since 1970. Both must give seconds and end in `Z`.
`civil` and `secondsOf` are inverse between 1970 and 9999.
-/

namespace Passkey

/-- A date and a time of day in universal time. -/
structure CalendarTime where
  year : Nat
  month : Nat
  day : Nat
  hour : Nat
  minute : Nat
  second : Nat
  deriving DecidableEq, Repr

namespace CalendarTime

/-- Whether a year has a 29th of February. -/
def isLeap (year : Nat) : Bool := year % 4 == 0 && (year % 100 != 0 || year % 400 == 0)

/-- The lengths of the months of a year. -/
def monthLengths (year : Nat) : List Nat :=
  [31, if isLeap year then 29 else 28, 31, 30, 31, 30, 31, 31, 30, 31, 30, 31]

/-- Leap days in the years before this one, counted from year zero. -/
def leapDaysBefore (year : Nat) : Nat := (year - 1) / 4 - (year - 1) / 100 + (year - 1) / 400

/-- Days from 1970 to the first of January of a year. -/
def daysBeforeYear (year : Nat) : Nat :=
  (year - 1970) * 365 + (leapDaysBefore year - leapDaysBefore 1970)

/-- Years from 1970 to 9999 and days and times of day that exist. -/
def isValid (t : CalendarTime) : Bool :=
  1970 ≤ t.year && t.year ≤ 9999 && 1 ≤ t.month && t.month ≤ 12 && 1 ≤ t.day
    && t.day ≤ (monthLengths t.year).getD (t.month - 1) 0 && t.hour < 24 && t.minute < 60
    && t.second < 60

/-- Days of a year before a month. -/
def daysBeforeMonth (year month : Nat) : Nat :=
  ((monthLengths year).take (month - 1)).foldl (· + ·) 0

/-- Seconds since the start of 1970. -/
def secondsOf (t : CalendarTime) : Nat :=
  let days := daysBeforeYear t.year + daysBeforeMonth t.year t.month + (t.day - 1)
  ((days * 24 + t.hour) * 60 + t.minute) * 60 + t.second

/-- The month and day of a day of the year, counted from zero. -/
def monthAndDay : (lengths : List Nat) → (month dayOfYear : Nat) → Nat × Nat
  | [], month, day => (month, day + 1)
  | length :: rest, month, day =>
    if day < length then (month, day + 1) else monthAndDay rest (month + 1) (day - length)

/-- The year in which a day falls, searched upwards. -/
def yearOf (day : Nat) : (tries year : Nat) → Nat
  | 0, year => year
  | tries + 1, year => if day < daysBeforeYear (year + 1) then year else yearOf day tries (year + 1)

/-- The calendar time of a number of seconds since the start of 1970. -/
def ofSeconds (seconds : Nat) : CalendarTime :=
  let day := seconds / 86400
  let year := yearOf day 8030 1970
  let (month, dayOfMonth) := monthAndDay (monthLengths year) 1 (day - daysBeforeYear year)
  ⟨year, month, dayOfMonth, seconds / 3600 % 24, seconds / 60 % 60, seconds % 60⟩

/-- A number of two decimal digits. -/
def twoDigits? (a b : UInt8) : Option Nat :=
  if 0x30 ≤ a ∧ a ≤ 0x39 ∧ 0x30 ≤ b ∧ b ≤ 0x39 then
    some ((a.toNat - 0x30) * 10 + (b.toNat - 0x30))
  else none

/-- The part of a time after its year: `MMDDHHMMSSZ`. -/
def afterYear? (year : Nat) : Bytes → Option CalendarTime
  | [o₁, o₂, d₁, d₂, h₁, h₂, m₁, m₂, s₁, s₂, z] => do
    let t : CalendarTime :=
      ⟨year, ← twoDigits? o₁ o₂, ← twoDigits? d₁ d₂, ← twoDigits? h₁ h₂, ← twoDigits? m₁ m₂,
        ← twoDigits? s₁ s₂⟩
    if z = 0x5a ∧ t.isValid then some t else none
  | _ => none

/-- `YYMMDDHHMMSSZ`; years from 50 are in the twentieth century, the others in the next. -/
def ofUtc? : Bytes → Option CalendarTime
  | y₁ :: y₂ :: rest => do
    let yy ← twoDigits? y₁ y₂
    afterYear? (if yy ≥ 50 then 1900 + yy else 2000 + yy) rest
  | _ => none

/-- `YYYYMMDDHHMMSSZ`. -/
def ofGeneralized? : Bytes → Option CalendarTime
  | y₁ :: y₂ :: y₃ :: y₄ :: rest => do
    let century ← twoDigits? y₁ y₂
    let yy ← twoDigits? y₃ y₄
    afterYear? (century * 100 + yy) rest
  | _ => none

/-- Two decimal digits. -/
def digits (n : Nat) : Bytes := [UInt8.ofNat (0x30 + n / 10 % 10), UInt8.ofNat (0x30 + n % 10)]

/-- The short time type, for the years from 1950 to 2049. -/
def writeUtc? (t : CalendarTime) : Option Bytes :=
  if 1950 ≤ t.year ∧ t.year < 2050 then
    some (Der.tlv Der.Tag.utcTime
      (digits (t.year % 100) ++ digits t.month ++ digits t.day ++ digits t.hour ++ digits t.minute
        ++ digits t.second ++ [0x5a]))
  else none

end CalendarTime

/-- A moment, since the start of 1970. -/
structure Instant where
  seconds : Nat
  nanoseconds : Nat
  deriving DecidableEq, Repr

namespace Instant

/-- The moment at which a second starts. -/
def ofSeconds (seconds : Nat) : Instant := ⟨seconds, 0⟩

/-- Whether a moment is not after another. -/
def le (a b : Instant) : Bool :=
  a.seconds < b.seconds || (a.seconds = b.seconds && a.nanoseconds ≤ b.nanoseconds)

end Instant

/-- The seconds since 1970 in an element of either time type. -/
def Der.Element.seconds? (e : Der.Element) : Option Nat :=
  if e.tag = Der.Tag.utcTime then (CalendarTime.ofUtc? e.content).map CalendarTime.secondsOf
  else if e.tag = Der.Tag.generalizedTime then
    (CalendarTime.ofGeneralized? e.content).map CalendarTime.secondsOf
  else none

end Passkey
