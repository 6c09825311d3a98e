import TreeReport.Decimal

/-! Points in time and their calendar, in universal time from 1970 on. -/
namespace TreeReport.Logging

structure Timestamp where
  /-- Milliseconds since the start of 1970. -/
  elapsed : Nat
  deriving DecidableEq, Repr

namespace Timestamp

section Calendar

/-- The date of a day counted from the first of March of year zero: years begin
in March here, so that a leap day is the last of its year. -/
def dateFromMarch (day : Nat) : Nat × Nat × Nat :=
  let era := day / 146097
  let ofEra := day % 146097
  let yearOfEra := (ofEra - ofEra / 1460 + ofEra / 36524 - ofEra / 146096) / 365
  let ofYear := ofEra - (365 * yearOfEra + yearOfEra / 4 - yearOfEra / 100)
  let month := (5 * ofYear + 2) / 153
  let year := yearOfEra + era * 400
  let dayOfMonth := ofYear - (153 * month + 2) / 5 + 1
  if month < 10 then (year, month + 3, dayOfMonth) else (year + 1, month - 9, dayOfMonth)

def dateOf (day : Nat) : Nat × Nat × Nat := dateFromMarch (day + 719468)

def leapYearsBefore (year : Nat) : Nat := (year - 1) / 4 - (year - 1) / 100 + (year - 1) / 400

def firstDay (year : Nat) : Nat :=
  365 * (year - 1970) + leapYearsBefore year - leapYearsBefore 1970

def dayOfYear (day : Nat) : Nat := day - firstDay (dateOf day).1

def daysSinceSunday (day : Nat) : Nat := (day + 4) % 7

def daysSinceMonday (day : Nat) : Nat := (day + 3) % 7

/-- A week belongs to the year of its Thursday. -/
def thursday (day : Nat) : Nat := day + 3 - daysSinceMonday day

end Calendar

def seconds (time : Timestamp) : Nat := time.elapsed / 1000

def millisecond (time : Timestamp) : Nat := time.elapsed % 1000

def day (time : Timestamp) : Nat := time.seconds / 86400

def year (time : Timestamp) : Nat := (dateOf time.day).1

def month (time : Timestamp) : Nat := (dateOf time.day).2.1

def dayOfMonth (time : Timestamp) : Nat := (dateOf time.day).2.2

def hour (time : Timestamp) : Nat := time.seconds / 3600 % 24

def minute (time : Timestamp) : Nat := time.seconds / 60 % 60

def second (time : Timestamp) : Nat := time.seconds % 60

def clockHour (time : Timestamp) : Nat := (time.hour + 11) % 12 + 1

/-- Weeks of the year that begin with the first Sunday, or Monday, of the year. -/
def sundayWeek (time : Timestamp) : Nat :=
  (dayOfYear time.day + 7 - daysSinceSunday time.day) / 7

def mondayWeek (time : Timestamp) : Nat :=
  (dayOfYear time.day + 7 - daysSinceMonday time.day) / 7

def weekYear (time : Timestamp) : Nat := (dateOf (thursday time.day)).1

def week (time : Timestamp) : Nat := dayOfYear (thursday time.day) / 7 + 1

end Timestamp

end TreeReport.Logging
