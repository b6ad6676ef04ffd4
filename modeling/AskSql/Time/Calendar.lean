/-!
The Gregorian calendar, extended to all years.

Inside the computations a year starts on 1 March: the leap day is then its last day, and the lengths
of its months repeat with a period of five.
-/

namespace AskSql

structure Date where
  year : Int
  month : Nat
  day : Nat
  deriving DecidableEq, Repr

namespace Date

def isLeap (year : Int) : Bool := year % 4 = 0 && (year % 100 ≠ 0 || year % 400 = 0)

def daysIn (year : Int) (month : Nat) : Nat :=
  if month = 2 then if isLeap year then 29 else 28
  else if month = 4 ∨ month = 6 ∨ month = 9 ∨ month = 11 then 30
  else 31

def isValid (d : Date) : Bool :=
  1 ≤ d.month && d.month ≤ 12 && 1 ≤ d.day && d.day ≤ daysIn d.year d.month

def marchDay (year : Int) : Int := 365 * year + year / 4 - year / 100 + year / 400

def monthDay (m : Nat) : Nat := (153 * m + 2) / 5

def epochDay : Int := 719468

def toDays (d : Date) : Int :=
  let early := d.month ≤ 2
  let year := if early then d.year - 1 else d.year
  let m := if early then d.month + 9 else d.month - 3
  marchDay year + monthDay m + d.day - 1 - epochDay

def marchYear (day : Int) : Int :=
  let guess := day * 400 / 146097
  if marchDay (guess + 1) ≤ day then guess + 1
  else if marchDay guess ≤ day then guess
  else guess - 1

def ofDays (days : Int) : Date :=
  let day := days + epochDay
  let year := marchYear day
  let rest := (day - marchDay year).toNat
  let m := (5 * rest + 2) / 153
  { year := if m < 10 then year else year + 1
    month := if m < 10 then m + 3 else m - 9
    day := rest - monthDay m + 1 }

end Date

end AskSql
