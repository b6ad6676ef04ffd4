import AskSql.Time.Calendar

namespace AskSql

namespace Time

def nanosPerSecond : Nat := 1000000000

def secondsPerDay : Nat := 86400

def minYear : Int := -262143

def maxYear : Int := 262142

def firstSecond : Int := Date.toDays ⟨minYear, 1, 1⟩ * secondsPerDay

def lastSecond : Int := Date.toDays ⟨maxYear, 12, 31⟩ * secondsPerDay + (secondsPerDay - 1)

end Time

open Time

structure Instant where
  seconds : Int
  nanos : Nat
  inRange : firstSecond ≤ seconds ∧ seconds ≤ lastSecond
  nanos_lt : nanos < 2 * nanosPerSecond
  leap : nanosPerSecond ≤ nanos → seconds % 60 = 59
  deriving DecidableEq

namespace Instant

def make? (seconds : Int) (nanos : Nat) : Option Instant :=
  if h : (firstSecond ≤ seconds ∧ seconds ≤ lastSecond) ∧ nanos < 2 * nanosPerSecond ∧
      (nanosPerSecond ≤ nanos → seconds % 60 = 59) then
    some ⟨seconds, nanos, h.1, h.2.1, h.2.2⟩
  else none

def epoch : Instant := ⟨0, 0, by decide, by decide, by decide⟩

instance : Inhabited Instant := ⟨epoch⟩

def days (i : Instant) : Int := i.seconds / secondsPerDay

def date (i : Instant) : Date := Date.ofDays i.days

def secondOfDay (i : Instant) : Nat := (i.seconds % secondsPerDay).toNat

def isLeap (i : Instant) : Bool := nanosPerSecond ≤ i.nanos

def milliseconds (i : Instant) : Int := i.seconds * 1000 + i.nanos / 1000000

/-- Nanoseconds from `past` to `i`. A leap second counts once it is over by the clock of the day. -/
def since (i past : Instant) : Int :=
  let adjust : Int :=
    if past.secondOfDay < i.secondOfDay then if past.isLeap then 1 else 0
    else if i.secondOfDay < past.secondOfDay then if i.isLeap then -1 else 0
    else 0
  (i.seconds - past.seconds + adjust) * nanosPerSecond + (i.nanos - past.nanos)

def after? (i : Instant) (nanos : Int) : Option Instant :=
  let total := i.seconds * nanosPerSecond + i.nanos + nanos
  make? (total / nanosPerSecond) (total % nanosPerSecond).toNat

end Instant

end AskSql
