import AskSql.Text.Chars
import AskSql.Time.Instant

/-!
Moments as text, after RFC 3339.

Written stamps are in universal time, with the fewest of 0, 3, 6 or 9 fraction digits that lose
nothing. Reading admits any offset, blanks between the parts, and years of more than four digits
behind a sign.
-/

namespace AskSql.Stamp

open Time

def padded (width n : Nat) : List Char :=
  let digits := Nat.toDigits 10 n
  List.replicate (width - digits.length) '0' ++ digits

def yearText (year : Int) : List Char :=
  if 0 ≤ year ∧ year ≤ 9999 then padded 4 year.natAbs
  else (if year < 0 then '-' else '+') :: padded 4 year.natAbs

def dateText (d : Date) : List Char :=
  yearText d.year ++ '-' :: padded 2 d.month ++ '-' :: padded 2 d.day

def fractionText (nanos : Nat) : List Char :=
  if nanos = 0 then []
  else if nanos % 1000000 = 0 then '.' :: padded 3 (nanos / 1000000)
  else if nanos % 1000 = 0 then '.' :: padded 6 (nanos / 1000)
  else '.' :: padded 9 nanos

/-- A leap second is second 60 of its minute. -/
def timeText (i : Instant) : List Char :=
  let second := i.secondOfDay
  let leap := if i.isLeap then 1 else 0
  padded 2 (second / 3600) ++ ':' :: padded 2 (second / 60 % 60) ++
    ':' :: padded 2 (second % 60 + leap) ++ fractionText (i.nanos % nanosPerSecond)

def chars (i : Instant) : List Char := dateText i.date ++ 'T' :: timeText i ++ ['Z']

abbrev Scan := StateT (List Char) Option

def blanks : Scan Unit := modify Text.trimStart

def char (accepts : Char → Bool) : Scan Char := do
  match ← get with
  | c :: rest => if accepts c then do set rest; return c else failure
  | [] => failure

def number (ds : List Char) : Nat := Nat.ofDigitChars 10 ds 0

def digits (most : Nat) : Scan (List Char) := do
  let s ← get
  let ds := (s.take most).takeWhile Char.isDigit
  if ds.isEmpty then failure
  else do
    set (s.drop ds.length)
    return ds

def digitRun : Scan (List Char) := do digits (← get).length

def small (least greatest : Nat) : Scan Nat := do
  blanks
  let n := number (← digits 2)
  if least ≤ n ∧ n ≤ greatest then return n else failure

def separator (c : Char) : Scan Unit := do
  blanks
  let _ ← char (· = c)

def year : Scan Int := do
  blanks
  match ← get with
  | '-' :: rest =>
    set rest
    return -(number (← digitRun) : Int)
  | '+' :: rest =>
    set rest
    return (number (← digitRun) : Int)
  | _ => return (number (← digits 4) : Int)

def date : Scan Date := do
  let y ← year
  separator '-'
  let m ← small 1 12
  separator '-'
  let d ← small 1 31
  if minYear ≤ y ∧ y ≤ maxYear ∧ Date.isValid ⟨y, m, d⟩ then return ⟨y, m, d⟩ else failure

def fraction : Scan Nat := do
  match ← get with
  | '.' :: rest =>
    set rest
    let ds ← digits 9
    modify (·.dropWhile Char.isDigit)
    return number ds * Nat.pow 10 (9 - ds.length)
  | _ => return 0

def time : Scan (Nat × Nat) := do
  let h ← small 0 23
  separator ':'
  let m ← small 0 59
  separator ':'
  let s ← small 0 60
  let nanos ← fraction
  return (h * 3600 + m * 60 + min s 59, nanos + if s = 60 then nanosPerSecond else 0)

def minusSign : Char := '\u2212'

def twoDigits : Scan Nat := do
  let tens ← char Char.isDigit
  let ones ← char Char.isDigit
  return number [tens, ones]

def offset : Scan Int := do
  blanks
  let s ← get
  if (s.take 3).map Char.toUpper = "UTC".toList then do
    set (s.drop 3)
    return 0
  else do
    let sign ← char fun c => c = 'Z' || c = 'z' || c = '+' || c = '-' || c = minusSign
    if sign = 'Z' ∨ sign = 'z' then return 0
    else do
      let h ← twoDigits
      modify (·.dropWhile fun c => c = ':' || Unicode.isBlank c)
      let m ← twoDigits
      if 24 ≤ h ∨ 60 ≤ m then failure
      else do
        let seconds : Int := (h * 3600 + m * 60 : Nat)
        return if sign = '+' then seconds else -seconds

def instant : Scan Instant := do
  let d ← date
  let _ ← char fun c => c = 'T' || c = 't' || c = ' '
  let (second, nanos) ← time
  let ahead ← offset
  blanks
  match Instant.make? (d.toDays * secondsPerDay + second - ahead) nanos with
  | some i => return i
  | none => failure

def read? (s : List Char) : Option Instant :=
  match instant.run s with
  | some (i, []) => some i
  | _ => none

end AskSql.Stamp

namespace AskSql

def Instant.text (i : Instant) : String := String.ofList (Stamp.chars i)

def Instant.ofText? (s : String) : Option Instant := Stamp.read? s.toList

end AskSql
