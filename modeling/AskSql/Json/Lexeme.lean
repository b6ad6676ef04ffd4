import AskSql.Decimal.Width
import AskSql.Json.Basic
import AskSql.Json.Fault

/-!
Numbers and strings of a JSON text.

Each is read in two ways: for its value, and only to get past it. The second way passes numbers
beyond every range and escapes that stand for no character.
-/

namespace AskSql.Json

def isSpace (c : Char) : Bool := c = ' ' || c = '\n' || c = '\t' || c = '\r'

def skipSpace (s : List Char) : List Char := s.dropWhile isSpace

def digitValue (c : Char) : Nat := c.toNat - '0'.toNat

def maxWord : Nat := Width.values 64 - 1

/-- Appends digits as long as the result fits 64 bits; the rest of the digits is given back. -/
def appendDigits (n : Nat) : List Char → Nat × List Char
  | [] => (n, [])
  | d :: rest =>
    if n * 10 + digitValue d ≤ maxWord then appendDigits (n * 10 + digitValue d) rest
    else (n, d :: rest)

def powerOfTen (n : Nat) : Float := Float.ofScientific 1 false n

def scaleFloat : Nat → Float → Int → Option Float
  | 0, x, _ => some x
  | fuel + 1, x, exponent =>
    if exponent.natAbs ≤ 308 then
      if 0 ≤ exponent then
        let y := x * powerOfTen exponent.toNat
        if y.isInf then none else some y
      else some (x / powerOfTen exponent.natAbs)
    else if x == 0 then some x
    else if 0 ≤ exponent then none
    else scaleFloat fuel (x / powerOfTen 308) (exponent + 308)

def floatOfParts (negative : Bool) (significand : Nat) (exponent : Int) : Option Number :=
  (scaleFloat 8 (UInt64.ofNat significand).toFloat exponent).map fun x =>
    .float (if negative then -x else x)

def intOfParts (negative : Bool) (n : Nat) : Number :=
  if negative then
    if n = 0 ∨ Width.values 63 < n then .float (-(UInt64.ofNat n).toFloat) else .int (-n)
  else .int n

structure Numeral where
  negative : Bool
  whole : List Char
  fraction : Option (List Char)
  /-- Sign and digits. -/
  exponent : Option (Bool × List Char)

def maxExponent : Int := Width.values 31 - 1

def Numeral.value? (n : Numeral) : Option Number :=
  let (significand, dropped) := appendDigits 0 n.whole
  match n.fraction, n.exponent, dropped with
  | none, none, [] => some (intOfParts n.negative significand)
  | fraction, exponent, dropped =>
    let digits := fraction.getD []
    let (significand, unused) := appendDigits significand digits
    let shift : Int := dropped.length - (digits.length - unused.length : Nat)
    match exponent with
    | none => floatOfParts n.negative significand shift
    | some (down, e) =>
      let e : Int := Nat.ofDigitChars 10 e 0
      if maxExponent < e then
        if significand ≠ 0 ∧ !down then none
        else some (.float (if n.negative then -0.0 else 0.0))
      else
        let total := if down then shift - e else shift + e
        floatOfParts n.negative significand (max (-maxExponent - 1) (min maxExponent total))

def spanDigits (s : List Char) : List Char × List Char :=
  (s.takeWhile Char.isDigit, s.dropWhile Char.isDigit)

def someDigits (strict : Bool) (s : List Char) : Except Fault (List Char × List Char) :=
  match s with
  | [] => .error ⟨if strict then .endInValue else .badNumber, []⟩
  | c :: rest => if c.isDigit then .ok (spanDigits s) else .error ⟨.badNumber, rest⟩

def wholePart (strict : Bool) (s : List Char) : Except Fault (List Char × List Char) := do
  let (digits, rest) ← someDigits strict s
  match digits with
  | '0' :: _ :: _ => .error ⟨.badNumber, (s.drop 2)⟩
  | _ => .ok (digits, rest)

def fractionPart (strict : Bool) : List Char → Except Fault (Option (List Char) × List Char)
  | '.' :: rest => do
    let (digits, rest) ← someDigits strict rest
    .ok (some digits, rest)
  | s => .ok (none, s)

def exponentSign : List Char → Bool × List Char
  | '+' :: rest => (false, rest)
  | '-' :: rest => (true, rest)
  | s => (false, s)

def exponentPart (strict : Bool) (s : List Char) :
    Except Fault (Option (Bool × List Char) × List Char) :=
  match s with
  | c :: rest =>
    if c = 'e' ∨ c = 'E' then do
      let (down, rest) := exponentSign rest
      let (digits, rest) ← someDigits strict rest
      .ok (some (down, digits), rest)
    else .ok (none, s)
  | [] => .ok (none, [])

def numeral (strict : Bool) (s : List Char) : Except Fault (Numeral × List Char) := do
  let (negative, s) := match s with
    | '-' :: rest => (true, rest)
    | s => (false, s)
  let (whole, s) ← wholePart strict s
  let (fraction, s) ← fractionPart strict s
  let (exponent, s) ← exponentPart strict s
  .ok (⟨negative, whole, fraction, exponent⟩, s)

def hexValue? (c : Char) : Option Nat :=
  if c.isDigit then some (digitValue c)
  else if 'a' ≤ c ∧ c ≤ 'f' then some (c.toNat - 'a'.toNat + 10)
  else if 'A' ≤ c ∧ c ≤ 'F' then some (c.toNat - 'A'.toNat + 10)
  else none

def fourHex (s : List Char) : Except Fault (Nat × List Char) :=
  match s with
  | a :: b :: c :: d :: rest =>
    match hexValue? a, hexValue? b, hexValue? c, hexValue? d with
    | some a, some b, some c, some d => .ok (((a * 16 + b) * 16 + c) * 16 + d, rest)
    | _, _, _, _ => .error ⟨.badEscape, rest⟩
  | short =>
    if byteCount short < 4 then .error ⟨.endInString, []⟩ else .error ⟨.badEscape, []⟩

def isLeading (n : Nat) : Bool := 0xd800 ≤ n && n ≤ 0xdbff

def isTrailing (n : Nat) : Bool := 0xdc00 ≤ n && n ≤ 0xdfff

def unicodeEscape (s : List Char) : Except Fault (Char × List Char) := do
  let (n, rest) ← fourHex s
  if isTrailing n then .error ⟨.loneSurrogate, rest⟩
  else if !isLeading n then .ok (Char.ofNat n, rest)
  else
    match rest with
    | [] | ['\\'] => .error ⟨.endInString, []⟩
    | '\\' :: 'u' :: more =>
      let (m, rest) ← fourHex more
      if isTrailing m then .ok (Char.ofNat (0x10000 + (n - 0xd800) * 0x400 + (m - 0xdc00)), rest)
      else .error ⟨.loneSurrogate, rest⟩
    | '\\' :: _ :: more => .error ⟨.brokenSurrogatePair, more⟩
    | _ :: more => .error ⟨.brokenSurrogatePair, more⟩

def shortEscape? (c : Char) : Option Char :=
  if c = '\x22' ∨ c = '\\' ∨ c = '/' then some c
  else if c = 'b' then some '\x08'
  else if c = 'f' then some '\x0c'
  else if c = 'n' then some '\n'
  else if c = 'r' then some '\r'
  else if c = 't' then some '\t'
  else none

/-- Reads up to the closing quote; `done` holds what was read, backwards. The fuel bounds the length
of the text. -/
def stringBody : Nat → List Char → List Char → Except Fault (List Char × List Char)
  | 0, _, _ | _, _, [] => .error ⟨.endInString, []⟩
  | fuel + 1, done, c :: rest =>
    if c = '\x22' then .ok (done.reverse, rest)
    else if c = '\\' then
      match rest with
      | [] => .error ⟨.endInString, []⟩
      | e :: more =>
        if e = 'u' then
          match unicodeEscape more with
          | .error f => .error f
          | .ok (c, rest) => stringBody fuel (c :: done) rest
        else
          match shortEscape? e with
          | some c => stringBody fuel (c :: done) more
          | none => .error ⟨.badEscape, more⟩
    else if c.toNat < 32 then .error ⟨.controlCharacter, rest⟩
    else stringBody fuel (c :: done) rest

def skipString : Nat → List Char → Except Fault (List Char)
  | 0, _ | _, [] => .error ⟨.endInString, []⟩
  | fuel + 1, c :: rest =>
    if c = '\x22' then .ok rest
    else if c = '\\' then
      match rest with
      | [] => .error ⟨.endInString, []⟩
      | e :: more =>
        if e = 'u' then
          match fourHex more with
          | .error f => .error f
          | .ok (_, rest) => skipString fuel rest
        else if (shortEscape? e).isSome then skipString fuel more
        else .error ⟨.badEscape, more⟩
    else if c.toNat < 32 then .error ⟨.controlCharacter, rest⟩
    else skipString fuel rest

end AskSql.Json
