namespace AskSql.Decimal

def digitsValue (ds : List Char) : Nat := Nat.ofDigitChars 10 ds 0

def isDigits (s : List Char) : Bool := !s.isEmpty && s.all Char.isDigit

def integer? : List Char → Option Int
  | '-' :: ds => if isDigits ds then some (-(digitsValue ds : Int)) else none
  | '+' :: ds => if isDigits ds then some (digitsValue ds) else none
  | ds => if isDigits ds then some (digitsValue ds) else none

def natural? : List Char → Option Nat
  | '+' :: ds => if isDigits ds then some (digitsValue ds) else none
  | ds => if isDigits ds then some (digitsValue ds) else none

def splitSign : List Char → Bool × List Char
  | '-' :: s => (true, s)
  | '+' :: s => (false, s)
  | s => (false, s)

def exponent? : List Char → Option Int
  | [] => some 0
  | c :: s => if c = 'e' ∨ c = 'E' then integer? s else none

/-- The float nearest to `digits · 10 ^ exponent`; `none` past the largest float. -/
def nearest? (digits : Nat) (exponent : Int) : Option Float :=
  let size : Int := (Nat.toDigits 10 digits).length + exponent
  if digits = 0 ∨ size < -400 then some 0.0
  else if 400 < size then none
  else
    let x := Float.ofScientific digits (exponent < 0) exponent.natAbs
    if x.isInf then none else some x

def float? (s : List Char) : Option Float :=
  let (negative, s) := splitSign s
  let whole := s.takeWhile Char.isDigit
  let rest := s.dropWhile Char.isDigit
  let (fraction, rest) := match rest with
    | '.' :: more => (more.takeWhile Char.isDigit, more.dropWhile Char.isDigit)
    | _ => ([], rest)
  if whole.isEmpty ∧ fraction.isEmpty then none
  else
    match exponent? rest with
    | none => none
    | some e =>
      (nearest? (digitsValue (whole ++ fraction)) (e - fraction.length)).map fun x =>
        if negative then -x else x

end AskSql.Decimal
