import AskSql.Decimal.Shortest
import AskSql.Decimal.Width
import AskSql.Json.Basic

namespace AskSql

namespace Number

/-- Plain notation for decimal exponents from -5 to 15, otherwise an exponent with its sign. A float
always shows a point or an exponent. -/
def scientificText (s : Decimal.Scientific) : List Char :=
  let digits := Nat.toDigits 10 s.digits
  let point : Int := digits.length + s.exponent
  if -5 < point ∧ point ≤ 0 then
    ['0', '.'] ++ List.replicate (-point).toNat '0' ++ digits
  else if 0 < point ∧ point ≤ 16 then
    if 0 ≤ s.exponent then digits ++ List.replicate s.exponent.toNat '0' ++ ['.', '0']
    else digits.take point.toNat ++ '.' :: digits.drop point.toNat
  else
    let head := digits.take 1
    let tail := digits.drop 1
    let exponent := point - 1
    head ++ (if tail.isEmpty then [] else '.' :: tail) ++
      ['e', if exponent < 0 then '-' else '+'] ++ Nat.toDigits 10 exponent.natAbs

/-- There is no text for an infinity or a NaN; no reader produces one. -/
def floatText (x : Float) : List Char :=
  let bits := x.toBits.toNat
  let biased := bits / Width.values 52 % Width.values 11
  let fraction := bits % Width.values 52
  let magnitude :=
    if biased = 0 ∧ fraction = 0 then ['0', '.', '0']
    else scientificText (Decimal.Cell.ofBits biased fraction).shortest
  if biased = 2047 then "null".toList
  else if Width.values 63 ≤ bits then '-' :: magnitude else magnitude

def intText (n : Int) : List Char :=
  if n < 0 then '-' :: Nat.toDigits 10 n.natAbs else Nat.toDigits 10 n.natAbs

def text : Number → List Char
  | .int n => intText n
  | .float x => floatText x

end Number

namespace Json

def escaped (c : Char) : List Char :=
  if c = '\x22' then ['\\', '\x22']
  else if c = '\\' then ['\\', '\\']
  else if c = '\x08' then ['\\', 'b']
  else if c = '\t' then ['\\', 't']
  else if c = '\n' then ['\\', 'n']
  else if c = '\x0c' then ['\\', 'f']
  else if c = '\r' then ['\\', 'r']
  else if c.toNat < 32 then
    ['\\', 'u', '0', '0', Nat.digitChar (c.toNat / 16), Nat.digitChar (c.toNat % 16)]
  else [c]

def quoted (s : String) : List Char := '\x22' :: s.toList.flatMap escaped ++ ['\x22']

mutual

def chars : Json → List Char
  | .null => "null".toList
  | .bool true => "true".toList
  | .bool false => "false".toList
  | .num n => n.text
  | .str s => quoted s
  | .arr items => '[' :: itemChars items ++ [']']
  | .obj members => '\x7b' :: memberChars members ++ ['\x7d']

def itemChars : List Json → List Char
  | [] => []
  | [v] => v.chars
  | v :: w :: rest => v.chars ++ ',' :: itemChars (w :: rest)

def memberChars : List (String × Json) → List Char
  | [] => []
  | [(k, v)] => quoted k ++ ':' :: v.chars
  | (k, v) :: m :: rest => quoted k ++ ':' :: v.chars ++ ',' :: memberChars (m :: rest)

end

def newLine (level : Nat) : List Char := '\n' :: List.replicate (2 * level) ' '

mutual

def prettyChars (level : Nat) : Json → List Char
  | .arr [] => ['[', ']']
  | .obj [] => ['\x7b', '\x7d']
  | .arr (v :: rest) =>
    '[' :: newLine (level + 1) ++ prettyItems (level + 1) (v :: rest) ++ newLine level ++ [']']
  | .obj (m :: rest) =>
    '\x7b' :: newLine (level + 1) ++ prettyMembers (level + 1) (m :: rest) ++ newLine level ++
      ['\x7d']
  | .null => "null".toList
  | .bool b => if b then "true".toList else "false".toList
  | .num n => n.text
  | .str s => quoted s

def prettyItems (level : Nat) : List Json → List Char
  | [] => []
  | [v] => v.prettyChars level
  | v :: w :: rest => v.prettyChars level ++ ',' :: newLine level ++ prettyItems level (w :: rest)

def prettyMembers (level : Nat) : List (String × Json) → List Char
  | [] => []
  | [(k, v)] => quoted k ++ ':' :: ' ' :: v.prettyChars level
  | (k, v) :: m :: rest =>
    quoted k ++ ':' :: ' ' :: v.prettyChars level ++ ',' :: newLine level ++
      prettyMembers level (m :: rest)

end

mutual

def sorted : Json → Json
  | .arr items => .arr (sortedItems items)
  | .obj members => .obj (sortKeys (sortedMembers members))
  | v => v

def sortedItems : List Json → List Json
  | [] => []
  | v :: rest => v.sorted :: sortedItems rest

def sortedMembers : List (String × Json) → List (String × Json)
  | [] => []
  | (k, v) :: rest => (k, v.sorted) :: sortedMembers rest

end

def compact (v : Json) : String := String.ofList v.chars

def pretty (v : Json) : String := String.ofList (v.prettyChars 0)

def plainText : Json → String
  | .str s => s
  | v => v.compact

end Json

end AskSql
