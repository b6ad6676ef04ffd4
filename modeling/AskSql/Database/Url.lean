import AskSql.Text.Chars

namespace AskSql.Url

inductive Fault
  | relative
  | emptyHost
  | badNumber
  | badAddress
  | badHost
  deriving DecidableEq, Repr

def Fault.message : Fault → String
  | .relative => "relative URL without a base"
  | .emptyHost => "empty host"
  | .badNumber => "invalid port number"
  | .badAddress => "invalid IPv6 address"
  | .badHost => "invalid domain character"

/-- Control characters and blanks around a URL are dropped, tabs and line ends inside it too. -/
def cleaned (s : List Char) : List Char :=
  let outer (c : Char) : Bool := c.toNat ≤ 32
  let inner := ((s.dropWhile outer).reverse.dropWhile outer).reverse
  inner.filter fun c => c ≠ '\t' ∧ c ≠ '\n' ∧ c ≠ '\r'

def isSchemeChar (c : Char) : Bool := c.isAlphanum || c = '+' || c = '-' || c = '.'

def scheme? : List Char → Option (List Char × List Char)
  | [] => none
  | c :: rest =>
    if c.isAlpha then
      match (c :: rest).dropWhile isSchemeChar with
      | ':' :: more => some (((c :: rest).takeWhile isSchemeChar).map Char.toLower, more)
      | _ => none
    else none

def webSchemes : List String := ["http", "https", "ws", "wss", "ftp"]

def endsAuthority (web : Bool) (c : Char) : Bool :=
  c = '/' || c = '?' || c = '#' || (web && c = '\\')

def afterUser (authority : List Char) : List Char :=
  (authority.reverse.takeWhile (· ≠ '@')).reverse

def splitHost (inside : Bool) : List Char → List Char × List Char
  | [] => ([], [])
  | c :: rest =>
    if c = ':' ∧ ¬inside then ([], c :: rest)
    else
      let inside := if c = '[' then true else if c = ']' then false else inside
      let (host, more) := splitHost inside rest
      (c :: host, more)

def isHexPiece (p : List Char) : Bool :=
  !p.isEmpty && p.length ≤ 4 && p.all fun c => c.isDigit || ('a' ≤ c.toLower && c.toLower ≤ 'f')

def isByte (p : List Char) : Bool :=
  !p.isEmpty && p.length ≤ 3 && p.all Char.isDigit && Nat.ofDigitChars 10 p 0 < 256 &&
    (p.length = 1 || p.head? ≠ some '0')

def isDotted (p : List Char) : Bool :=
  let bytes := Text.splitOn '.' p
  bytes.length = 4 && bytes.all isByte

def pieceCount? : List (List Char) → Option Nat
  | [] => some 0
  | [p] => if isHexPiece p then some 1 else if isDotted p then some 2 else none
  | p :: rest => if isHexPiece p then (pieceCount? rest).map (· + 1) else none

def pieces (s : List Char) : List (List Char) := if s.isEmpty then [] else Text.splitOn ':' s

def splitGap? : List Char → Option (List Char × List Char)
  | ':' :: ':' :: rest => some ([], rest)
  | c :: rest => (splitGap? rest).map fun (a, b) => (c :: a, b)
  | [] => none

def isAddress (s : List Char) : Bool :=
  match splitGap? s with
  | none => pieceCount? (pieces s) = some 8
  | some (before, behind) =>
    (pieces before).all isHexPiece &&
      match pieceCount? (pieces behind) with
      | some n => (pieces before).length + n ≤ 7
      | none => false

def isForbidden (c : Char) : Bool :=
  c.toNat = 0 || " #/:<>?@[\\]^|".toList.contains c

/-- The fault of a host. Hosts of the web are looked at only as far as they are addresses. -/
def hostFault? (web : Bool) (host : List Char) : Option Fault :=
  match host with
  | '[' :: rest =>
    if rest.getLast? = some ']' ∧ isAddress rest.dropLast then none else some .badAddress
  | [] => if web then some .emptyHost else none
  | _ => if ¬web ∧ host.any isForbidden then some .badHost else none

def numberFault? (number : List Char) : Option Fault :=
  if number.all Char.isDigit ∧ Nat.ofDigitChars 10 number 0 < 65536 then none else some .badNumber

def authorityFault? (web : Bool) (authority : List Char) : Option Fault :=
  let (host, rest) := splitHost false (afterUser authority)
  (hostFault? web host).or
    (match rest with
      | ':' :: number => if host.isEmpty then some .emptyHost else numberFault? number
      | _ => none)

def fault? (url : String) : Option Fault :=
  match scheme? (cleaned url.toList) with
  | none => some .relative
  | some (scheme, rest) =>
    let web := webSchemes.contains (String.ofList scheme)
    let authority (s : List Char) := s.takeWhile (!endsAuthority web ·)
    if web then authorityFault? web (authority (rest.dropWhile fun c => c = '/' || c = '\\'))
    else
      match rest with
      | '/' :: '/' :: more => authorityFault? web (authority more)
      | _ => none

end AskSql.Url
