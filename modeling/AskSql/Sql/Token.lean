import AskSql.Text.Chars
import AskSql.Unicode.Letter
import AskSql.Unicode.Number

/-!
SQL texts as tokens.

Only words and quoted identifiers are told apart from the rest; literals and comments are single
tokens, so that what stands in them is never taken for a name.
-/

namespace AskSql.Sql

inductive Token
  | word (name : List Char)
  | quoted (quote : Char) (body : List Char)
  | other (text : List Char)
  deriving DecidableEq, Repr

namespace Token

def name? : Token → Option (List Char)
  | .word w => some w
  | .quoted _ body => some body
  | .other _ => none

def source : Token → List Char
  | .word w => w
  | .quoted q body => q :: body ++ [q]
  | .other text => text

def rename (name : List Char) : Token → Token
  | .word _ => .word name
  | .quoted q _ => .quoted q name
  | .other text => .other text

def isDot (t : Token) : Bool := t = .other ['.']

def isTrivia : Token → Bool
  | .other text => (Text.trim text).isEmpty || ['-', '-'].isPrefixOf text || ['/', '*'].isPrefixOf text
  | _ => false

end Token

def isWordChar (c : Char) : Bool :=
  Unicode.isAlphabetic c || Unicode.isNumber c || c = '_' || c = '$'

/-- A literal ends with a quote that is not doubled. -/
def literalExtent : List Char → Nat
  | [] => 0
  | '\x27' :: '\x27' :: rest => literalExtent rest + 2
  | c :: rest => if c = '\x27' then 1 else literalExtent rest + 1

/-- A block comment ends behind its first closing mark, at the latest with the text. -/
def blockExtent : List Char → Nat
  | [] => 0
  | '*' :: '/' :: _ => 2
  | _ :: rest => blockExtent rest + 1

def lineExtent (s : List Char) : Nat := (s.takeWhile (· ≠ '\n')).length

/-- The token at the start of a text that is not empty, and how many characters it takes beyond the
first. An identifier whose quote is never closed takes the rest of the text. -/
def firstToken (c : Char) (rest : List Char) : Token × Nat :=
  if isWordChar c then
    let more := rest.takeWhile isWordChar
    (.word (c :: more), more.length)
  else if c = '\x27' then
    let n := literalExtent rest
    (.other (c :: rest.take n), n)
  else if c = '\x22' ∨ c = '\x60' then
    let body := rest.takeWhile (· ≠ c)
    if body.length < rest.length then (.quoted c body, body.length + 1)
    else (.other (c :: rest), rest.length)
  else if c = '-' ∧ rest.head? = some '-' then
    let n := lineExtent rest
    (.other (c :: rest.take n), n)
  else if c = '/' ∧ rest.head? = some '*' then
    let n := 1 + blockExtent (rest.drop 1)
    (.other (c :: rest.take n), n)
  else (.other [c], 0)

def tokensFrom : Nat → List Char → List Token
  | 0, _ | _, [] => []
  | fuel + 1, c :: rest =>
    let (token, n) := firstToken c rest
    token :: tokensFrom fuel (rest.drop n)

def tokens (sql : List Char) : List Token := tokensFrom sql.length sql

def source (ts : List Token) : List Char := ts.flatMap Token.source

end AskSql.Sql
