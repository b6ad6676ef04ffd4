import AskSql.Unicode.Letter
import AskSql.Unicode.Mark
import AskSql.Unicode.Number

namespace AskSql.Keyword

open Unicode

def isWordChar (c : Char) : Bool :=
  isAlphabetic c || isMark c || isDecimal c || isConnector c || isJoiner c

/-- Equality under simple case folding with an ASCII capital. Beyond ASCII only the long s and the
Kelvin sign fold to an ASCII letter. -/
def foldsTo (capital c : Char) : Bool :=
  c = capital || c = capital.toLower || (capital = 'S' && c = 'ſ') || (capital = 'K' && c = '\u212a')

def opens : List Char → List Char → Bool
  | [], [] => true
  | [], c :: _ => !isWordChar c
  | _ :: _, [] => false
  | k :: kw, c :: rest => foldsTo k c && opens kw rest

/-- `inWord` tells whether a word character stands before the text. -/
def occursFrom (inWord : Bool) (kw : List Char) : List Char → Bool
  | [] => false
  | c :: rest => (!inWord && opens kw (c :: rest)) || occursFrom (isWordChar c) kw rest

def occurs (kw text : List Char) : Bool := occursFrom false kw text

end AskSql.Keyword
