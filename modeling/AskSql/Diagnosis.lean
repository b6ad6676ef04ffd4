import AskSql.Json.Decode
import AskSql.Policy.Keyword
import AskSql.Text.Chars

namespace AskSql

inductive ErrorClass
  | columnNotFound
  | tableNotFound
  | malformed
  | timeout
  | permissionDenied
  | other
  deriving DecidableEq, Repr

namespace ErrorClass

def name : ErrorClass → String
  | .columnNotFound => "ColumnNotFound"
  | .tableNotFound => "TableNotFound"
  | .malformed => "Syntax"
  | .timeout => "Timeout"
  | .permissionDenied => "PermissionDenied"
  | .other => "Other"

def all : List ErrorClass :=
  [.columnNotFound, .tableNotFound, .malformed, .timeout, .permissionDenied, .other]

def toJson (c : ErrorClass) : Json := .str c.name

def reader : Json.Reader ErrorClass := .enum (all.map fun c => (c.name, c))

end ErrorClass

/-- The first class whose phrases occur, in any letter case. -/
def classify (message : String) : ErrorClass :=
  let tells (phrase : String) : Bool := contains (lowerCase message) phrase
  let missing := tells "does not exist" || tells "not found"
  if tells "unknown column" || (tells "column" && missing) then .columnNotFound
  else if (tells "relation" || tells "table") && (missing || tells "doesn't exist") then .tableNotFound
  else if tells "timed out" || tells "statement timeout" || tells "maximum statement execution time" then
    .timeout
  else if tells "permission denied" || tells "access denied" || tells "command denied" then
    .permissionDenied
  else if tells "syntax" then .malformed
  else .other

/-- Letters are compared under simple case folding, all else exactly. -/
def agrees (p c : Char) : Bool := if p.isAlpha then Keyword.foldsTo p.toUpper c else p = c

def behindPhrase? : List Char → List Char → Option (List Char)
  | [], s => some s
  | _ :: _, [] => none
  | p :: ps, c :: s => if agrees p c then behindPhrase? ps s else none

structure QuotedPhrase where
  opening : String
  quote : Char
  closing : String

def QuotedPhrase.nameAt? (p : QuotedPhrase) (s : List Char) : Option (List Char) := do
  let rest ← behindPhrase? (p.opening.toList ++ [p.quote]) s
  let name := rest.takeWhile (· ≠ p.quote)
  if name.isEmpty then none
  else do
    let _ ← behindPhrase? (p.quote :: p.closing.toList) (rest.dropWhile (· ≠ p.quote))
    some name

def QuotedPhrase.find? (p : QuotedPhrase) : List Char → Option (List Char)
  | [] => none
  | c :: rest => (p.nameAt? (c :: rest)).or (p.find? rest)

def columnPhrases : List QuotedPhrase :=
  [⟨"column ", '\x22', " does not exist"⟩, ⟨"Unknown column ", '\x27', ""⟩]

def invalidColumn? (message : String) : Option String :=
  (columnPhrases.findSome? (·.find? message.toList)).map String.ofList

end AskSql
