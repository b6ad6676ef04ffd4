import AskSql.Json.Decode
import AskSql.Policy.Keyword
import AskSql.Text.Chars

/-!
Which statements may reach the database.

The check looks at words only: a keyword inside a subquery, a literal or a comment counts like any
other.
-/

namespace AskSql

inductive Policy
  | readOnly
  | limitedWrite
  deriving DecidableEq, Repr

namespace Policy

def ofReadOnly (readOnly : Bool) : Policy := if readOnly then .readOnly else .limitedWrite

def isReadOnly : Policy → Bool
  | .readOnly => true
  | .limitedWrite => false

def name : Policy → String
  | .readOnly => "read_only"
  | .limitedWrite => "limited_write"

def forbidden : Policy → List String
  | .readOnly =>
    ["DROP", "DELETE", "UPDATE", "INSERT", "TRUNCATE", "ALTER", "CREATE", "GRANT", "REVOKE", "EXEC",
     "EXECUTE", "CALL"]
  | .limitedWrite => ["DROP", "TRUNCATE", "ALTER", "CREATE", "GRANT", "REVOKE"]

def promptRule : Policy → String
  | .readOnly => "Only SELECT allowed. No INSERT/UPDATE/DELETE."
  | .limitedWrite => "SELECT, INSERT, UPDATE, DELETE allowed. No DROP/TRUNCATE/ALTER."

def named : List (String × Policy) :=
  [("read_only", .readOnly), ("limited_write", .limitedWrite)]

def toJson (p : Policy) : Json := .str p.name

def reader : Json.Reader Policy := .enum named

end Policy

def leadingKeywords : List String := ["SELECT", "WITH"]

inductive Verdict
  | allowed
  | forbidden (keyword : String)
  | notAQuery
  deriving DecidableEq, Repr

namespace Verdict

def reason? : Verdict → Option String
  | .allowed => none
  | .forbidden keyword => some ("SQL contains forbidden keyword: " ++ keyword ++ ".")
  | .notAQuery => some "Only SELECT queries are allowed."

def isAllowed (v : Verdict) : Bool := v = .allowed

end Verdict

def mentions (sql keyword : String) : Bool := Keyword.occurs keyword.toList sql.toList

def startsAsQuery (sql : String) : Bool :=
  leadingKeywords.any fun kw => kw.toList.isPrefixOf (Unicode.upper (Text.trim sql.toList))

def Policy.judge (p : Policy) (sql : String) : Verdict :=
  match p.forbidden.find? (mentions sql) with
  | some keyword => .forbidden keyword
  | none => if p.isReadOnly && !startsAsQuery sql then .notAQuery else .allowed

structure Decision where
  valid : Bool
  reason : Option String
  deriving DecidableEq

def Verdict.decision (v : Verdict) : Decision := ⟨v.isAllowed, v.reason?⟩

def Decision.toJson (d : Decision) : Json :=
  .obj (("valid", .bool d.valid) ::
    match d.reason with
    | none => []
    | some r => [("reason", .str r)])

def Decision.reader : Json.Reader Decision :=
  Json.record "struct PolicyDecision" <|
    Decision.mk <$> Json.required "valid" .bool <*> Json.optional "reason" .string

end AskSql
