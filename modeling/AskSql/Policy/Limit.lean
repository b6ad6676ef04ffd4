import AskSql.Policy.Basic

namespace AskSql

structure Guards where
  resultLimit : Nat := 100
  rowCap : Nat := 10000
  timeoutMs : Nat := 10000
  deriving DecidableEq

def bareStatement (sql : List Char) : List Char :=
  let trimmed := Text.trim sql
  Text.trimEnd ((Text.dropEnd? [';'] trimmed).getD trimmed)

/-- A statement that names a limit keeps it, however large; any other gets one. -/
def ensureLimit (sql : String) (maxRows : Nat) : String :=
  if mentions sql "LIMIT" then sql
  else String.ofList (bareStatement sql.toList) ++ " LIMIT " ++ toString maxRows

def Guards.applyLimit (g : Guards) (sql : String) : String := ensureLimit sql g.resultLimit

end AskSql
