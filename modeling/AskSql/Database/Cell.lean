import AskSql.Database.Row
import AskSql.Decimal.Reading
import AskSql.Decimal.Width
import AskSql.Text.Chars

namespace AskSql.Cell

inductive Family
  | boolean
  | integer
  | floating
  | json
  | text
  deriving DecidableEq, Repr

def floatingTypes : List String :=
  ["FLOAT4", "FLOAT8", "FLOAT", "DOUBLE", "REAL", "NUMERIC", "DECIMAL"]

/-- Families are tried in the order of their constructors; the letter case of ASCII is ignored. -/
def familyOf (typeName : String) : Family :=
  let ty := String.ofList (typeName.toList.map Char.toUpper)
  if ty = "BOOL" ∨ ty = "BOOLEAN" then .boolean
  else if (contains ty "INT" ∧ ¬contains ty "INTERVAL" ∧ ¬contains ty "POINT") ∨ ty = "OID" then
    .integer
  else if floatingTypes.contains ty ∨ opensWith ty "DECIMAL" ∨ opensWith ty "DOUBLE" then .floating
  else if ty = "JSON" ∨ ty = "JSONB" then .json
  else .text

def booleanOf (raw : String) : Json :=
  if ["t", "true", "1"].contains raw then .bool true
  else if ["f", "false", "0"].contains raw then .bool false
  else .str raw

def integerOf (raw : String) : Json :=
  match Decimal.integer? raw.toList, Decimal.natural? raw.toList with
  | some n, natural =>
    if Width.isSigned 64 n then .int n
    else
      match natural with
      | some n => if Width.isWord 64 n then .nat n else .str raw
      | none => .str raw
  | none, _ => .str raw

def floatOf (raw : String) : Json :=
  match Decimal.float? raw.toList with
  | some x => .num (.float x)
  | none => .str raw

def jsonOf (raw : String) : Json :=
  match Json.parse raw.toList with
  | .ok v => v
  | .error _ => .str raw

def convert (family : Family) (raw : String) : Json :=
  match family with
  | .boolean => booleanOf raw
  | .integer => integerOf raw
  | .floating => floatOf raw
  | .json => jsonOf raw
  | .text => .str raw

def ofText (typeName : String) : Option String → Json
  | none => .null
  | some raw => convert (familyOf typeName) raw

end AskSql.Cell
