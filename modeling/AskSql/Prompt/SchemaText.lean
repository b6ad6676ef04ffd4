import AskSql.Schema
import AskSql.Text.Chars
import AskSql.Text.Similarity

namespace AskSql

def lines (ls : List String) : String := String.intercalate "\n" ls

def commaList (l : List String) : String := String.intercalate ", " l

namespace Schema

def compactText (s : Schema) : String :=
  lines (s.tables.map fun t => t.name ++ ": " ++ commaList t.columnNames)

def columnLine (c : Column) : String :=
  "    - " ++ c.name ++ ": " ++ c.dataType ++ (if c.isPrimaryKey then " [PK]" else "")

def keyLine (k : ForeignKey) : String :=
  "    - " ++ k.column ++ " -> " ++ k.table ++ "." ++ k.target

def tableText (t : Table) : String :=
  let keys := match t.foreignKeys.getD [] with
    | [] => []
    | ks => "  FOREIGN KEYS:" :: ks.map keyLine
  lines (["TABLE: " ++ t.name, "  COLUMNS (ONLY THESE EXIST):"] ++ t.columns.map columnLine ++ keys)

def detailedText (s : Schema) : String := String.intercalate "\n\n" (s.tables.map tableText)

/-- The table that a column named after it refers to, in the singular or the plural. -/
def impliedTable? (tables : List (List Char)) (column : String) : Option (List Char) :=
  match Text.dropEnd? "_id".toList (Unicode.lower column.toList) with
  | none | some [] => none
  | some stem =>
    if tables.contains stem then some stem
    else if tables.contains (stem ++ ['s']) then some (stem ++ ['s'])
    else none

def impliedRelationships (s : Schema) : List String :=
  let tables := s.tables.map fun t => Unicode.lower t.name.toList
  s.tables.flatMap fun t => t.columns.filterMap fun c =>
    (impliedTable? tables c.name).map fun target =>
      t.name ++ "." ++ c.name ++ " -> " ++ String.ofList target ++ ".id"

def leastSimilarity : Float := 0.8

def suggestions (s : Schema) (invalid : String) (limit : Nat) : List String :=
  let wanted := Unicode.lower ((Text.splitOn '.' invalid.toList).getLast?.getD [])
  let scored := s.tables.flatMap fun t => t.columns.map fun c =>
    (Text.jaroWinkler wanted (Unicode.lower c.name.toList), t.name ++ "." ++ c.name)
  let near := scored.filter fun x => x.1 >= leastSimilarity
  ((near.mergeSort fun x y => x.1 >= y.1).take limit).map (·.2)

end Schema

end AskSql
