import AskSql.Disguise.Renaming
import AskSql.Schema

/-!
Placeholder names for the tables and columns of a schema.

The i-th table is shown as `table_i` and its j-th column as `col_j`. Texts are renamed both ways.
-/

namespace AskSql

def tablePlaceholder (i : Nat) : String := "table_" ++ toString (i + 1)

def columnPlaceholder (j : Nat) : String := "col_" ++ toString (j + 1)

/-- The two directions. -/
structure Disguise where
  placeholders : NameIndex := {}
  reals : NameIndex := {}
  deriving DecidableEq

namespace Disguise

def addColumn (table placeholder : String) (d : Disguise) (c : Column × Nat) : Disguise :=
  let name := columnPlaceholder c.2
  { placeholders := d.placeholders.insertColumn table.toList c.1.name.toList name.toList
    reals := d.reals.insertColumn placeholder.toList name.toList c.1.name.toList }

def addTable (d : Disguise) (t : Table × Nat) : Disguise :=
  let placeholder := tablePlaceholder t.2
  let d : Disguise :=
    { placeholders := d.placeholders.insertTable t.1.name.toList placeholder.toList
      reals := d.reals.insertTable placeholder.toList t.1.name.toList }
  t.1.columns.zipIdx.foldl (addColumn t.1.name placeholder) d

/-- All names are known before any key is renamed, so that keys may point forward. -/
def ofSchema (s : Schema) : Disguise := s.tables.zipIdx.foldl addTable {}

def tableCount (d : Disguise) : Nat := d.reals.entries.length

def text (x : Option (List Char)) : Option String := x.map String.ofList

def placeholderOfTable? (d : Disguise) (table : String) : Option String :=
  text (d.placeholders.table? table.toList)

def realTable? (d : Disguise) (placeholder : String) : Option String :=
  text (d.reals.table? placeholder.toList)

def placeholderOfColumn? (d : Disguise) (table column : String) : Option String :=
  text (d.placeholders.column? table.toList column.toList)

def realColumn? (d : Disguise) (table column : String) : Option String :=
  text (d.reals.column? table.toList column.toList)

def reveal (d : Disguise) (sql : String) : String := Text.onString d.reals.rename sql

def hide (d : Disguise) (sql : String) : String := Text.onString d.placeholders.rename sql

/-- The name under which a result column of a statement is shown. -/
def hideColumn (d : Disguise) (s : Scope) (name : String) : String :=
  let index := d.placeholders
  let found :=
    ((index.columnAmong? s.tables name.toList).or
      (index.columnAmong? index.order name.toList)).or (index.table? name.toList)
  (text found).getD name

def hideColumns (d : Disguise) (sql : String) (columns : List String) : List String :=
  columns.map (d.hideColumn (scopeOf d.placeholders (Sql.tokens sql.toList)))

/-- A key is kept only if all three of its names are known. -/
def foreignKey? (d : Disguise) (table : String) (k : ForeignKey) : Option ForeignKey :=
  match d.placeholderOfColumn? table k.column, d.placeholderOfTable? k.table,
    d.placeholderOfColumn? k.table k.target with
  | some column, some table, some target => some ⟨column, table, target⟩
  | _, _, _ => none

/-- Default values are dropped, for they can mention names. -/
def table (d : Disguise) (t : Table × Nat) : Table :=
  { name := tablePlaceholder t.2
    columns := t.1.columns.zipIdx.map fun (c, j) =>
      { c with name := columnPlaceholder j, defaultValue := none }
    primaryKey := t.1.primaryKey.map (·.filterMap (d.placeholderOfColumn? t.1.name))
    foreignKeys := t.1.foreignKeys.map (·.filterMap (d.foreignKey? t.1.name))
    rowCount := t.1.rowCount }

def schema (d : Disguise) (s : Schema) : Schema := ⟨s.tables.zipIdx.map d.table⟩

end Disguise

def Schema.disguised (s : Schema) : Schema := (Disguise.ofSchema s).schema s

end AskSql
