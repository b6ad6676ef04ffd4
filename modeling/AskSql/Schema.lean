import AskSql.Json.Decode

namespace AskSql

structure Column where
  name : String
  dataType : String
  nullable : Bool := false
  isPrimaryKey : Bool := false
  defaultValue : Option String := none
  deriving DecidableEq

structure ForeignKey where
  column : String
  table : String
  target : String
  deriving DecidableEq

structure Table where
  name : String
  columns : List Column
  primaryKey : Option (List String) := none
  foreignKeys : Option (List ForeignKey) := none
  rowCount : Option Nat := none
  deriving DecidableEq

structure Schema where
  tables : List Table
  deriving DecidableEq

namespace Table

def column? (t : Table) (name : String) : Option Column := t.columns.find? (·.name = name)

def columnNames (t : Table) : List String := t.columns.map (·.name)

def withPrimaryKey (t : Table) (columns : List String) : Table := { t with primaryKey := some columns }

def withForeignKey (t : Table) (key : ForeignKey) : Table :=
  { t with foreignKeys := some (t.foreignKeys.getD [] ++ [key]) }

end Table

namespace Schema

def table? (s : Schema) (name : String) : Option Table := s.tables.find? (·.name = name)

/-- The schema declared again step by step: defaults and row counts are not declared, and a list of
foreign keys exists once it has a member. -/
def redeclared (s : Schema) : Schema :=
  ⟨s.tables.map fun t =>
    let columns := t.columns.map fun c => { c with defaultValue := none }
    let bare : Table := { name := t.name, columns }
    let keyed := match t.primaryKey with
      | some columns => bare.withPrimaryKey columns
      | none => bare
    (t.foreignKeys.getD []).foldl Table.withForeignKey keyed⟩

def demo : Schema :=
  let table (name : String) (columns : List (String × String)) : Table :=
    { name, columns := columns.map fun (name, dataType) => { name, dataType } }
  ⟨[table "users"
      [("id", "integer"), ("email", "varchar"), ("name", "varchar"), ("created_at", "timestamp"),
       ("is_active", "boolean")],
    table "orders"
      [("id", "integer"), ("user_id", "integer"), ("total", "decimal"), ("status", "varchar"),
       ("created_at", "timestamp")],
    table "products"
      [("id", "integer"), ("name", "varchar"), ("price", "decimal"), ("category", "varchar"),
       ("stock", "integer")],
    table "order_items"
      [("id", "integer"), ("order_id", "integer"), ("product_id", "integer"),
       ("quantity", "integer"), ("price", "decimal")]]⟩

end Schema

open Json (Reader Fields)

def Json.whenSome (key : String) (f : α → Json) : Option α → List (String × Json)
  | none => []
  | some a => [(key, f a)]

def Column.toJson (c : Column) : Json :=
  .obj ([("name", .str c.name), ("type", .str c.dataType), ("nullable", .bool c.nullable),
    ("isPrimaryKey", .bool c.isPrimaryKey)] ++ Json.whenSome "defaultValue" .str c.defaultValue)

def Column.reader : Reader Column :=
  Json.record "struct Column" <|
    Column.mk <$> Json.required "name" .string <*> Json.required "type" .string <*>
      Json.defaulted "nullable" .bool false <*> Json.defaulted "isPrimaryKey" .bool false <*>
      Json.defaulted "defaultValue" (.option .string) none

def ForeignKey.toJson (k : ForeignKey) : Json :=
  .obj [("column", .str k.column), ("referencesTable", .str k.table),
    ("referencesColumn", .str k.target)]

def ForeignKey.reader : Reader ForeignKey :=
  Json.record "struct ForeignKey" <|
    ForeignKey.mk <$> Json.required "column" .string <*>
      Json.required "referencesTable" .string <*> Json.required "referencesColumn" .string

def Table.toJson (t : Table) : Json :=
  .obj ([("name", .str t.name), ("columns", .arr (t.columns.map Column.toJson))] ++
    Json.whenSome "primaryKey" .strings t.primaryKey ++
    Json.whenSome "foreignKeys" (fun ks => .arr (ks.map ForeignKey.toJson)) t.foreignKeys ++
    Json.whenSome "rowCount" .nat t.rowCount)

def Table.reader : Reader Table :=
  Json.record "struct Table" <|
    Table.mk <$> Json.required "name" .string <*> Json.required "columns" (.list Column.reader) <*>
      Json.defaulted "primaryKey" (.option (.list .string)) none <*>
      Json.defaulted "foreignKeys" (.option (.list ForeignKey.reader)) none <*>
      Json.defaulted "rowCount" (.option .word64) none

def Schema.toJson (s : Schema) : Json := .obj [("tables", .arr (s.tables.map Table.toJson))]

def Schema.reader : Reader Schema :=
  Json.record "struct Schema" (Schema.mk <$> Json.required "tables" (.list Table.reader))

def Schema.fingerprint (s : Schema) : String := s.toJson.compact

end AskSql
