import AskSql.Database.Wire

namespace AskSql.Catalog

def statement (lines : List String) : String := String.intercalate " " lines

def probe : String := "SELECT 1"

def fetchAll (server : Server σ) (sql : String) (params : List String)
    (read : Cells → Except ConnectionFault α) : Session σ (List α) := fun s =>
  let (stream, s) := server.prepared sql params s
  (liftFault (stream.all read), s)

def fetchFirst? (server : Server σ) (eager : Bool) (sql : String) (params : List String)
    (read : Cells → Except ConnectionFault α) : Session σ (Option α) := fun s =>
  let (stream, s) := server.prepared sql params s
  (liftFault (stream.first? eager read), s)

def fetchFirst (server : Server σ) (eager : Bool) (sql : String) (params : List String)
    (read : Cells → Except ConnectionFault α) : Session σ α := do
  match ← fetchFirst? server eager sql params read with
  | some a => return a
  | none => throw (.connection noRow)

def foreignKey (cells : Cells) : Except ConnectionFault ForeignKey := do
  let column ← cells.text 0
  let table ← cells.text 1
  let target ← cells.text 2
  return ⟨column, table, target⟩

/-- An estimate below zero is none. -/
def rowEstimate (n : Option Int) : Option Nat := n.bind fun n => if 0 ≤ n then some n.toNat else none

def table (name : String) (columns : List Column) (primaryKey : List String)
    (foreignKeys : List ForeignKey) (rows : Option Int) : Table :=
  { name, columns
    primaryKey := if primaryKey.isEmpty then none else some primaryKey
    foreignKeys := if foreignKeys.isEmpty then none else some foreignKeys
    rowCount := rowEstimate rows }

namespace Postgresql

def tables : String := statement
  ["SELECT table_name::text",
   "FROM information_schema.tables",
   "WHERE table_schema = 'public' AND table_type = 'BASE TABLE'",
   "ORDER BY table_name"]

def columns : String := statement
  ["SELECT column_name::text, data_type::text, is_nullable::text, column_default::text",
   "FROM information_schema.columns",
   "WHERE table_schema = 'public' AND table_name = $1",
   "ORDER BY ordinal_position"]

def primaryKey : String := statement
  ["SELECT kcu.column_name::text",
   "FROM information_schema.table_constraints tc",
   "JOIN information_schema.key_column_usage kcu",
   "ON tc.constraint_name = kcu.constraint_name AND tc.table_schema = kcu.table_schema",
   "WHERE tc.constraint_type = 'PRIMARY KEY' AND tc.table_schema = 'public' AND tc.table_name = $1",
   "ORDER BY kcu.ordinal_position"]

def foreignKeys : String := statement
  ["SELECT kcu.column_name::text, ccu.table_name::text, ccu.column_name::text",
   "FROM information_schema.table_constraints tc",
   "JOIN information_schema.key_column_usage kcu",
   "ON tc.constraint_name = kcu.constraint_name AND tc.table_schema = kcu.table_schema",
   "JOIN information_schema.constraint_column_usage ccu",
   "ON tc.constraint_name = ccu.constraint_name AND tc.table_schema = ccu.table_schema",
   "WHERE tc.constraint_type = 'FOREIGN KEY' AND tc.table_schema = 'public' AND tc.table_name = $1",
   "ORDER BY kcu.ordinal_position"]

def rowCount : String := statement
  ["SELECT c.reltuples::int8",
   "FROM pg_class c",
   "JOIN pg_namespace n ON n.oid = c.relnamespace",
   "WHERE n.nspname = 'public' AND c.relname = $1"]

def privileges : String := statement
  ["SELECT COUNT(*)::int8",
   "FROM information_schema.table_privileges",
   "WHERE grantee = current_user AND privilege_type IN ('INSERT', 'UPDATE', 'DELETE')"]

def superuser : String :=
  "SELECT COUNT(*)::int8 FROM pg_roles WHERE rolname = current_user AND rolsuper"

def column (cells : Cells) : Except ConnectionFault Column := do
  let name ← cells.text 0
  let dataType ← cells.text 1
  let nullable ← cells.text 2
  let defaultValue ← cells.text? 3
  return { name, dataType, nullable := nullable = "YES", defaultValue }

def loadTable (server : Server σ) (name : String) : Session σ Table := do
  let cs ← fetchAll server columns [name] column
  let key ← fetchAll server primaryKey [name] (·.text 0)
  let keys ← fetchAll server foreignKeys [name] foreignKey
  let rows ← fetchFirst? server true rowCount [name] (·.int 0)
  return table name (cs.map fun c => { c with isPrimaryKey := key.contains c.name }) key keys rows

def schema (server : Server σ) : Session σ Schema := do
  let names ← fetchAll server tables [] (·.text 0)
  return ⟨← names.mapM (loadTable server)⟩

def writeAccess (server : Server σ) : Session σ Bool := do
  let granted ← fetchFirst server true privileges [] (·.int 0)
  let all ← fetchFirst server true superuser [] (·.int 0)
  return 0 < granted || 0 < all

end Postgresql

namespace Mysql

def database : String := "SELECT DATABASE()"

def tables : String := statement
  ["SELECT CAST(table_name AS CHAR), CAST(table_rows AS SIGNED)",
   "FROM information_schema.tables",
   "WHERE table_schema = ? AND table_type = 'BASE TABLE'",
   "ORDER BY table_name"]

def columns : String := statement
  ["SELECT CAST(column_name AS CHAR), CAST(data_type AS CHAR), CAST(is_nullable AS CHAR),",
   "CAST(column_key AS CHAR), CAST(column_default AS CHAR)",
   "FROM information_schema.columns",
   "WHERE table_schema = ? AND table_name = ?",
   "ORDER BY ordinal_position"]

def foreignKeys : String := statement
  ["SELECT CAST(column_name AS CHAR), CAST(referenced_table_name AS CHAR),",
   "CAST(referenced_column_name AS CHAR)",
   "FROM information_schema.key_column_usage",
   "WHERE table_schema = ? AND table_name = ? AND referenced_table_name IS NOT NULL",
   "ORDER BY ordinal_position"]

def privileges : String := statement
  ["SELECT COUNT(*)",
   "FROM information_schema.table_privileges",
   "WHERE grantee LIKE CONCAT('%', SUBSTRING_INDEX(CURRENT_USER(), '@', 1), '%')",
   "AND privilege_type IN ('INSERT', 'UPDATE', 'DELETE') AND table_schema = DATABASE()"]

def column (cells : Cells) : Except ConnectionFault Column := do
  let name ← cells.text 0
  let dataType ← cells.text 1
  let nullable ← cells.text 2
  let key ← cells.text 3
  let defaultValue ← cells.text? 4
  return { name, dataType, nullable := nullable = "YES", isPrimaryKey := key = "PRI", defaultValue }

def nameAndRows (cells : Cells) : Except ConnectionFault (String × Option Int) := do
  let name ← cells.text 0
  let rows ← cells.int? 1
  return (name, rows)

def loadTable (server : Server σ) (database : String) (t : String × Option Int) :
    Session σ Table := do
  let cs ← fetchAll server columns [database, t.1] column
  let keys ← fetchAll server foreignKeys [database, t.1] foreignKey
  let key := (cs.filter (·.isPrimaryKey)).map (·.name)
  return table t.1 cs key keys t.2

def schema (server : Server σ) : Session σ Schema := do
  match ← fetchFirst server false database [] (·.text? 0) with
  | none => throw (.database "No database selected in connection URL")
  | some name =>
    let ts ← fetchAll server tables [name] nameAndRows
    return ⟨← ts.mapM (loadTable server name)⟩

/-- Rights that cannot be read are taken to be there. -/
def writeAccess (server : Server σ) : Session σ Bool := do
  match ← (fetchFirst server false privileges [] (·.int 0)).attempt with
  | .ok granted => return 0 < granted
  | .error _ => return true

end Mysql

def schema (server : Server σ) : Dialect → Session σ Schema
  | .postgresql => Postgresql.schema server
  | .mysql => Mysql.schema server

def writeAccess (server : Server σ) : Dialect → Session σ Bool
  | .postgresql => Postgresql.writeAccess server
  | .mysql => Mysql.writeAccess server

end AskSql.Catalog
