import AskSql.Disguise.Basic
import AskSql.Pipeline.Peers
import AskSql.Pipeline.Request

namespace AskSql

structure View where
  schema : Schema
  disguise : Option Disguise

namespace View

def ofRequest (r : Request) : View :=
  if r.anonymize then ⟨r.schema.disguised, some (Disguise.ofSchema r.schema)⟩ else ⟨r.schema, none⟩

def hide (v : View) (s : String) : String :=
  match v.disguise with
  | some d => d.hide s
  | none => s

def reveal (v : View) (s : String) : String :=
  match v.disguise with
  | some d => d.reveal s
  | none => s

def hideColumns (v : View) (sql : String) (columns : List String) : List String :=
  match v.disguise with
  | some d => d.hideColumns sql columns
  | none => columns

/-- Cells move with their columns; of columns with one name the last one counts. -/
def hideRow (columns hidden : List String) (r : Row) : Row :=
  r.mapNames fun k => ((columns.zip hidden).reverse.lookup k).getD k

def hideRows (v : View) (sql : String) (columns : List String) (rows : List Row) : List Row :=
  match v.disguise with
  | some _ => rows.map (hideRow columns (v.hideColumns sql columns))
  | none => rows

end View

structure Executed where
  sql : String
  output : QueryOutput
  wasRepaired : Bool

/-- What the summarizer is told. A private request shows it no row. -/
def View.summaryTask (v : View) (r : Request) (x : Executed) : SummaryTask :=
  { question := r.question
    sql := v.hide x.sql
    rows := if r.privacy then [] else v.hideRows x.sql x.output.columns x.output.rows
    columns := v.hideColumns x.sql x.output.columns
    rowCount := x.output.rows.length
    locale := r.locale }

def View.summary (v : View) : Except QueryError String → Option String
  | .ok s => if (Text.trim s.toList).isEmpty then none else some (v.reveal s)
  | .error _ => none

end AskSql
