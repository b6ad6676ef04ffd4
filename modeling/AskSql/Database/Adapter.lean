import AskSql.Database.Catalog
import AskSql.Database.Cell
import AskSql.Database.Url

namespace AskSql

structure Link (σ : Type) where
  server : σ
  connected : Bool := false

structure Adapter (σ : Type) where
  dialect : Dialect
  url : String
  server : Server σ

def Dialect.productName : Dialect → String
  | .postgresql => "PostgreSQL"
  | .mysql => "MySQL"

def Dialect.timeoutStatement : Dialect → Nat → String
  | .postgresql, ms => "SET statement_timeout = " ++ toString ms
  | .mysql, ms => "SET SESSION MAX_EXECUTION_TIME = " ++ toString ms

namespace Adapter

def notConnected : QueryError := .database "Not connected"

/-- What the repairer is to see of a fault is the message of the database itself. -/
def executionError (f : ConnectionFault) : QueryError := .execution f.ownMessage

def timedOut (ms : Nat) : QueryError :=
  .execution ("Query timed out after " ++ toString ms ++ " ms")

def onServer (x : Session σ α) : Session (Link σ) α := fun l =>
  let (r, s) := x.run l.server
  (r, { l with server := s })

def connected (x : Session σ α) : Session (Link σ) α := do
  if (← get).connected then onServer x else throw notConnected

def connectError (d : Dialect) (text : String) : QueryError :=
  .database ("Failed to connect to " ++ d.productName ++ ": " ++ text)

def login (a : Adapter σ) : Session σ Unit := fun s =>
  match Url.fault? a.url with
  | some f => (.error (connectError a.dialect ("error with configuration: " ++ f.message)), s)
  | none =>
    let (r, s) := a.server.login s
    (r.mapError fun f => connectError a.dialect f.text, s)

def connect (a : Adapter σ) : Session (Link σ) Unit := do
  onServer a.login
  let _ ← onServer (Catalog.fetchAll a.server Catalog.probe [] .ok)
  modify ({ · with connected := true })

def disconnect : Session (Link σ) Unit := modify ({ · with connected := false })

def rowOf (fields : List Field) (cells : Cells) : Row :=
  .ofList (List.zipWith (fun f cell => (f.name, Cell.ofText f.typeName cell)) fields cells)

/-- Takes the rows of a stream one after another. Behind each of them it is seen whether the cap is
reached; only a stream that is read to its end has to be complete. -/
def drawn (timeoutMs maxRows : Nat) (s : RowStream) :
    List Row → List Cells → Except QueryError (List Row)
  | read, [] =>
    match s.ending with
    | .complete => .ok read
    | .broken f => .error (executionError f)
    | .silent => .error (timedOut timeoutMs)
  | read, cells :: rest =>
    let read := read ++ [rowOf s.fields cells]
    if maxRows ≤ read.length then .ok read else drawn timeoutMs maxRows s read rest

def readRows (timeoutMs maxRows : Nat) (s : RowStream) : Except QueryError (List Row) :=
  drawn timeoutMs maxRows s [] s.rows

def describedColumns (server : Server σ) (sql : String) : Session σ (List String) := fun s =>
  let (r, s) := server.describe sql s
  match r with
  | .ok fields => (.ok (fields.map (·.name)), s)
  | .error _ => (.ok [], s)

def setTimeout (a : Adapter σ) (ms : Nat) : Session σ Unit := fun s =>
  let (r, s) := a.server.command (a.dialect.timeoutStatement ms) s
  (r.mapError executionError, s)

def query (a : Adapter σ) (q : Statement) : Session σ QueryOutput := fun s =>
  let (stream, s) := a.server.plain q.sql s
  match readRows q.timeoutMs q.maxRows stream with
  | .error e => (.error e, s)
  | .ok rows =>
    let columns := if rows.isEmpty then [] else stream.fields.map (·.name)
    if columns.isEmpty then
      let (r, s) := (describedColumns a.server q.sql).run s
      (r.map fun columns => { rows, columns }, s)
    else (.ok { rows, columns }, s)

def execute (a : Adapter σ) (q : Statement) : Session (Link σ) QueryOutput :=
  connected do
    a.setTimeout q.timeoutMs
    a.query q

def connection (a : Adapter σ) : Connection (Link σ) where
  dialect := a.dialect
  connect := a.connect
  disconnect := disconnect
  schema := connected (Catalog.schema a.server a.dialect)
  writeAccess := connected (Catalog.writeAccess a.server a.dialect)

/-- Calls to an adapter are not given up, for a time limit ends them. -/
def settled (x : Session σ α) (s : σ) : Reply α × σ :=
  let (r, s) := x.run s
  (.finished { result := r }, s)

def peer (a : Adapter σ) : DatabasePeer (Link σ) where
  connect := settled a.connect
  execute q := settled (a.execute q)
  disconnect l :=
    let (r, l) := disconnect.run l
    ({ result := r }, l)

end Adapter

end AskSql
