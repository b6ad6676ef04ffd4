import AskSql.Database.Adapter

/-!
A database server that answers by rules.

The first rule counts whose pattern occurs in a statement. Rules may ask for certain parameters;
those are compared when a prepared statement is executed, but not when it is prepared.
-/

namespace AskSql.Rehearsal

structure Rule where
  pattern : String
  params : Option (List String) := none
  fields : List Field := []
  rows : List Cells := []
  error : Option String := none
  thenError : Option String := none
  describeError : Option String := none
  hangs : Bool := false
  closes : Bool := false

inductive LogEntry
  | query (sql : String)
  | prepared (sql : String) (params : List String)
  | described (sql : String)

structure Site where
  rules : List Rule := []
  refusal : Option String := none

/-- Blanks are squeezed before a pattern is looked for. -/
def squeeze (sql : String) : String :=
  String.ofList ((Text.blankWords sql.toList).intersperse [' ']).flatten

def fault (d : Dialect) (message : String) : ConnectionFault :=
  match d with
  | .postgresql => .reported message message
  | .mysql => .reported ("1064 (42000): " ++ message) message

def closed (d : Dialect) : ConnectionFault :=
  let size := match d with
    | .postgresql => 5
    | .mysql => 4
  .trouble ("error communicating with database: expected to read " ++ toString size ++
    " bytes, got 0 bytes at EOF")

namespace Rule

def applies (sql : String) (r : Rule) : Bool := contains (squeeze sql) r.pattern

def appliesTo (sql : String) (params : List String) (r : Rule) : Bool :=
  r.applies sql && (r.params.isNone || r.params = some params)

def immediate? (d : Dialect) (r : Rule) : Option ConnectionFault :=
  if r.closes then some (closed d) else r.error.map (fault d)

def stream (d : Dialect) (r : Rule) : RowStream :=
  match r.immediate? d with
  | some f => { fields := r.fields, ending := .broken f }
  | none =>
    { fields := r.fields, rows := r.rows
      ending := match r.thenError with
        | some m => .broken (fault d m)
        | none => .complete }

def plainStream (d : Dialect) (r : Rule) : RowStream :=
  if r.hangs then { fields := r.fields, ending := .silent } else r.stream d

def preparing? (d : Dialect) (r : Rule) : Option ConnectionFault :=
  (r.describeError.map (fault d)).or (if r.params.isNone then r.immediate? d else none)

end Rule

abbrev Log := List LogEntry

def prepare (d : Dialect) (site : Site) (sql : String) : Except ConnectionFault (List Field) :=
  match site.rules.find? (·.applies sql) with
  | none => .ok []
  | some r =>
    match r.preparing? d with
    | some f => .error f
    | none => .ok r.fields

def server (d : Dialect) (site : Site) : Server Log where
  login log :=
    match site.refusal with
    | some m => (.error (fault d m), log)
    | none => (.ok (), log)
  command sql log :=
    let stream := match site.rules.find? (·.applies sql) with
      | some r => r.stream d
      | none => {}
    (stream.ending.result, log ++ [.query sql])
  plain sql log :=
    let stream := match site.rules.find? (·.applies sql) with
      | some r => r.plainStream d
      | none => {}
    (stream, log ++ [.query sql])
  prepared sql params log :=
    match prepare d site sql with
    | .error f => ({ ending := .broken f }, log ++ [.described (squeeze sql)])
    | .ok _ =>
      let stream := match site.rules.find? (·.appliesTo sql params) with
        | some r => r.stream d
        | none => {}
      (stream, log ++ [.prepared (squeeze sql) params])
  describe sql log := (prepare d site sql, log ++ [.described (squeeze sql)])

end AskSql.Rehearsal
