import AskSql.Cache.Key
import AskSql.Cache.Snapshot
import AskSql.Pipeline.Attempt

namespace AskSql

structure Pipeline (μ δ η : Type) where
  settings : PipelineSettings
  model : ModelPeer μ
  database : DatabasePeer δ
  recorder : Option (Recorder η)

structure Desk (μ δ η : Type) where
  model : μ
  database : δ
  history : η
  cache : Option SavedCache := none

/-- When a request comes in, when its answer is there, how long that took, and whether it has been
cancelled before it starts. -/
structure Occasion where
  asked : Instant
  answered : Instant
  elapsedMs : Nat := 0
  cancelled : Bool := false

def Request.key (r : Request) : String :=
  CacheKey.key r.connection r.question r.schema.fingerprint r.policy

namespace Response

def ofCached (r : CachedResult) : Response :=
  { success := true, sql := some r.sql, rows := r.rows, columns := r.columns, summary := r.summary,
    cached := true }

def ofExecuted (x : Executed) (summary : Option String) : Response :=
  { success := true, sql := some x.sql, rows := x.output.rows, columns := x.output.columns, summary,
    wasRepaired := x.wasRepaired }

end Response

def Executed.cachedResult (x : Executed) (summary : Option String) : CachedResult :=
  { sql := x.sql, rows := x.output.rows, columns := x.output.columns, summary }

def Executed.note (x : Executed) (r : Request) (o : Occasion) : HistoryNote :=
  { question := r.question, sql := x.sql, resultCount := x.output.rows.length,
    executionTime := some o.elapsedMs }

namespace Pipeline

variable {μ δ η : Type}

def connectAndExecute (p : Pipeline μ δ η) (r : Request) (w : Work μ δ) :
    Except QueryError Executed × Work μ δ :=
  match w.query .connect p.database.connect with
  | (.abandoned, w) => (.error .cancelled, w)
  | (.finished ⟨.error e, _⟩, w) => (.error e, w)
  | (.finished ⟨.ok _, _⟩, w) =>
    attempts p.model p.database p.settings.guards r (.ofRequest r) p.settings.maxAttempts {} w

def execute (p : Pipeline μ δ η) (r : Request) (w : Work μ δ) :
    Except QueryError Executed × Work μ δ :=
  let x := if w.cancelled then (.error .cancelled, w) else p.connectAndExecute r w
  (x.1, x.2.disconnect p.database)

def summarize (p : Pipeline μ δ η) (r : Request) (x : Executed) (w : Work μ δ) :
    Except QueryError (Option String) × Work μ δ :=
  let v := View.ofRequest r
  if w.cancelled then (.error .cancelled, w)
  else
    match w.ask (.summarize (v.summaryTask r x)) (p.model.summarize (v.summaryTask r x)) with
    | (.abandoned, w) => (.error .cancelled, w)
    | (.finished o, w) => (.ok (v.summary o.result), w)

def answer (p : Pipeline μ δ η) (r : Request) (w : Work μ δ) :
    Except QueryError (Executed × Option String) × Work μ δ :=
  match p.execute r w with
  | (.error e, w) => (.error e, w)
  | (.ok x, w) =>
    match p.summarize r x w with
    | (.error e, w) => (.error e, w)
    | (.ok summary, w) => (.ok (x, summary), w)

def keep (p : Pipeline μ δ η) (r : Request) (o : Occasion) (x : Executed) (summary : Option String)
    (d : Desk μ δ η) : List Call × Desk μ δ η :=
  let result := x.cachedResult summary
  let note := x.note r o
  let stored := d.cache.map (·.set o.answered r.key result)
  let storing := if d.cache.isSome then [Call.store r.key result] else []
  match p.recorder with
  | none => (storing, { d with cache := stored })
  | some recorder =>
    (storing ++ [.record note],
      { d with cache := stored, history := (recorder.record note d.history).2 })

def runUncached (p : Pipeline μ δ η) (r : Request) (o : Occasion) (d : Desk μ δ η) :
    Response × List Call × Desk μ δ η :=
  let w : Work μ δ := { model := d.model, database := d.database, cancelled := o.cancelled }
  let (result, w) := p.answer r w
  let d := { d with model := w.model, database := w.database }
  match result with
  | .error e => (.failure e, w.calls, d)
  | .ok (x, summary) =>
    let (calls, d) := p.keep r o x summary d
    (.ofExecuted x summary, w.calls ++ calls, d)

def fromCache (r : Request) (o : Occasion) (d : Desk μ δ η) : Option CacheEntry × Desk μ δ η :=
  match d.cache with
  | none => (none, d)
  | some c =>
    let (hit, c) := c.get o.asked r.key
    (hit, { d with cache := some c })

def run (p : Pipeline μ δ η) (r : Request) (o : Occasion) (d : Desk μ δ η) :
    Response × List Call × Desk μ δ η :=
  match fromCache r o d with
  | (some e, d) => (.ofCached e.result, [], d)
  | (none, d) => p.runUncached r o d

end Pipeline

end AskSql
