import AskSql.Cache.Entry
import AskSql.Pipeline.Settings
import AskSql.Pipeline.View
import AskSql.Prompt.Basic

/-!
Attempts at a statement that the database answers.

The model writes statements until one has failed in the database; from then on it repairs the one
that failed last. No text of the model reaches the database unless the policy allows it.
-/

namespace AskSql

inductive Call
  | connect
  | disconnect
  | generate (g : Generation)
  | repair (r : Repair)
  | execute (s : Statement)
  | summarize (t : SummaryTask)
  | store (key : String) (result : CachedResult)
  | record (n : HistoryNote)

/-- The state of a run: its peers, its calls so far, and whether it has been cancelled. -/
structure Work (μ δ : Type) where
  model : μ
  database : δ
  cancelled : Bool := false
  calls : List Call := []

namespace Work

def note (w : Work μ δ) (c : Call) : Work μ δ := { w with calls := w.calls ++ [c] }

def ask (w : Work μ δ) (c : Call) (f : μ → Reply α × μ) : Reply α × Work μ δ :=
  let x := f w.model
  (x.1, { w.note c with model := x.2, cancelled := w.cancelled || x.1.cancels })

def query (w : Work μ δ) (c : Call) (f : δ → Reply α × δ) : Reply α × Work μ δ :=
  let x := f w.database
  (x.1, { w.note c with database := x.2, cancelled := w.cancelled || x.1.cancels })

def disconnect (db : DatabasePeer δ) (w : Work μ δ) : Work μ δ :=
  let x := db.disconnect w.database
  { w.note .disconnect with database := x.2, cancelled := w.cancelled || x.1.cancels }

end Work

/-- The statement that failed last, with the message of the database. -/
structure Failed where
  sql : String
  error : String
  deriving DecidableEq

structure Progress where
  failed : Option Failed := none
  generationError : Option QueryError := none

namespace Progress

/-- The error of the database counts for more than that of the model. -/
def failure (p : Progress) : QueryError :=
  match p.failed, p.generationError with
  | some f, _ => .execution f.error
  | none, some e => e
  | none, none => .generation "No SQL attempts were made"

end Progress

def QueryError.asGeneration : QueryError → QueryError
  | .generation detail => .generation detail
  | e => .generation e.message

def View.statement (v : View) : Except QueryError String → Except QueryError String
  | .error e => .error e.asGeneration
  | .ok raw =>
    let sql := stripFences raw
    if sql.isEmpty then .error (.generation "LLM returned an empty response")
    else .ok (v.reveal sql)

def View.generation (v : View) (r : Request) : Generation :=
  { question := r.question, schema := v.schema, dialect := r.dialect, policy := r.policy }

def View.repair (v : View) (r : Request) (f : Failed) : Repair :=
  { question := r.question, failedSql := v.hide f.sql, error := v.hide f.error, schema := v.schema,
    dialect := r.dialect }

def Verdict.refusal (v : Verdict) : QueryError :=
  .policyViolation (v.reason?.getD "SQL rejected by policy")

def Guards.statement (g : Guards) (sql : String) : Statement :=
  { sql := g.applyLimit sql, timeoutMs := g.timeoutMs, maxRows := g.rowCap }

variable {μ δ : Type}

def produce (model : ModelPeer μ) (r : Request) (v : View) (p : Progress) (w : Work μ δ) :
    Reply String × Work μ δ :=
  match p.failed with
  | none => w.ask (.generate (v.generation r)) (model.generate (v.generation r))
  | some f => w.ask (.repair (v.repair r f)) (model.repair (v.repair r f))

/-- A rejected text ends the run as long as nothing has failed in the database; a rejected repair is
only discarded. -/
def attempts (model : ModelPeer μ) (db : DatabasePeer δ) (g : Guards) (r : Request) (v : View) :
    Nat → Progress → Work μ δ → Except QueryError Executed × Work μ δ
  | 0, p, w => (.error p.failure, w)
  | n + 1, p, w =>
    match produce model r v p w with
    | (.abandoned, w) => (.error .cancelled, w)
    | (.finished text, w) =>
      match v.statement text.result with
      | .error e => attempts model db g r v n { p with generationError := some e } w
      | .ok sql =>
        let verdict := r.policy.judge sql
        if verdict.isAllowed then
          let s := g.statement sql
          match w.query (.execute s) (db.execute s) with
          | (.abandoned, w) => (.error .cancelled, w)
          | (.finished ⟨.ok output, _⟩, w) =>
            (.ok { sql := s.sql, output, wasRepaired := p.failed.isSome }, w)
          | (.finished ⟨.error e, _⟩, w) =>
            attempts model db g r v n { p with failed := some ⟨s.sql, e.message⟩ } w
        else if p.failed.isNone then (.error verdict.refusal, w)
        else attempts model db g r v n p w

end AskSql
