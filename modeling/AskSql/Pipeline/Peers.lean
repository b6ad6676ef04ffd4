import AskSql.Database.Dialect
import AskSql.Database.Row
import AskSql.History.Basic
import AskSql.Policy.Basic
import AskSql.Schema

/-!
Those that a run talks to: the model, the database and the history.

Each keeps a state of its own, which a call may change. A request can be cancelled while a call is
under way; the call then either comes to its end all the same or is given up.
-/

namespace AskSql

structure Outcome (α : Type) where
  result : Except QueryError α
  cancels : Bool := false

inductive Reply (α : Type)
  | finished (o : Outcome α)
  | abandoned

def Reply.cancels : Reply α → Bool
  | .finished o => o.cancels
  | .abandoned => true

structure Generation where
  question : String
  schema : Schema
  dialect : Dialect
  policy : Policy
  deriving DecidableEq

structure Repair where
  question : String
  failedSql : String
  error : String
  schema : Schema
  dialect : Dialect
  deriving DecidableEq

structure SummaryTask where
  question : String
  sql : String
  rows : List Row
  columns : List String
  rowCount : Nat
  locale : String

structure Statement where
  sql : String
  timeoutMs : Nat
  maxRows : Nat
  deriving DecidableEq

structure ModelPeer (μ : Type) where
  generate : Generation → μ → Reply String × μ
  repair : Repair → μ → Reply String × μ
  summarize : SummaryTask → μ → Reply String × μ

/-- Disconnecting is never given up. -/
structure DatabasePeer (δ : Type) where
  connect : δ → Reply Unit × δ
  execute : Statement → δ → Reply QueryOutput × δ
  disconnect : δ → Outcome Unit × δ

structure Recorder (η : Type) where
  record : HistoryNote → η → Except QueryError Unit × η

def History.recorder (now : Int) (freshId : String) : Recorder History :=
  ⟨fun n h => (.ok (), (h.add now freshId n).2)⟩

end AskSql
