import AskSql.Decimal.Reading
import AskSql.Decimal.Width
import AskSql.Model.Config
import AskSql.Policy.Limit

namespace AskSql

structure PipelineSettings where
  maxRepairs : Nat := 2
  guards : Guards := {}
  deriving DecidableEq

namespace PipelineSettings

def maxCount : Nat := Width.values 32 - 1

def maxAttempts (s : PipelineSettings) : Nat := min (s.maxRepairs + 1) maxCount

def number? (env : Env) (name : String) : Except QueryError (Option Nat) :=
  match env.get? name with
  | none => .ok none
  | some raw =>
    match Decimal.natural? (Text.trim raw.toList) with
    | some n => if Width.isWord 64 n then .ok (some n) else bad raw
    | none => bad raw
where
  bad (raw : String) : Except QueryError (Option Nat) :=
    .error (.config (name ++ " must be a non-negative integer, got '" ++ raw ++ "'"))

def count? (env : Env) (name : String) : Except QueryError (Option Nat) := do
  match ← number? env name with
  | some n =>
    if n ≤ maxCount then .ok (some n)
    else .error (.config (name ++ " is out of range: " ++ toString n))
  | none => .ok none

def ofEnv (env : Env) : Except QueryError PipelineSettings := do
  let d : PipelineSettings := {}
  let repairs ← count? env "HUMANQL_MAX_REPAIRS"
  let limit ← number? env "HUMANQL_RESULT_LIMIT"
  let cap ← number? env "HUMANQL_ROW_CAP"
  let timeout ← number? env "HUMANQL_STATEMENT_TIMEOUT_MS"
  .ok
    { maxRepairs := repairs.getD d.maxRepairs
      guards :=
        { resultLimit := limit.getD d.guards.resultLimit
          rowCap := cap.getD d.guards.rowCap
          timeoutMs := timeout.getD d.guards.timeoutMs } }

end PipelineSettings

end AskSql
