import AskSql.Cli.Report
import AskSql.Cli.Usage
import AskSql.EnvFile
import AskSql.Files.Stores
import AskSql.Http.Routes

namespace AskSql.Http

open Cli (Complaint Halt Level Words)

structure Options where
  bind : String := "0.0.0.0:8080"
  historyFile : String := Cli.defaultHistoryFile
  cacheFile : Option String := none
  deriving DecidableEq

namespace Options

def level : Level :=
  { valued :=
      [("--bind", Cli.anyText), ("--history-db", Cli.isFileName), ("--cache-file", Cli.isFileName)] }

def parse (args : List String) : Except Halt Options := do
  let w ← level.scan false {} args
  if w.free.isEmpty then
    let d : Options := {}
    .ok
      { bind := (w.value? "--bind").getD d.bind
        historyFile := (w.value? "--history-db").getD d.historyFile
        cacheFile := w.value? "--cache-file" }
  else .error .misuse

end Options

variable {χ σ : Type}

structure Opening (χ σ : Type) where
  service : Service χ σ
  history : History
  cache : SavedCache
  files : Files

def open? (outside : Outside χ σ) (env : Env) (o : Options) (now : Instant) (files : Files) :
    Except QueryError (Opening χ σ) := do
  let env := EnvFile.load files env
  let model ← ModelConfig.ofEnv env
  let (history, files) ← files.openHistory o.historyFile
  let snapshot := match o.cacheFile with
    | some name => files.snapshot name
    | none => .off
  let cache := SavedCache.openAt now {} snapshot
  let settings ← PipelineSettings.ofEnv env
  .ok { service := { outside, settings, model }, history, cache, files }

namespace Opening

def desk (o : Opening χ σ) (chat : χ) (servers : σ) : Desk χ σ History :=
  { model := chat, database := servers, history := o.history, cache := some o.cache }

end Opening

end AskSql.Http
