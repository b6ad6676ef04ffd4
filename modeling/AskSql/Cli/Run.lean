import AskSql.Cli.Report
import AskSql.Cli.Usage
import AskSql.Csv
import AskSql.EnvFile
import AskSql.Files.Stores
import AskSql.Service

namespace AskSql.Cli

structure World (χ σ : Type) where
  files : Files
  chat : χ
  servers : σ
  printed : String := ""

structure Setting (χ σ : Type) where
  outside : Outside χ σ
  env : Env
  moment : Moment

abbrev Job (χ σ : Type) := ExceptT Complaint (StateM (World χ σ))

variable {χ σ : Type}

namespace Job

def line (s : String) : Job χ σ Unit := modify fun w => { w with printed := w.printed ++ s ++ "\n" }

def settle (r : Except QueryError α) : Job χ σ α := ExceptT.mk (pure (r.mapError .ofError))

def settleFile (complain : Complaint → Complaint) (r : Except FileTrouble α) : Job χ σ α :=
  ExceptT.mk (pure (r.mapError fun t => complain ⟨t.message, []⟩))

def read (complain : Complaint → Complaint) (name : String) : Job χ σ String := do
  settleFile complain ((← get).files.read (.ofText name))

def write (complain : Complaint → Complaint) (name text : String) : Job χ σ Unit := do
  let files ← settleFile complain ((← get).files.write (.ofText name) (.text text))
  modify ({ · with files })

def describe (s : Setting χ σ) (d : Dialect) (url : String) : Job χ σ ConnectionInfo := do
  let (r, servers) := s.outside.describe d url (← get).servers
  modify ({ · with servers })
  settle r

end Job

open Job

def database (env : Env) (given : Option String) : Job χ σ (String × Dialect) := do
  match given.or (env.get? "DATABASE_URL") with
  | none => throw ⟨"No database URL given (use --url or set DATABASE_URL)", []⟩
  | some url =>
    match Dialect.ofUrl? url with
    | none => throw ⟨Dialect.unknownText, []⟩
    | some d => return (url, d)

def accessText (isReadOnly : Bool) : String := if isReadOnly then "read-only" else "read-write"

def tableLine (t : Table) : String :=
  let rows := match t.rowCount with
    | some n => " ~" ++ toString n ++ " rows"
    | none => ""
  "  " ++ t.name ++ " (" ++ toString t.columns.length ++ " columns" ++ rows ++ ")"

def connect (s : Setting χ σ) (url saveSchema : Option String) : Job χ σ Unit := do
  let (url, d) ← database s.env url
  let info ← describe s d url
  line ("Connected to " ++ d.name ++ " (" ++ accessText info.isReadOnly ++ ")")
  info.schema.tables.forM fun t => line (tableLine t)
  match saveSchema with
  | none => return
  | some name => write (.during ("Failed to write schema to " ++ name)) name info.schema.toJson.pretty

def readSchema (name : String) : Job χ σ Schema := do
  let text ← read (.during ("Failed to read schema from " ++ name)) name
  match Json.decode Schema.reader text.toList with
  | .ok schema => return schema
  | .error f => throw ⟨f.describe text.toList, []⟩

/-- The schema, and whether statements may only read. A saved schema says nothing of the rights of
the user. -/
def schemaFor (s : Setting χ σ) (o : AskOptions) (d : Dialect) (url : String) :
    Job χ σ (Schema × Bool) := do
  match o.schemaFile with
  | some name => return (← readSchema name, !o.allowWrites)
  | none =>
    let info ← describe s d url
    return (info.schema, info.isReadOnly || !o.allowWrites)

def settingsFor (env : Env) (o : AskOptions) : Except QueryError PipelineSettings := do
  let settings ← PipelineSettings.ofEnv env
  .ok { settings with maxRepairs := o.maxRepairs.getD settings.maxRepairs }

def openCache (s : Setting χ σ) (name : String) : Job χ σ SavedCache := do
  let cache := SavedCache.openAt s.moment.now {} ((← get).files.snapshot name)
  modify fun w => { w with files := w.files.saveSnapshot name cache.snapshot }
  return cache

def openHistory (name : String) : Job χ σ History := do
  let (h, files) ← settle ((← get).files.openHistory name)
  modify ({ · with files })
  return h

def submit (s : Setting χ σ) (i : Invocation) (settings : PipelineSettings) (model : ModelConfig)
    (r : Request) : Job χ σ Response := do
  let cache ← openCache s i.cacheFile
  let history ← openHistory i.historyFile
  let w ← get
  let service : Service χ σ := { outside := s.outside, settings, model }
  let (response, d) := service.answer r s.moment
    { model := w.chat, database := w.servers, history, cache := some cache }
  let files := match d.cache with
    | some c => w.files.saveSnapshot i.cacheFile c.snapshot
    | none => w.files
  set { w with
    files := files.saveHistory i.historyFile d.history, chat := d.model, servers := d.database }
  return response

def present (r : Response) : Job χ σ Unit := do
  if let some sql := r.sql then line (sql ++ "\n")
  if r.wasRepaired then line "(query was repaired after a database error)"
  if r.cached then line "(from cache)"
  if let some summary := r.summary then line (summary ++ "\n")

def deliver (r : Response) : Option String → Job χ σ Unit
  | none => modify fun w => { w with printed := w.printed ++ Csv.text r.rows r.columns }
  | some name => do
    write (.during ("Failed to create " ++ name)) name (Csv.text r.rows r.columns)
    line (toString r.rows.length ++ " rows written to " ++ name)

def ask (s : Setting χ σ) (i : Invocation) (o : AskOptions) : Job χ σ Unit := do
  let (url, d) ← database s.env o.url
  let (schema, readOnly) ← schemaFor s o d url
  let settings ← settle (settingsFor s.env o)
  let model ← settle (ModelConfig.ofEnv s.env)
  let response ← submit s i settings model
    { connection := url, question := o.question, schema, dialect := d, readOnly, locale := o.locale
      privacy := o.privacy, anonymize := o.anonymize }
  if response.success then
    present response
    deliver response o.csvFile
  else throw ⟨response.error.getD "Query failed", []⟩

def listItems (items : List HistoryItem) : Job χ σ Unit :=
  if items.isEmpty then line "No queries."
  else (items.flatMap HistoryItem.listing).forM line

def keep (i : Invocation) (h : History) : Job χ σ Unit :=
  modify fun w => { w with files := w.files.saveHistory i.historyFile h }

def keepFound (i : Invocation) (id : String) (x : Bool × History) : Job χ σ Unit := do
  keep i x.2
  if !x.1 then throw ⟨"No history entry with id " ++ id, []⟩

def importHistory (i : Invocation) (name : String) : Job χ σ Unit := do
  match History.imported? (← read id name) with
  | some h => keep i h
  | none => throw ⟨name ++ " is not a valid history export", []⟩

def manage (i : Invocation) (a : HistoryAction) : Job χ σ Unit := do
  let h ← openHistory i.historyFile
  match a with
  | .list => listItems h.list
  | .favorites => listItems h.favorites
  | .search text => listItems (h.search text)
  | .favorite id => keepFound i id (h.toggle id)
  | .delete id => keepFound i id (h.delete id)
  | .clear all => keep i (h.clear !all)
  | .exportTo none => line h.exported
  | .exportTo (some name) => write id name h.exported
  | .importFrom name => importHistory i name

def perform (s : Setting χ σ) (i : Invocation) : Job χ σ Unit :=
  match i.command with
  | .connect url saveSchema => connect s url saveSchema
  | .ask o => ask s i o
  | .demo => do
    line Schema.demo.compactText
    line ("\n" ++ Schema.demo.toJson.pretty)
  | .history a => manage i a

def versionText : String := "humanql 0.1.0\n"

def usageText : String :=
  "Usage: humanql [OPTIONS] <COMMAND>\n\n" ++
    "Commands:\n  connect\n  ask\n  demo\n  history\n\n" ++
    "Options:\n      --history-db <HISTORY_DB>\n      --cache-file <CACHE_FILE>\n" ++
    "  -h, --help\n  -V, --version\n"

/-- A command line that cannot be read ends with code 2, a command that fails with code 1. -/
def run (s : Setting χ σ) (args : List String) (w : World χ σ) : Report × World χ σ :=
  let s := { s with env := EnvFile.load w.files s.env }
  match parse args with
  | .error .version => (⟨0, versionText, ""⟩, w)
  | .error .help => (⟨0, usageText, ""⟩, w)
  | .error .misuse => (⟨2, "", "error: the command line cannot be read\n\n" ++ usageText⟩, w)
  | .ok i =>
    let (r, w) := (perform s i).run { w with printed := "" }
    match r with
    | .ok _ => (⟨0, w.printed, ""⟩, w)
    | .error c => (⟨1, w.printed, c.text⟩, w)

end AskSql.Cli
