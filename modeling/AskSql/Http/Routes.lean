import AskSql.Csv
import AskSql.Http.Answer
import AskSql.Http.Message
import AskSql.Json.Bytes
import AskSql.Service

namespace AskSql.Http

variable {χ σ : Type}

structure ConnectBody where
  url : String
  dialect : Option Dialect

def ConnectBody.reader : Json.Reader ConnectBody :=
  Json.record "struct ConnectBody" <|
    ConnectBody.mk <$> Json.required "connectionString" .string <*>
      Json.optional "dbType" Dialect.reader

structure ExportBody where
  rows : List Row
  columns : List String

def ExportBody.reader : Json.Reader ExportBody :=
  Json.record "struct ExportBody" <|
    ExportBody.mk <$> Json.required "data" (.list Row.reader) <*>
      Json.required "columns" (.list .string)

def succeeded (members : List (String × Json)) : Answer :=
  .json 200 (.obj (("success", .bool true) :: members))

def preflight : Answer := { status := 204, contentType := "text/plain", body := "" }

def health : Answer := .json 200 (.obj [("status", .str "ok"), ("service", .str "humanql")])

def config (c : ModelConfig) : Answer :=
  .json 200 (.obj
    [("isLocalLLM", .bool c.isLocal),
     ("llmProvider", .str (if c.isLocal then "local" else "openai")),
     ("model", .str c.model)])

def demo : Answer :=
  succeeded
    [("schema", Schema.demo.toJson), ("isReadOnly", .bool true),
     ("dbType", Dialect.postgresql.toJson), ("isDemo", .bool true)]

def history (h : History) : Answer := succeeded [("history", .arr (h.list.map HistoryItem.toJson))]

def connect (o : Outside χ σ) (m : Message) (servers : σ) : Answer × σ :=
  match Json.decodeBytes ConnectBody.reader m.body with
  | .error _ => (.error 400 "Connection string is required", servers)
  | .ok b =>
    match b.dialect.or (Dialect.ofUrl? b.url) with
    | none => (.error 400 Dialect.unknownText, servers)
    | some d =>
      let (r, servers) := o.describe d b.url servers
      let answer := match r with
        | .ok info => succeeded
          [("schema", info.schema.toJson), ("isReadOnly", .bool info.isReadOnly),
           ("dbType", info.dialect.toJson)]
        | .error e => .error 500 e.message
      (answer, servers)

def statusOf : Option ErrorKind → Nat
  | none => 200
  | some .policyViolation => 400
  | some .cancelled => 499
  | some _ => 500

def query (s : Service χ σ) (m : Message) (moment : Moment) (d : Desk χ σ History) :
    Answer × Desk χ σ History :=
  match Json.decodeBytes Request.reader m.body with
  | .error f => (.error 400 ("Missing required fields: " ++ f.describe (Json.shown m.body)), d)
  | .ok r =>
    if (Text.trim r.question.toList).isEmpty then
      (.error 400 "Missing required fields: question", d)
    else
      let (response, d) := s.answer r moment d
      (.json (statusOf response.errorKind) response.toJson, d)

def exportRows (m : Message) : Answer :=
  match Json.decodeBytes ExportBody.reader m.body with
  | .error _ => .error 400 "Invalid data format"
  | .ok b => { status := 200, contentType := "text/csv", body := Csv.text b.rows b.columns }

def notFound : Answer := .error 404 "Not found"

def route (s : Service χ σ) (m : Message) (moment : Moment) (d : Desk χ σ History) :
    Answer × Desk χ σ History :=
  match m.method, m.path with
  | "OPTIONS", _ => (preflight, d)
  | "GET", "/api/health" => (health, d)
  | "GET", "/api/config" => (config s.model, d)
  | "GET", "/api/demo" => (demo, d)
  | "GET", "/api/history" => (history d.history, d)
  | "POST", "/api/connect" =>
    let (a, servers) := connect s.outside m d.database
    (a, { d with database := servers })
  | "POST", "/api/query" => query s m moment d
  | "POST", "/api/export" => (exportRows m, d)
  | _, _ => (notFound, d)

def serve (s : Service χ σ) (chunks : Chunks) (moment : Moment) (d : Desk χ σ History) :
    Option Answer × Desk χ σ History :=
  match read chunks with
  | .error refusal => (some (.error 400 refusal.message), d)
  | .ok none => (none, d)
  | .ok (some m) =>
    let (a, d) := route s m moment d
    (some a, d)

end AskSql.Http
