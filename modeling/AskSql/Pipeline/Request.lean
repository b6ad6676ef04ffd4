import AskSql.Database.Dialect
import AskSql.Database.Row
import AskSql.Policy.Basic
import AskSql.Schema

namespace AskSql

structure Request where
  connection : String
  question : String
  schema : Schema
  dialect : Dialect
  readOnly : Bool := true
  locale : String := "en"
  privacy : Bool := false
  anonymize : Bool := false
  deriving DecidableEq

namespace Request

def policy (r : Request) : Policy := .ofReadOnly r.readOnly

def toJson (r : Request) : Json :=
  .obj
    [("connectionIdentity", .str r.connection), ("question", .str r.question),
     ("schema", r.schema.toJson), ("dialect", r.dialect.toJson), ("readOnly", .bool r.readOnly),
     ("locale", .str r.locale), ("privacy", .bool r.privacy), ("anonymize", .bool r.anonymize)]

def reader : Json.Reader Request :=
  Json.record "struct QueryRequest" <|
    Request.mk <$> Json.field ["connectionIdentity", "connectionString"] .string .never <*>
      Json.required "question" .string <*> Json.required "schema" Schema.reader <*>
      Json.field ["dialect", "dbType"] Dialect.reader .never <*>
      Json.field ["readOnly", "readOnlyMode"] .bool (.default true) <*>
      Json.defaulted "locale" .string "en" <*> Json.defaulted "privacy" .bool false <*>
      Json.defaulted "anonymize" .bool false

end Request

namespace ErrorKind

def name : ErrorKind → String
  | .policyViolation => "policy_violation"
  | .generation => "generation"
  | .execution => "execution"
  | .database => "database"
  | .cancelled => "cancelled"

def all : List ErrorKind := [.policyViolation, .generation, .execution, .database, .cancelled]

def toJson (k : ErrorKind) : Json := .str k.name

def reader : Json.Reader ErrorKind := .enum (all.map fun k => (k.name, k))

end ErrorKind

structure Response where
  success : Bool
  sql : Option String := none
  rows : List Row := []
  columns : List String := []
  summary : Option String := none
  wasRepaired : Bool := false
  cached : Bool := false
  error : Option String := none
  errorKind : Option ErrorKind := none

namespace Response

def failure (e : QueryError) : Response :=
  { success := false, error := some e.message, errorKind := some e.kind }

def toJson (r : Response) : Json :=
  .obj ([("success", .bool r.success)] ++ Json.whenSome "sql" .str r.sql ++
    [("rows", Row.listToJson r.rows), ("columns", .strings r.columns),
     ("summary", .opt .str r.summary), ("wasRepaired", .bool r.wasRepaired),
     ("cached", .bool r.cached)] ++
    Json.whenSome "error" .str r.error ++ Json.whenSome "errorKind" ErrorKind.toJson r.errorKind)

def reader : Json.Reader Response :=
  Json.record "struct QueryResponse" <|
    Response.mk <$> Json.required "success" .bool <*> Json.optional "sql" .string <*>
      Json.required "rows" (.list Row.reader) <*> Json.required "columns" (.list .string) <*>
      Json.optional "summary" .string <*> Json.required "wasRepaired" .bool <*>
      Json.required "cached" .bool <*> Json.optional "error" .string <*>
      Json.optional "errorKind" ErrorKind.reader

end Response

structure ConnectionInfo where
  schema : Schema
  isReadOnly : Bool
  dialect : Dialect
  deriving DecidableEq

namespace ConnectionInfo

def toJson (i : ConnectionInfo) : Json :=
  .obj [("schema", i.schema.toJson), ("isReadOnly", .bool i.isReadOnly), ("dbType", i.dialect.toJson)]

def reader : Json.Reader ConnectionInfo :=
  Json.record "struct ConnectionInfo" <|
    ConnectionInfo.mk <$> Json.required "schema" Schema.reader <*>
      Json.required "isReadOnly" .bool <*> Json.required "dbType" Dialect.reader

end ConnectionInfo

end AskSql
