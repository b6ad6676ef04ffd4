namespace AskSql

/-- What a database connection reports: an error of the database, with its own message and the form
in which the connection shows it, or trouble with the connection. -/
inductive ConnectionFault
  | reported (shown message : String)
  | trouble (text : String)
  deriving DecidableEq

namespace ConnectionFault

def text : ConnectionFault → String
  | .reported shown _ => "error returned from database: " ++ shown
  | .trouble text => text

def ownMessage : ConnectionFault → String
  | .reported _ message => message
  | .trouble text => text

def causes : ConnectionFault → List String
  | .reported shown message => [(ConnectionFault.reported shown message).text, shown]
  | .trouble text => [text]

end ConnectionFault

inductive QueryError
  | policyViolation (reason : String)
  | generation (detail : String)
  | execution (message : String)
  | model (detail : String)
  | database (detail : String)
  | cancelled
  | config (detail : String)
  | cache (detail : String)
  | history (detail : String)
  | csv (detail : String)
  | file (detail : String)
  | connection (fault : ConnectionFault)
  | store (causes : List String)
  deriving DecidableEq

namespace QueryError

def message : QueryError → String
  | .policyViolation reason => reason
  | .generation detail => "SQL generation failed: " ++ detail
  | .execution message => message
  | .model detail => "LLM error: " ++ detail
  | .database detail => "Database error: " ++ detail
  | .cancelled => "Request cancelled"
  | .config detail => "Configuration error: " ++ detail
  | .cache detail => "Cache error: " ++ detail
  | .history detail => "History error: " ++ detail
  | .csv detail => "CSV error: " ++ detail
  | .file detail => "IO error: " ++ detail
  | .connection fault => "SQL error: " ++ fault.text
  | .store causes => "SQLite error: " ++ causes.headD ""

def causes : QueryError → List String
  | .file detail => [detail]
  | .connection fault => fault.causes
  | .store causes => causes
  | _ => []

end QueryError

inductive ErrorKind
  | policyViolation
  | generation
  | execution
  | database
  | cancelled
  deriving DecidableEq, Repr

def QueryError.kind : QueryError → ErrorKind
  | .policyViolation _ => .policyViolation
  | .generation _ | .model _ => .generation
  | .execution _ | .connection _ => .execution
  | .cancelled => .cancelled
  | _ => .database

end AskSql
