import AskSql.Cli.Usage
import AskSql.Digest.Bytes
import AskSql.EnvFile

namespace AskSql.Cli

def Command.files : Command → List String
  | .connect _ saveSchema => saveSchema.toList
  | .ask o => o.schemaFile.toList ++ o.csvFile.toList
  | .demo => []
  | .history (.exportTo file) => file.toList
  | .history (.importFrom file) => [file]
  | .history _ => []

def Invocation.files (i : Invocation) : List String :=
  EnvFile.fileName :: i.historyFile :: i.cacheFile :: i.command.files

def variableNames : List String :=
  ["DATABASE_URL", "LLM_API_KEY", "OPENAI_API_KEY", "LLM_BASE_URL", "LLM_MODEL", "LLM_MODEL_FAST",
   "HUMANQL_MAX_REPAIRS", "HUMANQL_RESULT_LIMIT", "HUMANQL_ROW_CAP",
   "HUMANQL_STATEMENT_TIMEOUT_MS"]

def markRandom (bytes : List UInt8) : List UInt8 :=
  (bytes.modify 6 fun b => b % 16 + 64).modify 8 fun b => b % 64 + 128

def idOfBytes (bytes : List UInt8) : String :=
  let group (start size : Nat) := Bytes.hex (((markRandom bytes).drop start).take size)
  "-".intercalate [group 0 4, group 4 2, group 6 2, group 8 2, group 10 6]

end AskSql.Cli
