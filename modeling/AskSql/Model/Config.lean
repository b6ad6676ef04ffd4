import AskSql.Error
import AskSql.Text.Chars

namespace AskSql

abbrev Env := List (String × String)

def Env.get? (env : Env) (name : String) : Option String := env.lookup name

structure ModelConfig where
  apiKey : String
  baseUrl : String
  model : String
  fastModel : String
  deriving DecidableEq

namespace ModelConfig

def defaultBaseUrl : String := "https://api.openai.com/v1"

def isBlankText (s : String) : Bool := (Text.trim s.toList).isEmpty

def dropTrailing (c : Char) (s : String) : String :=
  String.ofList (s.toList.reverse.dropWhile (· = c)).reverse

/-- A key that is set but blank hides the second variable. A server of one's own may need no key. -/
def ofEnv (env : Env) : Except QueryError ModelConfig :=
  let key := ((env.get? "LLM_API_KEY").or (env.get? "OPENAI_API_KEY")).filter (!isBlankText ·)
  let baseUrl := (env.get? "LLM_BASE_URL").filter (!isBlankText ·)
  let apiKey := match key, baseUrl with
    | some key, _ => some key
    | none, some _ => some "not-needed"
    | none, none => none
  match apiKey with
  | none =>
    .error (.config "LLM_API_KEY or OPENAI_API_KEY must be set (or LLM_BASE_URL for a local model)")
  | some apiKey =>
    .ok
      { apiKey
        baseUrl := dropTrailing '/' (baseUrl.getD defaultBaseUrl)
        model := (env.get? "LLM_MODEL").getD "gpt-4o"
        fastModel := ((env.get? "LLM_MODEL_FAST").or (env.get? "LLM_MODEL")).getD "gpt-4o-mini" }

def isLocal (c : ModelConfig) : Bool := c.baseUrl ≠ defaultBaseUrl

end ModelConfig

end AskSql
