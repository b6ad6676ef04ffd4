import AskSql.Model.Config
import AskSql.Prompt.Basic

namespace AskSql

structure ChatRequest where
  model : String
  prompt : Prompt
  temperature : Float
  maxTokens : Nat

structure Post where
  url : String
  headers : List (String × String)
  request : ChatRequest

inductive ChatReply
  | answered (status : Nat) (body : String)
  | dropped
  deriving DecidableEq

namespace ChatRequest

def message (role content : String) : Json :=
  .obj [("content", .str content), ("role", .str role)]

def toJson (r : ChatRequest) : Json :=
  .obj
    [("max_tokens", .nat r.maxTokens),
     ("messages", .arr [message "system" r.prompt.system, message "user" r.prompt.user]),
     ("model", .str r.model),
     ("temperature", .num (.float r.temperature))]

end ChatRequest

def Post.body (p : Post) : Json := p.request.toJson

namespace ChatReply

def reasonPhrases : List (Nat × String) :=
  [(100, "Continue"), (101, "Switching Protocols"), (102, "Processing"), (103, "Early Hints"),
   (200, "OK"), (201, "Created"), (202, "Accepted"), (203, "Non Authoritative Information"),
   (204, "No Content"), (205, "Reset Content"), (206, "Partial Content"), (207, "Multi-Status"),
   (208, "Already Reported"), (226, "IM Used"), (300, "Multiple Choices"),
   (301, "Moved Permanently"), (302, "Found"), (303, "See Other"), (304, "Not Modified"),
   (305, "Use Proxy"), (307, "Temporary Redirect"), (308, "Permanent Redirect"),
   (400, "Bad Request"), (401, "Unauthorized"), (402, "Payment Required"), (403, "Forbidden"),
   (404, "Not Found"), (405, "Method Not Allowed"), (406, "Not Acceptable"),
   (407, "Proxy Authentication Required"), (408, "Request Timeout"), (409, "Conflict"),
   (410, "Gone"), (411, "Length Required"), (412, "Precondition Failed"),
   (413, "Payload Too Large"), (414, "URI Too Long"), (415, "Unsupported Media Type"),
   (416, "Range Not Satisfiable"), (417, "Expectation Failed"), (418, "I'm a teapot"),
   (421, "Misdirected Request"), (422, "Unprocessable Entity"), (423, "Locked"),
   (424, "Failed Dependency"), (425, "Too Early"), (426, "Upgrade Required"),
   (428, "Precondition Required"), (429, "Too Many Requests"),
   (431, "Request Header Fields Too Large"), (451, "Unavailable For Legal Reasons"),
   (500, "Internal Server Error"), (501, "Not Implemented"), (502, "Bad Gateway"),
   (503, "Service Unavailable"), (504, "Gateway Timeout"), (505, "HTTP Version Not Supported"),
   (506, "Variant Also Negotiates"), (507, "Insufficient Storage"), (508, "Loop Detected"),
   (510, "Not Extended"), (511, "Network Authentication Required")]

def statusText (status : Nat) : String :=
  toString status ++ " " ++ (reasonPhrases.lookup status).getD "<unknown status code>"

def content : ChatReply → Except QueryError String
  | .dropped => .error (.model "LLM API call failed: error sending request")
  | .answered status body =>
    if status < 200 ∨ 300 ≤ status then
      .error (.model ("LLM API error (" ++ statusText status ++ "): " ++ body))
    else
      match Json.parse body.toList with
      | .error _ => .error (.model "Failed to parse LLM response: error decoding response body")
      | .ok v =>
        match ((((v.get "choices").item 0).get "message").get "content").str? with
        | some s => .ok (trimmed s)
        | none => .error (.model "No content in LLM response")

def noSql : QueryError := .generation "LLM returned an empty response"

def sql (r : ChatReply) : Except QueryError String := do
  let text := stripFences (← r.content)
  if text.isEmpty then .error noSql else .ok text

def summary (r : ChatReply) (rowCount : Nat) (locale : String) : Except QueryError String := do
  let text ← r.content
  .ok (if text.isEmpty then Prompt.fallbackSummary rowCount locale else text)

end ChatReply

namespace ModelConfig

def sqlRequest (c : ModelConfig) (p : Prompt) : ChatRequest :=
  { model := c.model, prompt := p, temperature := 0.0, maxTokens := 1000 }

def summaryRequest (c : ModelConfig) (p : Prompt) : ChatRequest :=
  { model := c.fastModel, prompt := p, temperature := 0.3, maxTokens := 200 }

def post (c : ModelConfig) (r : ChatRequest) : Post where
  url := c.baseUrl ++ "/chat/completions"
  headers := [("Authorization", "Bearer " ++ c.apiKey), ("Content-Type", "application/json")]
  request := r

end ModelConfig

end AskSql
