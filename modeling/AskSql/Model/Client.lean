import AskSql.Model.Chat
import AskSql.Pipeline.Peers

namespace AskSql

/-- An endpoint takes requests one after another. One that is given up before the answer is there has
none. -/
abbrev Endpoint (χ : Type) := Post → χ → Option ChatReply × χ

namespace Endpoint

def ask (e : Endpoint χ) (p : Post) (read : ChatReply → Except QueryError α) (s : χ) :
    Reply α × χ :=
  match e p s with
  | (some r, s) => (.finished { result := read r }, s)
  | (none, s) => (.abandoned, s)

def model (e : Endpoint χ) (c : ModelConfig) : ModelPeer χ where
  generate g :=
    e.ask (c.post (c.sqlRequest (Prompt.generation g.question g.schema g.dialect g.policy))) (·.sql)
  repair r :=
    e.ask
      (c.post (c.sqlRequest (Prompt.repair r.question r.failedSql r.error r.schema r.dialect)))
      (·.sql)
  summarize t :=
    e.ask
      (c.post (c.summaryRequest (Prompt.summary t.question t.rows t.columns t.rowCount t.locale)))
      (·.summary t.rowCount t.locale)

end Endpoint

end AskSql
