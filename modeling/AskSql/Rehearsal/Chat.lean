import AskSql.Model.Client
import AskSql.Rehearsal.Script

namespace AskSql.Rehearsal

inductive ChatCue
  | reply (r : ChatReply)
  | silence
  deriving DecidableEq

structure Chat where
  script : List ChatCue := []
  asked : List ChatRequest := []

namespace Chat

def endpoint : Endpoint Chat := fun p s =>
  let (cue, script) := takeTurn (.reply .dropped) s.script
  let reply := match cue with
    | .reply r => some r
    | .silence => none
  (reply, { script, asked := s.asked ++ [p.request] })

end Chat

end AskSql.Rehearsal
