import AskSql.Database.Adapter
import AskSql.Model.Client
import AskSql.Pipeline.Run

namespace AskSql

structure Outside (χ σ : Type) where
  endpoint : Endpoint χ
  server : Dialect → Server σ

namespace Outside

variable {χ σ : Type}

def adapter (o : Outside χ σ) (d : Dialect) (url : String) : Adapter σ :=
  { dialect := d, url, server := o.server d }

def describe (o : Outside χ σ) (d : Dialect) (url : String) (s : σ) :
    Except QueryError ConnectionInfo × σ :=
  let (r, l) := (o.adapter d url).connection.describe.run { server := s }
  (r, l.server)

end Outside

structure Moment where
  now : Instant
  freshId : String
  cancelled : Bool := false

structure Service (χ σ : Type) where
  outside : Outside χ σ
  settings : PipelineSettings
  model : ModelConfig

namespace Service

variable {χ σ : Type}

def pipeline (s : Service χ σ) (r : Request) (m : Moment) : Pipeline χ (Link σ) History :=
  { settings := s.settings
    model := s.outside.endpoint.model s.model
    database := (s.outside.adapter r.dialect r.connection).peer
    recorder := some (History.recorder m.now.milliseconds m.freshId) }

def answer (s : Service χ σ) (r : Request) (m : Moment) (d : Desk χ σ History) :
    Response × Desk χ σ History :=
  let (response, _, left) := (s.pipeline r m).run r
    { asked := m.now, answered := m.now, cancelled := m.cancelled }
    { d with database := { server := d.database } }
  (response, { left with database := left.database.server })

end Service

end AskSql
