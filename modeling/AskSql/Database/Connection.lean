import AskSql.Pipeline.Peers
import AskSql.Pipeline.Request

namespace AskSql

abbrev Session (σ : Type) := ExceptT QueryError (StateM σ)

namespace Session

def attempt (x : Session σ α) : Session σ (Except QueryError α) := fun s =>
  let (r, s) := x.run s
  (.ok r, s)

def fail (e : QueryError) : Session σ α := throw e

end Session

structure Connection (σ : Type) where
  dialect : Dialect
  connect : Session σ Unit
  disconnect : Session σ Unit
  schema : Session σ Schema
  writeAccess : Session σ Bool

/-- Connects, asks for the schema and the rights, and disconnects whatever comes of that. An error
in disconnecting is passed over. -/
def Connection.describe (c : Connection σ) : Session σ ConnectionInfo := do
  c.connect
  let described ← Session.attempt do
    let schema ← c.schema
    let canWrite ← c.writeAccess
    return (schema, canWrite)
  let _ ← c.disconnect.attempt
  let (schema, canWrite) ← ExceptT.mk (pure described)
  return { schema, isReadOnly := !canWrite, dialect := c.dialect }

end AskSql
