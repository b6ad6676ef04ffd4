import AskSql.Database.Connection

/-!
Peers that answer from scripts.

A script is a list of cues. Each call takes the first one away, but the last one stays.
-/

namespace AskSql

/-- How a cue deals with the request: it lets it be, cancels it and answers, or cancels it and never
answers. -/
inductive Interruption
  | none
  | before
  | instead
  deriving DecidableEq, Repr

structure Cue (α : Type) where
  result : Except QueryError α
  interruption : Interruption := .none

abbrev Script (α : Type) := List (Cue α)

def Cue.reply (c : Cue α) : Reply α :=
  match c.interruption with
  | .none => .finished ⟨c.result, false⟩
  | .before => .finished ⟨c.result, true⟩
  | .instead => .abandoned

def takeTurn (otherwise : α) : List α → α × List α
  | [] => (otherwise, [])
  | [a] => (a, [a])
  | a :: rest => (a, rest)

def Script.next (otherwise : Cue α) (s : Script α) : Cue α × Script α := takeTurn otherwise s

def Reply.map (f : α → β) : Reply α → Reply β
  | .finished o => .finished ⟨o.result.map f, o.cancels⟩
  | .abandoned => .abandoned

def Reply.outcome : Reply α → Outcome α
  | .finished o => o
  | .abandoned => ⟨.error .cancelled, true⟩

namespace Rehearsal

def exhausted : QueryError := .model "script exhausted"

inductive SummaryCue
  | text (s : String)
  | echo

def SummaryCue.render (t : SummaryTask) : SummaryCue → String
  | .text s => s
  | .echo =>
    toString t.rowCount ++ " rows of " ++ String.intercalate ", " t.columns ++ " from " ++ t.sql

structure ModelScript where
  generator : Script String
  repairer : Script String
  summarizer : Script SummaryCue

def model : ModelPeer ModelScript where
  generate _ s :=
    let (c, rest) := s.generator.next ⟨.error exhausted, .none⟩
    (c.reply, { s with generator := rest })
  repair _ s :=
    let (c, rest) := s.repairer.next ⟨.error exhausted, .none⟩
    (c.reply, { s with repairer := rest })
  summarize t s :=
    let (c, rest) := s.summarizer.next ⟨.error exhausted, .none⟩
    (c.reply.map (·.render t), { s with summarizer := rest })

structure DatabaseScript where
  connect : Script Unit := []
  disconnect : Script Unit := []
  execute : Script QueryOutput := []
  schema : Script Schema := []
  writeAccess : Script Bool := []

def cut (s : Statement) (o : QueryOutput) : QueryOutput := { o with rows := o.rows.take s.maxRows }

def database : DatabasePeer DatabaseScript where
  connect s :=
    let (c, rest) := s.connect.next ⟨.ok (), .none⟩
    (c.reply, { s with connect := rest })
  disconnect s :=
    let (c, rest) := s.disconnect.next ⟨.ok (), .none⟩
    (c.reply.outcome, { s with disconnect := rest })
  execute q s :=
    let (c, rest) := s.execute.next ⟨.ok {}, .none⟩
    (c.reply.map (cut q), { s with execute := rest })

structure Noted where
  script : DatabaseScript
  calls : List String := []

def noted (name : String) (take : DatabaseScript → Cue α × DatabaseScript) : Session Noted α :=
  fun s =>
    let (c, script) := take s.script
    (c.result, { script, calls := s.calls ++ [name] })

def connection (dialect : Dialect) : Connection Noted where
  dialect
  connect := noted "connect" fun s =>
    let (c, rest) := s.connect.next ⟨.ok (), .none⟩
    (c, { s with connect := rest })
  disconnect := noted "disconnect" fun s =>
    let (c, rest) := s.disconnect.next ⟨.ok (), .none⟩
    (c, { s with disconnect := rest })
  schema := noted "get_schema" fun s =>
    let (c, rest) := s.schema.next ⟨.ok ⟨[]⟩, .none⟩
    (c, { s with schema := rest })
  writeAccess := noted "check_write_access" fun s =>
    let (c, rest) := s.writeAccess.next ⟨.ok true, .none⟩
    (c, { s with writeAccess := rest })

end Rehearsal

end AskSql
