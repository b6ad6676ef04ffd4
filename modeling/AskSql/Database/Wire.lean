import AskSql.Database.Connection
import AskSql.Decimal.Reading

namespace AskSql

structure Field where
  name : String
  typeName : String
  deriving DecidableEq

inductive StreamEnd
  | complete
  | broken (f : ConnectionFault)
  | silent
  deriving DecidableEq

structure RowStream where
  fields : List Field := []
  rows : List (List (Option String)) := []
  ending : StreamEnd := .complete
  deriving DecidableEq

/-- A server takes log-ins, commands that give no rows, plain statements, prepared statements with
parameters, and asks for the columns of a statement. Silence is for plain statements: they alone are
waited for under a time limit, and with all others there is nothing to say of a call that never ends. -/
structure Server (σ : Type) where
  login : σ → Except ConnectionFault Unit × σ
  command : String → σ → Except ConnectionFault Unit × σ
  plain : String → σ → RowStream × σ
  prepared : String → List String → σ → RowStream × σ
  describe : String → σ → Except ConnectionFault (List Field) × σ

abbrev Cells := List (Option String)

namespace Cells

def missing (cells : Cells) (i : Nat) : ConnectionFault :=
  .trouble ("column index out of bounds: the len is " ++ toString cells.length ++
    ", but the index is " ++ toString i)

def undecodable (i : Nat) (why : String) : ConnectionFault :=
  .trouble ("error occurred while decoding column " ++ toString i ++ ": " ++ why)

def text? (i : Nat) (cells : Cells) : Except ConnectionFault (Option String) :=
  match cells[i]? with
  | some cell => .ok cell
  | none => .error (missing cells i)

def text (i : Nat) (cells : Cells) : Except ConnectionFault String := do
  match ← text? i cells with
  | some s => .ok s
  | none => .error (undecodable i "unexpected null; try decoding as an `Option`")

def int? (i : Nat) (cells : Cells) : Except ConnectionFault (Option Int) := do
  match ← text? i cells with
  | none => .ok none
  | some s =>
    match Decimal.integer? s.toList with
    | some n => .ok (some n)
    | none => .error (undecodable i "not a number")

def int (i : Nat) (cells : Cells) : Except ConnectionFault Int := do
  match ← int? i cells with
  | some n => .ok n
  | none => .error (undecodable i "unexpected null; try decoding as an `Option`")

end Cells

def StreamEnd.result : StreamEnd → Except ConnectionFault Unit
  | .broken f => .error f
  | _ => .ok ()

namespace RowStream

def all (read : Cells → Except ConnectionFault α) (s : RowStream) :
    Except ConnectionFault (List α) := do
  let l ← s.rows.mapM read
  s.ending.result
  .ok l

/-- The first row, if there is one. An eager reader takes the whole stream all the same. -/
def first? (eager : Bool) (read : Cells → Except ConnectionFault α) (s : RowStream) :
    Except ConnectionFault (Option α) := do
  if eager ∨ s.rows.isEmpty then s.ending.result
  match s.rows with
  | [] => .ok none
  | cells :: _ => (read cells).map some

end RowStream

def noRow : ConnectionFault :=
  .trouble "no rows returned by a query that expected to return at least one row"

def liftFault : Except ConnectionFault α → Except QueryError α := Except.mapError .connection

end AskSql
