import AskSql.Database.Row
import AskSql.Error
import AskSql.Json.Printer

/-!
Result rows as comma-separated values.

Output is made of atoms: characters, and pairs of quotes that are never torn apart. A buffer gathers
them and is handed on when the next piece does not fit.
-/

namespace AskSql.Csv

def quote : Char := '\x22'

def needsQuotes (c : Char) : Bool := c = ',' || c = quote || c = '\r' || c = '\n'

abbrev Atom := List Char

def quotedAtom (c : Char) : Atom := if c = quote then [quote, quote] else [c]

def fieldAtoms (field : List Char) : List Atom :=
  if field.any needsQuotes then [quote] :: field.map quotedAtom ++ [[quote]]
  else field.map ([·])

/-- A record that would be an empty line is written as an empty quoted field. -/
def recordAtoms (fields : List (List Char)) : List Atom :=
  let atoms := (fields.map fieldAtoms).intersperse [[',']] |>.flatten
  (if atoms.isEmpty then [[quote, quote]] else atoms) ++ [['\n']]

def atomsOf (records : List (List (List Char))) : List Atom := records.flatMap recordAtoms

def cellText : Option Json → String
  | none => ""
  | some .null => ""
  | some v => v.plainText

def records (rows : List Row) (columns : List String) : List (List String) :=
  columns :: rows.map fun r => columns.map fun c => cellText (r.cell? c)

def atoms (rows : List Row) (columns : List String) : List Atom :=
  atomsOf ((records rows columns).map (·.map String.toList))

def text (rows : List Row) (columns : List String) : String :=
  String.ofList (atoms rows columns).flatten

def capacity : Nat := 8192

def pieces (atom : Atom) : List (List UInt8) :=
  match atom with
  | [c] => (String.utf8EncodeChar c).map ([·])
  | cs => [cs.flatMap String.utf8EncodeChar]

/-- The fillings of a buffer in turn; `held` bytes, `filled` in number, are kept backwards. -/
def fillings (size : Nat) (held : List UInt8) (filled : Nat) :
    List (List UInt8) → List (List UInt8)
  | [] => [held.reverse]
  | p :: rest =>
    if filled + p.length ≤ size then fillings size (p.reverse ++ held) (filled + p.length) rest
    else held.reverse :: fillings size p.reverse p.length rest

/-- Accepts writes as long as no more than `room` bytes come in all. -/
structure Sink where
  room : Nat
  accepted : List UInt8 := []

def Sink.accept? (s : Sink) (bytes : List UInt8) : Option Sink :=
  if s.accepted.length + bytes.length ≤ s.room then
    some { s with accepted := s.accepted ++ bytes }
  else none

def refusal : String := "no room"

/-- The last filling reaches the sink in the final flush, all others while records are written. -/
def pour (s : Sink) : List (List UInt8) → Except QueryError Unit × Sink
  | [] => (.ok (), s)
  | [last] =>
    match s.accept? last with
    | some s => (.ok (), s)
    | none => (.error (.file refusal), s)
  | filling :: rest =>
    match s.accept? filling with
    | some s => pour s rest
    | none => (.error (.csv refusal), s)

def write (s : Sink) (rows : List Row) (columns : List String) : Except QueryError Unit × Sink :=
  pour s (fillings capacity [] 0 ((atoms rows columns).flatMap pieces))

end AskSql.Csv
