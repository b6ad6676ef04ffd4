import AskSql.Decimal.Width
import AskSql.History.Item
import AskSql.Json.Printer
import AskSql.Text.Chars

/-!
The history of answered questions.

It is a table whose rows stand in the order in which they were made. Each row has a number, and a
row that is refreshed gets a new one; lists show the highest number first.
-/

namespace AskSql

structure HistoryRow where
  item : HistoryItem
  number : Nat
  deriving DecidableEq

structure History where
  rows : List HistoryRow := []
  deriving DecidableEq

structure HistoryNote where
  question : String
  sql : String
  resultCount : Nat
  executionTime : Option Nat
  deriving DecidableEq

namespace History

/-- Counts and times have 63 bits; one that does not fit is read back as 0. -/
def kept (n : Nat) : Nat := if Width.isWord 63 n then n else 0

def keptItem (i : HistoryItem) : HistoryItem :=
  { i with resultCount := kept i.resultCount, executionTime := i.executionTime.map kept }

def maxItems : Nat := 50

def nextNumber (h : History) : Nat := (h.rows.map (·.number)).foldl max 0 + 1

def newestFirst (rows : List HistoryRow) : List HistoryRow :=
  rows.mergeSort fun r s => s.number ≤ r.number

def list (h : History) : List HistoryItem := (newestFirst h.rows).map (·.item)

def filter (keep : HistoryItem → Bool) (h : History) : History :=
  ⟨h.rows.filter fun r => keep r.item⟩

def modify (id : String) (f : HistoryRow → HistoryRow) (h : History) : History :=
  ⟨h.rows.map fun r => if r.item.id = id then f r else r⟩

def has (h : History) (id : String) : Bool := h.rows.any (·.item.id = id)

/-- A row with a known identifier takes the place of the old one. -/
def insert (h : History) (i : HistoryItem) (number : Nat) : History :=
  ⟨(h.filter (·.id ≠ i.id)).rows ++ [⟨keptItem i, number⟩]⟩

def trim (h : History) : History :=
  ⟨h.rows.filter fun r => h.rows.countP (r.number < ·.number) < maxItems⟩

def known? (h : History) (n : HistoryNote) : Option HistoryItem :=
  (h.rows.find? fun r => r.item.question = n.question ∧ r.item.sql = n.sql).map (·.item)

def noted (n : HistoryNote) (id : String) (now : Int) (isFavorite : Bool) : HistoryItem :=
  { id, question := n.question, sql := n.sql, timestamp := now, resultCount := n.resultCount,
    executionTime := n.executionTime, isFavorite }

/-- A statement that answered the same question before is refreshed; otherwise a row is made under a
fresh identifier. -/
def add (h : History) (now : Int) (freshId : String) (n : HistoryNote) : HistoryItem × History :=
  let number := h.nextNumber
  match h.known? n with
  | some old =>
    let item := noted n old.id now old.isFavorite
    (item, (h.modify old.id fun _ => ⟨keptItem item, number⟩).trim)
  | none =>
    let item := noted n freshId now false
    (item, (h.insert item number).trim)

def favorites (h : History) : List HistoryItem := h.list.filter (·.isFavorite)

def search (h : History) (text : String) : List HistoryItem :=
  let wanted := lowerCase text
  h.list.filter fun i => contains (lowerCase i.question) wanted || contains (lowerCase i.sql) wanted

def toggle (h : History) (id : String) : Bool × History :=
  (h.has id, h.modify id fun r => { r with item := { r.item with isFavorite := !r.item.isFavorite } })

def delete (h : History) (id : String) : Bool × History := (h.has id, h.filter (·.id ≠ id))

def clear (keepFavorites : Bool) (h : History) : History :=
  h.filter fun i => keepFavorites && i.isFavorite

def exported (h : History) : String := (Json.arr (h.list.map HistoryItem.toJson)).pretty

/-- A whole list in place of all rows, numbered in the order of their times. -/
def ofItems (items : List HistoryItem) : History :=
  let sorted := items.mergeSort fun i j => i.timestamp ≤ j.timestamp
  sorted.zipIdx.foldl (fun h (i, k) => h.insert i (k + 1)) {}

def itemOf? : Json → Option HistoryItem
  | .obj members => Json.read? HistoryItem.reader (.obj members)
  | _ => none

def itemsOf? (text : String) : Option (List HistoryItem) :=
  match Json.parse text.toList with
  | .ok (.arr items) => items.mapM itemOf?
  | _ => none

def imported? (text : String) : Option History := (itemsOf? text).map ofItems

end History

end AskSql
