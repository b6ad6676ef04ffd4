import AskSql.Text.Chars

namespace AskSql

structure NameIndex.Entry where
  key : List Char
  name : List Char
  columns : List (List Char × List Char) := []
  deriving DecidableEq

structure NameIndex where
  entries : List NameIndex.Entry := []
  deriving DecidableEq

namespace NameIndex

open Unicode

def entry? (index : NameIndex) (key : List Char) : Option Entry :=
  index.entries.find? (·.key = key)

def hasTable (index : NameIndex) (key : List Char) : Bool := (index.entry? key).isSome

def order (index : NameIndex) : List (List Char) := index.entries.map (·.key)

def insertTable (index : NameIndex) (source target : List Char) : NameIndex :=
  if index.hasTable (lower source) then index
  else ⟨index.entries ++ [{ key := lower source, name := target }]⟩

def Entry.insertColumn (e : Entry) (source target : List Char) : Entry :=
  if (e.columns.lookup (lower source)).isSome then e
  else { e with columns := e.columns ++ [(lower source, target)] }

/-- A column of a table that was not added goes nowhere. -/
def insertColumn (index : NameIndex) (table source target : List Char) : NameIndex :=
  ⟨index.entries.map fun e => if e.key = lower table then e.insertColumn source target else e⟩

def table? (index : NameIndex) (name : List Char) : Option (List Char) :=
  (index.entry? (lower name)).map (·.name)

def columnOf? (index : NameIndex) (key column : List Char) : Option (List Char) :=
  (index.entry? key).bind fun e => e.columns.lookup (lower column)

def column? (index : NameIndex) (table column : List Char) : Option (List Char) :=
  index.columnOf? (lower table) column

/-- The first table of a list that has the column decides. -/
def columnAmong? (index : NameIndex) (keys : List (List Char)) (column : List Char) :
    Option (List Char) :=
  keys.findSome? fun key => index.columnOf? key column

end NameIndex

end AskSql
