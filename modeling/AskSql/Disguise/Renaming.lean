import AskSql.Disguise.NameIndex
import AskSql.Sql.Token

/-!
Renaming in a text, token by token.

A name behind `q.` is looked up in the table that `q` names, itself or as an alias; any other name is
a table, or a column of one of the tables that the statement mentions.
-/

namespace AskSql

open Sql (Token)

def clauseWords : List String :=
  ["ON", "WHERE", "JOIN", "INNER", "LEFT", "RIGHT", "FULL", "CROSS", "OUTER", "NATURAL", "GROUP",
   "ORDER", "LIMIT", "OFFSET", "HAVING", "UNION", "EXCEPT", "INTERSECT", "SET", "VALUES", "USING",
   "WINDOW", "RETURNING", "FOR", "LATERAL", "AND", "OR", "SELECT", "FROM", "AS", "WHEN", "THEN",
   "ELSE", "END", "FETCH"]

def asciiUpper (w : List Char) : List Char := w.map Char.toUpper

def isClauseWord : Token → Bool
  | .word w => clauseWords.any fun k => k.toList = asciiUpper w
  | _ => false

def isAs : Token → Bool
  | .word w => asciiUpper w = ['A', 'S']
  | _ => false

/-- The tables that a statement mentions, in order, and its aliases, the latest first. -/
structure Scope where
  tables : List (List Char) := []
  aliases : List (List Char × List Char) := []
  deriving DecidableEq

namespace Scope

def mention (s : Scope) (key : List Char) : Scope :=
  if s.tables.contains key then s else { s with tables := s.tables ++ [key] }

def bind (s : Scope) (given key : List Char) : Scope :=
  { s with aliases := (given, key) :: s.aliases }

def alias? (index : NameIndex) (behind : List Token) : Option (List Char) :=
  let next := behind.dropWhile Token.isTrivia
  let candidate :=
    match next with
    | [] => none
    | t :: rest => if isAs t then (rest.dropWhile Token.isTrivia).head? else some t
  match candidate with
  | none => none
  | some t =>
    match t.name? with
    | none => none
    | some name =>
      let key := Unicode.lower name
      if isClauseWord t || index.hasTable key then none else some key

/-- A table before a dot qualifies a column and has no alias there. -/
def ofTable (index : NameIndex) (s : Scope) (key : List Char) (behind : List Token) : Scope :=
  let s := s.mention key
  if behind.head?.any Token.isDot then s
  else
    match alias? index behind with
    | some given => s.bind given key
    | none => s

def collect (index : NameIndex) (s : Scope) : List Token → Scope
  | [] => s
  | t :: rest =>
    match t.name? with
    | none => collect index s rest
    | some name =>
      let key := Unicode.lower name
      if index.hasTable key then collect index (ofTable index s key rest) rest
      else collect index s rest

def table? (index : NameIndex) (s : Scope) (qualifier : List Char) : Option (List Char) :=
  let key := Unicode.lower qualifier
  if index.hasTable key then some key else s.aliases.lookup key

/-- Where a column without a qualifier is looked for. -/
def search (index : NameIndex) (s : Scope) : List (List Char) :=
  if s.tables.isEmpty then index.order else s.tables

end Scope

def scopeOf (index : NameIndex) (ts : List Token) : Scope := Scope.collect index {} ts

def qualifier? : List Token → Option (List Char)
  | dot :: t :: _ => if dot.isDot then t.name? else none
  | _ => none

/-- The new name for a name; `before` holds the tokens before it, the last one first. -/
def newName? (index : NameIndex) (s : Scope) (before : List Token) (name : List Char) :
    Option (List Char) :=
  match (qualifier? before).bind (s.table? index) with
  | some key => (index.columnOf? key name).or (index.table? name)
  | none => (index.table? name).or (index.columnAmong? (s.search index) name)

def renameFrom (index : NameIndex) (s : Scope) (before : List Token) :
    List Token → List Token
  | [] => []
  | t :: rest =>
    (match t.name? with
      | none => t
      | some name => t.rename ((newName? index s before name).getD name)) ::
      renameFrom index s (t :: before) rest

def NameIndex.rename (index : NameIndex) (text : List Char) : List Char :=
  let ts := Sql.tokens text
  Sql.source (renameFrom index (scopeOf index ts) [] ts)

end AskSql
