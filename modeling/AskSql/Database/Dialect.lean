import AskSql.Error
import AskSql.Json.Decode
import AskSql.Text.Chars

namespace AskSql

inductive Dialect
  | postgresql
  | mysql
  deriving DecidableEq, Repr

namespace Dialect

def name : Dialect → String
  | .postgresql => "postgresql"
  | .mysql => "mysql"

def title (d : Dialect) : String := upperCase d.name

def ofUrl? (url : String) : Option Dialect :=
  if opensWith url "postgresql://" || opensWith url "postgres://" then some .postgresql
  else if opensWith url "mysql://" then some .mysql
  else none

def unknownText : String :=
  "Could not detect database type. Use postgresql:// or mysql:// prefix."

def ofName (text : String) : Except QueryError Dialect :=
  let key := lowerCase text
  if ["postgresql", "postgres", "pg"].contains key then .ok .postgresql
  else if key = "mysql" then .ok .mysql
  else .error (.config ("Unsupported database type: " ++ key))

def named : List (String × Dialect) := [("postgresql", .postgresql), ("mysql", .mysql)]

def toJson (d : Dialect) : Json := .str d.name

def reader : Json.Reader Dialect := .enum named

end Dialect

end AskSql
