namespace AskSql

inductive Number
  | int (n : Int)
  | float (x : Float)
  deriving DecidableEq

inductive Json
  | null
  | bool (b : Bool)
  | num (n : Number)
  | str (s : String)
  | arr (items : List Json)
  | obj (members : List (String × Json))

instance : Inhabited Json := ⟨.null⟩

namespace Json

def int (n : Int) : Json := .num (.int n)

def nat (n : Nat) : Json := .num (.int n)

def opt (f : α → Json) : Option α → Json
  | none => .null
  | some a => f a

def strings (l : List String) : Json := .arr (l.map .str)

def get (key : String) : Json → Json
  | .obj members => (members.lookup key).getD .null
  | _ => .null

def item (i : Nat) : Json → Json
  | .arr items => items.getD i .null
  | _ => .null

def str? : Json → Option String
  | .str s => some s
  | _ => none

def isNull : Json → Bool
  | .null => true
  | _ => false

end Json

def insertKey (key : String) (value : α) : List (String × α) → List (String × α)
  | [] => [(key, value)]
  | (k, v) :: rest =>
    if key < k then (key, value) :: (k, v) :: rest
    else if key = k then (key, value) :: rest
    else (k, v) :: insertKey key value rest

def sortKeys (members : List (String × α)) : List (String × α) :=
  members.foldl (fun sorted m => insertKey m.1 m.2 sorted) []

end AskSql
