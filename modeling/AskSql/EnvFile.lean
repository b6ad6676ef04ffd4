import AskSql.Files.Basic
import AskSql.Model.Config
import AskSql.Unicode.Letter
import AskSql.Unicode.Number

namespace AskSql.EnvFile

/-- Where a value is being read: in bare or weakly quoted text, between strong quotes, behind a
backslash, in the name of a variable, or behind the value. -/
inductive Mode
  | text
  | strong
  | escape
  | name (reversed : List Char)
  | braced (reversed : List Char)
  | behind
  | comment

structure Scan where
  reversed : List Char := []
  quoted : Bool := false
  mode : Mode := .text

def isNameChar (c : Char) : Bool := Unicode.isAlphabetic c || Unicode.isNumber c

def unescape? : Char → Option Char
  | '\\' => some '\\'
  | '\x27' => some '\x27'
  | '\x22' => some '\x22'
  | '$' => some '$'
  | ' ' => some ' '
  | 'n' => some '\n'
  | _ => none

namespace Scan

def push (s : Scan) (c : Char) : Scan := { s with reversed := c :: s.reversed, mode := .text }

def substitute (env : Env) (s : Scan) (name : List Char) : Scan :=
  let value := (env.get? (String.ofList name.reverse)).getD ""
  { s with reversed := value.toList.reverse ++ s.reversed, mode := .text }

def stepText (s : Scan) (c : Char) : Scan :=
  if c = '$' then { s with mode := .name [] }
  else if c = '\x22' then { s with quoted := !s.quoted }
  else if c = '\\' then { s with mode := .escape }
  else if s.quoted then s.push c
  else if c = '\x27' then { s with mode := .strong }
  else if c = ' ' ∨ c = '\t' then { s with mode := .behind }
  else s.push c

def step (env : Env) (s : Scan) (c : Char) : Option Scan :=
  match s.mode with
  | .text => some (s.stepText c)
  | .strong => some (if c = '\x27' then { s with mode := .text } else { s.push c with mode := .strong })
  | .escape => (unescape? c).map s.push
  | .name n =>
    if isNameChar c then some { s with mode := .name (c :: n) }
    else if c = '\x7b' ∧ n = [] then some { s with mode := .braced [] }
    else if c = '$' then some { s.substitute env n with mode := .name [] }
    else some ((s.substitute env n).push c)
  | .braced n =>
    if c = '\x7d' then some (s.substitute env n) else some { s with mode := .braced (c :: n) }
  | .behind =>
    if c = ' ' ∨ c = '\t' then some s else if c = '#' then some { s with mode := .comment } else none
  | .comment => some s

/-- What is open at the end of the line makes it unreadable, except for a backslash. -/
def finish? (env : Env) (s : Scan) : Option (List Char) :=
  match s.mode with
  | .strong | .braced _ => none
  | .name n => if s.quoted then none else some (s.substitute env n).reversed.reverse
  | _ => if s.quoted then none else some s.reversed.reverse

end Scan

def value? (env : Env) (s : List Char) : Option String :=
  ((s.foldlM (Scan.step env) {}).bind (Scan.finish? env)).map String.ofList

inductive Line
  | blank
  | assignment (name value : String)

def key? : List Char → Option (String × List Char)
  | [] => none
  | c :: rest =>
    let inKey (d : Char) : Bool := d.isAlphanum || d = '_' || d = '.'
    if c.isAlpha ∨ c = '_' then
      some (String.ofList (c :: rest.takeWhile inKey), Text.trimStart (rest.dropWhile inKey))
    else none

def assigned? (s : List Char) : Option (String × List Char) := do
  let (name, rest) ← key? s
  match name, rest with
  | name, '=' :: more => some (name, Text.trimStart more)
  | "export", rest =>
    let (name, rest) ← key? rest
    match rest with
    | '=' :: more => some (name, Text.trimStart more)
    | _ => none
  | _, _ => none

def isEmpty (s : List Char) : Bool := s.isEmpty || s.head? = some '#'

def line? (env : Env) (s : List Char) : Option Line :=
  let s := Text.trim s
  if isEmpty s then some .blank
  else do
    let (name, rest) ← assigned? s
    if isEmpty rest then some (.assignment name "")
    else some (.assignment name (← value? env rest))

def define (env : Env) (name value : String) : Env :=
  match env.get? name with
  | some _ => env
  | none => env ++ [(name, value)]

def extend (env : Env) : List (List Char) → Env
  | [] => env
  | s :: rest =>
    match line? env s with
    | none => env
    | some .blank => extend env rest
    | some (.assignment name value) => extend (define env name value) rest

def fileName : String := ".env"

def load (f : Files) (env : Env) : Env :=
  match f.read (.ofText fileName) with
  | .ok text => extend env (Text.splitOn '\n' text.toList)
  | .error _ => env

end AskSql.EnvFile
