import AskSql.Decimal.Reading
import AskSql.Decimal.Width
import AskSql.Text.Chars

namespace AskSql.Cli

structure AskOptions where
  question : String
  url : Option String := none
  schemaFile : Option String := none
  allowWrites : Bool := false
  locale : String := "en"
  privacy : Bool := false
  anonymize : Bool := false
  csvFile : Option String := none
  maxRepairs : Option Nat := none
  deriving DecidableEq

inductive HistoryAction
  | list
  | favorites
  | search (text : String)
  | favorite (id : String)
  | delete (id : String)
  | clear (all : Bool)
  | exportTo (file : Option String)
  | importFrom (file : String)
  deriving DecidableEq

inductive Command
  | connect (url saveSchema : Option String)
  | ask (o : AskOptions)
  | demo
  | history (a : HistoryAction)
  deriving DecidableEq

def defaultHistoryFile : String := ".humanql/history.db"

def defaultCacheFile : String := ".humanql/cache.json"

structure Invocation where
  historyFile : String := defaultHistoryFile
  cacheFile : String := defaultCacheFile
  command : Command
  deriving DecidableEq

inductive Halt
  | version
  | help
  | misuse
  deriving DecidableEq, Repr

structure Level where
  valued : List (String × (String → Bool))
  flags : List String := []
  halts : List (String × Halt) := [("--help", .help), ("-h", .help)]

structure Words where
  valued : List (String × String) := []
  flags : List String := []
  free : List String := []
  deriving DecidableEq

def looksLikeOption (word : String) : Bool := opensWith word "-" && word ≠ "-"

def splitOption (word : String) : String × Option String :=
  match Text.splitOnce '=' word.toList with
  | some (name, value) =>
    if opensWith word "--" then (String.ofList name, some (String.ofList value)) else (word, none)
  | none => (word, none)

namespace Words

def addValued (w : Words) (admits : String → Bool) (name value : String) : Except Halt Words :=
  if (w.valued.lookup name).isSome ∨ ¬admits value then .error .misuse
  else .ok { w with valued := w.valued ++ [(name, value)] }

def addFlag (w : Words) (name : String) : Except Halt Words :=
  if w.flags.contains name then .error .misuse else .ok { w with flags := w.flags ++ [name] }

end Words

/-- Reads the words of a level. With `stops` the first free word and all behind it belong to the next
level. -/
def Level.scan (l : Level) (stops : Bool) : Words → List String → Except Halt Words
  | w, [] => .ok w
  | w, "--" :: rest =>
    if stops then .error .misuse else .ok { w with free := w.free ++ rest }
  | w, word :: rest =>
    if !looksLikeOption word then
      if stops then .ok { w with free := word :: rest }
      else l.scan stops { w with free := w.free ++ [word] } rest
    else
      let (name, attached) := splitOption word
      match l.halts.lookup word, l.valued.lookup name, attached, rest with
      | some h, _, _, _ => .error h
      | none, some admits, some value, rest => do l.scan stops (← w.addValued admits name value) rest
      | none, some admits, none, value :: more =>
        if looksLikeOption value then .error .misuse
        else do l.scan stops (← w.addValued admits name value) more
      | none, some _, none, [] => .error .misuse
      | none, none, _, rest =>
        if l.flags.contains word then do l.scan stops (← w.addFlag word) rest
        else .error .misuse

def anyText (_ : String) : Bool := true

def isFileName (s : String) : Bool := s ≠ ""

def count? (s : String) : Option Nat :=
  (Decimal.integer? s.toList).bind fun n => if 0 ≤ n ∧ Width.isWord 32 n.toNat then some n.toNat else none

def sharedOptions : List (String × (String → Bool)) :=
  [("--history-db", isFileName), ("--cache-file", isFileName)]

def rootLevel : Level :=
  { valued := sharedOptions
    halts := [("--version", .version), ("-V", .version), ("--help", .help), ("-h", .help)] }

def plainLevel : Level := { valued := sharedOptions }

def connectLevel : Level :=
  { valued := [("--url", anyText), ("--save-schema", isFileName)] ++ sharedOptions }

def askLevel : Level :=
  { valued :=
      [("--url", anyText), ("--schema", isFileName), ("--locale", anyText), ("--csv", isFileName),
       ("--max-repairs", fun s => (count? s).isSome)] ++ sharedOptions
    flags := ["--allow-writes", "--privacy", "--anonymize"] }

def clearLevel : Level := { valued := sharedOptions, flags := ["--all"] }

namespace Words

def value? (w : Words) (name : String) : Option String := w.valued.lookup name

def has (w : Words) (flag : String) : Bool := w.flags.contains flag

def connect? (w : Words) : Option Command :=
  if w.free.isEmpty then some (.connect (w.value? "--url") (w.value? "--save-schema")) else none

def ask? (w : Words) : Option Command :=
  match w.free with
  | [question] =>
    some (.ask
      { question, url := w.value? "--url", schemaFile := w.value? "--schema"
        allowWrites := w.has "--allow-writes", locale := (w.value? "--locale").getD "en"
        privacy := w.has "--privacy", anonymize := w.has "--anonymize"
        csvFile := w.value? "--csv", maxRepairs := (w.value? "--max-repairs").bind count? })
  | _ => none

def action? (w : Words) (name : String) : Option HistoryAction :=
  match name, w.free with
  | "list", [] => some .list
  | "favorites", [] => some .favorites
  | "search", [text] => some (.search text)
  | "favorite", [id] => some (.favorite id)
  | "delete", [id] => some (.delete id)
  | "clear", [] => some (.clear (w.has "--all"))
  | "export", [] => some (.exportTo none)
  | "export", [file] => if isFileName file then some (.exportTo (some file)) else none
  | "import", [file] => if isFileName file then some (.importFrom file) else none
  | _, _ => none

end Words

def orMisuse : Option α → Except Halt α
  | some a => .ok a
  | none => .error .misuse

abbrev Given (α : Type) := α × List (String × String)

def parseAction : List String → Except Halt (Given HistoryAction)
  | [] => .error .misuse
  | name :: rest => do
    let w ← (if name = "clear" then clearLevel else plainLevel).scan false {} rest
    .ok (← orMisuse (w.action? name), w.valued)

def parseCommand : List String → Except Halt (Given Command)
  | "connect" :: rest => do
    let w ← connectLevel.scan false {} rest
    .ok (← orMisuse w.connect?, w.valued)
  | "ask" :: rest => do
    let w ← askLevel.scan false {} rest
    .ok (← orMisuse w.ask?, w.valued)
  | "demo" :: rest => do
    let w ← plainLevel.scan false {} rest
    .ok (← orMisuse (if w.free.isEmpty then some .demo else none), w.valued)
  | "history" :: rest => do
    let w ← plainLevel.scan true {} rest
    let (action, deeper) ← parseAction w.free
    .ok (.history action, deeper ++ w.valued)
  | _ => .error .misuse

def parse (args : List String) : Except Halt Invocation := do
  let w ← rootLevel.scan true {} args
  let (command, deeper) ← parseCommand w.free
  let shared := deeper ++ w.valued
  .ok
    { historyFile := (shared.lookup "--history-db").getD defaultHistoryFile
      cacheFile := (shared.lookup "--cache-file").getD defaultCacheFile
      command }

end AskSql.Cli
