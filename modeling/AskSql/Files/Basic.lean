import AskSql.History.Basic

namespace AskSql

structure Path where
  names : List String
  endsInSlash : Bool := false
  deriving DecidableEq

namespace Path

def rootName : String := "/"

def step (names : List String) (name : String) : List String :=
  if name = "" ∨ name = "." then names
  else if name = ".." then names.dropLast
  else names ++ [name]

def ofText (s : String) : Path :=
  let parts := (Text.splitOn '/' s.toList).map String.ofList
  let start := if opensWith s rootName then [rootName] else []
  { names := parts.foldl step start, endsInSlash := parts.getLast? = some "" ∧ parts ≠ [""] }

end Path

inductive Entry
  | directory
  | text (s : String)
  | database (h : History)
  deriving DecidableEq

inductive FileTrouble
  | missing
  | occupied
  | notDirectory
  | isDirectory
  | notText
  deriving DecidableEq, Repr

def FileTrouble.message : FileTrouble → String
  | .missing => "No such file or directory (os error 2)"
  | .occupied => "File exists (os error 17)"
  | .notDirectory => "Not a directory (os error 20)"
  | .isDirectory => "Is a directory (os error 21)"
  | .notText => "stream did not contain valid UTF-8"

structure Files where
  entries : List (List String × Entry) := []

namespace Files

def entry? (f : Files) : List String → Option Entry
  | [] => some .directory
  | names => f.entries.lookup names

def put (f : Files) (names : List String) (e : Entry) : Files :=
  ⟨(names, e) :: f.entries.filter (·.1 ≠ names)⟩

def above (names : List String) : List (List String) :=
  (List.range names.length).map names.take

def checkDirectory (f : Files) (names : List String) : Except FileTrouble Unit :=
  match f.entry? names with
  | some .directory => .ok ()
  | some _ => .error .notDirectory
  | none => .error .missing

def find (f : Files) (names : List String) : Except FileTrouble (Option Entry) := do
  (above names).forM f.checkDirectory
  .ok (f.entry? names)

def read (f : Files) (p : Path) : Except FileTrouble String := do
  match ← f.find p.names with
  | none => .error .missing
  | some .directory => .error .isDirectory
  | some (.text s) => if p.endsInSlash then .error .notDirectory else .ok s
  | some (.database _) => .error (if p.endsInSlash then .notDirectory else .notText)

def write (f : Files) (p : Path) (e : Entry) : Except FileTrouble Files := do
  match ← f.find p.names with
  | some .directory => .error .isDirectory
  | _ => if p.endsInSlash then .error .isDirectory else .ok (f.put p.names e)

def makeDirectory (whole : List String) (f : Files) (names : List String) :
    Except FileTrouble Files :=
  match f.entry? names with
  | none => .ok (f.put names .directory)
  | some .directory => .ok f
  | some _ => .error (if names = whole then .occupied else .notDirectory)

def makeDirectories (f : Files) (names : List String) : Except FileTrouble Files :=
  (above names ++ [names]).foldlM (makeDirectory names) f

def makeParent (f : Files) (p : Path) : Except FileTrouble Files := f.makeDirectories p.names.dropLast

end Files

end AskSql
