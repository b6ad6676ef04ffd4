import AskSql.Cache.Snapshot
import AskSql.Error
import AskSql.Files.Basic

/-!
The history and the cache in their files.

The history is needed, so that whatever is wrong with its file is an error. The cache is not: a file
that cannot be read counts as none, and one that cannot be written is left alone.
-/

namespace AskSql

def memoryName : String := ":memory:"

def QueryError.ofFile (t : FileTrouble) : QueryError := .file t.message

def notADatabase : QueryError :=
  .store ["file is not a database", "Error code 26: File opened that is not a database file"]

namespace Files

def openHistory (f : Files) (name : String) : Except QueryError (History × Files) :=
  if name = memoryName then .ok ({}, f)
  else
    let p := Path.ofText name
    match f.makeParent p with
    | .error t => .error (.ofFile t)
    | .ok f =>
      match f.entry? p.names with
      | some .directory =>
        .error (.history
          ("Failed to open history database: unable to open database file: " ++ name))
      | some (.database h) => .ok (h, f)
      | some (.text s) => if s = "" then .ok ({}, f.put p.names (.database {})) else .error notADatabase
      | none => .ok ({}, f.put p.names (.database {}))

def saveHistory (f : Files) (name : String) (h : History) : Files :=
  if name = memoryName then f else f.put (Path.ofText name).names (.database h)

def snapshot (f : Files) (name : String) : Snapshot := .file (f.read (.ofText name)).toOption

def saveSnapshot (f : Files) (name : String) (s : Snapshot) : Files :=
  match s with
  | .file (some text) =>
    if f.snapshot name = s then f
    else
      let p := Path.ofText name
      let written := do (← f.makeParent p).write p (.text text)
      written.toOption.getD f
  | _ => f

end Files

end AskSql
