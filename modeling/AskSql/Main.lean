import AskSql.Cli.Names
import AskSql.Cli.Run
import Std.Time.DateTime.Timestamp

/-!
The program at the command line.

It works on the files that its arguments name. There is no network here: no model answers, and no
database server takes a log-in. The file of the history holds its exported text.
-/

namespace AskSql.Cli

/-- Nobody is there to answer. -/
def alone : Outside Unit Unit where
  endpoint := fun _ s => (some .dropped, s)
  server _ :=
    let unreachable := ConnectionFault.trouble "error communicating with database: no network"
    { login := fun s => (.error unreachable, s)
      command := fun _ s => (.error unreachable, s)
      plain := fun _ s => ({ ending := .broken unreachable }, s)
      prepared := fun _ _ s => ({ ending := .broken unreachable }, s)
      describe := fun _ s => (.error unreachable, s) }

def findEntry (isHistory : Bool) (name : String) : IO (Option Entry) := do
  try
    let bytes ← IO.FS.readBinFile name
    match String.fromUTF8? bytes with
    | none => return some (.database {})
    | some text =>
      match isHistory, History.imported? text with
      | true, some h => return some (.database h)
      | _, _ => return some (.text text)
  catch
    | .noFileOrDirectory .. => return none
    | _ => return some .directory

def nameOf (names : List String) : String :=
  match names with
  | "/" :: rest => "/" ++ "/".intercalate rest
  | names => "/".intercalate names

def loadPath (historyFile : String) (f : Files) (name : String) : IO Files := do
  let p := Path.ofText name
  let mut f := f
  for names in (Files.above p.names).drop 1 ++ [p.names] do
    if (f.entry? names).isNone then
      let isHistory : Bool := names = (Path.ofText historyFile).names
      if let some e ← findEntry isHistory (nameOf names) then
        f := f.put names e
  return f

def storeEntry (names : List String) : Entry → IO Unit
  | .directory => IO.FS.createDirAll (nameOf names)
  | .text s => IO.FS.writeFile (nameOf names) s
  | .database h => IO.FS.writeFile (nameOf names) h.exported

def storeChanges (before after : Files) : IO Unit := do
  for (names, e) in after.entries.mergeSort fun a b => a.1.length ≤ b.1.length do
    if before.entry? names ≠ some e then storeEntry names e

def environment : IO Env := do
  let found ← variableNames.filterMapM fun name => do
    return (← IO.getEnv name).map (name, ·)
  return found

def currentMoment : IO Moment := do
  let now ← Std.Time.Timestamp.now
  let nanos := now.toNanosecondsSinceUnixEpoch.toInt
  let bytes ← IO.getRandomBytes 16
  return { now := (Instant.epoch.after? nanos).getD .epoch, freshId := idOfBytes bytes.data.toList }

def start (args : List String) : IO UInt32 := do
  let names := match parse args with
    | .ok i => i.files
    | .error _ => []
  let historyFile := match parse args with
    | .ok i => i.historyFile
    | .error _ => defaultHistoryFile
  let before ← names.foldlM (loadPath historyFile) {}
  let setting := { outside := alone, env := ← environment, moment := ← currentMoment }
  let (report, w) := run setting args { files := before, chat := (), servers := () }
  storeChanges before w.files
  IO.print report.printed
  IO.eprint report.complained
  return UInt32.ofNat report.code

end AskSql.Cli

def main (args : List String) : IO UInt32 := AskSql.Cli.start args
