import AskSql.Database.Row
import AskSql.Time.Stamp

namespace AskSql

open Json (Reader Fields Label Node)

structure CachedResult where
  sql : String
  rows : List Row
  columns : List String
  summary : Option String

structure CacheEntry where
  result : CachedResult
  createdAt : Instant

namespace CachedResult

def members (r : CachedResult) : List (String × Json) :=
  [("sql", .str r.sql), ("rows", Row.listToJson r.rows), ("columns", .strings r.columns),
   ("summary", .opt .str r.summary)]

def toJson (r : CachedResult) : Json := .obj r.members

def fields : Fields CachedResult :=
  CachedResult.mk <$> Json.required "sql" .string <*> Json.required "rows" (.list Row.reader) <*>
    Json.required "columns" (.list .string) <*> Json.optional "summary" .string

def reader : Reader CachedResult := Json.record "struct CachedResult" fields

end CachedResult

def Instant.reader : Reader Instant
  | _, .str s left => do
    match Instant.ofText? (← s) with
    | some i => .ok i
    | none => .error ⟨.refused "input contains invalid characters", left⟩
  | _, n => .error (n.mismatch "an RFC 3339 formatted date and time string")

namespace CacheEntry

def stampName : String := "created_at"

def toJson (e : CacheEntry) : Json :=
  .obj (e.result.members ++ [(stampName, .str e.createdAt.text)])

/-- The stamp is read where it stands; all other members are set aside, once it is clear that they
are values. -/
def split (levels : Nat) (stamp : Option Instant) (others : List (Label × Node)) :
    List (Label × Node) → Except Json.Fault (Option Instant × List (Label × Node))
  | [] => .ok (stamp, others.reverse)
  | (label, n) :: rest => do
    let name ← label.name
    if name = stampName then
      match stamp with
      | some _ => .error ⟨.repeatedField stampName, label.left⟩
      | none => do
        let i ← Instant.reader levels n
        split levels (some i) others rest
    else do
      let _ ← Reader.any levels n
      split levels stamp ((label, n) :: others) rest

def reader : Reader CacheEntry
  | 0, .obj start .. => .error ⟨.tooDeep, start.drop 1⟩
  | levels + 1, .obj _ ms stop => do
    let (stamp, others) ← split levels none [] ms
    match stop, stamp with
    | .broken f, _ => .error f
    | .closed left, none => .error ⟨.missingField stampName, left⟩
    | .closed left, some createdAt => do
      let result ← CachedResult.fields.finish levels (.object others (.closed left))
      .ok { result, createdAt }
  | _, n => .error (n.mismatch "struct CacheEntry")

end CacheEntry

end AskSql
