import AskSql.Json.Decode
import AskSql.Time.Stamp

namespace AskSql

structure HistoryItem where
  id : String
  question : String
  sql : String
  timestamp : Int
  resultCount : Nat := 0
  executionTime : Option Nat := none
  isFavorite : Bool := false
  deriving DecidableEq

namespace HistoryItem

def toJson (i : HistoryItem) : Json :=
  .obj ([("id", .str i.id), ("question", .str i.question), ("sql", .str i.sql),
    ("timestamp", .int i.timestamp), ("resultCount", .nat i.resultCount)] ++
    (match i.executionTime with
      | none => []
      | some ms => [("executionTime", .nat ms)]) ++
    [("isFavorite", .bool i.isFavorite)])

def reader : Json.Reader HistoryItem :=
  Json.record "struct HistoryItem" <|
    HistoryItem.mk <$> Json.required "id" .string <*> Json.required "question" .string <*>
      Json.required "sql" .string <*> Json.required "timestamp" .int64 <*>
      Json.defaulted "resultCount" .size 0 <*>
      Json.defaulted "executionTime" (.option .word64) none <*>
      Json.defaulted "isFavorite" .bool false

def whenText (i : HistoryItem) : String :=
  match Instant.make? (i.timestamp / 1000) 0 with
  | none => ""
  | some t =>
    let minute := t.secondOfDay / 60
    String.ofList (Stamp.dateText t.date ++ ' ' :: Stamp.padded 2 (minute / 60) ++
      ':' :: Stamp.padded 2 (minute % 60))

def listing (i : HistoryItem) : List String :=
  [(if i.isFavorite then "*" else " ") ++ " " ++ i.id ++ "  " ++ i.whenText ++ "  " ++ i.question ++
     " (" ++ toString i.resultCount ++ " rows)",
   "    " ++ i.sql]

end HistoryItem

end AskSql
