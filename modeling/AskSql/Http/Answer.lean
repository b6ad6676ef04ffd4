import AskSql.Digest.Bytes
import AskSql.Json.Printer

namespace AskSql.Http

structure Answer where
  status : Nat
  contentType : String
  body : String
  deriving DecidableEq

namespace Answer

def json (status : Nat) (v : Json) : Answer :=
  { status, contentType := "application/json", body := v.sorted.compact }

def error (status : Nat) (message : String) : Answer :=
  json status (.obj [("success", .bool false), ("error", .str message)])

def statusText : Nat → String
  | 200 => "OK"
  | 204 => "No Content"
  | 400 => "Bad Request"
  | 404 => "Not Found"
  | 499 => "Client Closed Request"
  | _ => "Internal Server Error"

def head (a : Answer) : List String :=
  ["HTTP/1.1 " ++ toString a.status ++ " " ++ statusText a.status,
   "Content-Type: " ++ a.contentType,
   "Access-Control-Allow-Origin: *",
   "Access-Control-Allow-Methods: GET, POST, OPTIONS",
   "Access-Control-Allow-Headers: Content-Type",
   "Content-Length: " ++ toString a.body.utf8ByteSize,
   "Connection: close"]

def text (a : Answer) : String := String.join (a.head.map (· ++ "\r\n")) ++ "\r\n" ++ a.body

end Answer

end AskSql.Http
