import AskSql.Decimal.Reading
import AskSql.Decimal.Width
import AskSql.Text.Chars
import AskSql.Text.Utf8

/-!
Requests as they are read from a connection.

Bytes arrive in chunks, cut anywhere. The head ends with the first blank line; the body has as many
bytes as the head announces.
-/

namespace AskSql.Http

structure Message where
  method : String
  path : String
  body : List UInt8
  deriving DecidableEq

inductive Refusal
  | headTooLarge
  | incomplete
  | malformedLine
  | badLength
  | bodyTooLarge
  | incompleteBody
  deriving DecidableEq, Repr

def Refusal.message : Refusal → String
  | .headTooLarge => "Request headers too large"
  | .incomplete => "Incomplete request"
  | .malformedLine => "Malformed request line"
  | .badLength => "Invalid Content-Length"
  | .bodyTooLarge => "Request body too large"
  | .incompleteBody => "Incomplete request body"

def maxHeadBytes : Nat := 64 * 1024

def maxBodyBytes : Nat := 8 * 1024 * 1024

abbrev Chunks := List (List UInt8)

def blankLine : List UInt8 := [13, 10, 13, 10]

/-- What stands before the first blank line, and what stands behind it. -/
def splitHead? : List UInt8 → Option (List UInt8 × List UInt8)
  | [] => none
  | b :: rest =>
    if blankLine.isPrefixOf (b :: rest) then some ([], (b :: rest).drop 4)
    else (splitHead? rest).map fun (head, behind) => (b :: head, behind)

structure Head where
  method : String
  path : String
  length : Nat
  deriving DecidableEq

def dropReturn (l : List Char) : List Char := (Text.dropEnd? ['\r'] l).getD l

def lines (s : List Char) : List (List Char) :=
  let parts := Text.splitOn '\n' s
  let last := parts.getLast?.getD []
  parts.dropLast.map dropReturn ++ if last.isEmpty then [] else [last]

/-- The target without its query and without slashes at its end. -/
def pathOf (target : List Char) : String :=
  let path := ((target.takeWhile (· ≠ '?')).reverse.dropWhile (· = '/')).reverse
  if path.isEmpty then "/" else String.ofList path

def header? (l : List Char) : Option (List Char × List Char) :=
  (Text.splitOnce ':' l).map fun (name, value) => (Unicode.lower (Text.trim name), Text.trim value)

/-- The announced length; of several lines the last one counts. -/
def lengthOf (headers : List (List Char)) : Except Refusal Nat :=
  match (headers.filterMap header?).reverse.lookup "content-length".toList with
  | none => .ok 0
  | some value =>
    match Decimal.natural? value with
    | some n => if Width.isWord 64 n then .ok n else .error .badLength
    | none => .error .badLength

def Head.ofBytes (bytes : List UInt8) : Except Refusal Head :=
  let ls := lines (Utf8.lossy bytes)
  match Text.blankWords (ls.headD []) with
  | method :: target :: _ => do
    let length ← lengthOf (ls.drop 1)
    if maxBodyBytes < length then .error .bodyTooLarge
    else .ok { method := String.ofList method, path := pathOf target, length }
  | _ => .error .malformedLine

def readHead (buffer : List UInt8) (chunks : Chunks) :
    Except Refusal (Option (List UInt8 × List UInt8 × Chunks)) :=
  match splitHead? buffer with
  | some (head, behind) => .ok (some (head, behind, chunks))
  | none =>
    if maxHeadBytes < buffer.length then .error .headTooLarge
    else
      match chunks with
      | [] | [] :: _ => if buffer.isEmpty then .ok none else .error .incomplete
      | c :: rest => readHead (buffer ++ c) rest

/-- Takes chunks until the body is there; what lies behind it is dropped. -/
def readBody (length : Nat) (buffer : List UInt8) (chunks : Chunks) : Except Refusal (List UInt8) :=
  if length ≤ buffer.length then .ok (buffer.take length)
  else
    match chunks with
    | [] | [] :: _ => .error .incompleteBody
    | c :: rest => readBody length (buffer ++ c) rest

def read (chunks : Chunks) : Except Refusal (Option Message) := do
  match ← readHead [] chunks with
  | none => .ok none
  | some (head, behind, rest) =>
    let h ← Head.ofBytes head
    let body ← readBody h.length behind rest
    .ok (some { method := h.method, path := h.path, body })

def chunkBytes : Nat := 4096

def chunked (n : Nat) : List UInt8 → Chunks
  | [] => []
  | b :: rest => (b :: rest.take n) :: chunked n (rest.drop n)
termination_by bytes => bytes.length
decreasing_by simp only [List.length_drop, List.length_cons]; omega

end AskSql.Http
