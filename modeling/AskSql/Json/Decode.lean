import AskSql.Json.Node
import AskSql.Json.Printer

/-!
Reading typed values from the outline of a text.

The fault that is reported is the first one met from left to right. A record is read from an object,
by name, or from a list, by position; a name that is missing from an object is noticed where the
object is closed.
-/

namespace AskSql.Json

/-- A reader knows how many more levels of lists and objects may be opened. -/
abbrev Reader (α : Type) := Nat → Node → Except Fault α

def maxLevels : Nat := 127

def shownChar (c : Char) : List Char :=
  if c = '\x22' ∨ c = '\\' then ['\\', c]
  else if c = '\t' then ['\\', 't']
  else if c = '\n' then ['\\', 'n']
  else if c = '\r' then ['\\', 'r']
  else if c = '\x00' then ['\\', '0']
  else if c.toNat < 32 ∨ (127 ≤ c.toNat ∧ c.toNat < 160) then
    ['\\', 'u', '\x7b'] ++ Nat.toDigits 16 c.toNat ++ ['\x7d']
  else [c]

def shownText (s : String) : String :=
  String.ofList ('\x22' :: s.toList.flatMap shownChar ++ ['\x22'])

def Node.mismatch (expected : String) : Node → Fault
  | .null left => ⟨.wrongType "null" expected, left⟩
  | .bool b left => ⟨.wrongType ("boolean " ++ ticked (toString b)) expected, left⟩
  | .num (.ok (.int n)) left => ⟨.wrongType ("integer " ++ ticked (toString n)) expected, left⟩
  | .num (.ok (.float x)) left =>
    ⟨.wrongType ("floating point " ++ ticked (String.ofList (Number.floatText x))) expected, left⟩
  | .num (.error f) _ => f
  | .str (.ok s) left => ⟨.wrongType ("string " ++ shownText s) expected, left⟩
  | .str (.error f) _ => f
  | .arr start .. => ⟨.wrongType "sequence" expected, start⟩
  | .obj start .. => ⟨.wrongType "map" expected, start⟩
  | .broken strict _ => strict

namespace Reader

def string : Reader String
  | _, .str s _ => s
  | _, n => .error (n.mismatch "a string")

def bool : Reader Bool
  | _, .bool b _ => .ok b
  | _, n => .error (n.mismatch "a boolean")

def integer (low high : Int) (expected : String) : Reader Int
  | _, .num (.ok (.int n)) left =>
    if low ≤ n ∧ n ≤ high then .ok n
    else .error ⟨.wrongValue ("integer " ++ ticked (toString n)) expected, left⟩
  | _, n => .error (n.mismatch expected)

def int64 : Reader Int := integer (-Width.values 63) (Width.values 63 - 1) "i64"

def word (expected : String) : Reader Nat := fun levels n =>
  (integer 0 (Width.values 64 - 1) expected levels n).map Int.toNat

def word64 : Reader Nat := word "u64"

def size : Reader Nat := word "usize"

def option (read : Reader α) : Reader (Option α)
  | _, .null _ => .ok none
  | levels, n => (read levels n).map some

def items (read : Node → Except Fault α) : List Node → Except Fault (List α)
  | [] => .ok []
  | n :: rest => do
    let a ← read n
    let as ← items read rest
    .ok (a :: as)

def Stop.require : Stop → Except Fault Unit
  | .closed _ => .ok ()
  | .broken f => .error f

def list (read : Reader α) : Reader (List α)
  | 0, .arr start .. => .error ⟨.tooDeep, start.drop 1⟩
  | levels + 1, .arr _ ns stop => do
    let as ← items (read levels) ns
    Stop.require stop
    .ok as
  | _, n => .error (n.mismatch "a sequence")

mutual

def any (levels : Nat) : Node → Except Fault Json
  | .null _ => .ok .null
  | .bool b _ => .ok (.bool b)
  | .num n _ => n.map .num
  | .str s _ => s.map .str
  | .arr start ns stop =>
    match levels with
    | 0 => .error ⟨.tooDeep, start.drop 1⟩
    | levels + 1 => do
      let vs ← anyItems levels ns
      Stop.require stop
      .ok (.arr vs)
  | .obj start ms stop =>
    match levels with
    | 0 => .error ⟨.tooDeep, start.drop 1⟩
    | levels + 1 => do
      let vs ← anyMembers levels ms
      Stop.require stop
      .ok (.obj (sortKeys vs))
  | .broken strict _ => .error strict

def anyItems (levels : Nat) : List Node → Except Fault (List Json)
  | [] => .ok []
  | n :: rest => do
    let v ← any levels n
    let vs ← anyItems levels rest
    .ok (v :: vs)

def anyMembers (levels : Nat) : List (Label × Node) → Except Fault (List (String × Json))
  | [] => .ok []
  | (label, n) :: rest => do
    let k ← label.name
    let v ← any levels n
    let vs ← anyMembers levels rest
    .ok ((k, v) :: vs)

end

def members : Reader (List (String × Json))
  | 0, .obj start .. => .error ⟨.tooDeep, start.drop 1⟩
  | levels + 1, .obj _ ms stop => do
    let vs ← anyMembers levels ms
    Stop.require stop
    .ok (sortKeys vs)
  | _, n => .error (n.mismatch "a map")

def named (known : List (String × α)) (left : List Char) (s : String) : Except Fault α :=
  match known.lookup s with
  | some a => .ok a
  | none => .error ⟨.unknownName s (known.map Prod.fst), left⟩

/-- A name is a string, or an object whose only key it is, with the value `null`. -/
def enum (known : List (String × α)) : Reader α
  | _, .str s left => do
    let s ← s
    named known left s
  | 0, .obj start .. => .error ⟨.tooDeep, start.drop 1⟩
  | _ + 1, .obj _ ((label, value) :: more) stop => do
    let s ← label.name
    let a ← named known label.left s
    match value, more, stop with
    | .null _, [], .closed _ => .ok a
    | .null _, [], .broken ⟨.endInObject, left⟩ => .error ⟨.endInObject, left⟩
    | .null left, _, _ => .error ⟨.expectedValue, left⟩
    | n, _, _ => .error (n.mismatch "unit")
  | _ + 1, .obj start [] (.broken ⟨.keyNotString, _⟩) =>
    .error ((outline (start.drop 1)).mismatch "variant identifier")
  | _ + 1, .obj _ [] (.closed left) => .error ⟨.expectedValue, left⟩
  | _ + 1, .obj _ [] (.broken f) => .error f
  | _, .broken strict _ => .error strict
  | _, .arr start .. => .error ⟨.expectedValue, start.drop 1⟩
  | _, .null left | _, .bool _ left | _, .num _ left => .error ⟨.expectedValue, left⟩

end Reader

/-- Where the fields of a record come from. -/
inductive Source
  | object (members : List (Label × Node)) (stop : Stop)
  | list (items : List Node) (stop : Stop)

abbrev Placed := Nat × Fault

structure Fields (α : Type) where
  names : List (List String)
  build : (levels position : Nat) → Source → Except Placed α

def earliest (a b : Placed) : Placed := if a.1 ≤ b.1 then a else b

def Fields.map (f : α → β) (x : Fields α) : Fields β :=
  ⟨x.names, fun levels position source => (x.build levels position source).map f⟩

/-- Of two faults the one that stands first is kept. -/
def Fields.seq (f : Fields (α → β)) (x : Fields α) : Fields β :=
  ⟨f.names ++ x.names, fun levels position source =>
    match f.build levels position source, x.build levels (position + f.names.length) source with
    | .ok g, .ok a => .ok (g a)
    | .error p, .ok _ | .ok _, .error p => .error p
    | .error p, .error q => .error (earliest p q)⟩

instance : Functor Fields where map := Fields.map

instance : Seq Fields where seq f x := Fields.seq f (x ())

structure Absent (α : Type) where
  inObject : Option α
  inList : Option α

def Absent.never : Absent α := ⟨none, none⟩

def Absent.none : Absent (Option α) := ⟨some .none, .none⟩

def Absent.default (a : α) : Absent α := ⟨some a, some a⟩

def labelled (names : List String) (m : Label × Node) : Bool :=
  match m.1.name with
  | .ok name => names.contains name
  | .error _ => false

def Stop.fault (missing : Cause) : Stop → Fault
  | .closed left => ⟨missing, left⟩
  | .broken f => f

def field (names : List String) (read : Reader α) (absent : Absent α) : Fields α where
  names := [names]
  build levels position source :=
    match source with
    | .object ms stop =>
      match ms.findIdx? (labelled names), ms.find? (labelled names) with
      | some i, some (_, n) => (read levels n).mapError fun f => (i, f)
      | _, _ =>
        match absent.inObject with
        | some a => .ok a
        | none => .error (ms.length + 1, stop.fault (.missingField (names.headD "")))
    | .list ns stop =>
      match ns[position]? with
      | some n => (read levels n).mapError fun f => (position, f)
      | none =>
        match absent.inList, stop with
        | some a, .closed _ => .ok a
        | _, stop => .error (position, stop.fault (.wrongLength ns.length ""))

def required (name : String) (read : Reader α) : Fields α := field [name] read .never

def optional (name : String) (read : Reader α) : Fields (Option α) :=
  field [name] (Reader.option read) .none

def defaulted (name : String) (read : Reader α) (a : α) : Fields α :=
  field [name] read (.default a)

/-- Faults of members whatever the types of the fields: a broken name, a field given twice, an
unknown member that cannot be passed over. `before` holds the members already seen. -/
def memberFault? (names : List (List String)) (i : Nat) (before : List (Label × Node)) :
    List (Label × Node) → Option Placed
  | [] => none
  | m :: rest =>
    match m.1.name with
    | .error f => some (i, f)
    | .ok name =>
      match names.find? (·.contains name) with
      | some answers =>
        if before.any (labelled answers) then
          some (i, ⟨.repeatedField (answers.headD ""), skipSpace m.1.left⟩)
        else memberFault? names (i + 1) (m :: before) rest
      | none =>
        match m.2.laxFault? with
        | some f => some (i, f)
        | none => memberFault? names (i + 1) (m :: before) rest

def intoNext (n : Node) : List Char :=
  (skipSpace ((skipSpace (n.left?.getD [])).drop 1)).drop 1

def extraFault? (count : Nat) (ns : List Node) (stop : Stop) : Option Placed :=
  if count < ns.length then
    some (count, ⟨.trailingCharacters, intoNext (ns.getD (count - 1) (.null []))⟩)
  else
    match stop with
    | .closed _ => none
    | .broken ⟨.endInList, left⟩ => some (count, ⟨.endInList, left⟩)
    | .broken ⟨.trailingComma, left⟩ => some (count, ⟨.trailingComma, left⟩)
    | .broken ⟨_, left⟩ => some (count, ⟨.trailingCharacters, left⟩)

def Source.fault? (names : List (List String)) : Source → Option Placed
  | .object ms stop =>
    (memberFault? names 0 [] ms).or
      (match stop with
        | .closed _ => none
        | .broken f => some (ms.length, f))
  | .list ns stop => extraFault? names.length ns stop

def Fields.finish (x : Fields α) (levels : Nat) (source : Source) : Except Fault α :=
  match x.build levels 0 source, source.fault? x.names with
  | .ok a, none => .ok a
  | .error p, none => .error p.2
  | .ok _, some q => .error q.2
  | .error p, some q => .error (if p.1 < q.1 then p.2 else q.2)

def withTitle (title : String) (count : Nat) (f : Fault) : Fault :=
  match f.cause with
  | .wrongLength n "" =>
    ⟨.wrongLength n (title ++ " with " ++ toString count ++
      (if count = 1 then " element" else " elements")), f.left⟩
  | _ => f

def record (title : String) (fields : Fields α) : Reader α
  | 0, .obj start .. | 0, .arr start .. => .error ⟨.tooDeep, start.drop 1⟩
  | levels + 1, .obj _ ms stop => fields.finish levels (.object ms stop)
  | levels + 1, .arr _ ns stop =>
    (fields.finish levels (.list ns stop)).mapError (withTitle title fields.names.length)
  | _, n => .error (n.mismatch title)

def Node.decode (read : Reader α) (node : Node) : Except Fault α := do
  let a ← read maxLevels node
  match (node.left?.getD []).dropWhile isSpace with
  | [] => .ok a
  | _ :: rest => .error ⟨.trailingCharacters, rest⟩

def decode (read : Reader α) (s : List Char) : Except Fault α := (outline s).decode read

def parse (s : List Char) : Except Fault Json := decode Reader.any s

def read? (read : Reader α) (v : Json) : Option α := (read maxLevels (Node.ofJson v)).toOption

end AskSql.Json
