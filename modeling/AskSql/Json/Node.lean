import AskSql.Json.Lexeme

/-!
The outline of a JSON text.

A text is first read into nodes, whatever is wrong with it: a fault ends the outline at the place
where it stands. What a node means is decided later by the type that is asked for, so that of a wrong
type and a broken text the one that comes first is reported.
-/

namespace AskSql.Json

inductive Stop
  | closed (left : List Char)
  | broken (fault : Fault)

structure Label where
  name : Except Fault String
  left : List Char

/-- Each node keeps the text behind it; a list and an object also the text that starts with them. A
broken node has one fault for readers of its value and one for those who only pass over it. -/
inductive Node
  | null (left : List Char)
  | bool (b : Bool) (left : List Char)
  | num (n : Except Fault Number) (left : List Char)
  | str (s : Except Fault String) (left : List Char)
  | arr (start : List Char) (items : List Node) (stop : Stop)
  | obj (start : List Char) (members : List (Label × Node)) (stop : Stop)
  | broken (strict lax : Fault)

instance : Inhabited Node := ⟨.null []⟩

def Node.left? : Node → Option (List Char)
  | .null left | .bool _ left | .num _ left | .str _ left => some left
  | .arr _ _ (.closed left) | .obj _ _ (.closed left) => some left
  | _ => none

def Node.fail (f : Fault) : Node := .broken f f

def literal (node : List Char → Node) : List Char → List Char → Node
  | [], rest => node rest
  | _ :: _, [] => .fail ⟨.endInValue, []⟩
  | c :: word, d :: rest =>
    if c = d then literal node word rest else .fail ⟨.expectedLiteral, rest⟩

def numberNode (s : List Char) : Node :=
  match numeral true s, numeral false s with
  | .ok (n, rest), _ =>
    .num (match n.value? with
      | some v => .ok v
      | none => .error ⟨.numberOutOfRange, rest⟩) rest
  | .error f, .error g => .broken f g
  | .error f, .ok _ => .fail f

def stringLabel (fuel : Nat) (s : List Char) : Except (Fault × Fault) Label :=
  match stringBody fuel [] s with
  | .ok (cs, rest) => .ok ⟨.ok (String.ofList cs), rest⟩
  | .error f =>
    match skipString fuel s with
    | .ok rest => .ok ⟨.error f, rest⟩
    | .error g => .error (f, g)

def stringNode (fuel : Nat) (s : List Char) : Node :=
  match stringLabel fuel s with
  | .ok label => .str label.name label.left
  | .error (f, g) => .broken f g

mutual

def readNode : Nat → List Char → Node
  | 0, s => .fail ⟨.endInValue, s⟩
  | fuel + 1, s =>
    match skipSpace s with
    | [] => .fail ⟨.endInValue, []⟩
    | c :: rest =>
      if c = 'n' then literal .null "ull".toList rest
      else if c = 't' then literal (.bool true) "rue".toList rest
      else if c = 'f' then literal (.bool false) "alse".toList rest
      else if c = '-' ∨ c.isDigit then numberNode (c :: rest)
      else if c = '\x22' then stringNode fuel rest
      else if c = '[' then
        let (items, stop) := readItems fuel true rest
        .arr (c :: rest) items stop
      else if c = '\x7b' then
        let (members, stop) := readMembers fuel true rest
        .obj (c :: rest) members stop
      else .fail ⟨.expectedValue, rest⟩

def readItems : Nat → Bool → List Char → List Node × Stop
  | 0, _, s => ([], .broken ⟨.endInList, s⟩)
  | fuel + 1, isFirst, s =>
    match skipSpace s with
    | [] => ([], .broken ⟨.endInList, []⟩)
    | c :: rest =>
      if c = ']' then ([], .closed rest)
      else if isFirst then readItem fuel (c :: rest)
      else if c = ',' then
        match skipSpace rest with
        | [] => ([], .broken ⟨.endInValue, []⟩)
        | d :: more =>
          if d = ']' then ([], .broken ⟨.trailingComma, more⟩) else readItem fuel (d :: more)
      else ([], .broken ⟨.expectedCommaOrBracket, rest⟩)

def readItem : Nat → List Char → List Node × Stop
  | 0, s => ([], .broken ⟨.endInValue, s⟩)
  | fuel + 1, s =>
    let node := readNode fuel s
    match node.left? with
    | none => ([node], .broken ⟨.endInList, []⟩)
    | some left =>
      let (items, stop) := readItems fuel false left
      (node :: items, stop)

def readMembers : Nat → Bool → List Char → List (Label × Node) × Stop
  | 0, _, s => ([], .broken ⟨.endInObject, s⟩)
  | fuel + 1, isFirst, s =>
    match skipSpace s with
    | [] => ([], .broken ⟨.endInObject, []⟩)
    | c :: rest =>
      if c = '\x7d' then ([], .closed rest)
      else if isFirst then readMember fuel (c :: rest)
      else if c = ',' then
        match skipSpace rest with
        | [] => ([], .broken ⟨.endInValue, []⟩)
        | d :: more =>
          if d = '\x7d' then ([], .broken ⟨.trailingComma, more⟩) else readMember fuel (d :: more)
      else ([], .broken ⟨.expectedCommaOrBrace, rest⟩)

/-- A missing colon counts as a fault of the value. -/
def readMember : Nat → List Char → List (Label × Node) × Stop
  | 0, s => ([], .broken ⟨.endInObject, s⟩)
  | _ + 1, [] => ([], .broken ⟨.endInObject, []⟩)
  | fuel + 1, c :: rest =>
    if c ≠ '\x22' then ([], .broken ⟨.keyNotString, rest⟩)
    else
      match stringLabel fuel rest with
      | .error (f, g) => ([(⟨.error f, []⟩, .broken f g)], .broken f)
      | .ok label =>
        let node : Node :=
          match skipSpace label.left with
          | [] => .fail ⟨.endInObject, []⟩
          | d :: more => if d = ':' then readNode fuel more else .fail ⟨.expectedColon, more⟩
        match node.left? with
        | none => ([(label, node)], .broken ⟨.endInObject, []⟩)
        | some left =>
          let (members, stop) := readMembers fuel false left
          ((label, node) :: members, stop)

end

def outline (s : List Char) : Node := readNode (3 * s.length + 3) s

/-- What a reader that only passes over a list or an object finds at its end: it asks for a value, or
for a name, behind every comma. -/
def Fault.passing (inObject : Bool) : Fault → Fault
  | ⟨.trailingComma, left⟩ => ⟨if inObject then .keyNotString else .expectedValue, left⟩
  | ⟨.endInValue, left⟩ => ⟨if inObject then .endInObject else .endInValue, left⟩
  | f => f

def Stop.laxFault? (inObject : Bool) : Stop → Option Fault
  | .closed _ => none
  | .broken f => some (f.passing inObject)

mutual

def Node.laxFault? : Node → Option Fault
  | .null _ | .bool .. | .num .. | .str .. => none
  | .broken _ lax => some lax
  | .arr _ items stop => laxFaultOfItems? stop items
  | .obj _ members stop => laxFaultOfMembers? stop members

def laxFaultOfItems? (stop : Stop) : List Node → Option Fault
  | [] => stop.laxFault? false
  | n :: rest => n.laxFault?.or (laxFaultOfItems? stop rest)

def laxFaultOfMembers? (stop : Stop) : List (Label × Node) → Option Fault
  | [] => stop.laxFault? true
  | (_, n) :: rest => n.laxFault?.or (laxFaultOfMembers? stop rest)

end

mutual

def Node.ofJson : Json → Node
  | .null => .null []
  | .bool b => .bool b []
  | .num n => .num (.ok n) []
  | .str s => .str (.ok s) []
  | .arr items => .arr [] (Node.ofItems items) (.closed [])
  | .obj members => .obj [] (Node.ofMembers members) (.closed [])

def Node.ofItems : List Json → List Node
  | [] => []
  | v :: rest => Node.ofJson v :: Node.ofItems rest

def Node.ofMembers : List (String × Json) → List (Label × Node)
  | [] => []
  | (k, v) :: rest => (⟨.ok k, []⟩, Node.ofJson v) :: Node.ofMembers rest

end

end AskSql.Json
