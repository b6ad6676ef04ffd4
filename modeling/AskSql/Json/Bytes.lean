import AskSql.Json.Decode
import AskSql.Text.Utf8

/-!
JSON texts that come as bytes, which need not be the bytes of characters.

Outside of strings such a byte is as wrong as any other character. A string with such bytes is at
fault when it is read, but is passed over like any other.
-/

namespace AskSql.Json

/-- Two readings of a string are the same unless they differ in what stands for a broken character. -/
def agreed (left : List Char) : Except Fault String → Except Fault String → Except Fault String
  | .ok s, .ok t => if s = t then .ok s else .error ⟨.brokenCharacter, left⟩
  | s, _ => s

mutual

def Node.agreed : Node → Node → Node
  | .str s left, .str t _ => .str (Json.agreed left s t) left
  | .arr start items stop, .arr _ others _ => .arr start (agreedItems items others) stop
  | .obj start members stop, .obj _ others _ => .obj start (agreedMembers members others) stop
  | n, _ => n

def agreedItems : List Node → List Node → List Node
  | n :: ns, m :: ms => n.agreed m :: agreedItems ns ms
  | ns, _ => ns

def agreedMembers : List (Label × Node) → List (Label × Node) → List (Label × Node)
  | (l, n) :: ns, (k, m) :: ms =>
    (⟨Json.agreed l.left l.name k.name, l.left⟩, n.agreed m) :: agreedMembers ns ms
  | ns, _ => ns

end

def shown (bytes : List UInt8) : List Char := Utf8.bytewise '\x7f' bytes

def decodeBytes (read : Reader α) (bytes : List UInt8) : Except Fault α :=
  ((outline (shown bytes)).agreed (outline (Utf8.bytewise '~' bytes))).decode read

end AskSql.Json
