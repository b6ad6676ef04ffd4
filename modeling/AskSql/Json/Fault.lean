namespace AskSql.Json

inductive Category
  | truncated
  | malformed
  | mismatched
  deriving DecidableEq, Repr

inductive Cause
  | endInValue
  | endInString
  | endInList
  | endInObject
  | expectedColon
  | expectedCommaOrBracket
  | expectedCommaOrBrace
  | expectedLiteral
  | expectedValue
  | badEscape
  | badNumber
  | numberOutOfRange
  | controlCharacter
  | keyNotString
  | loneSurrogate
  | brokenSurrogatePair
  | brokenCharacter
  | trailingComma
  | trailingCharacters
  | tooDeep
  | wrongType (found expected : String)
  | wrongValue (found expected : String)
  | unknownName (name : String) (known : List String)
  | missingField (name : String)
  | repeatedField (name : String)
  | wrongLength (length : Nat) (expected : String)
  | refused (message : String)
  deriving DecidableEq

def Cause.category : Cause → Category
  | .endInValue | .endInString | .endInList | .endInObject => .truncated
  | .wrongType .. | .wrongValue .. | .unknownName .. | .missingField _ | .repeatedField _
  | .wrongLength .. | .refused _ => .mismatched
  | _ => .malformed

def ticked (s : String) : String := "`" ++ s ++ "`"

def oneOf : List String → String
  | [] => "there are no variants"
  | [a] => "expected " ++ ticked a
  | [a, b] => "expected " ++ ticked a ++ " or " ++ ticked b
  | names => "expected one of " ++ String.intercalate ", " (names.map ticked)

def Cause.message : Cause → String
  | .endInValue => "EOF while parsing a value"
  | .endInString => "EOF while parsing a string"
  | .endInList => "EOF while parsing a list"
  | .endInObject => "EOF while parsing an object"
  | .expectedColon => "expected `:`"
  | .expectedCommaOrBracket => "expected `,` or `]`"
  | .expectedCommaOrBrace => "expected `,` or `\x7d`"
  | .expectedLiteral => "expected ident"
  | .expectedValue => "expected value"
  | .badEscape => "invalid escape"
  | .badNumber => "invalid number"
  | .numberOutOfRange => "number out of range"
  | .controlCharacter => "control character (\\u0000-\\u001F) found while parsing a string"
  | .keyNotString => "key must be a string"
  | .loneSurrogate => "lone leading surrogate in hex escape"
  | .brokenSurrogatePair => "unexpected end of hex escape"
  | .brokenCharacter => "invalid unicode code point"
  | .trailingComma => "trailing comma"
  | .trailingCharacters => "trailing characters"
  | .tooDeep => "recursion limit exceeded"
  | .wrongType found expected => "invalid type: " ++ found ++ ", expected " ++ expected
  | .wrongValue found expected => "invalid value: " ++ found ++ ", expected " ++ expected
  | .unknownName name known => "unknown variant " ++ ticked name ++ ", " ++ oneOf known
  | .missingField name => "missing field " ++ ticked name
  | .repeatedField name => "duplicate field " ++ ticked name
  | .wrongLength length expected =>
    "invalid length " ++ toString length ++ ", expected " ++ expected
  | .refused message => message

structure Fault where
  cause : Cause
  left : List Char
  deriving DecidableEq

def Fault.category (f : Fault) : Category := f.cause.category

def byteCount (s : List Char) : Nat := s.foldl (fun n c => n + c.utf8Size) 0

/-- Line and column of the place where `left` starts; columns count bytes. -/
def place (text left : List Char) : Nat × Nat :=
  let read := text.take (text.length - left.length)
  let line := read.reverse.takeWhile (· ≠ '\n')
  (1 + read.count '\n', byteCount line)

def Fault.describe (f : Fault) (text : List Char) : String :=
  let (line, column) := place text f.left
  f.cause.message ++ " at line " ++ toString line ++ " column " ++ toString column

end AskSql.Json
