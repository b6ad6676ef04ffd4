import AskSql.Unicode.Blank
import AskSql.Unicode.Case

namespace AskSql.Text

open Unicode

def trimStart (s : List Char) : List Char := s.dropWhile isBlank

def trimEnd (s : List Char) : List Char := (s.reverse.dropWhile isBlank).reverse

def trim (s : List Char) : List Char := trimEnd (trimStart s)

def dropStart? (p s : List Char) : Option (List Char) :=
  if p.isPrefixOf s then some (s.drop p.length) else none

def dropEnd? (p s : List Char) : Option (List Char) :=
  (dropStart? p.reverse s.reverse).map List.reverse

def occurs (p : List Char) : List Char → Bool
  | [] => p.isEmpty
  | c :: rest => p.isPrefixOf (c :: rest) || occurs p rest

theorem occurs_iff {part text : List Char} : occurs part text = true ↔ part <:+: text := by
  induction text with
  | nil => rw [occurs, List.isEmpty_iff, List.infix_nil]
  | cons c text ih =>
    rw [occurs, Bool.or_eq_true, List.isPrefixOf_iff_prefix, ih, List.infix_cons_iff]

def splitOn (sep : Char) : List Char → List (List Char)
  | [] => [[]]
  | c :: rest =>
    if c = sep then [] :: splitOn sep rest
    else
      match splitOn sep rest with
      | [] => [[c]]
      | first :: more => (c :: first) :: more

def splitOnce (sep : Char) (s : List Char) : Option (List Char × List Char) :=
  match s.dropWhile (· ≠ sep) with
  | [] => none
  | _ :: rest => some (s.takeWhile (· ≠ sep), rest)

def blankWords : List Char → List (List Char)
  | [] => []
  | c :: rest =>
    if isBlank c then blankWords rest
    else
      match rest, blankWords rest with
      | [], _ => [[c]]
      | d :: _, words => if isBlank d then [c] :: words else (words.modifyHead (c :: ·))

def onString (f : List Char → List Char) (s : String) : String := String.ofList (f s.toList)

@[simp] theorem onString_toList (f : List Char → List Char) (s : String) :
    (onString f s).toList = f s.toList := String.toList_ofList

end AskSql.Text

namespace AskSql

def lowerCase (s : String) : String := Text.onString Unicode.lower s

def upperCase (s : String) : String := Text.onString Unicode.upper s

def trimmed (s : String) : String := Text.onString Text.trim s

def contains (text part : String) : Bool := Text.occurs part.toList text.toList

def opensWith (text part : String) : Bool := part.toList.isPrefixOf text.toList

end AskSql
