import AskSql.Error
import AskSql.Text.Chars

namespace AskSql.Cli

structure Complaint where
  message : String
  causes : List String := []
  deriving DecidableEq

namespace Complaint

def ofError (e : QueryError) : Complaint := ⟨e.message, e.causes⟩

def during (context : String) (c : Complaint) : Complaint := ⟨context, c.message :: c.causes⟩

def indented (first : String) (cause : String) : String :=
  let between := ("\n" ++ String.ofList (List.replicate first.length ' '))
  "\n" ++ first ++ between.intercalate ((Text.splitOn '\n' cause.toList).map String.ofList)

def causesText : List String → String
  | [] => ""
  | [cause] => "\n\nCaused by:" ++ indented "    " cause
  | causes =>
    "\n\nCaused by:" ++
      String.join (causes.zipIdx.map fun (cause, i) => indented ("    " ++ toString i ++ ": ") cause)

def text (c : Complaint) : String := "Error: " ++ c.message ++ causesText c.causes ++ "\n"

end Complaint

structure Report where
  code : Nat
  printed : String
  complained : String
  deriving DecidableEq

end AskSql.Cli
