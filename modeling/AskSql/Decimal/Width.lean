namespace AskSql.Width

def values (bits : Nat) : Nat := Nat.pow 2 bits

def isWord (bits n : Nat) : Bool := n < values bits

def isSigned (bits : Nat) (n : Int) : Bool :=
  -values (bits - 1) ≤ n && n < values (bits - 1)

end AskSql.Width
