namespace AskSql.Unicode

/-- The list is read only up to the first range that starts behind `n`. -/
def inRanges : List (Nat × Nat) → Nat → Bool
  | [], _ => false
  | (lo, hi) :: rest, n => if n < lo then false else n ≤ hi || inRanges rest n

/-- A run of code points, every `step`-th of which is moved by the same distance. -/
structure Run where
  first : Nat
  last : Nat
  step : Nat
  target : Nat

def Run.image? (r : Run) (n : Nat) : Option Nat :=
  if r.first ≤ n ∧ n ≤ r.last ∧ (n - r.first) % r.step = 0 then some (r.target + (n - r.first))
  else none

def mapRuns : List Run → Nat → Option Nat
  | [], _ => none
  | r :: rest, n => if n < r.first then none else (r.image? n).or (mapRuns rest n)

end AskSql.Unicode
