namespace AskSql.Text

/-- The first unused place of the window that holds `c`, marked as used. -/
def claim (c : Char) : (skip width : Nat) → List (Char × Bool) → Option (List (Char × Bool))
  | _, _, [] => none
  | skip + 1, width, p :: rest => (claim c skip width rest).map (p :: ·)
  | 0, 0, _ :: _ => none
  | 0, width + 1, (d, used) :: rest =>
    if d = c ∧ !used then some ((d, true) :: rest)
    else (claim c 0 width rest).map ((d, used) :: ·)

/-- Characters of `a`, from position `i` on, that find a partner at most `window` places away; with
them the partners. -/
def pairUp (window : Nat) : (i : Nat) → List Char → List (Char × Bool) →
    List Char × List (Char × Bool)
  | _, [], b => ([], b)
  | i, c :: rest, b =>
    let low := i - window
    match claim c low (i + window + 1 - low) b with
    | some b =>
      let (matched, b) := pairUp window (i + 1) rest b
      (c :: matched, b)
    | none => pairUp window (i + 1) rest b

def jaro (a b : List Char) : Float :=
  if a.isEmpty ∧ b.isEmpty then 1.0
  else if a.isEmpty ∨ b.isEmpty then 0.0
  else
    let window := max a.length b.length / 2 - 1
    let (left, marked) := pairUp window 0 a (b.map (·, false))
    let right := (marked.filter (·.2)).map (·.1)
    let matched := left.length
    if matched = 0 then 0.0
    else
      let crossed := ((left.zip right).filter fun p => p.1 ≠ p.2).length / 2
      let m := Float.ofNat matched
      (m / Float.ofNat a.length + m / Float.ofNat b.length +
        Float.ofNat (matched - crossed) / m) / 3.0

def commonStart : Nat → List Char → List Char → Nat
  | limit + 1, c :: a, d :: b => if c = d then commonStart limit a b + 1 else 0
  | _, _, _ => 0

/-- Words that are alike gain from a common start of up to four characters. -/
def jaroWinkler (a b : List Char) : Float :=
  let similarity := jaro a b
  if similarity > 0.7 then
    similarity + 0.1 * Float.ofNat (commonStart 4 a b) * (1.0 - similarity)
  else similarity

end AskSql.Text
