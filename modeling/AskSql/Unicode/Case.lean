import AskSql.Unicode.CaseTable

namespace AskSql.Unicode

def imageOf (runs : List Run) (c : Char) : Char :=
  match mapRuns runs c.toNat with
  | some n => Char.ofNat n
  | none => c

/-- The dotted capital I keeps its dot as a combining mark. -/
def lowerChar (c : Char) : List Char :=
  if c = 'İ' then ['i', '\u0307'] else [imageOf lowerRuns c]

def upperChar (c : Char) : List Char :=
  match upperExpansions.lookup c.toNat with
  | some codes => codes.map Char.ofNat
  | none => [imageOf upperRuns c]

def isCased (c : Char) : Bool := inRanges cased c.toNat

def isCaseIgnorable (c : Char) : Bool := inRanges caseIgnorable c.toNat

def meetsCased (s : List Char) : Bool :=
  match s.dropWhile isCaseIgnorable with
  | [] => false
  | c :: _ => isCased c

/-- `before` is read backwards from the sigma, `after` onwards. -/
def isFinalSigma (before after : List Char) : Bool := meetsCased before && !meetsCased after

def lowerFrom (before : List Char) : List Char → List Char
  | [] => []
  | c :: after =>
    (if c = 'Σ' then [if isFinalSigma before after then 'ς' else 'σ'] else lowerChar c) ++
      lowerFrom (c :: before) after

def lower (s : List Char) : List Char := lowerFrom [] s

def upper (s : List Char) : List Char := s.flatMap upperChar

end AskSql.Unicode
