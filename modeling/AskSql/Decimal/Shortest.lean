import AskSql.Decimal.Width

/-!
The shortest decimal that reads back as a given binary floating-point number.

Everything is exact arithmetic on the bits of the number. A finite number `m · 2 ^ q` owns the reals
that round to it, and those are searched on decimal grids, the coarsest first.
-/

namespace AskSql.Decimal

structure Scientific where
  digits : Nat
  exponent : Int
  deriving DecidableEq

/-- The reals that round to one floating-point number, in units of `2 ^ exponent`. The ends belong
to it when the mantissa is even. -/
structure Cell where
  low : Nat
  middle : Nat
  high : Nat
  exponent : Int
  closed : Bool

/-- The cell of a positive finite number, from its biased exponent and its fraction bits. Below a
power of two the neighbour is only half as far away. -/
def Cell.ofBits (biased fraction : Nat) : Cell :=
  let mantissa := if biased = 0 then fraction else fraction + Width.values 52
  { low := 4 * mantissa - (if fraction = 0 ∧ 1 < biased then 1 else 2)
    middle := 4 * mantissa
    high := 4 * mantissa + 2
    exponent := (if biased = 0 then 1 else (biased : Int)) - 1077
    closed := mantissa % 2 = 0 }

def Cell.scaled (c : Cell) (t : Int) (n : Nat) : Nat :=
  n * Width.values c.exponent.toNat * Nat.pow 10 (-t).toNat

def Cell.steps (c : Cell) (t : Int) : Nat := Width.values (-c.exponent).toNat * Nat.pow 10 t.toNat

def Cell.holds (c : Cell) (t : Int) (n : Nat) : Bool :=
  let point := n * c.steps t
  if c.closed then c.scaled t c.low ≤ point && point ≤ c.scaled t c.high
  else c.scaled t c.low < point && point < c.scaled t c.high

/-- The point of the grid with step `10 ^ t` that lies in the cell, nearest to its middle. -/
def Cell.onGrid? (c : Cell) (t : Int) : Option Nat :=
  let below := c.scaled t c.middle / c.steps t
  match c.holds t below, c.holds t (below + 1) with
  | false, false => none
  | true, false => some below
  | false, true => some (below + 1)
  | true, true =>
    let excess := 2 * (c.scaled t c.middle % c.steps t)
    some (if excess < c.steps t ∨ (excess = c.steps t ∧ below % 2 = 0) then below else below + 1)

def Cell.firstHit (c : Cell) : Nat → Int → Scientific
  | 0, t => ⟨c.scaled t c.middle / c.steps t, t⟩
  | fuel + 1, t =>
    match c.onGrid? t with
    | some n => ⟨n, t⟩
    | none => c.firstHit fuel (t - 1)

def leadingBound (b : Int) : Int := b * 30103 / 100000 + 1

def Cell.shortest (c : Cell) : Scientific :=
  c.firstHit 20 (leadingBound (c.middle.log2 + 1 + c.exponent))

end AskSql.Decimal
