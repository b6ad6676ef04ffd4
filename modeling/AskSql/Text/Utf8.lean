namespace AskSql.Utf8

/-- The bits that a first byte gives to its character, and the number of bytes that follow it. -/
def lead (b : UInt8) : Nat × Nat :=
  if b < 0x80 then (b.toNat, 0)
  else if b < 0xe0 then (b.toNat % 32, 1)
  else if b < 0xf0 then (b.toNat % 16, 2)
  else (b.toNat % 8, 3)

def candidate (b : UInt8) (rest : List UInt8) : Char :=
  let (bits, more) := lead b
  Char.ofNat ((rest.take more).foldl (fun n c => n * 64 + c.toNat % 64) bits)

def first? (b : UInt8) (rest : List UInt8) : Option Char :=
  let c := candidate b rest
  if (String.utf8EncodeChar c).isPrefixOf (b :: rest) then some c else none

/-- The least and the greatest byte that may stand behind the first byte of a character. -/
def second (b : UInt8) : UInt8 × UInt8 :=
  if b < 0xc2 ∨ 0xf4 < b then (0xff, 0)
  else if b = 0xe0 then (0xa0, 0xbf)
  else if b = 0xed then (0x80, 0x9f)
  else if b = 0xf0 then (0x90, 0xbf)
  else if b = 0xf4 then (0x80, 0x8f)
  else (0x80, 0xbf)

/-- The number of bytes behind a first byte with which a character could go on. -/
def begun (b : UInt8) (rest : List UInt8) : Nat :=
  match rest with
  | [] => 0
  | c :: rest =>
    let (low, high) := second b
    if low ≤ c ∧ c ≤ high then
      1 + ((rest.take ((lead b).2 - 1)).takeWhile fun d => 0x80 ≤ d && d ≤ 0xbf).length
    else 0

/-- Passes over some bytes that have been read, and reads on. A byte that belongs to no character is
replaced, together with as many of those behind it as `lost` tells. -/
def read (replacement : Char) (lost : UInt8 → List UInt8 → Nat) : Nat → List UInt8 → List Char
  | _, [] => []
  | n + 1, _ :: rest => read replacement lost n rest
  | 0, b :: rest =>
    match first? b rest with
    | some c => c :: read replacement lost (c.utf8Size - 1) rest
    | none => replacement :: read replacement lost (lost b rest) rest

def bytewise (replacement : Char) (bytes : List UInt8) : List Char :=
  read replacement (fun _ _ => 0) 0 bytes

/-- One replacement for all that there is of a character that is not brought to its end. -/
def lossy (bytes : List UInt8) : List Char := read '\ufffd' begun 0 bytes

/-- The second character ends after two of three bytes, the third is a surrogate. -/
example : lossy [0x41, 0xe2, 0x82, 0x41, 0xed, 0xa0, 0x80] =
    ['A', '\ufffd', 'A', '\ufffd', '\ufffd', '\ufffd'] := by decide +kernel

end AskSql.Utf8
