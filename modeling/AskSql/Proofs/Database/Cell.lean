import Mathlib.Algebra.Ring.Int.Defs
import AskSql.Csv
import AskSql.Database.Cell

namespace AskSql.Cell

/-- Digits behind an optional sign, and the integer that they write. -/
inductive IsNumeral : List Char → Int → Prop
  | plain : ds ≠ [] → (∀ c ∈ ds, c.isDigit = true) → IsNumeral ds (Nat.ofDigitChars 10 ds 0)
  | plus : ds ≠ [] → (∀ c ∈ ds, c.isDigit = true) →
      IsNumeral ('+' :: ds) (Nat.ofDigitChars 10 ds 0)
  | minus : ds ≠ [] → (∀ c ∈ ds, c.isDigit = true) →
      IsNumeral ('-' :: ds) (-(Nat.ofDigitChars 10 ds 0 : Int))

def Fits (n : Int) : Prop := -2 ^ 63 ≤ n ∧ n < 2 ^ 64

instance (n : Int) : Decidable (Fits n) := inferInstanceAs (Decidable (_ ∧ _))

def IsIntegerType (typeName : String) : Prop :=
  let name := typeName.toList.map Char.toUpper
  ("INT".toList <:+: name ∧ ¬"INTERVAL".toList <:+: name ∧ ¬"POINT".toList <:+: name) ∨
    name = "OID".toList

variable {typeName raw : String} {s : List Char} {n : Int}

theorem familyOf_eq_integer_iff : familyOf typeName = .integer ↔ IsIntegerType typeName := by
  unfold familyOf IsIntegerType
  generalize typeName.toList.map Char.toUpper = name
  have heq (word : String) : String.ofList name = word ↔ name = word.toList := by
    rw [← String.toList_inj, String.toList_ofList]
  simp only [contains, Text.occurs_iff, String.toList_ofList, heq]
  by_cases hboolean : name = "BOOL".toList ∨ name = "BOOLEAN".toList
  · rw [if_pos hboolean]
    refine iff_of_false nofun ?_
    rcases hboolean with rfl | rfl
    · decide +kernel
    · decide +kernel
  rw [if_neg hboolean]
  split
  next hinteger => exact iff_of_true rfl hinteger
  next hinteger =>
    refine iff_of_false ?_ hinteger
    split
    · exact nofun
    · split <;> exact nofun

theorem isDigits_iff : Decimal.isDigits s = true ↔ s ≠ [] ∧ ∀ c ∈ s, c.isDigit = true := by
  simp [Decimal.isDigits]

theorem integer?_eq_some_iff : Decimal.integer? s = some n ↔ IsNumeral s n := by
  rw [Decimal.integer?.eq_def]
  constructor
  · intro h
    split at h <;> split at h
    next hdigits =>
      cases h
      exact .minus (isDigits_iff.1 hdigits).1 (isDigits_iff.1 hdigits).2
    next => cases h
    next hdigits =>
      cases h
      exact .plus (isDigits_iff.1 hdigits).1 (isDigits_iff.1 hdigits).2
    next => cases h
    next hdigits =>
      cases h
      exact .plain (isDigits_iff.1 hdigits).1 (isDigits_iff.1 hdigits).2
    next => cases h
  · intro h
    cases h with
    | plain hne hdigits =>
      split
      next => exact absurd (hdigits '-' List.mem_cons_self) (by decide)
      next => exact absurd (hdigits '+' List.mem_cons_self) (by decide)
      next => exact if_pos (isDigits_iff.2 ⟨hne, hdigits⟩)
    | plus hne hdigits => exact if_pos (isDigits_iff.2 ⟨hne, hdigits⟩)
    | minus hne hdigits => exact if_pos (isDigits_iff.2 ⟨hne, hdigits⟩)

theorem natural?_of_isNumeral (h : IsNumeral s n) :
    (∃ m : Nat, n = m ∧ Decimal.natural? s = some m) ∨ n ≤ 0 ∧ Decimal.natural? s = none := by
  rw [Decimal.natural?.eq_def]
  cases h with
  | plain hne hdigits =>
    left
    refine ⟨_, rfl, ?_⟩
    split
    next => exact absurd (hdigits '+' List.mem_cons_self) (by decide)
    next => exact if_pos (isDigits_iff.2 ⟨hne, hdigits⟩)
  | plus hne hdigits => exact .inl ⟨_, rfl, if_pos (isDigits_iff.2 ⟨hne, hdigits⟩)⟩
  | @minus ds hne hdigits =>
    refine .inr ⟨by omega, if_neg fun h => ?_⟩
    exact absurd ((isDigits_iff.1 h).2 '-' List.mem_cons_self) (by decide)

theorem integerOf_of_isNumeral (h : IsNumeral raw.toList n) :
    integerOf raw = if Fits n then .int n else .str raw := by
  unfold integerOf
  rw [integer?_eq_some_iff.2 h]
  have hsigned : Width.isSigned 64 n = true ↔ -2 ^ 63 ≤ n ∧ n < 2 ^ 63 := by
    rw [Width.isSigned, Bool.and_eq_true, decide_eq_true_iff, decide_eq_true_iff]
    rfl
  rcases natural?_of_isNumeral h with ⟨m, rfl, hm⟩ | ⟨hle, hnone⟩
  · have hword : Width.isWord 64 m = true ↔ m < 2 ^ 64 := decide_eq_true_iff
    simp only [hm]
    split
    next hs => rw [if_pos ⟨(hsigned.1 hs).1, by have := (hsigned.1 hs).2; omega⟩]
    next hs =>
      split
      next hw => rw [if_pos ⟨by omega, by have := hword.1 hw; omega⟩]; rfl
      next hw => rw [if_neg fun hfits : Fits m => hw (hword.2 (by have := hfits.2; omega))]
  · simp only [hnone]
    split
    next hs => rw [if_pos ⟨(hsigned.1 hs).1, by omega⟩]
    next hs => rw [if_neg fun hfits : Fits n => hs (hsigned.2 ⟨hfits.1, by omega⟩)]

theorem integerOf_of_not_isNumeral (h : ∀ n, ¬IsNumeral raw.toList n) :
    integerOf raw = .str raw := by
  unfold integerOf
  cases hn : Decimal.integer? raw.toList with
  | none => rfl
  | some n => exact absurd (integer?_eq_some_iff.1 hn) (h n)

theorem cellText_int (n : Int) : Csv.cellText (some (.int n)) = toString n := by
  change String.ofList (Number.intText n) = n.repr
  rw [Number.intText, Int.repr_eq_if]
  split
  next hneg =>
    have habs : n.natAbs = (-n).toNat := by omega
    rw [if_neg (Int.not_le.2 hneg), habs, String.ofList_cons]
    rfl
  next hpos =>
    have habs : n.natAbs = n.toNat := by omega
    rw [if_pos (Int.not_lt.1 hpos), habs]
    rfl

/-- An exported cell is the text of the database, but for integers of an integer type that fit a
word. -/
theorem cellText_ofText (hboolean : familyOf typeName ≠ .boolean)
    (hfloating : familyOf typeName ≠ .floating) (hjson : familyOf typeName ≠ .json) :
    let shown := Csv.cellText (some (ofText typeName (some raw)))
    (∀ n, IsIntegerType typeName → IsNumeral raw.toList n → Fits n → shown = toString n) ∧
      ((∀ n, ¬(IsIntegerType typeName ∧ IsNumeral raw.toList n ∧ Fits n)) → shown = raw) := by
  intro shown
  have hshown : shown = Csv.cellText (some (convert (familyOf typeName) raw)) := rfl
  clear_value shown
  subst hshown
  cases hfamily : familyOf typeName with
  | boolean => exact absurd hfamily hboolean
  | floating => exact absurd hfamily hfloating
  | json => exact absurd hfamily hjson
  | text =>
    refine ⟨fun n hinteger => ?_, fun _ => rfl⟩
    rw [familyOf_eq_integer_iff.2 hinteger] at hfamily
    cases hfamily
  | integer =>
    have hinteger := familyOf_eq_integer_iff.1 hfamily
    refine ⟨fun n _ hn hfits => ?_, fun hnone => ?_⟩
    · rw [convert, integerOf_of_isNumeral hn, if_pos hfits, cellText_int]
    · by_cases hn : ∃ n, IsNumeral raw.toList n
      · obtain ⟨n, hn⟩ := hn
        rw [convert, integerOf_of_isNumeral hn, if_neg fun hfits => hnone n ⟨hinteger, hn, hfits⟩]
        rfl
      · rw [convert, integerOf_of_not_isNumeral (not_exists.1 hn)]
        rfl

theorem cellText_ofText_bigint :
    let name := "bigint unsigned"
    familyOf name ≠ .boolean ∧ familyOf name ≠ .floating ∧ familyOf name ≠ .json ∧
      IsNumeral "+0018446744073709551615".toList (2 ^ 64 - 1) ∧
      Csv.cellText (some (ofText name (some "+0018446744073709551615"))) = "18446744073709551615" ∧
      IsNumeral "+0018446744073709551616".toList (2 ^ 64) ∧
      Csv.cellText (some (ofText name (some "+0018446744073709551616"))) =
        "+0018446744073709551616" := by
  intro name
  have hinteger : familyOf name = .integer := by decide +kernel
  have hboolean : familyOf name ≠ .boolean := by simp [hinteger]
  have hfloating : familyOf name ≠ .floating := by simp [hinteger]
  have hjson : familyOf name ≠ .json := by simp [hinteger]
  have hlast : IsNumeral "+0018446744073709551615".toList (2 ^ 64 - 1) :=
    integer?_eq_some_iff.1 (by decide +kernel)
  have hpast : IsNumeral "+0018446744073709551616".toList (2 ^ 64) :=
    integer?_eq_some_iff.1 (by decide +kernel)
  refine ⟨hboolean, hfloating, hjson, hlast, ?_, hpast, ?_⟩
  · exact (cellText_ofText hboolean hfloating hjson).1 _ (familyOf_eq_integer_iff.1 hinteger) hlast
      (by decide)
  · refine (cellText_ofText hboolean hfloating hjson).2 fun n hn => ?_
    have heq := (integer?_eq_some_iff.2 hn.2.1).symm.trans (integer?_eq_some_iff.2 hpast)
    rw [Option.some.inj heq] at hn
    exact absurd hn.2.2 (by decide)

end AskSql.Cell
