import Mathlib.Tactic.SplitIfs
import AskSql.Json.Decode
import AskSql.Proofs.Json.Unambiguous

namespace AskSql.Json

open Number (intText floatText)

theorem bind_eq_ok {ε α β : Type} {x : Except ε α} {f : α → Except ε β} {b : β} :
    x >>= f = .ok b ↔ ∃ a, x = .ok a ∧ f a = .ok b := by
  cases x with
  | error e => exact ⟨nofun, nofun⟩
  | ok a => exact ⟨fun h => ⟨a, rfl, h⟩, fun ⟨_, ha, h⟩ => Except.ok.inj ha ▸ h⟩

def EndsNumber (s : List Char) : Prop :=
  ∀ c ∈ s.head?, c.isDigit = false ∧ c ≠ '.' ∧ c ≠ 'e' ∧ c ≠ 'E'

section

variable {strict : Bool} {s rest t : List Char}

theorem spanDigits_append (h : EndsNumber t) (s : List Char) :
    spanDigits (s ++ t) = ((spanDigits s).1, (spanDigits s).2 ++ t) := by
  induction s with
  | nil =>
    cases t with
    | nil => rfl
    | cons c t => simp [spanDigits, (h c rfl).1]
  | cons c s ih =>
    cases hc : c.isDigit with
    | true => simpa [spanDigits, hc] using ih
    | false => simp [spanDigits, hc]

theorem someDigits_append (h : EndsNumber t) {ds : List Char}
    (hs : someDigits strict s = .ok (ds, rest)) :
    someDigits strict (s ++ t) = .ok (ds, rest ++ t) := by
  cases s with
  | nil => cases hs
  | cons c s =>
    simp only [someDigits, List.cons_append] at hs ⊢
    split_ifs at hs with hc
    rw [if_pos hc, ← List.cons_append, spanDigits_append h, Except.ok.inj hs]

theorem wholePart_append (h : EndsNumber t) {ds : List Char}
    (hs : wholePart strict s = .ok (ds, rest)) :
    wholePart strict (s ++ t) = .ok (ds, rest ++ t) := by
  obtain ⟨⟨ds', rest'⟩, hdigits, hwhole⟩ := bind_eq_ok.1 hs
  refine bind_eq_ok.2 ⟨_, someDigits_append h hdigits, ?_⟩
  dsimp only at hwhole ⊢
  split at hwhole
  · cases hwhole
  · obtain ⟨rfl, rfl⟩ := Prod.mk.inj (Except.ok.inj hwhole)
    rfl

theorem fractionPart_append (h : EndsNumber t) {ds : Option (List Char)}
    (hs : fractionPart strict s = .ok (ds, rest)) :
    fractionPart strict (s ++ t) = .ok (ds, rest ++ t) := by
  unfold fractionPart at hs
  split at hs
  · obtain ⟨⟨ds', rest'⟩, hdigits, hok⟩ := bind_eq_ok.1 hs
    obtain ⟨rfl, rfl⟩ := Prod.mk.inj (Except.ok.inj hok)
    exact bind_eq_ok.2 ⟨_, someDigits_append h hdigits, rfl⟩
  · rename_i hpoint
    obtain ⟨rfl, rfl⟩ := Prod.mk.inj (Except.ok.inj hs)
    cases s with
    | nil =>
      cases t with
      | nil => rfl
      | cons c t =>
        have := (h c rfl).2.1
        unfold fractionPart
        split
        · simp_all
        · rfl
    | cons c s =>
      unfold fractionPart
      split
      · simp_all
      · rfl

theorem exponentPart_append (h : EndsNumber t) {e : Option (Bool × List Char)}
    (hs : exponentPart strict s = .ok (e, rest)) :
    exponentPart strict (s ++ t) = .ok (e, rest ++ t) := by
  cases s with
  | nil =>
    obtain ⟨rfl, rfl⟩ := Prod.mk.inj (Except.ok.inj hs)
    cases t with
    | nil => rfl
    | cons c t => simp [exponentPart, (h c rfl).2.2]
  | cons c s =>
    simp only [exponentPart, List.cons_append] at hs ⊢
    split_ifs at hs with hc
    · rw [if_pos hc]
      obtain ⟨⟨ds, rest'⟩, hdigits, hok⟩ := bind_eq_ok.1 hs
      obtain ⟨rfl, rfl⟩ := Prod.mk.inj (Except.ok.inj hok)
      have hsign : exponentSign (s ++ t) = ((exponentSign s).1, (exponentSign s).2 ++ t) := by
        cases s with
        | nil => cases hdigits
        | cons d s =>
          unfold exponentSign
          split <;> simp_all
      rw [hsign]
      exact bind_eq_ok.2 ⟨_, someDigits_append h hdigits, rfl⟩
    · rw [if_neg hc]
      obtain ⟨rfl, rfl⟩ := Prod.mk.inj (Except.ok.inj hs)
      rfl

def unsigned (strict negative : Bool) (s : List Char) : Except Fault (Numeral × List Char) := do
  let (whole, s) ← wholePart strict s
  let (fraction, s) ← fractionPart strict s
  let (exponent, s) ← exponentPart strict s
  .ok (⟨negative, whole, fraction, exponent⟩, s)

theorem numeral_minus (strict : Bool) (s : List Char) :
    numeral strict ('-' :: s) = unsigned strict true s := rfl

theorem numeral_cons {c : Char} (hc : c ≠ '-') (strict : Bool) (s : List Char) :
    numeral strict (c :: s) = unsigned strict false (c :: s) := by
  rw [numeral]
  · rfl
  · rintro _ ⟨⟩
    exact hc rfl

theorem unsigned_append (h : EndsNumber t) {negative : Bool} {n : Numeral}
    (hs : unsigned strict negative s = .ok (n, rest)) :
    unsigned strict negative (s ++ t) = .ok (n, rest ++ t) := by
  obtain ⟨⟨whole, s₁⟩, hwhole, hs⟩ := bind_eq_ok.1 hs
  obtain ⟨⟨fraction, s₂⟩, hfraction, hs⟩ := bind_eq_ok.1 hs
  obtain ⟨⟨exponent, s₃⟩, hexponent, hs⟩ := bind_eq_ok.1 hs
  obtain ⟨rfl, rfl⟩ := Prod.mk.inj (Except.ok.inj hs)
  refine bind_eq_ok.2 ⟨_, wholePart_append h hwhole, ?_⟩
  refine bind_eq_ok.2 ⟨_, fractionPart_append h hfraction, ?_⟩
  exact bind_eq_ok.2 ⟨_, exponentPart_append h hexponent, rfl⟩

theorem numeral_append (h : EndsNumber t) {n : Numeral} (hs : numeral strict s = .ok (n, rest)) :
    numeral strict (s ++ t) = .ok (n, rest ++ t) := by
  cases s with
  | nil => cases hs
  | cons c s =>
    by_cases hc : c = '-'
    · subst hc
      exact unsigned_append h hs
    · rw [numeral_cons hc] at hs
      rw [List.cons_append, numeral_cons hc]
      exact unsigned_append h hs

end

theorem head?_toDigits_ne_zero {n : Nat} (h : n ≠ 0) : (Nat.toDigits 10 n).head? ≠ some '0' := by
  induction n using Nat.strongRecOn with
  | ind n ih =>
    rw [Nat.toDigits_eq_if (by decide)]
    split <;> rename_i hn
    · have hall : ∀ d < 10, d ≠ 0 → [Nat.digitChar d].head? ≠ some '0' := by decide
      exact hall n hn h
    · rw [List.head?_append_of_ne_nil _ Nat.toDigits_ne_nil]
      exact ih (n / 10) (by omega) (by omega)

theorem wholePart_toDigits (strict : Bool) (n : Nat) :
    wholePart strict (Nat.toDigits 10 n) = .ok (Nat.toDigits 10 n, []) := by
  have hall : ∀ c ∈ Nat.toDigits 10 n, c.isDigit = true := fun _ => Unicode.isDigit_of_mem_toDigits
  have hspan : spanDigits (Nat.toDigits 10 n) = (Nat.toDigits 10 n, []) := by
    rw [spanDigits, List.takeWhile_eq_self_iff.2 hall, List.dropWhile_eq_nil_iff.2 hall]
  have hsome : someDigits strict (Nat.toDigits 10 n) = .ok (Nat.toDigits 10 n, []) := by
    obtain ⟨c, ds, hds⟩ := List.exists_cons_of_ne_nil (Nat.toDigits_ne_nil (b := 10) (n := n))
    rw [hds] at hall hspan ⊢
    rw [someDigits, if_pos (hall c List.mem_cons_self), hspan]
  refine bind_eq_ok.2 ⟨_, hsome, ?_⟩
  dsimp only
  split
  · rename_i d ds hds
    have hn : n ≠ 0 := by
      rintro rfl
      cases hds
    exact absurd (congrArg List.head? hds) (head?_toDigits_ne_zero hn)
  · rfl

theorem appendDigits_eq {ds : List Char} {n : Nat} (h : Nat.ofDigitChars 10 ds n ≤ maxWord) :
    appendDigits n ds = (Nat.ofDigitChars 10 ds n, []) := by
  induction ds generalizing n with
  | nil => rfl
  | cons c ds ih =>
    rw [Nat.ofDigitChars_cons, Nat.mul_comm 10] at h ⊢
    have hle : n * 10 + digitValue c ≤ maxWord := by
      refine Nat.le_trans ?_ h
      rw [Nat.ofDigitChars_eq_ofDigitChars_zero]
      exact Nat.le_add_right_of_le (Nat.le_mul_of_pos_left _ (Nat.pow_pos (by decide)))
    rw [appendDigits, if_pos hle]
    exact ih h

theorem value?_int (negative : Bool) {n : Nat} (h : n ≤ maxWord) :
    Numeral.value? ⟨negative, Nat.toDigits 10 n, none, none⟩ = some (intOfParts negative n) := by
  have happend : appendDigits 0 (Nat.toDigits 10 n) = (n, []) := by
    rw [appendDigits_eq (by rwa [Nat.ofDigitChars_ten_toDigits]), Nat.ofDigitChars_ten_toDigits]
  rw [Numeral.value?, happend]

theorem unsigned_toDigits (strict negative : Bool) (n : Nat) :
    unsigned strict negative (Nat.toDigits 10 n) =
      .ok (⟨negative, Nat.toDigits 10 n, none, none⟩, []) :=
  bind_eq_ok.2 ⟨_, wholePart_toDigits strict n, rfl⟩

theorem numeral_intText (strict : Bool) (n : Int) :
    numeral strict (intText n) = .ok (⟨n < 0, Nat.toDigits 10 n.natAbs, none, none⟩, []) := by
  unfold intText
  split <;> rename_i hn
  · rw [numeral_minus, unsigned_toDigits, decide_eq_true hn]
  · obtain ⟨c, ds, hds⟩ :=
      List.exists_cons_of_ne_nil (Nat.toDigits_ne_nil (b := 10) (n := n.natAbs))
    have hdigit : c.isDigit = true :=
      Unicode.isDigit_of_mem_toDigits (n := n.natAbs) (hds ▸ List.mem_cons_self)
    have hc : c ≠ '-' := by
      rintro rfl
      exact absurd hdigit (by decide)
    rw [decide_eq_false hn, ← unsigned_toDigits, hds, numeral_cons hc]

theorem numberNode_append {s rest t : List Char} (ht : EndsNumber t) {m : Numeral} {n : Number}
    (hs : numeral true s = .ok (m, rest)) (hn : m.value? = some n) :
    numberNode (s ++ t) = .num (.ok n) (rest ++ t) := by
  rw [numberNode, numeral_append ht hs]
  simp only [hn]

theorem exists_numeral_of_numberNode {s left : List Char} {n : Number}
    (h : numberNode s = .num (.ok n) left) :
    ∃ m, numeral true s = .ok (m, left) ∧ m.value? = some n := by
  unfold numberNode at h
  split at h
  · rename_i m rest hm
    obtain ⟨hvalue, rfl⟩ := Node.num.inj h
    split at hvalue
    · rename_i v hv
      obtain rfl := Except.ok.inj hvalue
      exact ⟨m, hm, hv⟩
    · cases hvalue
  · cases h
  · cases h

theorem literal_ne_num {node : List Char → Node} (hnode : ∀ left n rest, node left ≠ .num n rest)
    (word s : List Char) (n : Except Fault Number) (left : List Char) :
    literal node word s ≠ .num n left := by
  induction word generalizing s with
  | nil => exact hnode s n left
  | cons c word ih =>
    cases s with
    | nil => exact nofun
    | cons d s =>
      rw [literal]
      split
      · exact ih s
      · exact nofun

theorem readNode_of_number {fuel : Nat} {s rest : List Char} {c : Char}
    (hs : skipSpace s = c :: rest) (hc : c = '-' ∨ c.isDigit = true) :
    readNode (fuel + 1) s = numberNode (c :: rest) := by
  have hne : c ≠ 'n' ∧ c ≠ 't' ∧ c ≠ 'f' := by
    rcases hc with rfl | hc
    · decide
    · exact Unicode.forall_digit (P := fun c => c ≠ 'n' ∧ c ≠ 't' ∧ c ≠ 'f') (by decide) hc
  simp only [readNode, hs, if_neg hne.1, if_neg hne.2.1, if_neg hne.2.2, if_pos hc]

theorem exists_of_readNode_eq_num {fuel : Nat} {s left : List Char} {n : Except Fault Number}
    (h : readNode fuel s = .num n left) :
    ∃ c rest, skipSpace s = c :: rest ∧ (c = '-' ∨ c.isDigit = true) ∧
      numberNode (c :: rest) = .num n left := by
  cases fuel with
  | zero => cases h
  | succ fuel =>
    rw [readNode] at h
    split at h
    · cases h
    · rename_i c rest hs
      split_ifs at h with _ _ _ hc
      · exact (literal_ne_num (by simp) _ _ _ _ h).elim
      · exact (literal_ne_num (by simp) _ _ _ _ h).elim
      · exact (literal_ne_num (by simp) _ _ _ _ h).elim
      · exact ⟨c, rest, hs, hc, h⟩
      · unfold stringNode at h
        split at h <;> cases h
      · cases h

theorem exists_of_any_eq_num {levels : Nat} {node : Node} {n : Number}
    (h : Reader.any levels node = .ok (.num n)) : ∃ left, node = .num (.ok n) left := by
  cases node with
  | num m left =>
    cases m with
    | ok m => exact ⟨left, by rw [Json.num.inj (Except.ok.inj h)]⟩
    | error f => cases h
  | str s left => cases s <;> cases h
  | arr start ns stop =>
    cases levels with
    | zero => cases h
    | succ levels =>
      obtain ⟨vs, -, h⟩ := bind_eq_ok.1 h
      obtain ⟨_, -, h⟩ := bind_eq_ok.1 h
      cases h
  | obj start ms stop =>
    cases levels with
    | zero => cases h
    | succ levels =>
      obtain ⟨vs, -, h⟩ := bind_eq_ok.1 h
      obtain ⟨_, -, h⟩ := bind_eq_ok.1 h
      cases h
  | null | bool | broken => cases h

end AskSql.Json

namespace AskSql

open Json

/-- The number is read as it is written: an integer of 64 bits, with a sign or without one, always
is, a float if its text is read as the float. -/
inductive Number.IsLegible : Number → Prop
  | int {n : Int} : -Width.values 63 ≤ n → n < Width.values 64 → IsLegible (.int n)
  | float : parse (floatText x) = .ok (.num (.float x)) → IsLegible (.float x)

namespace Number

theorem exists_intText_eq_cons (n : Int) :
    ∃ c s, intText n = c :: s ∧ (c = '-' ∨ c.isDigit = true) := by
  unfold intText
  split
  · exact ⟨_, _, rfl, .inl rfl⟩
  · obtain ⟨c, s, hs⟩ := List.exists_cons_of_ne_nil (Nat.toDigits_ne_nil (b := 10) (n := n.natAbs))
    have hdigit : c.isDigit = true :=
      Unicode.isDigit_of_mem_toDigits (n := n.natAbs) (hs ▸ List.mem_cons_self)
    exact ⟨c, s, hs, .inr hdigit⟩

theorem value?_intText {n : Int} (hlow : -Width.values 63 ≤ n) (hhigh : n < Width.values 64) :
    Numeral.value? ⟨n < 0, Nat.toDigits 10 n.natAbs, none, none⟩ = some (.int n) := by
  have hwidth : Width.values 63 < Width.values 64 := by decide
  have hword : n.natAbs ≤ maxWord := Nat.le_sub_one_of_lt (by omega)
  rw [value?_int _ hword, intOfParts]
  by_cases hn : n < 0
  · have hsigned : ¬(n.natAbs = 0 ∨ Width.values 63 < n.natAbs) := by omega
    have habs : -(n.natAbs : Int) = n := by omega
    rw [if_pos (decide_eq_true hn), if_neg hsigned, habs]
  · have habs : (n.natAbs : Int) = n := by omega
    rw [if_neg (by simpa using hn), habs]

theorem IsLegible.exists_numeral {n : Number} (h : n.IsLegible) :
    ∃ m c s left, skipSpace n.text = c :: s ∧ (c = '-' ∨ c.isDigit = true) ∧
      numeral true (c :: s) = .ok (m, left) ∧ skipSpace left = [] ∧ m.value? = some n := by
  cases h with
  | @int n hlow hhigh =>
    obtain ⟨c, s, hs, hc⟩ := exists_intText_eq_cons n
    have hspace : isSpace c = false := by
      rcases hc with rfl | hc
      · decide
      · exact Unicode.forall_digit (P := fun c => isSpace c = false) (by decide) hc
    refine ⟨_, c, s, [], ?_, hc, hs ▸ numeral_intText true n, rfl, value?_intText hlow hhigh⟩
    rw [text, hs, skipSpace, List.dropWhile_cons_of_neg (by simp [hspace])]
  | @float x hread =>
    obtain ⟨v, hany, hend⟩ := bind_eq_ok.1 hread
    split at hend
    · rename_i hleft
      obtain rfl := Except.ok.inj hend
      obtain ⟨left, hnode⟩ := exists_of_any_eq_num hany
      obtain ⟨c, s, hs, hc, hnumber⟩ := exists_of_readNode_eq_num hnode
      obtain ⟨m, hm, hvalue⟩ := exists_numeral_of_numberNode hnumber
      rw [hnode] at hleft
      exact ⟨m, c, s, left, hs, hc, hm, hleft, hvalue⟩
    · cases hend

theorem IsLegible.exists_readNode {n : Number} (h : n.IsLegible) {t : List Char}
    (ht : EndsNumber t) (fuel : Nat) :
    ∃ left, readNode (fuel + 1) (n.text ++ t) = .num (.ok n) left ∧
      skipSpace left = skipSpace t := by
  obtain ⟨m, c, s, left, hs, hc, hm, hleft, hvalue⟩ := h.exists_numeral
  have hskip : skipSpace (n.text ++ t) = c :: (s ++ t) := by
    rw [skipSpace, List.dropWhile_append, ← skipSpace, hs]
    rfl
  refine ⟨left ++ t, ?_, ?_⟩
  · rw [readNode_of_number hskip hc, ← List.cons_append, numberNode_append ht hm hvalue]
  · rw [skipSpace, List.dropWhile_append, ← skipSpace, hleft]
    rfl

end Number

end AskSql
