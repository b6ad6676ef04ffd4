import AskSql.Policy.Keyword
import AskSql.Proofs.Runs
import AskSql.Proofs.Unicode

namespace AskSql.Keyword

open Unicode

/-- The maximal runs of word characters. -/
def words (text : List Char) : List (List Char) :=
  (text.splitOnP fun c => !isWordChar c).filter fun w => !w.isEmpty

def spells : List Char → List Char → Bool
  | [], [] => true
  | k :: kw, c :: w => foldsTo k c && spells kw w
  | _, _ => false

def capitals : List Char := (List.range' 65 26).map Char.ofNat

def IsKeyword (kw : List Char) : Prop := kw ≠ [] ∧ ∀ k ∈ kw, k ∈ capitals

-- Named, for there is an instance as well that goes through all characters.
instance (kw : List Char) : Decidable (IsKeyword kw) :=
  haveI : Decidable (∀ k ∈ kw, k ∈ capitals) := List.decidableBAll (· ∈ capitals) kw
  inferInstanceAs (Decidable (_ ∧ _))

theorem isWordChar_blank {c : Char} (h : isBlank c = true) : isWordChar c = false :=
  forall_blank (P := fun c => isWordChar c = false) (by decide +kernel) h

theorem isWordChar_digit {c : Char} (h : c.isDigit = true) : isWordChar c = true :=
  forall_digit (P := fun c => isWordChar c = true) (by decide) h

theorem eq_of_foldsTo {k c : Char} (h : foldsTo k c = true) :
    c = k ∨ c = k.toLower ∨ c = 'ſ' ∨ c = '\u212a' := by
  simp only [foldsTo, Bool.or_eq_true, Bool.and_eq_true, decide_eq_true_eq] at h
  tauto

theorem forall_capital {P : Char → Prop} (h : ∀ n ∈ List.range' 65 26, P (Char.ofNat n)) {k : Char}
    (hk : k ∈ capitals) : P k := List.forall_mem_map.2 h k hk

theorem forall_foldsTo {P : Char → Prop}
    (hP : ∀ n ∈ List.range' 65 26, P (Char.ofNat n) ∧ P (Char.ofNat n).toLower) (hs : P 'ſ')
    (hK : P '\u212a') {k c : Char} (hk : k ∈ capitals) (h : foldsTo k c = true) : P c := by
  have hcapital := forall_capital (P := fun k => P k ∧ P k.toLower) hP hk
  rcases eq_of_foldsTo h with rfl | rfl | rfl | rfl
  · exact hcapital.1
  · exact hcapital.2
  · exact hs
  · exact hK

theorem isWordChar_of_foldsTo {k c : Char} (hk : k ∈ capitals) (h : foldsTo k c = true) :
    isWordChar c = true :=
  forall_foldsTo (P := fun c => isWordChar c = true) (by decide) (by decide)
    (by decide +kernel) hk h

theorem isDigit_of_foldsTo {k c : Char} (hk : k ∈ capitals) (h : foldsTo k c = true) :
    c.isDigit = false :=
  forall_foldsTo (P := fun c => c.isDigit = false) (by decide) (by decide)
    (by decide) hk h

theorem words_append_cons {c : Char} (h : isWordChar c = false) (s t : List Char) :
    words (s ++ c :: t) = words s ++ words t := Text.runs_append_cons h s t

theorem words_cons {c : Char} (h : isWordChar c = false) (s : List Char) :
    words (c :: s) = words s := Text.runs_cons h s

theorem words_cons_word {c : Char} (h : isWordChar c = true) (s : List Char) :
    words (c :: s) =
      (c :: s.takeWhile isWordChar) :: words (s.dropWhile isWordChar) := Text.runs_cons_of_pos h s

theorem words_append_of_right (s : List Char) {t : List Char}
    (h : ∀ c ∈ t, isWordChar c = false) : words (s ++ t) = words s :=
  Text.runs_append_of_right s h

theorem words_eq_singleton {w : List Char} (hne : w ≠ []) (h : ∀ c ∈ w, isWordChar c = true) :
    words w = [w] := Text.runs_eq_singleton hne h

theorem words_trimEnd (s : List Char) : words (Text.trimEnd s) = words s :=
  Text.runs_trimEnd isWordChar_blank s

theorem words_trim (s : List Char) : words (Text.trim s) = words s :=
  Text.runs_trim isWordChar_blank s

theorem spells_iff_map_toUpper {kw : List Char} (h : ∀ k ∈ kw, k ∈ capitals) (hS : 'S' ∉ kw)
    (hK : 'K' ∉ kw) (w : List Char) : spells kw w = true ↔ w.map Char.toUpper = kw := by
  induction kw generalizing w with
  | nil => cases w <;> simp [spells]
  | cons k kw ih =>
    cases w with
    | nil => simp [spells]
    | cons c w =>
      rw [List.forall_mem_cons] at h
      rw [List.mem_cons, not_or] at hS hK
      have hupper : k.toUpper = k ∧ k.toLower.toUpper = k :=
        forall_capital (P := fun k => k.toUpper = k ∧ k.toLower.toUpper = k) (by decide) h.1
      have hfold : foldsTo k c = true ↔ c.toUpper = k := by
        rw [toUpper_eq_iff hupper.1 hupper.2]
        simp [foldsTo, Ne.symm hS.1, Ne.symm hK.1]
      simp [spells, hfold, ih h.2 hS.2 hK.2]

theorem opens_eq_spells {kw : List Char} (h : ∀ k ∈ kw, k ∈ capitals) (text : List Char) :
    opens kw text = spells kw (text.takeWhile isWordChar) := by
  induction kw generalizing text with
  | nil => cases text with
    | nil => rfl
    | cons c rest => cases hc : isWordChar c <;> simp [opens, spells, hc]
  | cons k kw ih =>
    cases text with
    | nil => rfl
    | cons c rest =>
      cases hc : isWordChar c with
      | true => simp [opens, spells, hc, ih fun d hd => h d (by simp [hd])]
      | false =>
        have hfold : foldsTo k c = false := by
          by_contra hfold
          have := isWordChar_of_foldsTo (h k (by simp)) (by simpa using hfold)
          simp [hc] at this
        simp [opens, spells, hc, hfold]

/-- Behind a word character only the words that come later count. -/
theorem occursFrom_eq {kw : List Char} (h : IsKeyword kw) (text : List Char) :
    occursFrom false kw text = (words text).any (spells kw) ∧
      occursFrom true kw text = (words (text.dropWhile isWordChar)).any (spells kw) := by
  induction text with
  | nil => exact ⟨rfl, rfl⟩
  | cons c rest ih =>
    cases hc : isWordChar c with
    | true =>
      have hopens := opens_eq_spells h.2 (c :: rest)
      rw [List.takeWhile_cons_of_pos hc] at hopens
      simp [occursFrom, hc, words_cons_word hc, hopens, ih.2]
    | false =>
      have hopens := opens_eq_spells h.2 (c :: rest)
      rw [List.takeWhile_cons_of_neg (by simp [hc])] at hopens
      have hnil : spells kw [] = false := by
        cases kw with
        | nil => exact absurd rfl h.1
        | cons k kw => rfl
      simp [occursFrom, hc, words_cons hc, hopens, hnil, ih.1]

theorem occurs_eq {kw : List Char} (h : IsKeyword kw) (text : List Char) :
    occurs kw text = (words text).any (spells kw) := (occursFrom_eq h text).1

def folded (c : Char) : Char :=
  if c = 'ſ' then 'S' else if c = '\u212a' then 'K' else c.toUpper

/-- Some maximal run of word characters is the keyword, up to simple case folding. -/
def Stands (kw text : List Char) : Prop :=
  ∃ w, Text.IsRun isWordChar text w ∧ w.map folded = kw

theorem foldsTo_iff {k : Char} (hk : k ∈ capitals) (c : Char) :
    foldsTo k c = true ↔ folded c = k := by
  have hcapital : (k.toUpper = k ∧ k.toLower.toUpper = k) ∧ (foldsTo k 'ſ' = true ↔ 'S' = k) ∧
      (foldsTo k '\u212a' = true ↔ 'K' = k) :=
    forall_capital (P := fun k => (k.toUpper = k ∧ k.toLower.toUpper = k) ∧
      (foldsTo k 'ſ' = true ↔ 'S' = k) ∧ (foldsTo k '\u212a' = true ↔ 'K' = k)) (by decide) hk
  by_cases hs : c = 'ſ'
  · subst hs
    exact hcapital.2.1
  by_cases hK : c = '\u212a'
  · subst hK
    exact hcapital.2.2
  rw [folded, if_neg hs, if_neg hK, toUpper_eq_iff hcapital.1.1 hcapital.1.2]
  simp [foldsTo, hs, hK]

theorem spells_iff {kw : List Char} (h : ∀ k ∈ kw, k ∈ capitals) (w : List Char) :
    spells kw w = true ↔ w.map folded = kw := by
  induction kw generalizing w with
  | nil => cases w <;> simp [spells]
  | cons k kw ih =>
    rw [List.forall_mem_cons] at h
    cases w with
    | nil => simp [spells]
    | cons c w => simp [spells, foldsTo_iff h.1, ih h.2]

theorem occurs_iff_stands {kw : List Char} (h : IsKeyword kw) (text : List Char) :
    occurs kw text = true ↔ Stands kw text := by
  rw [occurs_eq h, List.any_eq_true, Stands]
  exact exists_congr fun w => and_congr Text.mem_runs_iff (spells_iff h.2 w)

theorem Stands.surround {kw text : List Char} (h : Stands kw text) {before after : List Char}
    (hbefore : ∀ c ∈ before.getLast?, isWordChar c = false)
    (hafter : ∀ c ∈ after.head?, isWordChar c = false) : Stands kw (before ++ text ++ after) := by
  obtain ⟨w, hw, hfolded⟩ := h
  exact ⟨w, hw.surround hbefore hafter, hfolded⟩

end AskSql.Keyword
