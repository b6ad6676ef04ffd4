import Mathlib.Data.List.Infix
import AskSql.Diagnosis
import AskSql.Proofs.Keyword

/-!
A message that names a missing column is about a missing column.

The name is looked for under simple case folding, and the phrases that tell the class in the message
in lower case. The long s is the one character at which the two differ: it folds to an S, and its
lower case is itself.
-/

namespace AskSql

open Keyword Unicode

def Spells (phrase text : List Char) : Prop := text.map folded = phrase.map Char.toUpper

/-- The text begins with the phrase, the name between its quotes. -/
def QuotedPhrase.Frames (p : QuotedPhrase) (name s : List Char) : Prop :=
  ∃ front back after, s = front ++ p.quote :: name ++ p.quote :: back ++ after ∧
    Spells p.opening.toList front ∧ Spells p.closing.toList back ∧ name ≠ [] ∧ p.quote ∉ name

def QuotedPhrase.Holds (p : QuotedPhrase) (name message : List Char) : Prop :=
  ∃ s, s <:+ message ∧ p.Frames name s

variable {phrase s t w name rest before : List Char} {p : QuotedPhrase}

theorem folded_eq_iff {p c : Char} (hp : p.toNat < 128) (hc : c ≠ 'ſ') (hk : c ≠ '\u212a') :
    folded c = p.toUpper ↔ c = p.toUpper ∨ c = p.toUpper.toLower := by
  have hcase := forall_ascii (P := fun p => p.toUpper.toUpper = p.toUpper ∧
    p.toUpper.toLower.toUpper = p.toUpper) (by decide +kernel) hp
  rw [folded, if_neg hc, if_neg hk, toUpper_eq_iff hcase.1 hcase.2]

theorem agrees_iff {p : Char} (hp : p.toNat < 128) (c : Char) :
    agrees p c = true ↔ folded c = p.toUpper := by
  unfold agrees
  split
  next hletter =>
    have hcapital := forall_ascii (P := fun p => p.isAlpha = true → p.toUpper ∈ capitals)
      (by decide +kernel) hp
    exact foldsTo_iff (hcapital hletter) c
  next hletter =>
    obtain ⟨hupper, hlower, hS, hK⟩ := forall_ascii (P := fun p => ¬p.isAlpha = true →
      p.toUpper = p ∧ p.toLower = p ∧ 'S' ≠ p ∧ 'K' ≠ p) (by decide +kernel) hp hletter
    rw [decide_eq_true_iff]
    by_cases hs : c = 'ſ'
    · subst hs
      exact iff_of_false (fun h => absurd (h ▸ hp) (by decide)) (hupper.symm ▸ hS)
    by_cases hk : c = '\u212a'
    · subst hk
      exact iff_of_false (fun h => absurd (h ▸ hp) (by decide)) (hupper.symm ▸ hK)
    rw [folded_eq_iff hp hs hk, hupper, hlower, or_self, eq_comm]

theorem lowerChar_of_folded {p c : Char} (hp : p.toNat < 128) (hc : c ≠ 'ſ')
    (h : folded c = p.toUpper) : c ≠ 'Σ' ∧ lowerChar c = [p.toLower] := by
  by_cases hk : c = '\u212a'
  · subst hk
    have hcase := forall_ascii (P := fun p => 'K' = p.toUpper → p.toLower = 'k')
      (by decide +kernel) hp
    rw [hcase h]
    decide +kernel
  have hcase := forall_ascii (P := fun p =>
    (p.toUpper ≠ 'Σ' ∧ lowerChar p.toUpper = [p.toLower]) ∧
      p.toUpper.toLower ≠ 'Σ' ∧ lowerChar p.toUpper.toLower = [p.toLower]) (by decide +kernel) hp
  rcases (folded_eq_iff hp hc hk).1 h with rfl | rfl
  · exact hcase.1
  · exact hcase.2

theorem exists_lowerFrom_append (before s t : List Char) :
    ∃ u, lowerFrom before (s ++ t) = u ++ lowerFrom (s.reverse ++ before) t := by
  induction s generalizing before with
  | nil => exact ⟨[], rfl⟩
  | cons c s ih =>
    obtain ⟨u, hu⟩ := ih (c :: before)
    rw [List.cons_append, lowerFrom, hu, ← List.append_assoc, List.reverse_cons,
      List.append_assoc s.reverse]
    exact ⟨_, rfl⟩

/-- Without a sigma what stands around a text does not count for its lower case. -/
theorem lowerFrom_append_of_not_mem (h : 'Σ' ∉ w) (before t : List Char) :
    lowerFrom before (w ++ t) = w.flatMap lowerChar ++ lowerFrom (w.reverse ++ before) t := by
  induction w generalizing before with
  | nil => rfl
  | cons c w ih =>
    rw [List.mem_cons, not_or] at h
    rw [List.cons_append, lowerFrom, if_neg (Ne.symm h.1), ih h.2, List.flatMap_cons,
      List.append_assoc, List.reverse_cons, List.append_assoc]
    rfl

theorem flatMap_lowerChar_infix_lower (h : 'Σ' ∉ w) (hw : w <:+: s) :
    w.flatMap lowerChar <:+: lower s := by
  obtain ⟨before, after, rfl⟩ := hw
  obtain ⟨u, hu⟩ := exists_lowerFrom_append [] before (w ++ after)
  rw [lower, List.append_assoc, hu, lowerFrom_append_of_not_mem h, ← List.append_assoc]
  exact ⟨u, _, rfl⟩

theorem spells_cons {p : Char} {ps : List Char} :
    Spells (p :: ps) w ↔ ∃ c v, w = c :: v ∧ folded c = p.toUpper ∧ Spells ps v :=
  List.map_eq_cons_iff

theorem spells_append {ps qs : List Char} :
    Spells (ps ++ qs) w ↔ ∃ u v, w = u ++ v ∧ Spells ps u ∧ Spells qs v := by
  rw [Spells, List.map_append, List.map_eq_append_iff]
  rfl

theorem Spells.flatMap_lowerChar (h : Spells phrase w) (hascii : ∀ p ∈ phrase, p.toNat < 128)
    (hs : 'ſ' ∉ w) : 'Σ' ∉ w ∧ w.flatMap lowerChar = phrase.map Char.toLower := by
  induction phrase generalizing w with
  | nil =>
    rw [List.map_eq_nil_iff.1 h]
    exact ⟨nofun, rfl⟩
  | cons p phrase ih =>
    obtain ⟨c, v, rfl, hfolded, hv⟩ := spells_cons.1 h
    rw [List.forall_mem_cons] at hascii
    rw [List.mem_cons, not_or] at hs
    obtain ⟨hsigma, hlower⟩ := lowerChar_of_folded hascii.1 (Ne.symm hs.1) hfolded
    obtain ⟨hsigmas, hlowers⟩ := ih hv hascii.2 hs.2
    refine ⟨?_, ?_⟩
    · rw [List.mem_cons, not_or]
      exact ⟨Ne.symm hsigma, hsigmas⟩
    · rw [List.flatMap_cons, hlower, hlowers]
      rfl

theorem Spells.infix_lower (h : Spells phrase w) (hascii : ∀ p ∈ phrase, p.toNat < 128)
    (hs : 'ſ' ∉ s) (hw : w <:+: s) : phrase.map Char.toLower <:+: lower s := by
  obtain ⟨hsigma, hlower⟩ := h.flatMap_lowerChar hascii fun hmem => hs (hw.subset hmem)
  rw [← hlower]
  exact flatMap_lowerChar_infix_lower hsigma hw

theorem spells_of_behindPhrase? (hascii : ∀ p ∈ phrase, p.toNat < 128)
    (h : behindPhrase? phrase s = some rest) : ∃ w, s = w ++ rest ∧ Spells phrase w := by
  induction phrase generalizing s with
  | nil =>
    cases h
    exact ⟨[], rfl, rfl⟩
  | cons p phrase ih =>
    rw [List.forall_mem_cons] at hascii
    cases s with
    | nil => cases h
    | cons c s =>
      rw [behindPhrase?] at h
      split at h
      next hagrees =>
        obtain ⟨w, rfl, hw⟩ := ih hascii.2 h
        exact ⟨c :: w, rfl, spells_cons.2 ⟨c, w, rfl, (agrees_iff hascii.1 c).1 hagrees, hw⟩⟩
      next => cases h

structure QuotedPhrase.IsPlain (p : QuotedPhrase) : Prop where
  opening : ∀ c ∈ p.opening.toList, c.toNat < 128
  closing : ∀ c ∈ p.closing.toList, c.toNat < 128
  quote : p.quote.toNat < 128
  not_letter : p.quote.isAlpha = false

theorem isPlain_of_mem_columnPhrases (hp : p ∈ columnPhrases) : p.IsPlain := by
  rcases List.mem_pair.1 hp with rfl | rfl
  · exact ⟨by simp, by simp, by decide, by decide⟩
  · exact ⟨by simp, by simp, by decide, by decide⟩

namespace QuotedPhrase

theorem IsPlain.spells_quote (hp : p.IsPlain) (h : Spells (p.quote :: phrase) w) :
    ∃ v, w = p.quote :: v ∧ Spells phrase v := by
  obtain ⟨c, v, rfl, hc, hv⟩ := spells_cons.1 h
  have hquote : p.quote = c := by
    rw [← agrees_iff hp.quote, agrees, if_neg (by rw [hp.not_letter]; decide),
      decide_eq_true_iff] at hc
    exact hc
  exact ⟨v, hquote ▸ rfl, hv⟩

theorem IsPlain.behind_opening (hp : p.IsPlain)
    (h : behindPhrase? (p.opening.toList ++ [p.quote]) s = some rest) :
    ∃ front, s = front ++ p.quote :: rest ∧ Spells p.opening.toList front := by
  obtain ⟨w, rfl, hw⟩ := spells_of_behindPhrase? (List.forall_mem_append.2
    ⟨hp.opening, List.forall_mem_singleton.2 hp.quote⟩) h
  obtain ⟨front, v, rfl, hfront, hv⟩ := spells_append.1 hw
  obtain ⟨v, rfl, hnil⟩ := hp.spells_quote hv
  rw [List.map_eq_nil_iff.1 hnil, List.append_assoc]
  exact ⟨front, rfl, hfront⟩

theorem IsPlain.behind_closing (hp : p.IsPlain)
    (h : behindPhrase? (p.quote :: p.closing.toList) s = some rest) :
    ∃ back, s = p.quote :: back ++ rest ∧ Spells p.closing.toList back := by
  obtain ⟨w, rfl, hw⟩ :=
    spells_of_behindPhrase? (List.forall_mem_cons.2 ⟨hp.quote, hp.closing⟩) h
  obtain ⟨back, rfl, hback⟩ := hp.spells_quote hw
  exact ⟨back, rfl, hback⟩

theorem IsPlain.frames_of_nameAt? (hp : p.IsPlain) (h : p.nameAt? s = some name) :
    p.Frames name s := by
  unfold nameAt? at h
  obtain ⟨rest, hrest, hname⟩ := Option.bind_eq_some_iff.1 h
  obtain ⟨front, rfl, hfront⟩ := hp.behind_opening hrest
  dsimp only at hname
  split at hname
  next => cases hname
  next hempty =>
    obtain ⟨after, hafter, hname⟩ := Option.bind_eq_some_iff.1 hname
    obtain ⟨back, hback, hspells⟩ := hp.behind_closing hafter
    cases hname
    refine ⟨front, back, after, ?_, hfront, hspells, mt List.isEmpty_iff.2 hempty, fun hmem => ?_⟩
    · rw [List.append_assoc, List.append_assoc, ← hback, List.cons_append,
        List.takeWhile_append_dropWhile]
    · simpa using List.mem_takeWhile_imp hmem

theorem holds_cons {c : Char} : p.Holds name (c :: s) ↔ p.Frames name (c :: s) ∨ p.Holds name s := by
  simp only [Holds, List.suffix_cons_iff, or_and_right, exists_or, exists_eq_left]

theorem IsPlain.holds_of_find? (hp : p.IsPlain) (h : p.find? s = some name) : p.Holds name s := by
  induction s with
  | nil => cases h
  | cons c s ih =>
    rw [find?, Option.or_eq_some_iff] at h
    rw [holds_cons]
    exact h.imp hp.frames_of_nameAt? fun h => ih h.2

theorem Holds.infix_lower (h : p.Holds name s) (hp : p.IsPlain) (hs : 'ſ' ∉ s) :
    p.opening.toList.map Char.toLower <:+: lower s ∧
      p.closing.toList.map Char.toLower <:+: lower s := by
  obtain ⟨_, hsuffix, front, back, after, rfl, hfront, hback, -⟩ := h
  refine ⟨hfront.infix_lower hp.opening hs ?_, hback.infix_lower hp.closing hs ?_⟩
  · refine List.IsInfix.trans ?_ hsuffix.isInfix
    rw [List.append_assoc, List.append_assoc]
    exact (List.prefix_append _ _).isInfix
  · refine List.IsInfix.trans ?_ hsuffix.isInfix
    exact ⟨front ++ p.quote :: name ++ [p.quote], after, by simp⟩

end QuotedPhrase

section

variable {message name : String}

theorem exists_holds_of_invalidColumn? (h : invalidColumn? message = some name) :
    ∃ p ∈ columnPhrases, p.Holds name.toList message.toList := by
  obtain ⟨found, hfound, rfl⟩ := Option.map_eq_some_iff.1 h
  obtain ⟨p, hp, hfind⟩ := List.exists_of_findSome?_eq_some hfound
  rw [String.toList_ofList]
  exact ⟨p, hp, (isPlain_of_mem_columnPhrases hp).holds_of_find? hfind⟩

theorem contains_lowerCase_iff {part : String} :
    contains (lowerCase message) part = true ↔ part.toList <:+: lower message.toList := by
  rw [contains, Text.occurs_iff, lowerCase, Text.onString_toList]

theorem classify_of_unknown (h : contains (lowerCase message) "unknown column" = true) :
    classify message = .columnNotFound := by
  simp [classify, h]

theorem classify_of_missing (h : contains (lowerCase message) "column" = true)
    (h' : contains (lowerCase message) "does not exist" = true) :
    classify message = .columnNotFound := by
  simp [classify, h, h']

theorem classify_of_holds (hp : p ∈ columnPhrases) (hs : 'ſ' ∉ message.toList)
    (h : p.Holds name.toList message.toList) : classify message = .columnNotFound := by
  obtain ⟨hopening, hclosing⟩ := h.infix_lower (isPlain_of_mem_columnPhrases hp) hs
  rcases List.mem_pair.1 hp with rfl | rfl
  · refine classify_of_missing (contains_lowerCase_iff.2 (List.IsInfix.trans ?_ hopening))
      (contains_lowerCase_iff.2 (List.IsInfix.trans ?_ hclosing))
    · decide
    · decide
  · refine classify_of_unknown (contains_lowerCase_iff.2 (List.IsInfix.trans ?_ hopening))
    decide

/-- A column that is found in a message is what the message is about, and stands in it between the
quotes of the phrase that tells of it. -/
theorem classify_of_invalidColumn? (hs : 'ſ' ∉ message.toList)
    (h : invalidColumn? message = some name) :
    classify message = .columnNotFound ∧ name ≠ "" ∧ ∃ p ∈ columnPhrases,
      ∃ before front back after, message.toList =
        before ++ (front ++ p.quote :: name.toList ++ p.quote :: back) ++ after ∧
        Spells p.opening.toList front ∧ Spells p.closing.toList back ∧ p.quote ∉ name.toList := by
  obtain ⟨p, hp, hholds⟩ := exists_holds_of_invalidColumn? h
  refine ⟨classify_of_holds hp hs hholds, ?_⟩
  obtain ⟨s, ⟨before, hbefore⟩, front, back, after, rfl, hfront, hback, hne, hquote⟩ := hholds
  refine ⟨?_, p, hp, before, front, back, after, ?_, hfront, hback, hquote⟩
  · rintro rfl
    exact hne rfl
  · rw [← hbefore]
    simp

theorem classify_of_invalidColumn?_timedOut :
    let message := "Query timed out: relation \"t\", un\u212anown COLUMN 'größe' in syntax"
    'ſ' ∉ message.toList ∧ invalidColumn? message = some "größe" ∧
      classify message = .columnNotFound := by
  intro message
  have hs : 'ſ' ∉ message.toList := by decide +kernel
  have hname : invalidColumn? message = some "größe" := by decide +kernel
  exact ⟨hs, hname, (classify_of_invalidColumn? hs hname).1⟩

/-- With a long s the name is found and the class is missed. -/
example : invalidColumn? "column \"id\" doeſ not exist" = some "id" ∧
    classify "column \"id\" doeſ not exist" = .other := by
  decide +kernel

end

end AskSql
