import Mathlib.Data.List.Find
import AskSql.Policy.Limit
import AskSql.Proofs.Keyword

namespace AskSql

open Keyword Unicode

theorem bareStatement_isPrefix (s : List Char) : bareStatement s <+: Text.trim s := by
  rw [bareStatement]
  refine (Text.trimEnd_isPrefix _).trans ?_
  cases h : Text.dropEnd? [';'] (Text.trim s) with
  | none => exact List.prefix_rfl
  | some t => exact ⟨[';'], (Text.dropEnd?_eq_some h).symm⟩

theorem words_bareStatement (s : List Char) : words (bareStatement s) = words s := by
  rw [bareStatement, words_trimEnd, ← words_trim s]
  cases h : Text.dropEnd? [';'] (Text.trim s) with
  | none => rfl
  | some t =>
    rw [Text.dropEnd?_eq_some h]
    exact (words_append_of_right t (List.forall_mem_singleton.2 (by decide))).symm

def limitClause (n : Nat) : List Char := "LIMIT".toList ++ ' ' :: Nat.toDigits 10 n

theorem words_limitClause (n : Nat) :
    words (limitClause n) = ["LIMIT".toList, Nat.toDigits 10 n] := by
  have hlimit : words "LIMIT".toList = ["LIMIT".toList] := by decide
  have hdigits : words (Nat.toDigits 10 n) = [Nat.toDigits 10 n] :=
    words_eq_singleton Nat.toDigits_ne_nil fun c hc => isWordChar_digit (isDigit_of_mem_toDigits hc)
  rw [limitClause, words_append_cons (by decide), hlimit, hdigits]
  rfl

theorem ensureLimit_of_mentions {sql : String} (h : mentions sql "LIMIT" = true) (n : Nat) :
    ensureLimit sql n = sql := by simp [ensureLimit, h]

theorem toList_ensureLimit {sql : String} (h : mentions sql "LIMIT" = false) (n : Nat) :
    (ensureLimit sql n).toList =
      bareStatement sql.toList ++ ' ' :: limitClause n := by
  simp [ensureLimit, limitClause, h]

theorem words_ensureLimit {sql : String} (h : mentions sql "LIMIT" = false) (n : Nat) :
    words (ensureLimit sql n).toList =
      words sql.toList ++ ["LIMIT".toList, Nat.toDigits 10 n] := by
  rw [toList_ensureLimit h, words_append_cons (by decide), words_bareStatement,
    words_limitClause]

theorem mentions_limit_ensureLimit (sql : String) (n : Nat) :
    mentions (ensureLimit sql n) "LIMIT" = true := by
  cases h : mentions sql "LIMIT" with
  | true => rw [ensureLimit_of_mentions h, h]
  | false =>
    have hspells : spells "LIMIT".toList "LIMIT".toList = true := by decide
    rw [mentions, occurs_eq (by decide), words_ensureLimit h, List.any_append,
      List.any_cons, hspells, Bool.true_or, Bool.or_true]

theorem spells_toDigits {kw : List Char} (h : IsKeyword kw) (n : Nat) :
    spells kw (Nat.toDigits 10 n) = false := by
  cases kw with
  | nil => exact absurd rfl h.1
  | cons k kw =>
    cases hn : Nat.toDigits 10 n with
    | nil => rfl
    | cons c w =>
      have hc : c.isDigit = true := isDigit_of_mem_toDigits (n := n) (by simp [hn])
      have hfold : foldsTo k c = false := by
        by_contra hfold
        have := isDigit_of_foldsTo (h.2 k (by simp)) (by simpa using hfold)
        simp [hc] at this
      simp [spells, hfold]

theorem mentions_ensureLimit {keyword : String} (h : IsKeyword keyword.toList)
    (hlimit : spells keyword.toList "LIMIT".toList = false) (sql : String) (n : Nat) :
    mentions (ensureLimit sql n) keyword = mentions sql keyword := by
  cases hm : mentions sql "LIMIT" with
  | true => rw [ensureLimit_of_mentions hm]
  | false =>
    simp only [mentions, occurs_eq h, words_ensureLimit hm, List.any_append, List.any_cons, hlimit,
      spells_toDigits h, List.any_nil, Bool.or_false]

theorem isKeyword_of_mem_forbidden {p : Policy} {keyword : String} (h : keyword ∈ p.forbidden) :
    IsKeyword keyword.toList ∧ spells keyword.toList "LIMIT".toList = false := by
  have hall : ∀ kw ∈ p.forbidden,
      IsKeyword kw.toList ∧ spells kw.toList "LIMIT".toList = false := by
    cases p <;> decide
  exact hall keyword h

theorem isPrefixOf_append_cons {kw : List Char} {c : Char} (h : c ∉ kw) (s t : List Char) :
    kw.isPrefixOf (s ++ c :: t) = kw.isPrefixOf s := by
  induction kw generalizing s with
  | nil => simp
  | cons k kw ih =>
    simp only [List.mem_cons, not_or] at h
    cases s with
    | nil => simp [List.isPrefixOf, Ne.symm h.1]
    | cons d s => simp [List.isPrefixOf, ih h.2]

theorem exists_trim_eq_bareStatement_append (s : List Char) :
    ∃ after, Text.trim s = bareStatement s ++ after ∧
      ∀ c ∈ after, isBlank c = true ∨ c = ';' := by
  rw [bareStatement]
  cases h : Text.dropEnd? [';'] (Text.trim s) with
  | none =>
    obtain ⟨after, htrim, hafter⟩ := Text.exists_trimEnd_append (Text.trim s)
    exact ⟨after, htrim, fun c hc => .inl (hafter c hc)⟩
  | some t =>
    obtain ⟨after, ht, hafter⟩ := Text.exists_trimEnd_append t
    refine ⟨after ++ [';'], ?_, fun c hc => ?_⟩
    · rw [← List.append_assoc, Option.getD_some, ← ht]
      exact Text.dropEnd?_eq_some h
    · rcases List.mem_append.1 hc with hc | hc
      · exact .inl (hafter c hc)
      · exact .inr (List.mem_singleton.1 hc)

theorem exists_trimStart_eq_bareStatement_append (s : List Char) :
    ∃ after, Text.trimStart s = bareStatement s ++ after ∧
      ∀ c ∈ after, isBlank c = true ∨ c = ';' := by
  obtain ⟨after, htrim, hafter⟩ := exists_trim_eq_bareStatement_append s
  obtain ⟨blanks, hstart, hblanks⟩ := Text.exists_trimEnd_append (Text.trimStart s)
  refine ⟨after ++ blanks, ?_,
    List.forall_mem_append.2 ⟨hafter, fun c hc => .inl (hblanks c hc)⟩⟩
  rw [hstart, ← Text.trim, htrim, List.append_assoc]

/-- No keyword reaches beyond a blank or a semicolon. -/
theorem isPrefixOf_upper_append {kw : List Char} (h : IsKeyword kw) {c : Char}
    (hc : isBlank c = true ∨ c = ';') (s t : List Char) :
    kw.isPrefixOf (upper (s ++ c :: t)) = kw.isPrefixOf (upper s) := by
  have hupper : upperChar c = [c] ∧ c ∉ capitals := by
    rcases hc with hc | rfl
    · exact forall_blank (P := fun c => upperChar c = [c] ∧ c ∉ capitals) (by decide +kernel) hc
    · decide
  rw [upper_append, upper, upper, List.flatMap_cons, hupper.1]
  exact isPrefixOf_append_cons (fun hmem => hupper.2 (h.2 c hmem)) ..

theorem isPrefixOf_upper_trim {kw : List Char} (h : IsKeyword kw) (s : List Char) :
    kw.isPrefixOf (upper (Text.trim s)) = kw.isPrefixOf (upper (bareStatement s)) := by
  obtain ⟨after, htrim, hafter⟩ := exists_trim_eq_bareStatement_append s
  rw [htrim]
  cases after with
  | nil => rw [List.append_nil]
  | cons c after => exact isPrefixOf_upper_append h (hafter c (by simp)) ..

theorem trimEnd_append_limitClause (s : List Char) (n : Nat) :
    Text.trimEnd (s ++ limitClause n) = s ++ limitClause n := by
  rw [Text.trimEnd_eq_rdropWhile, List.rdropWhile_eq_self_iff]
  intro hne
  have hlast : (s ++ limitClause n).getLast hne ∈ Nat.toDigits 10 n := by
    simp [limitClause, List.getLast_append_of_ne_nil, List.getLast_cons, Nat.toDigits_ne_nil]
  exact forall_digit (P := fun c => ¬isBlank c = true) (by decide)
    (isDigit_of_mem_toDigits hlast)

theorem isPrefixOf_upper_trim_ensureLimit {kw : List Char} (h : IsKeyword kw)
    (hlimit : kw.head? ≠ some 'L') {sql : String} (hm : mentions sql "LIMIT" = false) (n : Nat) :
    kw.isPrefixOf (upper (Text.trim (ensureLimit sql n).toList)) =
      kw.isPrefixOf (upper (bareStatement sql.toList)) := by
  rw [toList_ensureLimit hm, Text.trim]
  cases hbare : bareStatement sql.toList with
  | nil =>
    obtain ⟨k, kw, rfl⟩ := List.exists_cons_of_ne_nil h.1
    have hstart : Text.trimStart (' ' :: limitClause n) = limitClause n := by
      rw [Text.trimStart, List.dropWhile_cons_of_pos (by decide)]
      exact Text.trimStart_cons (by decide) _
    have hL : upperChar 'L' = ['L'] := by decide
    rw [List.nil_append, hstart, ← List.nil_append (limitClause n), trimEnd_append_limitClause]
    have hk : (k == 'L') = false := by simpa using hlimit
    simp [upper, limitClause, hL, List.isPrefixOf, hk]
  | cons c rest =>
    have hc := Text.isBlank_head_of_prefix_trim (bareStatement_isPrefix _) hbare
    rw [List.cons_append, Text.trimStart_cons hc, ← List.cons_append,
      List.append_cons, trimEnd_append_limitClause, ← List.append_cons]
    exact isPrefixOf_upper_append h (.inl (by decide)) ..

theorem startsAsQuery_ensureLimit (sql : String) (n : Nat) :
    startsAsQuery (ensureLimit sql n) = startsAsQuery sql := by
  cases hm : mentions sql "LIMIT" with
  | true => rw [ensureLimit_of_mentions hm]
  | false =>
    have hkeyword {kw : List Char} (h : IsKeyword kw) (hlimit : kw.head? ≠ some 'L') :=
      (isPrefixOf_upper_trim_ensureLimit h hlimit hm n).trans (isPrefixOf_upper_trim h _).symm
    simp only [startsAsQuery, leadingKeywords, List.any_cons, List.any_nil]
    rw [hkeyword (by decide) (by decide),
      hkeyword (by decide) (by decide)]

theorem judge_ensureLimit (p : Policy) (sql : String) (n : Nat) :
    p.judge (ensureLimit sql n) = p.judge sql := by
  have hfind : p.forbidden.find? (mentions (ensureLimit sql n)) =
      p.forbidden.find? (mentions sql) := by
    apply List.find?_congr
    intro keyword hmem
    have h := isKeyword_of_mem_forbidden hmem
    exact mentions_ensureLimit h.1 h.2 sql n
  rw [Policy.judge, hfind, startsAsQuery_ensureLimit]
  rfl

/-- A statement is limited once and for all, under the decision that it had without its limit. -/
theorem ensureLimit_settles (sql : String) (n m : Nat) (p : Policy) :
    Stands "LIMIT".toList (ensureLimit sql n).toList ∧
      ensureLimit (ensureLimit sql n) m = ensureLimit sql n ∧
      (p.judge (ensureLimit sql n)).decision = (p.judge sql).decision := by
  have hlimit : mentions (ensureLimit sql n) "LIMIT" = true := mentions_limit_ensureLimit sql n
  exact ⟨(occurs_iff_stands (by decide) _).1 hlimit, ensureLimit_of_mentions hlimit m,
    congrArg Verdict.decision (judge_ensureLimit p sql n)⟩

end AskSql
