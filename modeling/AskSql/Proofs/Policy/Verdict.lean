import AskSql.Proofs.Limit

namespace AskSql

open Keyword

def Decision.naming (keyword : String) : Decision :=
  ⟨false, some ("SQL contains forbidden keyword: " ++ keyword ++ ".")⟩

/-- The text begins, behind blanks and in any letter case, with one of the words of a query. -/
def BeginsAsQuery (sql : String) : Prop :=
  ∃ keyword ∈ ["SELECT", "WITH"], keyword.toList <+: Unicode.upper (Text.trim sql.toList)

namespace Policy

def Names (p : Policy) (sql keyword : String) : Prop :=
  Stands keyword.toList sql.toList ∧ ∃ before after, p.forbidden = before ++ keyword :: after ∧
    ∀ earlier ∈ before, ¬Stands earlier.toList sql.toList

def Clears (p : Policy) (sql : String) : Prop :=
  ∀ keyword ∈ p.forbidden, ¬Stands keyword.toList sql.toList

inductive Decides (p : Policy) (sql : String) : Decision → Prop
  | naming {keyword : String} : p.Names sql keyword → Decides p sql (.naming keyword)
  | notAQuery : p.Clears sql → p = .readOnly → ¬BeginsAsQuery sql →
      Decides p sql ⟨false, some "Only SELECT queries are allowed."⟩
  | allowing : p.Clears sql → (p = .readOnly → BeginsAsQuery sql) → Decides p sql ⟨true, none⟩

end Policy

variable {p : Policy} {sql keyword : String}

theorem Policy.mentions_iff_stands (h : keyword ∈ p.forbidden) :
    mentions sql keyword = true ↔ Stands keyword.toList sql.toList :=
  occurs_iff_stands (isKeyword_of_mem_forbidden h).1 _

theorem startsAsQuery_iff : startsAsQuery sql = true ↔ BeginsAsQuery sql := by
  simp [startsAsQuery, leadingKeywords, BeginsAsQuery]

theorem find?_mentions_eq_some_iff :
    p.forbidden.find? (mentions sql) = some keyword ↔ p.Names sql keyword := by
  have hearlier {before after : List String} (hsplit : p.forbidden = before ++ keyword :: after) :
      (∀ kw ∈ before, (!mentions sql kw) = true) ↔
        ∀ kw ∈ before, ¬Stands kw.toList sql.toList := by
    refine forall₂_congr fun kw h => ?_
    rw [← Policy.mentions_iff_stands (p := p) (by simp [hsplit, h]), Bool.not_eq_true',
      Bool.not_eq_true]
  rw [List.find?_eq_some_iff_append, Policy.Names,
    exists₂_congr fun before after => and_congr_right hearlier]
  refine and_congr_left fun ⟨before, after, hsplit, _⟩ => ?_
  exact Policy.mentions_iff_stands (p := p) (by simp [hsplit])

theorem find?_mentions_eq_none_iff :
    p.forbidden.find? (mentions sql) = none ↔ p.Clears sql := by
  rw [List.find?_eq_none, Policy.Clears]
  exact forall₂_congr fun keyword h => not_congr (Policy.mentions_iff_stands h)

theorem Policy.isReadOnly_iff : p.isReadOnly = true ↔ p = .readOnly := by
  cases p <;> simp [isReadOnly]

theorem judge_eq_forbidden_iff : p.judge sql = .forbidden keyword ↔ p.Names sql keyword := by
  rw [← find?_mentions_eq_some_iff, Policy.judge]
  cases p.forbidden.find? (mentions sql) with
  | some kw => simp
  | none => cases p.isReadOnly && !startsAsQuery sql <;> simp

theorem judge_eq_notAQuery_iff :
    p.judge sql = .notAQuery ↔ p.Clears sql ∧ p = .readOnly ∧ ¬BeginsAsQuery sql := by
  rw [← find?_mentions_eq_none_iff, ← Policy.isReadOnly_iff, ← startsAsQuery_iff, Policy.judge]
  cases p.forbidden.find? (mentions sql) with
  | some kw => simp
  | none => simp

theorem judge_eq_allowed_iff :
    p.judge sql = .allowed ↔ p.Clears sql ∧ (p = .readOnly → BeginsAsQuery sql) := by
  rw [← find?_mentions_eq_none_iff, ← Policy.isReadOnly_iff, ← startsAsQuery_iff, Policy.judge]
  cases p.forbidden.find? (mentions sql) with
  | some kw => simp
  | none => simp

theorem Verdict.decision_eq_naming_iff {v : Verdict} :
    v.decision = .naming keyword ↔ v = .forbidden keyword := by
  cases v with
  | allowed => simp [decision, Decision.naming, isAllowed]
  | forbidden kw => simp [decision, Decision.naming, isAllowed, reason?]
  | notAQuery =>
    have hreason : "Only SELECT queries are allowed." ≠
        "SQL contains forbidden keyword: " ++ keyword ++ "." := fun h => by
      simpa using congrArg (·.toList.head?) h
    simp [decision, Decision.naming, isAllowed, reason?, hreason]

theorem decides_decision (v : Verdict) (h : p.judge sql = v) : p.Decides sql v.decision := by
  cases v with
  | forbidden kw => exact .naming (judge_eq_forbidden_iff.1 h)
  | notAQuery =>
    obtain ⟨hclears, hreadOnly, hbegins⟩ := judge_eq_notAQuery_iff.1 h
    exact .notAQuery hclears hreadOnly hbegins
  | allowed =>
    obtain ⟨hclears, hbegins⟩ := judge_eq_allowed_iff.1 h
    exact .allowing hclears hbegins

theorem Policy.Decides.eq_decision {d : Decision} (h : p.Decides sql d) :
    (p.judge sql).decision = d := by
  cases h with
  | naming h => exact Verdict.decision_eq_naming_iff.2 (judge_eq_forbidden_iff.2 h)
  | notAQuery hclears hreadOnly hbegins =>
    rw [judge_eq_notAQuery_iff.2 ⟨hclears, hreadOnly, hbegins⟩]
    rfl
  | allowing hclears hbegins =>
    rw [judge_eq_allowed_iff.2 ⟨hclears, hbegins⟩]
    rfl

theorem exists_decision_eq_naming (h : keyword ∈ p.forbidden)
    (hstands : Stands keyword.toList sql.toList) :
    ∃ kw, (p.judge sql).decision = .naming kw := by
  cases hjudge : p.judge sql with
  | forbidden kw => exact ⟨kw, rfl⟩
  | notAQuery => exact absurd hstands ((judge_eq_notAQuery_iff.1 hjudge).1 keyword h)
  | allowed => exact absurd hstands ((judge_eq_allowed_iff.1 hjudge).1 keyword h)

/-- The decision is the one that the words and the start of the text call for; and a text that is
denied for a word of it is denied for one in any larger text that does not go on with its words. -/
theorem Policy.decision_eq_iff_and_surround (p : Policy) (sql : String) :
    (∀ d, (p.judge sql).decision = d ↔ p.Decides sql d) ∧
      ∀ keyword before after : String, (p.judge sql).decision = .naming keyword →
        (∀ c ∈ before.toList.getLast?, isWordChar c = false) →
        (∀ c ∈ after.toList.head?, isWordChar c = false) →
        ∃ kw, (p.judge (before ++ sql ++ after)).decision = .naming kw := by
  refine ⟨fun d => ⟨?_, Decides.eq_decision⟩, fun keyword before after h hbefore hafter => ?_⟩
  · rintro rfl
    exact decides_decision _ rfl
  · have hnames : p.Names sql keyword :=
      judge_eq_forbidden_iff.1 (Verdict.decision_eq_naming_iff.1 h)
    obtain ⟨hstands, _, _, hsplit, -⟩ := hnames
    have hmem : keyword ∈ p.forbidden := by simp [hsplit]
    refine exists_decision_eq_naming hmem ?_
    simpa using hstands.surround hbefore hafter

theorem Policy.decision_eq_iff_and_surround_comment :
    (Policy.readOnly.judge "SELECT 1; drop TABLE users").decision = .naming "DROP" ∧
      ∃ kw, (Policy.readOnly.judge
        ("/*" ++ "SELECT 1; drop TABLE users" ++ " */ SELECT 2")).decision = .naming kw := by
  have hnaming : (Policy.readOnly.judge "SELECT 1; drop TABLE users").decision =
      .naming "DROP" := by decide +kernel
  have hstar : isWordChar '*' = false := by decide
  have hblank : isWordChar ' ' = false := by decide
  exact ⟨hnaming, (Policy.decision_eq_iff_and_surround _ _).2 "DROP" "/*" " */ SELECT 2" hnaming
    (by simpa using hstar) (by simpa using hblank)⟩

end AskSql
