import Mathlib.Data.List.TakeWhile
import AskSql.Proofs.Disguise.Scope

/-!
The aliases that a statement gives.

An alias stands behind its table, with or without `AS`; blanks and comments may come between. What a
statement calls a table is told here from where the tokens stand, apart from how it is looked up.
-/

namespace AskSql

open Sql (Token)
open Unicode

def Sql.Token.HasName (t : Token) (key : List Char) : Prop := t.name?.map lower = some key

instance (t : Token) (key : List Char) : Decidable (t.HasName key) :=
  inferInstanceAs (Decidable (_ = _))

theorem Sql.Token.hasName_iff {t : Token} {key : List Char} :
    t.HasName key ↔ ∃ name, t.name? = some name ∧ lower name = key := Option.map_eq_some_iff

theorem Sql.Token.HasName.isTrivia {t : Token} {key : List Char} (h : t.HasName key) :
    t.isTrivia = false := by
  refine Bool.eq_false_iff.2 fun htrivia => ?_
  rw [HasName, name?_of_isTrivia htrivia] at h
  cases h

/-- The token stands where the tokens behind a table have its alias. -/
inductive Follows (t : Token) : List Token → Prop
  | bare : (∀ g ∈ gap, g.isTrivia = true) → Follows t (gap ++ t :: rest)
  | as : (∀ g ∈ gap, g.isTrivia = true) → isAs word = true → (∀ g ∈ gap', g.isTrivia = true) →
      Follows t (gap ++ word :: (gap' ++ t :: rest))

def Calls (index : NameIndex) (k : List Char) (behind : List Token) : Prop :=
  ∃ t, Follows t behind ∧ t.HasName k ∧ isClauseWord t = false ∧ index.hasTable k = false

namespace Scope

variable {index : NameIndex} {k key : List Char} {t : Token} {ts before behind : List Token}

theorem exists_gap (h : ts.dropWhile Token.isTrivia = t :: behind) :
    ∃ gap, (∀ g ∈ gap, g.isTrivia = true) ∧ ts = gap ++ t :: behind :=
  ⟨ts.takeWhile Token.isTrivia, fun _ => List.mem_takeWhile_imp,
    h ▸ List.takeWhile_append_dropWhile.symm⟩

theorem dropWhile_gap {gap : List Token} (hgap : ∀ g ∈ gap, g.isTrivia = true)
    (ht : t.isTrivia = false) :
    (gap ++ t :: behind).dropWhile Token.isTrivia = t :: behind := by
  rw [List.dropWhile_append_of_pos hgap, List.dropWhile_cons_of_neg (by simp [ht])]

theorem follows_of_candidate? (h : candidate? behind = some t) : Follows t behind := by
  unfold candidate? at h
  split at h
  · cases h
  · rename_i u rest hdrop
    obtain ⟨gap, hgap, rfl⟩ := exists_gap hdrop
    split at h <;> rename_i has
    · obtain ⟨rest', hdrop'⟩ := List.head?_eq_some_iff.1 h
      obtain ⟨gap', hgap', rfl⟩ := exists_gap hdrop'
      exact .as hgap has hgap'
    · cases h
      exact .bare hgap

theorem candidate?_of_follows (h : Follows t behind) (htrivia : t.isTrivia = false)
    (hclause : isClauseWord t = false) : candidate? behind = some t := by
  have has : isAs t = false := Bool.eq_false_iff.2 fun h => by
    simp [isClauseWord_of_isAs h] at hclause
  cases h with
  | bare hgap => simp [candidate?, dropWhile_gap hgap htrivia, has]
  | @as _ word _ _ hgap hword hgap' =>
    have hsolid : word.isTrivia = false := by
      cases word with
      | word => rfl
      | quoted | other => cases hword
    simp [candidate?, dropWhile_gap hgap hsolid, hword, dropWhile_gap hgap' htrivia]

theorem alias?_eq_some_iff : alias? index behind = some k ↔ Calls index k behind := by
  rw [alias?_eq, Option.bind_eq_some_iff]
  constructor
  · rintro ⟨t, ht, hk⟩
    obtain ⟨name, hname, hclause, htable, rfl⟩ := asAlias?_eq_some index hk
    exact ⟨t, follows_of_candidate? ht, Token.hasName_iff.2 ⟨name, hname, rfl⟩, hclause, htable⟩
  · rintro ⟨t, ht, hname, hclause, htable⟩
    refine ⟨t, candidate?_of_follows ht hname.isTrivia hclause, ?_⟩
    obtain ⟨name, hgiven, rfl⟩ := Token.hasName_iff.1 hname
    simp [asAlias?, hgiven, hclause, htable]

theorem isDot_of_alias? (h : alias? index behind = some k) :
    behind.head?.any Token.isDot = false := by
  cases behind with
  | nil => rfl
  | cons d behind =>
    refine Bool.eq_false_iff.2 fun hdot => ?_
    obtain rfl : d = .other ['.'] := of_decide_eq_true hdot
    have hcandidate : candidate? (.other ['.'] :: behind) = some (.other ['.']) := by
      rw [candidate?, List.dropWhile_cons_of_neg (by decide)]
      rfl
    rw [alias?_eq, hcandidate] at h
    cases h

theorem binds_iff : binds index k behind = true ↔ Calls index k behind := by
  rw [← alias?_eq_some_iff, binds, Bool.and_eq_true, decide_eq_true_iff, and_iff_right_iff_imp]
  exact fun h => by rw [isDot_of_alias? h]; rfl

theorem bound?_eq_some_iff : bound? index k t behind = some key ↔
    t.HasName key ∧ index.hasTable key = true ∧ Calls index k behind := by
  rw [bound?, Option.bind_eq_some_iff, Token.hasName_iff]
  constructor
  · rintro ⟨name, hname, h⟩
    split at h <;> rename_i hbinds
    · rw [Bool.and_eq_true, binds_iff] at hbinds
      cases h
      exact ⟨⟨name, hname, rfl⟩, hbinds⟩
    · cases h
  · rintro ⟨⟨name, hname, rfl⟩, htable, hcalls⟩
    exact ⟨name, hname, by rw [htable, binds_iff.2 hcalls]; rfl⟩

theorem exists_bound?_of_latest? (h : latest? index k ts = some key) :
    ∃ before t behind, ts = before ++ t :: behind ∧ bound? index k t behind = some key := by
  induction ts with
  | nil => cases h
  | cons t ts ih =>
    rw [latest?, Option.or_eq_some_iff] at h
    rcases h with hlater | ⟨-, hbound⟩
    · obtain ⟨before, u, behind, rfl, hbound⟩ := ih hlater
      exact ⟨t :: before, u, behind, rfl, hbound⟩
    · exact ⟨[], t, ts, rfl, hbound⟩

theorem isSome_latest? (h : bound? index k t behind = some key) (before : List Token) :
    (latest? index k (before ++ t :: behind)).isSome = true := by
  induction before with
  | nil => simp [latest?, h]
  | cons u before ih => rw [List.cons_append, latest?, Option.isSome_or, ih, Bool.true_or]

theorem latest?_append (h : latest? index k behind = some key) (before : List Token) :
    latest? index k (before ++ behind) = some key := by
  induction before with
  | nil => exact h
  | cons u before ih => rw [List.cons_append, latest?, ih, Option.some_or]

end Scope

end AskSql
