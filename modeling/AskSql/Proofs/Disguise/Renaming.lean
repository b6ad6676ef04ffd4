import Mathlib.Data.List.Forall2
import AskSql.Disguise.Renaming
import AskSql.Proofs.Disguise.NameIndex
import AskSql.Proofs.Sql.Token

/-!
The tokens of a renamed text.

A plain name in the place of another moves no boundary between tokens, so that a text renamed with
plain names reads as its tokens renamed.
-/

namespace AskSql

open Sql

theorem exists_mem_of_forall₂ {α β : Type} {R : α → β → Prop} {xs : List α} {ys : List β} {x : α}
    (h : List.Forall₂ R xs ys) (hx : x ∈ xs) : ∃ y ∈ ys, R x y := by
  induction h with
  | nil => cases hx
  | cons hxy _ ih =>
    rcases List.mem_cons.1 hx with rfl | hx
    · exact ⟨_, List.mem_cons_self, hxy⟩
    · obtain ⟨y, hy, hR⟩ := ih hx
      exact ⟨y, List.mem_cons_of_mem _ hy, hR⟩

namespace Pairing

def sources (p : Pairing) : List (List Char) := p.source :: p.columns.map Prod.fst

def targets (p : Pairing) : List (List Char) := p.target :: p.columns.map Prod.snd

@[simp] theorem targets_swap (p : Pairing) : p.swap.targets = p.sources := by
  simp [targets, sources, swap]

@[simp] theorem sources_swap (p : Pairing) : p.swap.sources = p.targets := by
  simp [targets, sources, swap]

end Pairing

section

open NameIndex Unicode

variable {l : List Pairing} {key name target : List Char}

theorem NameIndex.exists_of_table? (h : (ofPairings l).table? name = some target) :
    ∃ p ∈ l, lower p.source = lower name ∧ p.target = target := by
  rw [table?_ofPairings, Option.map_eq_some_iff] at h
  obtain ⟨p, hp, rfl⟩ := h
  exact ⟨p, List.mem_of_find?_eq_some hp, by simpa using List.find?_some hp, rfl⟩

theorem NameIndex.exists_of_columnOf? (h : (ofPairings l).columnOf? key name = some target) :
    ∃ p ∈ l, ∃ c ∈ p.columns, lower c.1 = lower name ∧ c.2 = target := by
  rw [columnOf?_ofPairings, firstColumn?, Option.map_eq_some_iff] at h
  obtain ⟨c, hc, rfl⟩ := h
  obtain ⟨p, hp, hcolumn⟩ := List.mem_flatMap.1 (List.mem_of_find?_eq_some hc)
  exact ⟨p, (List.mem_filter.1 hp).1, c, hcolumn, by simpa using List.find?_some hc, rfl⟩

theorem exists_of_newName? {s : Scope} {before : List Token}
    (h : newName? (ofPairings l) s before name = some target) :
    (∃ p ∈ l, lower p.source = lower name ∧ p.target = target) ∨
      ∃ p ∈ l, ∃ c ∈ p.columns, lower c.1 = lower name ∧ c.2 = target := by
  unfold newName? at h
  split at h
  · rcases Option.or_eq_some_iff.1 h with hcolumn | ⟨-, htable⟩
    · exact .inr (exists_of_columnOf? hcolumn)
    · exact .inl (exists_of_table? htable)
  · rcases Option.or_eq_some_iff.1 h with htable | ⟨-, hamong⟩
    · exact .inl (exists_of_table? htable)
    · obtain ⟨_, -, hcolumn⟩ := List.exists_of_findSome?_eq_some hamong
      exact .inr (exists_of_columnOf? hcolumn)

theorem mem_targets_of_newName? {s : Scope} {before : List Token}
    (h : newName? (ofPairings l) s before name = some target) : ∃ p ∈ l, target ∈ p.targets := by
  rcases exists_of_newName? h with ⟨p, hp, -, rfl⟩ | ⟨p, hp, c, hc, -, rfl⟩
  · exact ⟨p, hp, List.mem_cons_self⟩
  · exact ⟨p, hp, List.mem_cons_of_mem _ (List.mem_map_of_mem hc)⟩

end

namespace Sql

/-- A plain name stands in the place of the name, if any. -/
inductive Token.Alike : Token → Token → Prop
  | same (t : Token) : Alike t t
  | word : IsWord v → Alike (.word w) (.word v)
  | quoted : IsWord v → Alike (.quoted q body) (.quoted q v)

variable {t u : Token} {s s' : List Char} {ts us : List Token}

theorem opening_word {w : List Char} (h : IsWord w) (s : List Char) :
    opening (w ++ s) = some 'a' := by
  obtain ⟨c, w, rfl⟩ := List.exists_cons_of_ne_nil h.1
  simp [opening, h.2 c List.mem_cons_self]

theorem IsIdentifierQuote.not_mem_word {q : Char} {w : List Char} (hq : IsIdentifierQuote q)
    (hw : IsWord w) : q ∉ w := fun h => by
  simpa [hq.isWordChar] using hw.2 q h

/-- Another name stands in the place of the name, one that the token can hold. -/
inductive Token.Refilled : Token → Token → Prop
  | same (t : Token) : Refilled t t
  | word : IsWord v → Refilled (.word w) (.word v)
  | quoted : q ∉ v → Refilled (.quoted q body) (.quoted q v)

theorem Reads.refilled_of_alike (h : Reads t s) (ha : t.Alike u) : t.Refilled u := by
  cases ha with
  | same => exact .same t
  | word hv => exact .word hv
  | quoted hv =>
    cases h with
    | quoted hq _ => exact .quoted (hq.not_mem_word hv)

theorem Reads.refilled (h : Reads t s) (hu : t.Refilled u) : Reads u s := by
  cases hu with
  | same => exact h
  | word hv =>
    cases h with
    | word _ hs => exact .word hv hs
  | quoted hv =>
    cases h with
    | quoted hq _ => exact .quoted hq hv

theorem Reads.opening_refilled (h : Reads t s) (hu : t.Refilled u) (s' : List Char) :
    opening (u.source ++ s') = opening (t.source ++ s) := by
  cases hu with
  | same => exact opening_append h.source_ne_nil s' s
  | word hv =>
    cases h with
    | word hw _ => exact (opening_word hv s').trans (opening_word hw s).symm
  | quoted hv => rfl

theorem Lexed.refilled (h : Lexed ts) (hus : List.Forall₂ Token.Refilled ts us) :
    Lexed us ∧ opening (source us) = opening (source ts) := by
  induction hus with
  | nil => exact ⟨trivial, rfl⟩
  | cons htoken _ ih =>
    obtain ⟨hlexed, hopening⟩ := ih h.2
    exact ⟨⟨(h.1.refilled htoken).congr hopening.symm, hlexed⟩, h.1.opening_refilled htoken _⟩

theorem Lexed.refilled_of_alike (h : Lexed ts) (ha : List.Forall₂ Token.Alike ts us) :
    List.Forall₂ Token.Refilled ts us := by
  induction ha with
  | nil => exact .nil
  | cons htoken _ ih => exact .cons (h.1.refilled_of_alike htoken) (ih h.2)

end Sql

def renameToken (index : NameIndex) (s : Scope) (before : List Token) (t : Token) : Token :=
  match t.name? with
  | none => t
  | some name => t.rename ((newName? index s before name).getD name)

theorem renameFrom_cons (index : NameIndex) (s : Scope) (before : List Token) (t : Token)
    (rest : List Token) : renameFrom index s before (t :: rest) =
      renameToken index s before t :: renameFrom index s (t :: before) rest := rfl

theorem Sql.Token.name?_rename {t : Token} {a : List Char} (h : t.name? = some a) (b : List Char) :
    (t.rename b).name? = some b := by
  cases t <;> cases h <;> rfl

theorem Sql.Token.rename_rename (t : Token) (a b : List Char) :
    (t.rename a).rename b = t.rename b := by
  cases t <;> rfl

section

variable {index : NameIndex} {s : Scope} {before : List Token} {t : Token} {name : List Char}

theorem renameToken_of_name? (h : t.name? = some name) :
    renameToken index s before t = t.rename ((newName? index s before name).getD name) := by
  rw [renameToken, h]

theorem renameToken_of_newName?_eq_none (h : ∀ name ∈ t.name?, newName? index s before name = none) :
    renameToken index s before t = t := by
  cases hname : t.name? with
  | none => rw [renameToken, hname]
  | some name =>
    rw [renameToken_of_name? hname, h name hname, Option.getD_none, Token.rename_name hname]

end

variable {l : List Pairing} (h : ∀ p ∈ l, ∀ name ∈ p.targets, IsWord name)

include h

theorem alike_renameToken (s : Scope) (before : List Token) (t : Token) :
    t.Alike (renameToken (.ofPairings l) s before t) := by
  cases hname : t.name? with
  | none =>
    rw [renameToken, hname]
    exact .same t
  | some name =>
    rw [renameToken_of_name? hname]
    cases hnew : newName? (.ofPairings l) s before name with
    | none =>
      rw [Option.getD_none, Token.rename_name hname]
      exact .same t
    | some target =>
      obtain ⟨p, hp, htarget⟩ := mem_targets_of_newName? hnew
      cases t with
      | word w => exact .word (h p hp target htarget)
      | quoted q body => exact .quoted (h p hp target htarget)
      | other text => exact .same _

theorem alike_renameFrom (s : Scope) (before ts : List Token) :
    List.Forall₂ Token.Alike ts (renameFrom (.ofPairings l) s before ts) := by
  induction ts generalizing before with
  | nil => exact .nil
  | cons t ts ih => exact .cons (alike_renameToken h s before t) (ih _)

/-- A renamed text is read as what it was written as. -/
theorem tokens_rename (text : List Char) : tokens ((NameIndex.ofPairings l).rename text) =
    renameFrom (.ofPairings l) (scopeOf (.ofPairings l) (tokens text)) [] (tokens text) :=
  tokens_source ((lexed_tokens text).1.refilled
    ((lexed_tokens text).1.refilled_of_alike (alike_renameFrom h _ _ _))).1

end AskSql
