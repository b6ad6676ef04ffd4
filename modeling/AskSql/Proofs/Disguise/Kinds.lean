import AskSql.Proofs.Disguise.Tokenwise

/-!
The kinds of the tokens of a revealed statement.

A name is put in as it is, so that it is read as one identifier only if the token that it stands in can
hold it: a bare placeholder can give way to a word, a quoted one to a name without its quote.
-/

namespace AskSql

open Sql NameIndex

namespace Sql.Token

inductive SameKind : Token → Token → Prop
  | word : SameKind (.word v) (.word w)
  | quoted : SameKind (.quoted q v) (.quoted q w)
  | other : SameKind (.other text) (.other text)

def Holds (name : List Char) : Token → Prop
  | .word _ => IsWord name
  | .quoted q _ => q ∉ name
  | .other _ => True

instance (name : List Char) (t : Token) : Decidable (t.Holds name) :=
  match t with
  | .word _ => inferInstanceAs (Decidable (IsWord name))
  | .quoted q _ => inferInstanceAs (Decidable (q ∉ name))
  | .other _ => inferInstanceAs (Decidable True)

variable {t u : Token} {name : List Char}

theorem Holds.refilled (h : t.Holds name) : t.Refilled (t.rename name) := by
  cases t with
  | word w => exact .word h
  | quoted q body => exact .quoted h
  | other text => exact .same _

theorem Refilled.sameKind (h : t.Refilled u) : t.SameKind u := by
  cases h with
  | same =>
    cases t with
    | word => exact .word
    | quoted => exact .quoted
    | other => exact .other
  | word => exact .word
  | quoted => exact .quoted

end Sql.Token

variable {s : Schema} {sql : String}

theorem Schema.refilled_renameToken {t : Token} (h : ∀ name ∈ s.namesFor t, t.Holds name.toList)
    (scope : Scope) (before : List Token) :
    t.Refilled (renameToken (back s.pairings) scope before t) := by
  cases hname : t.name? with
  | none =>
    rw [renameToken, hname]
    exact .same t
  | some name =>
    rw [renameToken_of_name? hname]
    cases hnew : newName? (back s.pairings) scope before name with
    | none =>
      rw [Option.getD_none, Token.rename_name hname]
      exact .same t
    | some target =>
      obtain ⟨n, hn, rfl⟩ := s.exists_mem_namesFor_of_newName? hname hnew
      exact (h n hn).refilled

/-- Where every placeholder can hold the names that it stands for, a revealed statement is read as the
tokens of the statement, each with its name. -/
theorem Disguise.sameKind_reveal
    (h : ∀ t ∈ tokens sql.toList, ∀ name ∈ s.namesFor t, t.Holds name.toList) :
    let ts := tokens sql.toList
    let us := tokens ((ofSchema s).reveal sql).toList
    List.Forall₂ Token.SameKind ts us ∧
      List.Forall₂ (fun x u => s.Restored ts x.1 x.2 u) (placed [] ts) us := by
  intro ts us
  let scope := scopeOf (back s.pairings) ts
  have hrefilled : List.Forall₂ Token.Refilled ts (renameFrom (back s.pairings) scope [] ts) := by
    rw [← map_snd_placed [] ts, List.forall₂_map_left_iff, map_snd_placed]
    exact forall₂_renameFrom fun x hx => s.refilled_renameToken (h x.2 (mem_of_placed hx)) scope x.1
  have hus : us = renameFrom (back s.pairings) scope [] ts := by
    rw [← tokens_source ((lexed_tokens sql.toList).1.refilled hrefilled).1, ← toList_reveal]
  rw [hus]
  exact ⟨hrefilled.imp fun _ _ => Token.Refilled.sameKind,
    forall₂_renameFrom fun x _ => s.restored_renameToken ts x.1 x.2⟩

theorem Disguise.sameKind_reveal_storage :
    let sql := "SELECT \"col_1\", COL_2 FROM `table_1` WHERE \"col_1\" > 3"
    let ts := tokens sql.toList
    let us := tokens ((ofSchema Rehearsal.storage).reveal sql).toList
    (ofSchema Rehearsal.storage).reveal sql =
        "SELECT \"unit price\", size FROM `order items` WHERE \"unit price\" > 3" ∧
      List.Forall₂ Token.SameKind ts us ∧
        List.Forall₂ (fun x u => Rehearsal.storage.Restored ts x.1 x.2 u) (placed [] ts) us :=
  ⟨by decide +kernel, sameKind_reveal (by decide +kernel)⟩

theorem Disguise.not_sameKind_storage :
    let sql := "SELECT col_1 FROM table_2 WHERE col_1 > 3"
    (∀ name ∈ Rehearsal.storage.names, name ≠ "") ∧
      (ofSchema Rehearsal.storage).reveal sql = "SELECT id FROM sales--old WHERE id > 3" ∧
      ¬List.Forall₂ Token.SameKind (tokens sql.toList)
        (tokens ((ofSchema Rehearsal.storage).reveal sql).toList) := by
  have hlength : (tokens ((Disguise.ofSchema Rehearsal.storage).reveal
      "SELECT col_1 FROM table_2 WHERE col_1 > 3").toList).length ≠
        (tokens "SELECT col_1 FROM table_2 WHERE col_1 > 3".toList).length := by decide +kernel
  exact ⟨by decide +kernel, by decide +kernel, fun h => hlength h.length_eq.symm⟩

end AskSql
