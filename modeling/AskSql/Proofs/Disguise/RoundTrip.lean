import AskSql.Proofs.Disguise.Revealed

namespace AskSql

open Sql NameIndex Unicode

def placed (before : List Token) : List Token → List (List Token × Token)
  | [] => []
  | t :: rest => (before, t) :: placed (t :: before) rest

/-- The token has one reading behind the given ones, the last of which comes first. -/
inductive Readable (l : List Pairing) (s : Scope) (before : List Token) (t : Token) : Prop
  | table : p ∈ l → t.name? = some p.target → Readable l s before t
  | column : p ∈ l → c ∈ p.columns → t.name? = some c.2 →
      (qualifier? before).bind (s.table? (back l)) = some (lower p.target) →
      Readable l s before t
  | foreign : (∀ name ∈ t.name?, Foreign l name) → Readable l s before t

theorem dotted_of_placed {l : List Pairing} {before ts : List Token}
    (h : ∀ x ∈ placed before ts, IsColumn l x.2 → qualifier? x.1 ≠ none) : Dotted l ts := by
  induction ts generalizing before with
  | nil => exact .nil
  | cons t ts ih =>
    have htail := ih fun x hx => h x (List.mem_cons_of_mem _ hx)
    cases ts with
    | nil => exact .singleton t
    | cons u ts =>
      refine List.isChain_cons_cons.2 ⟨fun hu => ?_, htail⟩
      have hqualifier := h (t :: before, u) (by simp [placed]) hu
      cases hdot : t.isDot with
      | true => rfl
      | false => cases before <;> simp [qualifier?, hdot] at hqualifier

namespace Reversible

variable {l : List Pairing} (h : Reversible l) {t : Token} {ts : List Token}

include h

section

variable {s s' : Scope} {before before' : List Token}

theorem qualifier?_ne_none (ht : Readable l s before t) (hcolumn : IsColumn l t) :
    qualifier? before ≠ none := by
  obtain ⟨name, hname, q, hq, c, hc, rfl⟩ := hcolumn
  cases ht with
  | table hp htarget =>
    have heq := Option.some.inj (hname.symm.trans htarget)
    have hfree := h.hasTable_back_column hq hc
    rw [heq, hasTable_target hp] at hfree
    cases hfree
  | column hp hc hname hqualifier =>
    intro hnone
    rw [hnone] at hqualifier
    cases hqualifier
  | foreign hforeign => exact absurd rfl ((hforeign _ hname).ne_column hq hc).2

theorem revealed_renameToken (ht : Readable l s before t) :
    RevealedToken l t (renameToken (back l) s before t) := by
  cases ht with
  | table hp hname =>
    rw [renameToken_of_name? hname, h.newName?_back_table hp, Option.getD_some]
    exact .rename hname (.table hp)
  | column hp hc hname hbefore =>
    rw [renameToken_of_name? hname, h.newName?_back_column hp hc hbefore, Option.getD_some]
    exact .rename hname (.column hp hc)
  | foreign hforeign =>
    rw [renameToken_of_newName?_eq_none fun name hname => (hforeign name hname).swap.newName? s before]
    cases t with
    | word w => exact .word (.foreign (hforeign w rfl))
    | quoted q body => exact .quoted (.foreign (hforeign body rfl))
    | other => exact .other

theorem revealed_renameFrom (hts : ∀ x ∈ placed before ts, Readable l s x.1 x.2) :
    List.Forall₂ (RevealedToken l) ts (renameFrom (back l) s before ts) := by
  induction ts generalizing before with
  | nil => exact .nil
  | cons t ts ih =>
    obtain ⟨ht, hrest⟩ := List.forall_mem_cons.1 hts
    exact .cons (h.revealed_renameToken ht) (ih hrest)

variable (hresolve : ∀ {q q' p}, Revealed l q q' → p ∈ l →
    s.table? (back l) q = some (lower p.target) → s'.table? (forth l) q' = some (lower p.source))

include hresolve

theorem renameToken_renameToken (ht : Readable l s before t)
    (hbefore : List.Forall₂ (RevealedToken l) before before') :
    renameToken (forth l) s' before' (renameToken (back l) s before t) = t := by
  have hback {a b : List Char} (hname : t.name? = some a)
      (hnew : newName? (forth l) s' before' b = some a) :
      renameToken (forth l) s' before' (t.rename b) = t := by
    rw [renameToken_of_name? (Token.name?_rename hname b), hnew, Option.getD_some,
      Token.rename_rename, Token.rename_name hname]
  cases ht with
  | table hp hname =>
    rw [renameToken_of_name? hname, h.newName?_back_table hp, Option.getD_some]
    exact hback hname (h.sources.newName?_table hp)
  | column hp hc hname hqualifier =>
    rw [renameToken_of_name? hname, h.newName?_back_column hp hc hqualifier, Option.getD_some]
    obtain ⟨q, hq, htable⟩ := Option.bind_eq_some_iff.1 hqualifier
    obtain ⟨q', hq', hrevealed⟩ := exists_qualifier? hbefore hq
    refine hback hname (h.sources.newName?_column hp hc ?_)
    rw [hq', Option.bind_some, hresolve hrevealed hp htable]
  | foreign hforeign =>
    rw [renameToken_of_newName?_eq_none fun name hname => (hforeign name hname).swap.newName? s before,
      renameToken_of_newName?_eq_none fun name hname => (hforeign name hname).newName? s' before']

theorem renameFrom_renameFrom (hts : ∀ x ∈ placed before ts, Readable l s x.1 x.2)
    (hbefore : List.Forall₂ (RevealedToken l) before before') :
    renameFrom (forth l) s' before' (renameFrom (back l) s before ts) = ts := by
  induction ts generalizing before before' with
  | nil => rfl
  | cons t ts ih =>
    obtain ⟨ht, hrest⟩ := List.forall_mem_cons.1 hts
    rw [renameFrom_cons, renameFrom_cons, h.renameToken_renameToken hresolve ht hbefore,
      ih hrest (.cons (h.revealed_renameToken ht) hbefore)]

end

theorem rename_rename (hplain : ∀ p ∈ l, ∀ name ∈ p.sources, IsWord name) {text : List Char}
    (htext : ∀ x ∈ placed [] (tokens text),
      Readable l (scopeOf (back l) (tokens text)) x.1 x.2) :
    (forth l).rename ((back l).rename text) = text := by
  have hdotted : Dotted l (tokens text) :=
    dotted_of_placed fun x hx hcolumn => h.qualifier?_ne_none (htext x hx) hcolumn
  have htargets : ∀ p ∈ l.map Pairing.swap, ∀ name ∈ p.targets, IsWord name := by
    intro p hp name hname
    obtain ⟨q, hq, rfl⟩ := List.mem_map.1 hp
    exact hplain q hq name (by simpa using hname)
  have hback := h.renameFrom_renameFrom
    (h.table?_of_table? (h.revealed_renameFrom htext) hdotted) htext .nil
  rw [NameIndex.rename, tokens_rename htargets, hback, source_tokens]

end Reversible

end AskSql
