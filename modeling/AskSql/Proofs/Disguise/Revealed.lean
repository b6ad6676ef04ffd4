import Mathlib.Data.List.Chain
import AskSql.Proofs.Disguise.Scope
import AskSql.Proofs.Disguise.Separated

/-!
The aliases of a statement and of what it stands for.

A statement in placeholders and the statement with the real names in their places give the same
aliases to the same tables. A table named `as` can make the second one give an alias twice; the table
to which it is given last is the right one.
-/

namespace AskSql

open Sql NameIndex Unicode

abbrev NameIndex.forth (l : List Pairing) : NameIndex := .ofPairings l

abbrev NameIndex.back (l : List Pairing) : NameIndex := .ofPairings (l.map Pairing.swap)

/-- The name belongs to no table and no column, on neither side. -/
def Foreign (l : List Pairing) (name : List Char) : Prop :=
  ∀ p ∈ l, ∀ known ∈ p.sources ++ p.targets, lower known ≠ lower name

/-- The second name is what the first one stands for. -/
inductive Revealed (l : List Pairing) : List Char → List Char → Prop
  | table : p ∈ l → Revealed l p.target p.source
  | column : p ∈ l → c ∈ p.columns → Revealed l c.2 c.1
  | foreign : Foreign l name → Revealed l name name

inductive RevealedToken (l : List Pairing) : Token → Token → Prop
  | word : Revealed l a b → RevealedToken l (.word a) (.word b)
  | quoted : Revealed l a b → RevealedToken l (.quoted q a) (.quoted q b)
  | other : RevealedToken l (.other text) (.other text)

inductive SameTable (l : List Pairing) : Option (List Char) → Option (List Char) → Prop
  | none : SameTable l none none
  | table : p ∈ l → SameTable l (some (lower p.target)) (some (lower p.source))

/-- The names of a list of tables serve in both directions. -/
structure Reversible (l : List Pairing) : Prop where
  sources : Separated l
  targets : Separated (l.map Pairing.swap)
  not_as : ∀ p ∈ l, asciiUpper p.target ≠ ['A', 'S']

section

variable {l : List Pairing} {a b q : List Char} {c : List Char × List Char} {t u : Token}
  {ts us : List Token} {p : Pairing} {s : Scope} {before : List Token}

namespace Foreign

variable (h : Foreign l a)

include h

theorem ne_table (hp : p ∈ l) : lower p.source ≠ lower a ∧ lower p.target ≠ lower a :=
  ⟨h p hp _ (by simp [Pairing.sources]), h p hp _ (by simp [Pairing.targets])⟩

theorem ne_column (hp : p ∈ l) (hc : c ∈ p.columns) : lower c.1 ≠ lower a ∧ lower c.2 ≠ lower a :=
  ⟨h p hp _ (List.mem_append_left _ (List.mem_cons_of_mem _ (List.mem_map_of_mem hc))),
    h p hp _ (List.mem_append_right _ (List.mem_cons_of_mem _ (List.mem_map_of_mem hc)))⟩

theorem swap : Foreign (l.map Pairing.swap) a := by
  intro p hp known hknown
  obtain ⟨q, hq, rfl⟩ := List.mem_map.1 hp
  rw [Pairing.sources_swap, Pairing.targets_swap, List.mem_append] at hknown
  exact h q hq known (List.mem_append.2 hknown.symm)

theorem hasTable : (forth l).hasTable (lower a) = false :=
  hasTable_eq_false fun _ hp => (h.ne_table hp).1

theorem newName? (s : Scope) (before : List Token) : newName? (forth l) s before a = none :=
  newName?_eq_none (fun _ hp => (h.ne_table hp).1) fun _ hp _ hc => (h.ne_column hp hc).1

end Foreign

theorem hasTable_target (hp : p ∈ l) : (back l).hasTable (lower p.target) = true :=
  hasTable_source (List.mem_map_of_mem hp : p.swap ∈ _)

namespace Reversible

variable (h : Reversible l)

include h

theorem eq_of_target_eq {p q : Pairing} (hp : p ∈ l) (hq : q ∈ l)
    (heq : lower p.target = lower q.target) : p = q := by
  have htables := h.targets.tables
  rw [List.map_map] at htables
  exact List.inj_on_of_nodup_map htables hp hq heq

theorem hasTable_back_column (hp : p ∈ l) (hc : c ∈ p.columns) :
    (back l).hasTable (lower c.2) = false := by
  have hswap : c.swap ∈ p.swap.columns := List.mem_map_of_mem hc
  exact h.targets.hasTable_column (List.mem_map_of_mem hp) hswap

theorem newName?_back_table (hp : p ∈ l) (s : Scope) (before : List Token) :
    newName? (back l) s before p.target = some p.source :=
  h.targets.newName?_table (List.mem_map_of_mem hp : p.swap ∈ _)

theorem newName?_back_column (hp : p ∈ l) (hc : c ∈ p.columns)
    (hbefore : (qualifier? before).bind (s.table? (back l)) = some (lower p.target)) :
    newName? (back l) s before c.2 = some c.1 := by
  have hswap : c.swap ∈ p.swap.columns := List.mem_map_of_mem hc
  exact h.targets.newName?_column (List.mem_map_of_mem hp) hswap hbefore

theorem hasTable_eq (hab : Revealed l a b) :
    (back l).hasTable (lower a) = (forth l).hasTable (lower b) := by
  cases hab with
  | table hp => rw [hasTable_target hp, hasTable_source hp]
  | column hp hc => rw [h.sources.hasTable_column hp hc, h.hasTable_back_column hp hc]
  | foreign ha => rw [ha.hasTable, ha.swap.hasTable]

end Reversible

namespace RevealedToken

theorem isTrivia (h : RevealedToken l t u) : t.isTrivia = u.isTrivia := by cases h <;> rfl

theorem isDot (h : RevealedToken l t u) : t.isDot = u.isDot := by cases h <;> rfl

theorem exists_name? (h : RevealedToken l t u) (hname : t.name? = some a) :
    ∃ b, u.name? = some b ∧ Revealed l a b := by
  cases h with
  | word hab | quoted hab =>
    cases hname
    exact ⟨_, rfl, hab⟩
  | other => cases hname

theorem rename (hname : t.name? = some a) (h : Revealed l a b) : RevealedToken l t (t.rename b) := by
  cases t <;> cases hname
  · exact .word h
  · exact .quoted h

end RevealedToken

theorem revealed_dropWhile (h : List.Forall₂ (RevealedToken l) ts us) :
    List.Forall₂ (RevealedToken l) (ts.dropWhile Token.isTrivia) (us.dropWhile Token.isTrivia) := by
  induction h with
  | nil => exact .nil
  | @cons t u ts us htu hrest ih =>
    rw [List.dropWhile_cons, List.dropWhile_cons, htu.isTrivia]
    split
    · exact ih
    · exact .cons htu hrest

theorem exists_qualifier? (h : List.Forall₂ (RevealedToken l) ts us) (hq : qualifier? ts = some q) :
    ∃ q', qualifier? us = some q' ∧ Revealed l q q' := by
  unfold qualifier? at hq
  split at hq
  · rename_i dot t rest
    obtain ⟨dot', us, hdot, hrest, rfl⟩ := List.forall₂_cons_left_iff.1 h
    obtain ⟨u, us, htu, -, rfl⟩ := List.forall₂_cons_left_iff.1 hrest
    split at hq <;> rename_i hisDot
    · obtain ⟨q', hq', hrevealed⟩ := htu.exists_name? hq
      exact ⟨q', by simp [qualifier?, ← hdot.isDot, hisDot, hq'], hrevealed⟩
    · cases hq
  · cases hq

def IsColumn (l : List Pairing) (t : Token) : Prop :=
  ∃ name ∈ t.name?, ∃ p ∈ l, ∃ c ∈ p.columns, c.2 = name

def Dotted (l : List Pairing) : List Token → Prop :=
  List.IsChain fun t u => IsColumn l u → t.isDot = true

namespace Dotted

theorem dropWhile (h : Dotted l (t :: ts)) (ht : t.isDot = false) :
    Dotted l (ts.dropWhile Token.isTrivia) ∧
      ∀ u ∈ (ts.dropWhile Token.isTrivia).head?, ¬IsColumn l u := by
  induction ts generalizing t with
  | nil => exact ⟨.nil, fun u hu => by cases hu⟩
  | cons u ts ih =>
    obtain ⟨htu, hrest⟩ := List.isChain_cons_cons.1 h
    cases hu : u.isTrivia with
    | true =>
      rw [List.dropWhile_cons_of_pos hu]
      refine ih hrest (Bool.eq_false_iff.2 fun hdot => ?_)
      simp [isTrivia_of_isDot hdot] at hu
    | false =>
      rw [List.dropWhile_cons_of_neg (by simp [hu])]
      refine ⟨hrest, fun v hv hcolumn => ?_⟩
      cases hv
      simp [htu hcolumn] at ht

theorem not_isColumn (h : Dotted l (t :: ts)) (ht : t.isDot = false)
    (hu : Scope.candidate? ts = some u) : ¬IsColumn l u := by
  obtain ⟨hchain, hhead⟩ := h.dropWhile ht
  unfold Scope.candidate? at hu
  split at hu
  · cases hu
  · rename_i v rest hdrop
    rw [hdrop] at hchain hhead
    split at hu <;> rename_i has
    · exact (Dotted.dropWhile hchain (isDot_of_isAs has)).2 u hu
    · cases hu
      exact hhead u rfl

theorem foreign_of_alias? {k : List Char} (hdotted : Dotted l (t :: ts))
    (hts : List.Forall₂ (RevealedToken l) ts us) (ht : t.isDot = false)
    (halias : Scope.alias? (back l) ts = some k) : ∃ name, Foreign l name ∧ k = lower name := by
  rw [Scope.alias?_eq] at halias
  obtain ⟨v, hv, hk⟩ := Option.bind_eq_some_iff.1 halias
  obtain ⟨name, hname, -, htable, rfl⟩ := Scope.asAlias?_eq_some _ hk
  obtain ⟨w, -, hvw⟩ := exists_mem_of_forall₂ hts (Scope.mem_of_candidate? hv)
  obtain ⟨b, -, hrevealed⟩ := hvw.exists_name? hname
  cases hrevealed with
  | table hp => simp [hasTable_target hp] at htable
  | column hp hc => exact absurd ⟨_, hname, _, hp, _, hc, rfl⟩ (hdotted.not_isColumn ht hv)
  | foreign hforeign => exact ⟨name, hforeign, rfl⟩

theorem foreign_of_latest? {k key : List Char} (hdotted : Dotted l ts)
    (hts : List.Forall₂ (RevealedToken l) ts us) (hlatest : Scope.latest? (back l) k ts = some key) :
    ∃ name, Foreign l name ∧ k = lower name := by
  induction hts with
  | nil => cases hlatest
  | cons htu hrest ih =>
    rw [Scope.latest?, Option.or_eq_some_iff] at hlatest
    rcases hlatest with hlater | ⟨-, hbound⟩
    · exact ih hdotted.tail hlater
    · obtain ⟨name, hname, hbinds⟩ := Option.bind_eq_some_iff.1 hbound
      split at hbinds <;> rename_i halias
      · simp only [Scope.binds, Bool.and_eq_true, decide_eq_true_eq] at halias
        exact Dotted.foreign_of_alias? hdotted hrest (isDot_of_name? hname) halias.2.2
      · cases hbinds

end Dotted

theorem SameTable.or {x y x' y' : Option (List Char)} (h : SameTable l x y)
    (h' : y = .none → SameTable l x' y') : SameTable l (x.or x') (y.or y') := by
  cases h with
  | none => simpa using h' rfl
  | table hp => exact .table hp

theorem SameTable.exists_of_some {k : List Char} {y : Option (List Char)}
    (h : SameTable l (some k) y) : ∃ p ∈ l, lower p.target = k ∧ y = some (lower p.source) := by
  generalize hx : some k = x at h
  cases h with
  | none => cases hx
  | table hp => exact ⟨_, hp, (Option.some.inj hx).symm, rfl⟩

namespace Reversible

variable (h : Reversible l)

include h

theorem asAlias?_eq (htu : RevealedToken l t u) (ht : ¬IsColumn l t) :
    Scope.asAlias? (back l) t = Scope.asAlias? (forth l) u := by
  have hname {a b : List Char} (hab : Revealed l a b) (ha : t.name? = some a)
      (hb : u.name? = some b) (hclause : a = b → isClauseWord t = isClauseWord u) :
      Scope.asAlias? (back l) t = Scope.asAlias? (forth l) u := by
    rw [Scope.asAlias?, ha, Scope.asAlias?, hb, Option.bind_some, Option.bind_some,
      h.hasTable_eq hab]
    cases hab with
    | table hp => simp [hasTable_source hp]
    | column hp hc => exact absurd ⟨_, ha, _, hp, _, hc, rfl⟩ ht
    | foreign => rw [hclause rfl]
  cases htu with
  | word hab => exact hname hab rfl rfl fun heq => by rw [heq]
  | quoted hab => exact hname hab rfl rfl fun heq => by rw [heq]
  | other => rfl

theorem asAlias?_head_eq (hts : List.Forall₂ (RevealedToken l) ts us)
    (hhead : ∀ t ∈ ts.head?, ¬IsColumn l t) :
    ts.head?.bind (Scope.asAlias? (back l)) = us.head?.bind (Scope.asAlias? (forth l)) := by
  cases hts with
  | nil => rfl
  | cons htu _ => exact h.asAlias?_eq htu (hhead _ rfl)

theorem isAs_or (htu : RevealedToken l t u) (ht : ¬IsColumn l t) : isAs t = isAs u ∨
    isAs t = false ∧ isAs u = true ∧ ∃ p ∈ l, t.name? = some p.target ∧ u.name? = some p.source := by
  cases htu with
  | word hab =>
    cases hab with
    | @table p hp =>
      have ht : isAs (.word p.target) = false := decide_eq_false (h.not_as p hp)
      cases hu : isAs (.word p.source) with
      | false => exact .inl ht
      | true => exact .inr ⟨ht, rfl, p, hp, rfl, rfl⟩
    | column hp hc => exact absurd ⟨_, rfl, _, hp, _, hc, rfl⟩ ht
    | foreign => exact .inl rfl
  | quoted | other => exact .inl rfl

/-- The two statements give one alias; or the second one gives an alias that a later table takes. -/
theorem alias?_eq_or (hts : List.Forall₂ (RevealedToken l) ts us) (hdotted : Dotted l (t :: ts))
    (ht : t.isDot = false) : Scope.alias? (back l) ts = Scope.alias? (forth l) us ∨
      Scope.alias? (back l) ts = none ∧ ∀ k, Scope.alias? (forth l) us = some k →
        (Scope.latest? (forth l) k us).isSome = true := by
  have hdrop := revealed_dropWhile hts
  obtain ⟨hchain, hhead⟩ := hdotted.dropWhile ht
  rw [Scope.alias?_eq, Scope.alias?_eq, Scope.candidate?, Scope.candidate?]
  rcases hts' : ts.dropWhile Token.isTrivia with _ | ⟨t', ts'⟩ <;>
    rcases hus' : us.dropWhile Token.isTrivia with _ | ⟨u', us'⟩ <;>
    rw [hts', hus'] at hdrop
  · exact .inl rfl
  · cases hdrop
  · cases hdrop
  rw [hts'] at hchain hhead
  obtain ⟨htu, hrest⟩ := List.forall₂_cons.1 hdrop
  have hcolumn : ¬IsColumn l t' := hhead t' rfl
  obtain has | ⟨ht', hu', p, hp, htarget, hsource⟩ := h.isAs_or htu hcolumn
  · refine .inl ?_
    simp only [has]
    split <;> rename_i hu'
    · have hdot := isDot_of_isAs (has.trans hu')
      exact h.asAlias?_head_eq (revealed_dropWhile hrest) (Dotted.dropWhile hchain hdot).2
    · exact h.asAlias?_eq htu hcolumn
  · -- A table named `as` stands here: what is its own alias is taken for that of the table before.
    refine .inr ⟨?_, fun k hk => ?_⟩
    · simp [ht', Scope.asAlias?, htarget, hasTable_target hp]
    · rw [← Scope.latest?_dropWhile, hus']
      simp only [hu', if_true] at hk
      exact Scope.latest?_of_alias?_as _ hsource (hasTable_source hp) hk

theorem binds_eq {k : List Char} (hts : List.Forall₂ (RevealedToken l) ts us)
    (hdotted : Dotted l (t :: ts)) (ht : t.isDot = false)
    (hlatest : Scope.latest? (forth l) k us = none) :
    Scope.binds (back l) k ts = Scope.binds (forth l) k us := by
  have hdot : ts.head?.any Token.isDot = us.head?.any Token.isDot := by
    cases hts with
    | nil => rfl
    | cons htu _ => exact htu.isDot
  have halias : Scope.alias? (back l) ts = some k ↔ Scope.alias? (forth l) us = some k := by
    obtain heq | ⟨hnone, hlater⟩ := h.alias?_eq_or hts hdotted ht
    · rw [heq]
    · rw [hnone]
      exact iff_of_false nofun fun hk => by simpa [hlatest] using hlater k hk
  rw [Scope.binds, hdot, decide_eq_decide.2 halias, Scope.binds]

theorem sameTable_bound? {k : List Char} (htu : RevealedToken l t u)
    (hts : List.Forall₂ (RevealedToken l) ts us) (hdotted : Dotted l (t :: ts))
    (hlatest : Scope.latest? (forth l) k us = none) :
    SameTable l (Scope.bound? (back l) k t ts) (Scope.bound? (forth l) k u us) := by
  cases hname : t.name? with
  | none =>
    have hu : u.name? = none := by
      cases htu <;> first | rfl | cases hname
    rw [Scope.bound?, hname, Scope.bound?, hu]
    exact .none
  | some a =>
    obtain ⟨b, hb, hab⟩ := htu.exists_name? hname
    rw [Scope.bound?, hname, Scope.bound?, hb, Option.bind_some, Option.bind_some,
      h.hasTable_eq hab, h.binds_eq hts hdotted (isDot_of_name? hname) hlatest]
    split <;> rename_i hbinds
    · rw [Bool.and_eq_true] at hbinds
      cases hab with
      | table hp => exact .table hp
      | column hp hc => simp [h.sources.hasTable_column hp hc] at hbinds
      | foreign hforeign => simp [hforeign.hasTable] at hbinds
    · exact .none

theorem sameTable_latest? (k : List Char) (hts : List.Forall₂ (RevealedToken l) ts us)
    (hdotted : Dotted l ts) :
    SameTable l (Scope.latest? (back l) k ts) (Scope.latest? (forth l) k us) := by
  -- From behind: what is bound later counts, so that only a last binding has to be the same.
  induction hts with
  | nil => exact .none
  | cons htu hrest ih =>
    rw [Scope.latest?, Scope.latest?]
    exact (ih hdotted.tail).or fun hlatest => h.sameTable_bound? htu hrest hdotted hlatest

theorem table?_of_table? {q' : List Char} (hts : List.Forall₂ (RevealedToken l) ts us)
    (hdotted : Dotted l ts) (hq : Revealed l q q') (hp : p ∈ l)
    (htable : (scopeOf (back l) ts).table? (back l) q = some (lower p.target)) :
    (scopeOf (forth l) us).table? (forth l) q' = some (lower p.source) := by
  rw [Scope.table?_scopeOf] at htable ⊢
  cases hq with
  | table hq =>
    rw [if_pos (hasTable_target hq)] at htable
    rw [if_pos (hasTable_source hq), h.eq_of_target_eq hq hp (Option.some.inj htable)]
  | column hq hc =>
    rw [if_neg (Bool.eq_false_iff.1 (h.hasTable_back_column hq hc))] at htable
    -- As a qualifier the name of a column could only be an alias.
    obtain ⟨name, hforeign, hname⟩ := hdotted.foreign_of_latest? hts htable
    exact absurd hname (hforeign.ne_column hq hc).2
  | foreign hforeign =>
    rw [if_neg (Bool.eq_false_iff.1 hforeign.swap.hasTable)] at htable
    rw [if_neg (Bool.eq_false_iff.1 hforeign.hasTable)]
    have hsame := h.sameTable_latest? (lower q) hts hdotted
    rw [htable] at hsame
    obtain ⟨p', hp', htarget, hsource⟩ := hsame.exists_of_some
    rw [hsource, h.eq_of_target_eq hp' hp htarget]

end Reversible

end

end AskSql
