import AskSql.Proofs.Disguise.Alias
import AskSql.Proofs.Disguise.Nested

namespace AskSql

open Sql NameIndex Unicode

namespace Schema

def namesFor (s : Schema) (t : Token) : List String :=
  ((s.tables.zipIdx.filter fun u => t.HasName (tablePlaceholder u.2).toList).map (·.1.name)) ++
    s.tables.flatMap fun u =>
      (u.columns.zipIdx.filter fun c => t.HasName (columnPlaceholder c.2).toList).map (·.1.name)

/-- The statement calls the i-th table `k`: behind the placeholder of the table stands, as an alias
does, a name that is neither a clause word nor a table. -/
inductive GivesAlias (s : Schema) (k : List Char) (i : Nat) : List Token → Prop
  | intro : i < s.tables.length → t.HasName (tablePlaceholder i).toList → Follows given behind →
      given.HasName k → isClauseWord given = false →
      (∀ j < s.tables.length, (tablePlaceholder j).toList ≠ k) →
      GivesAlias s k i (before ++ t :: behind)

/-- The tokens before a name qualify it by the i-th table, or by an alias that the statement gives to
the i-th table only. -/
inductive Qualified (s : Schema) (ts : List Token) (i : Nat) : List Token → Prop
  | table : q.HasName (tablePlaceholder i).toList → Qualified s ts i (.other ['.'] :: q :: before)
  | byAlias : q.HasName k → GivesAlias s k i ts → (∀ j, GivesAlias s k j ts → j = i) →
      Qualified s ts i (.other ['.'] :: q :: before)

/-- What a token of a statement in placeholders becomes. -/
structure Restored (s : Schema) (ts before : List Token) (t u : Token) : Prop where
  verbatim : t.name? = none → u = t
  table : ∀ i table, s.tables[i]? = some table → t.HasName (tablePlaceholder i).toList →
    u = t.rename table.name.toList
  column : ∀ i table j column, s.tables[i]? = some table → table.columns[j]? = some column →
    t.HasName (columnPlaceholder j).toList → Qualified s ts i before →
      u = t.rename column.name.toList
  unknown : s.namesFor t = [] → u = t

variable {s : Schema} {ts before : List Token} {t : Token} {k name target : List Char} {i : Nat}
  {table : Table} {scope : Scope}

theorem mem_namesFor_of_table {n : Table} (hn : s.tables[i]? = some n)
    (ht : t.HasName (tablePlaceholder i).toList) : n.name ∈ s.namesFor t := by
  refine List.mem_append_left _ (List.mem_map.2 ⟨(n, i), List.mem_filter.2 ⟨?_, ?_⟩, rfl⟩)
  · exact List.mem_zipIdx_iff_getElem?.2 hn
  · exact decide_eq_true ht

theorem mem_namesFor_of_column {j : Nat} {column : Column} (htable : table ∈ s.tables)
    (hcolumn : table.columns[j]? = some column) (ht : t.HasName (columnPlaceholder j).toList) :
    column.name ∈ s.namesFor t := by
  refine List.mem_append_right _ (List.mem_flatMap.2 ⟨table, htable, ?_⟩)
  refine List.mem_map.2 ⟨(column, j), List.mem_filter.2 ⟨?_, ?_⟩, rfl⟩
  · exact List.mem_zipIdx_iff_getElem?.2 hcolumn
  · exact decide_eq_true ht

theorem exists_mem_namesFor_of_newName? (hname : t.name? = some name)
    (h : newName? (back s.pairings) scope before name = some target) :
    ∃ n ∈ s.namesFor t, n.toList = target := by
  rcases exists_of_newName? h with ⟨p, hp, hlower, rfl⟩ | ⟨p, hp, c, hc, hlower, rfl⟩ <;>
    obtain ⟨p, hpairing, rfl⟩ := List.mem_map.1 hp <;>
    obtain ⟨table, i, htable, rfl⟩ := mem_pairings hpairing
  · have ht : t.HasName (tablePlaceholder i).toList :=
      Token.hasName_iff.2 ⟨name, hname, hlower.symm.trans (isPlaceholder_table i).lower_eq⟩
    exact ⟨_, mem_namesFor_of_table (List.mem_zipIdx_iff_getElem?.1 htable) ht, rfl⟩
  · obtain ⟨j, column, hcolumn, rfl⟩ := mem_columns_swap_pairing.1 hc
    have ht : t.HasName (columnPlaceholder j).toList :=
      Token.hasName_iff.2 ⟨name, hname, hlower.symm.trans (isPlaceholder_column j).lower_eq⟩
    exact ⟨_, mem_namesFor_of_column (List.fst_mem_of_mem_zipIdx htable) hcolumn ht, rfl⟩

theorem hasTable_back_iff : (back s.pairings).hasTable k = true ↔
    ∃ i < s.tables.length, (tablePlaceholder i).toList = k := by
  rw [hasTable_ofPairings, List.any_eq_true]
  constructor
  · rintro ⟨p, hp, hk⟩
    obtain ⟨q, hq, rfl⟩ := List.mem_map.1 hp
    obtain ⟨table, i, htable, rfl⟩ := mem_pairings hq
    refine ⟨i, (List.getElem?_eq_some_iff.1 (List.mem_zipIdx_iff_getElem?.1 htable)).1, ?_⟩
    exact (isPlaceholder_table i).lower_eq.symm.trans (of_decide_eq_true hk)
  · rintro ⟨i, hi, rfl⟩
    refine ⟨_, mem_pairings_of_getElem? (List.getElem?_eq_getElem hi), decide_eq_true ?_⟩
    exact (isPlaceholder_table i).lower_eq

theorem hasTable_back_eq_false_iff : (back s.pairings).hasTable k = false ↔
    ∀ i < s.tables.length, (tablePlaceholder i).toList ≠ k := by
  rw [← Bool.not_eq_true, hasTable_back_iff]
  simp

theorem givesAlias_iff : GivesAlias s k i ts ↔ ∃ before t behind, ts = before ++ t :: behind ∧
    Scope.bound? (back s.pairings) k t behind = some (tablePlaceholder i).toList := by
  constructor
  · rintro ⟨hi, ht, hfollows, hgiven, hclause, hfree⟩
    refine ⟨_, _, _, rfl, Scope.bound?_eq_some_iff.2 ⟨ht, hasTable_back_iff.2 ⟨i, hi, rfl⟩, ?_⟩⟩
    exact ⟨_, hfollows, hgiven, hclause, hasTable_back_eq_false_iff.2 hfree⟩
  · rintro ⟨before, t, behind, rfl, hbound⟩
    obtain ⟨ht, htable, given, hfollows, hgiven, hclause, hfree⟩ :=
      Scope.bound?_eq_some_iff.1 hbound
    obtain ⟨j, hj, hplaceholder⟩ := hasTable_back_iff.1 htable
    obtain rfl := tablePlaceholder_injective hplaceholder
    exact .intro hj ht hfollows hgiven hclause (hasTable_back_eq_false_iff.1 hfree)

theorem GivesAlias.ne_placeholder (h : GivesAlias s k i ts) :
    ∀ j < s.tables.length, (tablePlaceholder j).toList ≠ k := by
  cases h
  assumption

theorem GivesAlias.latest?_eq (h : GivesAlias s k i ts)
    (honly : ∀ j, GivesAlias s k j ts → j = i) :
    Scope.latest? (back s.pairings) k ts = some (tablePlaceholder i).toList := by
  obtain ⟨before, t, behind, rfl, hbound⟩ := givesAlias_iff.1 h
  obtain ⟨key, hlatest⟩ := Option.isSome_iff_exists.1 (Scope.isSome_latest? hbound before)
  obtain ⟨before', t', behind', hsplit, hbound'⟩ := Scope.exists_bound?_of_latest? hlatest
  obtain ⟨-, htable, -⟩ := Scope.bound?_eq_some_iff.1 hbound'
  obtain ⟨j, -, rfl⟩ := hasTable_back_iff.1 htable
  rw [hlatest, honly j (givesAlias_iff.2 ⟨before', t', behind', hsplit, hbound'⟩)]

theorem Qualified.table?_eq (h : Qualified s ts i before) (hi : i < s.tables.length) :
    (qualifier? before).bind ((scopeOf (back s.pairings) ts).table? (back s.pairings)) =
      some (tablePlaceholder i).toList := by
  cases h with
  | table hq =>
    obtain ⟨name, hname, hlower⟩ := Token.hasName_iff.1 hq
    have htable := hasTable_back_iff.2 ⟨i, hi, rfl⟩
    simp [qualifier?, Token.isDot, hname, Scope.table?_scopeOf, hlower, htable]
  | byAlias hq halias honly =>
    obtain ⟨name, hname, rfl⟩ := Token.hasName_iff.1 hq
    have hfree := hasTable_back_eq_false_iff.2 halias.ne_placeholder
    simp [qualifier?, Token.isDot, hname, Scope.table?_scopeOf, hfree, halias.latest?_eq honly]

theorem newName?_of_lower_eq {index : NameIndex} {a b : List Char} (h : lower a = lower b) :
    newName? index scope before a = newName? index scope before b := by
  simp only [newName?, NameIndex.table?, columnOf?, columnAmong?, h]

theorem newName?_back_of_table? (ht : s.tables[i]? = some table)
    (hbefore : (qualifier? before).bind (scope.table? (back s.pairings)) =
      some (tablePlaceholder i).toList) (j : Nat) :
    newName? (back s.pairings) scope before (columnPlaceholder j).toList =
      table.columns[j]?.map (·.name.toList) := by
  rw [newName?, hbefore]
  simp only
  rw [columnOf?_back ht, table?_eq_none (source_ne_of_forall (tablePlaceholder_ne_lower_column j)),
    Option.or_none]

theorem renameToken_of_hasName {index : NameIndex} {placeholder : List Char}
    (h : t.HasName (lower placeholder)) (hnew : newName? index scope before placeholder = some target) :
    renameToken index scope before t = t.rename target := by
  obtain ⟨name, hname, hlower⟩ := Token.hasName_iff.1 h
  rw [renameToken_of_name? hname, newName?_of_lower_eq hlower, hnew, Option.getD_some]

theorem restored_renameToken (s : Schema) (ts before : List Token) (t : Token) :
    Restored s ts before t (renameToken (back s.pairings) (scopeOf (back s.pairings) ts) before t) where
  verbatim hname := by rw [renameToken, hname]
  table i table htable ht := by
    rw [← (isPlaceholder_table i).lower_eq] at ht
    exact renameToken_of_hasName ht (newName?_back_table htable _ _)
  column i table j column htable hcolumn ht hqualified := by
    have hi := (List.getElem?_eq_some_iff.1 htable).1
    rw [← (isPlaceholder_column j).lower_eq] at ht
    refine renameToken_of_hasName ht ?_
    rw [newName?_back_of_table? htable (hqualified.table?_eq hi), hcolumn]
    rfl
  unknown hnone := by
    refine renameToken_of_newName?_eq_none fun name hname => Option.eq_none_iff_forall_ne_some.2 ?_
    intro target hnew
    obtain ⟨n, hn, -⟩ := exists_mem_namesFor_of_newName? hname hnew
    simp [hnone] at hn

end Schema

theorem map_snd_placed (before ts : List Token) : (placed before ts).map Prod.snd = ts := by
  induction ts generalizing before with
  | nil => rfl
  | cons t ts ih => exact congrArg (t :: ·) (ih _)

theorem renameFrom_eq_map (index : NameIndex) (scope : Scope) (before ts : List Token) :
    renameFrom index scope before ts =
      (placed before ts).map fun x => renameToken index scope x.1 x.2 := by
  induction ts generalizing before with
  | nil => rfl
  | cons t ts ih => exact congrArg (_ :: ·) (ih _)

theorem forall₂_renameFrom {index : NameIndex} {scope : Scope} {before ts : List Token}
    {R : List Token × Token → Token → Prop}
    (h : ∀ x ∈ placed before ts, R x (renameToken index scope x.1 x.2)) :
    List.Forall₂ R (placed before ts) (renameFrom index scope before ts) := by
  rw [renameFrom_eq_map, List.forall₂_map_right_iff]
  exact List.forall₂_same.2 h

theorem Disguise.toList_reveal (s : Schema) (sql : String) :
    ((ofSchema s).reveal sql).toList = source (renameFrom (back s.pairings)
      (scopeOf (back s.pairings) (tokens sql.toList)) [] (tokens sql.toList)) := by
  rw [reveal, Text.onString_toList, ofSchema_eq]
  rfl

/-- A text falls into its tokens in one way. Literals, comments, blanks and marks stay in their places,
placeholders give way to names, and all other names stay. -/
theorem Disguise.reveal_tokenwise (s : Schema) (sql : String) :
    let ts := tokens sql.toList
    Lexed ts ∧ source ts = sql.toList ∧ ∃ us, ((ofSchema s).reveal sql).toList = source us ∧
      List.Forall₂ (fun x u => s.Restored ts x.1 x.2 u) (placed [] ts) us := by
  intro ts
  obtain ⟨hlexed, hsource⟩ := lexed_tokens sql.toList
  refine ⟨hlexed, hsource, _, toList_reveal s sql, ?_⟩
  exact forall₂_renameFrom fun x _ => s.restored_renameToken ts x.1 x.2

theorem Disguise.reveal_tokenwise_shop :
    let sql := "SELECT U.COL_2 FROM \"Table_1\" /* table_1 */ AS u, table_10 WHERE u.col_2 = 'table_1'"
    let revealed :=
      "SELECT U.name FROM \"users\" /* table_1 */ AS u, table_10 WHERE u.name = 'table_1'"
    let ts := tokens sql.toList
    (ofSchema Rehearsal.shop).reveal sql = revealed ∧ Lexed ts ∧ source ts = sql.toList ∧
      ∃ us, revealed.toList = source us ∧
        List.Forall₂ (fun x u => Rehearsal.shop.Restored ts x.1 x.2 u) (placed [] ts) us := by
  intro sql revealed ts
  have hreveal : (ofSchema Rehearsal.shop).reveal sql = revealed := by decide +kernel
  refine ⟨hreveal, ?_⟩
  rw [← hreveal]
  exact reveal_tokenwise Rehearsal.shop sql

end AskSql
