import AskSql.Proofs.Disguise.Tokenwise

namespace AskSql

open Sql NameIndex Unicode

namespace NameIndex

variable (index : NameIndex) {key : List Char} {l : List Pairing} {p : Pairing}

theorem mem_order_iff : key ∈ index.order ↔ index.hasTable key = true := by
  simp [order, hasTable, entry?, List.find?_isSome]

theorem order_insertColumn (table source target : List Char) :
    (index.insertColumn table source target).order = index.order := by
  rw [order, insertColumn, List.map_map, order]
  refine List.map_congr_left fun e _ => ?_
  rw [Function.comp_apply]
  split
  · unfold Entry.insertColumn
    split <;> rfl
  · rfl

theorem order_addColumns (table : List Char) (columns : List (List Char × List Char)) :
    (index.addColumns table columns).order = index.order := by
  induction columns generalizing index with
  | nil => rfl
  | cons c cs ih => exact (ih _).trans (index.order_insertColumn ..)

theorem order_addPairing (h : lower p.source ∉ index.order) :
    (index.addPairing p).order = index.order ++ [lower p.source] := by
  rw [addPairing, order_addColumns, insertTable, if_neg fun htable => h (index.mem_order_iff.2 htable),
    order, List.map_append]
  rfl

theorem order_foldl_addPairing (h : (index.order ++ l.map fun p => lower p.source).Nodup) :
    (l.foldl addPairing index).order = index.order ++ l.map fun p => lower p.source := by
  induction l generalizing index with
  | nil => simp
  | cons p l ih =>
    have hnew : lower p.source ∉ index.order := fun hmem =>
      (List.nodup_append.1 h).2.2 _ hmem _ List.mem_cons_self rfl
    have hsplit : (index.addPairing p).order ++ l.map (fun p => lower p.source) =
        index.order ++ (p :: l).map fun p => lower p.source := by
      rw [order_addPairing index hnew, List.append_assoc, List.map_cons, List.singleton_append]
    rw [List.foldl_cons, ih _ (by rwa [hsplit]), hsplit]

theorem order_ofPairings (h : (l.map fun p => lower p.source).Nodup) :
    (ofPairings l).order = l.map fun p => lower p.source := order_foldl_addPairing {} h

end NameIndex

namespace Schema

def HasColumn (s : Schema) (name : String) : Prop :=
  ∃ t ∈ s.tables, ∃ c ∈ t.columns, lowerCase c.name = lowerCase name

instance (s : Schema) (name : String) : Decidable (s.HasColumn name) :=
  inferInstanceAs (Decidable (∃ t ∈ s.tables, ∃ c ∈ t.columns, _))

def columnAt? (s : Schema) (j : Nat) : Option Column := s.tables.findSome? fun t => t.columns[j]?

variable {s : Schema} {name : String} {j : Nat}

theorem exists_of_columnOf? {key target : List Char}
    (h : (ofPairings s.pairings).columnOf? key name.toList = some target) :
    ∃ t ∈ s.tables, ∃ j c, t.columns[j]? = some c ∧ lowerCase c.name = lowerCase name ∧
      target = (columnPlaceholder j).toList := by
  obtain ⟨p, hp, c, hc, hname, rfl⟩ := NameIndex.exists_of_columnOf? h
  obtain ⟨t, i, ht, rfl⟩ := mem_pairings hp
  obtain ⟨⟨d, j⟩, hd, rfl⟩ := List.mem_map.1 hc
  exact ⟨t, List.fst_mem_of_mem_zipIdx ht, j, d, List.mem_zipIdx_iff_getElem?.1 hd,
    lowerCase_eq_iff.2 hname, rfl⟩

theorem HasColumn.columnAmong?_order_ne_none (h : s.HasColumn name) :
    (ofPairings s.pairings).columnAmong? (ofPairings s.pairings).order name.toList ≠ none := by
  obtain ⟨t, ht, c, hc, hname⟩ := h
  rw [← List.zipIdx_map_fst 0 s.tables] at ht
  rw [← List.zipIdx_map_fst 0 t.columns] at hc
  obtain ⟨⟨t, i⟩, hi, rfl⟩ := List.mem_map.1 ht
  obtain ⟨⟨c, j⟩, hj, rfl⟩ := List.mem_map.1 hc
  have hp : Table.pairing (t, i) ∈ s.pairings := List.mem_map_of_mem hi
  intro hnone
  have hkey := (ofPairings s.pairings).mem_order_iff.2 (hasTable_source hp)
  have hcolumn := List.findSome?_eq_none_iff.1 hnone _ hkey
  rw [columnOf?_ofPairings, firstColumn?, Option.map_eq_none_iff, List.find?_eq_none] at hcolumn
  refine hcolumn (c.name.toList, (columnPlaceholder j).toList) ?_
    (decide_eq_true (lowerCase_eq_iff.1 hname))
  exact List.mem_flatMap.2 ⟨_, List.mem_filter.2 ⟨hp, decide_eq_true rfl⟩, List.mem_map_of_mem hj⟩

theorem columnAt?_ne_none {t : Table} {c : Column} (ht : t ∈ s.tables)
    (hc : t.columns[j]? = some c) : s.columnAt? j ≠ none := fun hnone => by
  simpa [hc] using List.findSome?_eq_none_iff.1 hnone t ht

/-- In all tables a placeholder stands for what the first one has at its place. -/
theorem columnAmong?_order_back (s : Schema) (j : Nat) :
    (back s.pairings).columnAmong? (back s.pairings).order (columnPlaceholder j).toList =
      (s.columnAt? j).map fun c => c.name.toList := by
  have hcolumn : ∀ x ∈ s.tables.zipIdx, (back s.pairings).columnOf?
      (lower (tablePlaceholder x.2).toList) (columnPlaceholder j).toList =
        x.1.columns[j]?.map fun c => c.name.toList := by
    intro x hx
    rw [(isPlaceholder_table x.2).lower_eq, columnOf?_back (List.mem_zipIdx_iff_getElem?.1 hx)]
  have htables : s.columnAt? j = s.tables.zipIdx.findSome? fun x => x.1.columns[j]? := by
    rw [columnAt?, ← Function.comp_def (fun t : Table => t.columns[j]?) Prod.fst, ← List.findSome?_map,
      List.zipIdx_map_fst]
  rw [htables, List.map_findSome?, order_ofPairings s.separated_placeholders.tables, columnAmong?,
    pairings, List.map_map, List.map_map, List.findSome?_map, ← List.head?_filterMap,
    ← List.head?_filterMap]
  exact congrArg List.head? (List.filterMap_congr hcolumn)

end Schema

namespace Disguise

variable {s : Schema} {name : String} {j : Nat}

theorem exists_of_hideColumn (h : s.HasColumn name) (scope : Scope) :
    ∃ t ∈ s.tables, ∃ j c, t.columns[j]? = some c ∧ lowerCase c.name = lowerCase name ∧
      (ofSchema s).hideColumn scope name = columnPlaceholder j := by
  let index := ofPairings s.pairings
  obtain ⟨target, htarget⟩ : ∃ target, (index.columnAmong? scope.tables name.toList).or
      (index.columnAmong? index.order name.toList) = some target :=
    Option.ne_none_iff_exists'.1 fun hnone =>
      h.columnAmong?_order_ne_none (Option.or_eq_none_iff.1 hnone).2
  have hamong {keys : List (List Char)} (hkeys : index.columnAmong? keys name.toList = some target) :
      ∃ t ∈ s.tables, ∃ j c, t.columns[j]? = some c ∧ lowerCase c.name = lowerCase name ∧
        target = (columnPlaceholder j).toList := by
    obtain ⟨key, -, hkey⟩ := List.exists_of_findSome?_eq_some hkeys
    exact Schema.exists_of_columnOf? hkey
  obtain ⟨t, ht, j, c, hc, hname, rfl⟩ :=
    (Option.or_eq_some_iff.1 htarget).elim hamong fun h => hamong h.2
  refine ⟨t, ht, j, c, hc, hname, ?_⟩
  rw [hideColumn, ofSchema_eq]
  simp only
  rw [htarget, Option.some_or]
  exact String.ofList_toList

theorem reveal_columnPlaceholder {c : Column} (h : s.columnAt? j = some c) :
    (ofSchema s).reveal (columnPlaceholder j) = c.name := by
  have htokens : tokens (columnPlaceholder j).toList = [.word (columnPlaceholder j).toList] :=
    tokens_eq_iff.2 ⟨List.append_nil _, .word (isPlaceholder_column j).isWord nofun, trivial⟩
  have hscope : scopeOf (back s.pairings) [.word (columnPlaceholder j).toList] = {} :=
    Scope.collect_word (hasTable_eq_false (source_ne_of_forall (tablePlaceholder_ne_lower_column j)))
  have hsearch : ({} : Scope).search (back s.pairings) = (back s.pairings).order := rfl
  rw [← String.toList_inj, toList_reveal, htokens, hscope, renameFrom_cons, renameToken_of_name? rfl,
    newName?_back_column rfl, hsearch, Schema.columnAmong?_order_back, h]
  exact List.append_nil _

end Disguise

end AskSql
