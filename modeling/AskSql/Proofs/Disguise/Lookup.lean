import AskSql.Proofs.Disguise.Nested

namespace AskSql

open Sql NameIndex Unicode

section

variable {α : Type} {xs : List α} {i : Nat} {a : α} {P : α → Bool}

theorem zipIdx_eq_of_getElem? (h : xs[i]? = some a) :
    xs.zipIdx = (xs.take i).zipIdx ++ (a, i) :: (xs.drop (i + 1)).zipIdx (i + 1) := by
  obtain ⟨hi, rfl⟩ := List.getElem?_eq_some_iff.1 h
  conv_lhs => rw [← List.take_append_drop i xs, List.drop_eq_getElem_cons hi]
  rw [List.zipIdx_append, List.zipIdx_cons, List.length_take_of_le hi.le, Nat.zero_add]

theorem find?_zipIdx_of_first (h : xs[i]? = some a) (ha : P a = true)
    (hfirst : ∀ b ∈ xs.take i, P b = false) :
    (xs.zipIdx.find? fun x => P x.1) = some (a, i) := by
  have hnone : ((xs.take i).zipIdx.find? fun x => P x.1) = none :=
    List.find?_eq_none.2 fun x hx => by simp [hfirst x.1 (List.fst_mem_of_mem_zipIdx hx)]
  rw [zipIdx_eq_of_getElem? h, List.find?_append, hnone, Option.none_or]
  exact List.find?_cons_of_pos ha

end

theorem NameIndex.columnsUnder_append (key : List Char) (l m : List Pairing) :
    columnsUnder key (l ++ m) = columnsUnder key l ++ columnsUnder key m := by
  simp [columnsUnder]

theorem NameIndex.columnsUnder_cons {key : List Char} {p : Pairing} (h : lower p.source = key)
    (l : List Pairing) : columnsUnder key (p :: l) = p.columns ++ columnsUnder key l := by
  simp [columnsUnder, h]

namespace Schema

structure IsFirstTable (s : Schema) (i : Nat) (t : Table) (name : String) : Prop where
  named : lowerCase t.name = lowerCase name
  first : ∀ u ∈ s.tables.take i, lowerCase u.name ≠ lowerCase name

/-- The j-th column `c` of the i-th table `t` has the name, ignoring case, and so has the table the name
of the table; no column before it in this table has, nor one of a table before that has the name of
the table. -/
structure IsFirstColumn (s : Schema) (i : Nat) (t : Table) (j : Nat) (c : Column)
    (table name : String) : Prop where
  tableNamed : lowerCase t.name = lowerCase table
  named : lowerCase c.name = lowerCase name
  first : ∀ d ∈ t.columns.take j, lowerCase d.name ≠ lowerCase name
  firstTable : ∀ u ∈ s.tables.take i, lowerCase u.name = lowerCase table →
    ∀ d ∈ u.columns, lowerCase d.name ≠ lowerCase name

variable {s : Schema} {t : Table} {c : Column} {i j : Nat} {table name : String}

theorem IsFirstTable.table?_eq (h : s.IsFirstTable i t name) (ht : s.tables[i]? = some t) :
    (ofPairings s.pairings).table? name.toList = some (tablePlaceholder i).toList := by
  have hfind := find?_zipIdx_of_first (P := fun u : Table => lower u.name.toList = lower name.toList)
    ht (decide_eq_true (lowerCase_eq_iff.1 h.named))
    fun u hu => decide_eq_false fun heq => h.first u hu (lowerCase_eq_iff.2 heq)
  rw [table?_ofPairings, pairings, List.find?_map, Option.map_map]
  exact congrArg (Option.map _) hfind

namespace IsFirstColumn

variable (h : s.IsFirstColumn i t j c table name)

include h

theorem firstColumn?_before : firstColumn? name.toList (columnsUnder (lower table.toList)
    ((s.tables.take i).zipIdx.map Table.pairing)) = none := by
  rw [firstColumn?, List.find?_eq_none.2, Option.map_none]
  intro d hd
  obtain ⟨p, hp, hdp⟩ := List.mem_flatMap.1 hd
  obtain ⟨hmem, hkey⟩ := List.mem_filter.1 hp
  obtain ⟨⟨u, k⟩, hu, rfl⟩ := List.mem_map.1 hmem
  obtain ⟨⟨e, l⟩, he, rfl⟩ := List.mem_map.1 hdp
  have hne := h.firstTable u (List.fst_mem_of_mem_zipIdx hu)
    (lowerCase_eq_iff.2 (of_decide_eq_true hkey)) e (List.fst_mem_of_mem_zipIdx he)
  simpa using fun heq => hne (lowerCase_eq_iff.2 heq)

theorem firstColumn?_pairing (hc : t.columns[j]? = some c) :
    firstColumn? name.toList (Table.pairing (t, i)).columns = some (columnPlaceholder j).toList := by
  have hfind := find?_zipIdx_of_first
    (P := fun d : Column => lower d.name.toList = lower name.toList) hc
    (decide_eq_true (lowerCase_eq_iff.1 h.named))
    fun d hd => decide_eq_false fun heq => h.first d hd (lowerCase_eq_iff.2 heq)
  rw [firstColumn?, Table.pairing, List.find?_map, Option.map_map]
  exact congrArg (Option.map _) hfind

theorem column?_eq (ht : s.tables[i]? = some t) (hc : t.columns[j]? = some c) :
    (ofPairings s.pairings).column? table.toList name.toList =
      some (columnPlaceholder j).toList := by
  have hkey : lower (Table.pairing (t, i)).source = lower table.toList :=
    lowerCase_eq_iff.1 h.tableNamed
  rw [NameIndex.column?, columnOf?_ofPairings, pairings, zipIdx_eq_of_getElem? ht, List.map_append,
    List.map_cons, columnsUnder_append, columnsUnder_cons hkey, firstColumn?_append,
    firstColumn?_append, h.firstColumn?_before, h.firstColumn?_pairing hc, Option.none_or,
    Option.some_or]

end IsFirstColumn

end Schema

namespace Disguise

variable {s : Schema} {t : Table} {i : Nat}

theorem realTable?_tablePlaceholder (ht : s.tables[i]? = some t) :
    (ofSchema s).realTable? (tablePlaceholder i) = some t.name := by
  have htable := s.separated_placeholders.table?_source (mem_pairings_of_getElem? ht)
  rw [realTable?, ofSchema_eq]
  exact (congrArg text htable).trans (congrArg some String.ofList_toList)

theorem realColumn?_columnPlaceholder (ht : s.tables[i]? = some t) (j : Nat) :
    (ofSchema s).realColumn? (tablePlaceholder i) (columnPlaceholder j) =
      t.columns[j]?.map (·.name) := by
  rw [realColumn?, ofSchema_eq, NameIndex.column?, (isPlaceholder_table i).lower_eq,
    columnOf?_back ht, text, Option.map_map]
  simp [Function.comp_def]

/-- Every placeholder has its name back; a name has the placeholder of the first table, or column, that
is called so. -/
theorem lookups_of_getElem? (ht : s.tables[i]? = some t) :
    (ofSchema s).realTable? (tablePlaceholder i) = some t.name ∧
      (∀ table, s.IsFirstTable i t table →
        (ofSchema s).placeholderOfTable? table = some (tablePlaceholder i)) ∧
      ∀ j c, t.columns[j]? = some c →
        (ofSchema s).realColumn? (tablePlaceholder i) (columnPlaceholder j) = some c.name ∧
          ∀ table column, s.IsFirstColumn i t j c table column →
            (ofSchema s).placeholderOfColumn? table column = some (columnPlaceholder j) := by
  have hback (placeholder : String) : text (some placeholder.toList) = some placeholder :=
    congrArg some String.ofList_toList
  refine ⟨realTable?_tablePlaceholder ht, fun table htable => ?_, fun j c hc => ⟨?_, ?_⟩⟩
  · rw [placeholderOfTable?, ofSchema_eq, htable.table?_eq ht, hback]
  · rw [realColumn?_columnPlaceholder ht, hc]
    rfl
  · intro table column hcolumn
    rw [placeholderOfColumn?, ofSchema_eq, hcolumn.column?_eq ht hc, hback]

theorem lookups_of_getElem?_archive :
    (ofSchema Rehearsal.archive).realTable? "table_1" = some "Orders" ∧
      (ofSchema Rehearsal.archive).placeholderOfTable? "orders" = some "table_1" ∧
      (ofSchema Rehearsal.archive).realColumn? "table_1" "col_1" = some "id" ∧
      (ofSchema Rehearsal.archive).placeholderOfColumn? "orders" "ID" = some "col_1" := by
  have h := lookups_of_getElem? (s := Rehearsal.archive) (i := 0) rfl
  have hcolumn := h.2.2 0 _ rfl
  exact ⟨h.1, h.2.1 "orders" ⟨by decide +kernel, by decide +kernel⟩, hcolumn.1,
    hcolumn.2 "orders" "ID" ⟨by decide +kernel, by decide +kernel, nofun, nofun⟩⟩

theorem placeholderOfTable?_ne_archive :
    (Rehearsal.archive.tables.map (·.name)).Nodup ∧
      (∀ t ∈ Rehearsal.archive.tables, t.columnNames.Nodup) ∧
      Rehearsal.archive.tables[2]?.map (·.name) = some "orders" ∧
      (ofSchema Rehearsal.archive).placeholderOfTable? "orders" ≠ some (tablePlaceholder 2) := by
  decide +kernel

end Disguise

end AskSql
