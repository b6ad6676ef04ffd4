import AskSql.Proofs.Disguise.Lookup

namespace AskSql

open NameIndex Unicode

def Table.placeholder? (t : Table) (name : String) : Option String :=
  (t.columns.findIdx? fun c => lowerCase c.name = lowerCase name).map columnPlaceholder

namespace Schema

def tableIdx? (s : Schema) (name : String) : Option Nat :=
  s.tables.findIdx? fun t => lowerCase t.name = lowerCase name

def placeholders? (s : Schema) (t : Table) (k : ForeignKey) : Option ForeignKey := do
  let column ← t.placeholder? k.column
  let i ← s.tableIdx? k.table
  let u ← s.tables[i]?
  let target ← u.placeholder? k.target
  some ⟨column, tablePlaceholder i, target⟩

structure Declares (s : Schema) (t : Table) (k declared : ForeignKey) : Prop where
  column : declared.column ∈ t.columnNames ∧ lowerCase declared.column = lowerCase k.column
  target : ∃ u ∈ s.tables, u.name = declared.table ∧ lowerCase u.name = lowerCase k.table ∧
    declared.target ∈ u.columnNames ∧ lowerCase declared.target = lowerCase k.target

/-- A key of the i-th table, in placeholders, leads back to one in names. -/
structure LeadsBack (s : Schema) (i : Nat) (shown declared : ForeignKey) : Prop where
  column : (Disguise.ofSchema s).realColumn? (tablePlaceholder i) shown.column = some declared.column
  table : (Disguise.ofSchema s).realTable? shown.table = some declared.table
  target : (Disguise.ofSchema s).realColumn? shown.table shown.target = some declared.target

end Schema

section

variable {α : Type} {xs : List α} {P : α → Bool}

theorem map_snd_find?_zipIdx : (xs.zipIdx.find? fun x => P x.1).map Prod.snd = xs.findIdx? P :=
  List.findIdx?_eq_fst_find?_zipIdx.symm

theorem exists_of_findIdx?_eq_some {i : Nat} (h : xs.findIdx? P = some i) :
    ∃ a, xs[i]? = some a ∧ P a = true := by
  obtain ⟨hi, hP, -⟩ := List.findIdx?_eq_some_iff_getElem.1 h
  exact ⟨_, List.getElem?_eq_getElem hi, hP⟩

end

theorem Column.mem_columnNames {t : Table} {j : Nat} (c : Column) (h : t.columns[j]? = some c) :
    c.name ∈ t.columnNames := List.mem_map_of_mem (List.mem_of_getElem? h)

theorem Table.exists_of_placeholder? {t : Table} {name placeholder : String}
    (h : t.placeholder? name = some placeholder) : ∃ j c, t.columns[j]? = some c ∧
      lowerCase c.name = lowerCase name ∧ placeholder = columnPlaceholder j := by
  obtain ⟨j, hj, rfl⟩ := Option.map_eq_some_iff.1 h
  obtain ⟨c, hc, hname⟩ := exists_of_findIdx?_eq_some hj
  exact ⟨j, c, hc, of_decide_eq_true hname, rfl⟩

theorem NameIndex.columnsUnder_source {l : List Pairing} {p : Pairing}
    (h : (l.map fun p => lower p.source).Nodup) (hp : p ∈ l) :
    columnsUnder (lower p.source) l = p.columns := by
  obtain ⟨before, after, rfl⟩ := List.append_of_mem hp
  have hne : ∀ q ∈ before ++ after, lower q.source ≠ lower p.source := by
    rw [List.map_append, List.map_cons, List.nodup_middle, List.nodup_cons] at h
    intro q hq heq
    exact h.1 (by rw [← List.map_append, ← heq]; exact List.mem_map_of_mem hq)
  have hnone (m : List Pairing) (hm : ∀ q ∈ m, q ∈ before ++ after) :
      columnsUnder (lower p.source) m = [] := by
    rw [columnsUnder, List.filter_eq_nil_iff.2 fun q hq => by simpa using hne q (hm q hq)]
    rfl
  rw [columnsUnder_append, columnsUnder_cons rfl,
    hnone before fun q hq => List.mem_append_left _ hq,
    hnone after fun q hq => List.mem_append_right _ hq, List.nil_append, List.append_nil]

namespace Disguise

variable {s : Schema}

theorem placeholderOfTable?_eq (name : String) :
    (ofSchema s).placeholderOfTable? name = (s.tableIdx? name).map tablePlaceholder := by
  have hfind : (s.pairings.find? fun p => lower p.source = lower name.toList).map Pairing.target =
      (s.tableIdx? name).map fun i => (tablePlaceholder i).toList := by
    rw [Schema.tableIdx?, ← map_snd_find?_zipIdx, Schema.pairings, List.find?_map, Option.map_map,
      Option.map_map]
    simp only [lowerCase_eq_iff]
    rfl
  rw [placeholderOfTable?, ofSchema_eq, table?_ofPairings, hfind, text, Option.map_map]
  simp [Function.comp_def]

theorem firstColumn?_pairing (t : Table) (i : Nat) (name : String) :
    text (firstColumn? name.toList (Table.pairing (t, i)).columns) = t.placeholder? name := by
  rw [Table.placeholder?, ← map_snd_find?_zipIdx, firstColumn?, Table.pairing, List.find?_map, text,
    Option.map_map, Option.map_map, Option.map_map]
  simp [Function.comp_def, lowerCase_eq_iff]

variable (h : (s.tables.map fun t => lowerCase t.name).Nodup) {t : Table} {i : Nat}

include h

theorem nodup_lower_source : (s.pairings.map fun p => lower p.source).Nodup := by
  rw [Schema.pairings, List.map_map]
  exact (map_fst_zipIdx (fun t : Table => lower t.name.toList) s.tables).symm ▸ nodup_lower h

theorem placeholderOfColumn?_eq (ht : s.tables[i]? = some t) {table : String}
    (htable : lowerCase t.name = lowerCase table) (name : String) :
    (ofSchema s).placeholderOfColumn? table name = t.placeholder? name := by
  have hp : Table.pairing (t, i) ∈ s.pairings :=
    List.mem_map_of_mem (List.mem_zipIdx_iff_getElem?.2 ht)
  have hkey : lower table.toList = lower (Table.pairing (t, i)).source :=
    (lowerCase_eq_iff.1 htable).symm
  rw [placeholderOfColumn?, ofSchema_eq, NameIndex.column?, columnOf?_ofPairings, hkey,
    columnsUnder_source (nodup_lower_source h) hp, firstColumn?_pairing]

theorem foreignKey?_eq (ht : s.tables[i]? = some t) (k : ForeignKey) :
    (ofSchema s).foreignKey? t.name k = s.placeholders? t k := by
  rw [foreignKey?, placeholderOfColumn?_eq h ht rfl, placeholderOfTable?_eq, Schema.placeholders?]
  cases t.placeholder? k.column with
  | none => rfl
  | some column =>
    cases htable : s.tableIdx? k.table with
    | none => rfl
    | some j =>
      obtain ⟨u, hu, hname⟩ := exists_of_findIdx?_eq_some htable
      rw [placeholderOfColumn?_eq h hu (of_decide_eq_true hname)]
      simp only [Option.map_some, Option.bind_eq_bind, Option.bind_some, hu]
      cases u.placeholder? k.target <;> rfl

end Disguise

namespace Schema

open Disguise

variable {s : Schema} {t : Table} {i : Nat}

theorem exists_declares_of_placeholders? {k shown : ForeignKey} (ht : s.tables[i]? = some t)
    (h : s.placeholders? t k = some shown) :
    ∃ declared, s.Declares t k declared ∧ s.LeadsBack i shown declared := by
  obtain ⟨_, hcolumn, h⟩ := Option.bind_eq_some_iff.1 h
  obtain ⟨l, htable, h⟩ := Option.bind_eq_some_iff.1 h
  obtain ⟨u, hu, h⟩ := Option.bind_eq_some_iff.1 h
  obtain ⟨_, htarget, h⟩ := Option.bind_eq_some_iff.1 h
  cases h
  obtain ⟨j, c, hc, hcname, rfl⟩ := Table.exists_of_placeholder? hcolumn
  obtain ⟨m, d, hd, hdname, rfl⟩ := Table.exists_of_placeholder? htarget
  obtain ⟨v, hv, huname⟩ := exists_of_findIdx?_eq_some htable
  obtain rfl : u = v := Option.some.inj (hu.symm.trans hv)
  refine ⟨⟨c.name, u.name, d.name⟩, ⟨⟨c.mem_columnNames hc, hcname⟩, u, List.mem_of_getElem? hu, rfl,
    of_decide_eq_true huname, d.mem_columnNames hd, hdname⟩, ?_, realTable?_tablePlaceholder hu, ?_⟩
  · rw [realColumn?_columnPlaceholder ht, hc]
    rfl
  · rw [realColumn?_columnPlaceholder hu, hd]
    rfl

/-- The keys of a table are those of the disguised one, in their order and under placeholders; of each
list those entries are missing that name what is not there. -/
theorem keys_disguised (h : (s.tables.map fun t => lowerCase t.name).Nodup)
    (ht : s.tables[i]? = some t) : ∃ t', s.disguised.tables[i]? = some t' ∧
      t'.primaryKey = t.primaryKey.map (·.filterMap t.placeholder?) ∧
      t'.foreignKeys = t.foreignKeys.map (·.filterMap (s.placeholders? t)) ∧
      (∀ name shown, t.placeholder? name = some shown →
        ∃ declared ∈ t.columnNames, lowerCase declared = lowerCase name ∧
          (ofSchema s).realColumn? (tablePlaceholder i) shown = some declared) ∧
      ∀ k shown, s.placeholders? t k = some shown →
        ∃ declared, s.Declares t k declared ∧ s.LeadsBack i shown declared := by
  have hi : s.disguised.tables[i]? = some ((ofSchema s).table (t, i)) := by
    rw [disguised, Disguise.schema, List.getElem?_map, List.getElem?_zipIdx, ht]
    simp
  refine ⟨_, hi, ?_, ?_, fun name shown hname => ?_, fun k shown hk =>
    exists_declares_of_placeholders? ht hk⟩
  · exact congrArg (t.primaryKey.map ·) (funext fun names =>
      congrArg (names.filterMap ·) (funext fun name => placeholderOfColumn?_eq h ht rfl name))
  · exact congrArg (t.foreignKeys.map ·) (funext fun keys =>
      congrArg (keys.filterMap ·) (funext fun k => foreignKey?_eq h ht k))
  · obtain ⟨j, c, hc, hcname, rfl⟩ := Table.exists_of_placeholder? hname
    refine ⟨c.name, c.mem_columnNames hc, hcname, ?_⟩
    rw [realColumn?_columnPlaceholder ht, hc]
    rfl

theorem keys_disguised_staff : (Rehearsal.staff.tables.map fun t => lowerCase t.name).Nodup ∧
    (∃ t, Rehearsal.staff.disguised.tables[0]? = some t ∧ t.primaryKey = some ["col_1"] ∧
      t.foreignKeys = some [⟨"col_2", "table_1", "col_1"⟩, ⟨"col_3", "table_2", "col_1"⟩] ∧
      ∃ declared, Rehearsal.staff.LeadsBack 0 ⟨"col_2", "table_1", "col_1"⟩ declared) ∧
    ∃ t, Rehearsal.staff.disguised.tables[1]? = some t ∧ t.primaryKey = some [] ∧
      t.foreignKeys = none := by
  have h : (Rehearsal.staff.tables.map fun t => lowerCase t.name).Nodup := by decide +kernel
  obtain ⟨t, ht, hprimary, hforeign, -, hback⟩ := keys_disguised h (i := 0) rfl
  obtain ⟨u, hu, huprimary, huforeign, -⟩ := keys_disguised h (i := 1) rfl
  obtain ⟨declared, -, hdeclared⟩ := hback ⟨"BOSS", "workers", "Id"⟩
    ⟨"col_2", "table_1", "col_1"⟩ (by decide +kernel)
  exact ⟨h, ⟨t, ht, hprimary.trans (by decide +kernel), hforeign.trans (by decide +kernel), declared,
    hdeclared⟩, u, hu, huprimary.trans (by decide +kernel), huforeign.trans (by decide +kernel)⟩

end Schema

end AskSql
