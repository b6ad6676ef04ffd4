import Mathlib.Data.List.Basic
import Mathlib.Data.List.Find
import AskSql.Proofs.Disguise.NameIndex
import AskSql.Rehearsal.Schemas

/-!
A disguised schema shows nothing of names but which of them are equal ignoring case.

Two schemas that differ only in their names, and in default values, are shown alike if the names of the
one are equal where those of the other are.
-/

namespace AskSql

open Unicode

def Column.renamed (g : String → String) (c : Column) : Column := { c with name := g c.name }

def ForeignKey.renamed (f g : String → String) (k : ForeignKey) : ForeignKey :=
  ⟨g k.column, f k.table, g k.target⟩

def Table.renamed (f g : String → String) (t : Table) : Table :=
  { t with
    name := f t.name
    columns := t.columns.map (Column.renamed g)
    primaryKey := t.primaryKey.map (·.map g)
    foreignKeys := t.foreignKeys.map (·.map (ForeignKey.renamed f g)) }

def Column.withoutDefault (c : Column) : Column := { c with defaultValue := none }

def Table.withoutDefaults (t : Table) : Table :=
  { t with columns := t.columns.map Column.withoutDefault }

def Table.keyColumns (t : Table) : List String :=
  t.primaryKey.getD [] ++ (t.foreignKeys.getD []).flatMap fun k => [k.column, k.target]

namespace Schema

def renamed (f g : String → String) (s : Schema) : Schema := ⟨s.tables.map (Table.renamed f g)⟩

def withoutDefaults (s : Schema) : Schema := ⟨s.tables.map Table.withoutDefaults⟩

def tableNames (s : Schema) : List String :=
  s.tables.flatMap fun t => t.name :: (t.foreignKeys.getD []).map (·.table)

def columnNames (s : Schema) : List String :=
  s.tables.flatMap fun t => t.columnNames ++ t.keyColumns

end Schema

/-- The new names are equal ignoring case where the old ones are. -/
def KeepsLikeness (f : String → String) (names : List String) : Prop :=
  ∀ a ∈ names, ∀ b ∈ names, lowerCase (f a) = lowerCase (f b) ↔ lowerCase a = lowerCase b

instance (f : String → String) (names : List String) : Decidable (KeepsLikeness f names) :=
  inferInstanceAs (Decidable (∀ a ∈ names, ∀ b ∈ names, _ ↔ _))

def onChars (f : String → String) (name : List Char) : List Char := (f (String.ofList name)).toList

@[simp] theorem onChars_toList (f : String → String) (a : String) :
    onChars f a.toList = (f a).toList := by rw [onChars, String.ofList_toList]

def Pairing.renamed (f g : List Char → List Char) (p : Pairing) : Pairing :=
  { p with source := f p.source, columns := p.columns.map (Prod.map g id) }

namespace NameIndex

variable {f g : List Char → List Char} {l : List Pairing} {table column : List Char}

theorem table?_renamed (hf : ∀ p ∈ l, lower (f p.source) = lower (f table) ↔
      lower p.source = lower table) :
    (ofPairings (l.map (Pairing.renamed f g))).table? (f table) = (ofPairings l).table? table := by
  rw [table?_ofPairings, table?_ofPairings, List.find?_map, Option.map_map]
  refine congrArg _ (List.find?_congr fun p hp => ?_)
  exact decide_eq_decide.2 (hf p hp)

theorem column?_renamed
    (hf : ∀ p ∈ l, lower (f p.source) = lower (f table) ↔ lower p.source = lower table)
    (hg : ∀ p ∈ l, ∀ c ∈ p.columns, lower (g c.1) = lower (g column) ↔ lower c.1 = lower column) :
    (ofPairings (l.map (Pairing.renamed f g))).column? (f table) (g column) =
      (ofPairings l).column? table column := by
  have hcolumns : columnsUnder (lower (f table)) (l.map (Pairing.renamed f g)) =
      (columnsUnder (lower table) l).map (Prod.map g id) := by
    rw [columnsUnder, List.filter_map, List.flatMap_map, columnsUnder, List.map_flatMap]
    refine congrArg _ (List.filter_congr fun p hp => ?_)
    exact decide_eq_decide.2 (hf p hp)
  rw [column?, columnOf?_ofPairings, hcolumns, column?, columnOf?_ofPairings, firstColumn?,
    List.find?_map, Option.map_map]
  refine congrArg _ (List.find?_congr fun c hc => ?_)
  obtain ⟨p, hp, hc⟩ := List.mem_flatMap.1 hc
  exact decide_eq_decide.2 (hg p (List.mem_filter.1 hp).1 c hc)

end NameIndex

namespace Schema

variable {f g : String → String} {s : Schema}

theorem pairings_renamed :
    (s.renamed f g).pairings = s.pairings.map (Pairing.renamed (onChars f) (onChars g)) := by
  rw [pairings, renamed, List.zipIdx_map, List.map_map, pairings, List.map_map]
  refine List.map_congr_left fun t _ => ?_
  simp [Table.pairing, Table.renamed, Column.renamed, Pairing.renamed, List.zipIdx_map]

theorem exists_mem_of_mem_pairings {p : Pairing} (h : p ∈ s.pairings) :
    ∃ t ∈ s.tables, p.source = t.name.toList ∧
      ∀ c ∈ p.columns, ∃ d ∈ t.columns, c.1 = d.name.toList := by
  obtain ⟨t, ht, rfl⟩ := List.mem_map.1 h
  refine ⟨t.1, List.fst_mem_of_mem_zipIdx ht, rfl, fun c hc => ?_⟩
  obtain ⟨d, hd, rfl⟩ := List.mem_map.1 hc
  exact ⟨d.1, List.fst_mem_of_mem_zipIdx hd, rfl⟩

theorem disguised_withoutDefaults : s.withoutDefaults.disguised = s.disguised := by
  have hpairings : s.withoutDefaults.pairings = s.pairings := by
    rw [pairings, withoutDefaults, List.zipIdx_map, List.map_map, pairings]
    refine List.map_congr_left fun t _ => ?_
    simp [Table.pairing, Table.withoutDefaults, Column.withoutDefault, List.zipIdx_map]
  have hdisguise : Disguise.ofSchema s.withoutDefaults = Disguise.ofSchema s := by
    rw [Disguise.ofSchema_eq, hpairings, Disguise.ofSchema_eq]
  rw [disguised, hdisguise, Disguise.schema, withoutDefaults, List.zipIdx_map, List.map_map]
  refine congrArg Schema.mk (List.map_congr_left fun t _ => ?_)
  simp [Disguise.table, Table.withoutDefaults, Column.withoutDefault, List.zipIdx_map]

end Schema

namespace Disguise

variable {f g : String → String} {s : Schema} (hf : KeepsLikeness f s.tableNames)
  (hg : KeepsLikeness g s.columnNames) {a b : String}

include hf

theorem lower_table_iff (ha : a ∈ s.tableNames) : ∀ p ∈ s.pairings,
    lower (onChars f p.source) = lower (onChars f a.toList) ↔ lower p.source = lower a.toList := by
  intro p hp
  obtain ⟨t, ht, hsource, -⟩ := Schema.exists_mem_of_mem_pairings hp
  rw [hsource, onChars_toList, onChars_toList, ← lowerCase_eq_iff, ← lowerCase_eq_iff]
  exact hf _ (List.mem_flatMap.2 ⟨t, ht, List.mem_cons_self⟩) _ ha

theorem placeholderOfTable?_renamed (ha : a ∈ s.tableNames) :
    (ofSchema (s.renamed f g)).placeholderOfTable? (f a) = (ofSchema s).placeholderOfTable? a := by
  rw [placeholderOfTable?, placeholderOfTable?, ofSchema_eq, ofSchema_eq, Schema.pairings_renamed,
    ← onChars_toList]
  exact congrArg text (NameIndex.table?_renamed (lower_table_iff hf ha))

include hg

theorem placeholderOfColumn?_renamed (ha : a ∈ s.tableNames) (hb : b ∈ s.columnNames) :
    (ofSchema (s.renamed f g)).placeholderOfColumn? (f a) (g b) =
      (ofSchema s).placeholderOfColumn? a b := by
  rw [placeholderOfColumn?, placeholderOfColumn?, ofSchema_eq, ofSchema_eq,
    Schema.pairings_renamed, ← onChars_toList, ← onChars_toList]
  refine congrArg text (NameIndex.column?_renamed (lower_table_iff hf ha) fun p hp c hc => ?_)
  obtain ⟨t, ht, -, hcolumns⟩ := Schema.exists_mem_of_mem_pairings hp
  obtain ⟨d, hd, hname⟩ := hcolumns c hc
  rw [hname, onChars_toList, onChars_toList, ← lowerCase_eq_iff, ← lowerCase_eq_iff]
  refine hg _ (List.mem_flatMap.2 ⟨t, ht, ?_⟩) _ hb
  exact List.mem_append_left _ (List.mem_map_of_mem hd)

theorem foreignKey?_renamed {t : Table} (ht : t ∈ s.tables) {k : ForeignKey}
    (hk : k ∈ t.foreignKeys.getD []) :
    (ofSchema (s.renamed f g)).foreignKey? (f t.name) (k.renamed f g) =
      (ofSchema s).foreignKey? t.name k := by
  have hname : t.name ∈ s.tableNames := List.mem_flatMap.2 ⟨t, ht, List.mem_cons_self⟩
  have htable : k.table ∈ s.tableNames :=
    List.mem_flatMap.2 ⟨t, ht, List.mem_cons_of_mem _ (List.mem_map_of_mem hk)⟩
  have hcolumn {c : String} (hc : c ∈ [k.column, k.target]) : c ∈ s.columnNames := by
    refine List.mem_flatMap.2 ⟨t, ht, List.mem_append_right _ (List.mem_append_right _ ?_)⟩
    exact List.mem_flatMap.2 ⟨k, hk, hc⟩
  rw [foreignKey?, ForeignKey.renamed, placeholderOfColumn?_renamed hf hg hname (hcolumn (by simp)),
    placeholderOfTable?_renamed hf htable,
    placeholderOfColumn?_renamed hf hg htable (hcolumn (by simp)), foreignKey?]

theorem table_renamed {t : Table} (ht : t ∈ s.tables) (i : Nat) :
    (ofSchema (s.renamed f g)).table (t.renamed f g, i) = (ofSchema s).table (t, i) := by
  have hname : t.name ∈ s.tableNames := List.mem_flatMap.2 ⟨t, ht, List.mem_cons_self⟩
  have hprimary : (t.renamed f g).primaryKey.map
        (·.filterMap ((ofSchema (s.renamed f g)).placeholderOfColumn? (f t.name))) =
      t.primaryKey.map (·.filterMap ((ofSchema s).placeholderOfColumn? t.name)) := by
    rw [Table.renamed, Option.map_map]
    refine Option.map_congr fun names hnames => ?_
    rw [Function.comp_apply, List.filterMap_map]
    refine List.filterMap_congr fun c hc => placeholderOfColumn?_renamed hf hg hname ?_
    have hkey : c ∈ t.keyColumns := List.mem_append_left _ (by rw [hnames]; exact hc)
    exact List.mem_flatMap.2 ⟨t, ht, List.mem_append_right _ hkey⟩
  have hforeign : (t.renamed f g).foreignKeys.map
        (·.filterMap ((ofSchema (s.renamed f g)).foreignKey? (f t.name))) =
      t.foreignKeys.map (·.filterMap ((ofSchema s).foreignKey? t.name)) := by
    rw [Table.renamed, Option.map_map]
    refine Option.map_congr fun keys hkeys => ?_
    rw [Function.comp_apply, List.filterMap_map]
    exact List.filterMap_congr fun k hk => foreignKey?_renamed hf hg ht (by rw [hkeys]; exact hk)
  have hcolumns : (t.renamed f g).columns.zipIdx.map (fun c =>
        { c.1 with name := columnPlaceholder c.2, defaultValue := none }) =
      t.columns.zipIdx.map fun c =>
        { c.1 with name := columnPlaceholder c.2, defaultValue := none } := by
    simp [Table.renamed, Column.renamed, List.zipIdx_map]
  rw [table, table, Table.mk.injEq]
  exact ⟨rfl, hcolumns, hprimary, hforeign, rfl⟩

end Disguise

/-- Whatever the names are, and whatever the default values. -/
theorem Schema.disguised_eq_of_renamed {f g : String → String} {s s' : Schema}
    (hf : KeepsLikeness f s.tableNames) (hg : KeepsLikeness g s.columnNames)
    (h : s'.withoutDefaults = (s.renamed f g).withoutDefaults) : s'.disguised = s.disguised := by
  rw [← disguised_withoutDefaults, h, disguised_withoutDefaults, disguised, Disguise.schema, renamed,
    List.zipIdx_map, List.map_map]
  refine congrArg Schema.mk (List.map_congr_left fun t ht => ?_)
  exact Disguise.table_renamed hf hg (List.fst_mem_of_mem_zipIdx ht) t.2

theorem Schema.disguised_eq_of_renamed_archive :
    ((Rehearsal.archive.renamed ("t_" ++ ·) (· ++ "_c")).withoutDefaults).disguised =
      Rehearsal.archive.disguised :=
  disguised_eq_of_renamed (f := ("t_" ++ ·)) (g := (· ++ "_c")) (by decide +kernel)
    (by decide +kernel) (by decide +kernel)

end AskSql
