import AskSql.Proofs.Disguise.RoundTrip
import AskSql.Proofs.Unicode
import AskSql.Rehearsal.Schemas

namespace AskSql

open Sql NameIndex Unicode

theorem lowerFrom_eq_self {before s : List Char} (h : ∀ c ∈ s, c ≠ 'Σ' ∧ lowerChar c = [c]) :
    lowerFrom before s = s := by
  induction s generalizing before with
  | nil => rfl
  | cons c s ih =>
    obtain ⟨⟨hsigma, hlower⟩, hrest⟩ := List.forall_mem_cons.1 h
    rw [lowerFrom, if_neg hsigma, hlower, ih hrest, List.singleton_append]

def IsPlaceholder (name : List Char) : Prop :=
  ∃ stem ∈ ["table_".toList, "col_".toList], ∃ n, name = stem ++ Nat.toDigits 10 n

theorem tablePlaceholder_toList (i : Nat) :
    (tablePlaceholder i).toList = "table_".toList ++ Nat.toDigits 10 (i + 1) := by
  rw [tablePlaceholder, String.toList_append, Nat.toString_eq_repr, Nat.toList_repr]

theorem columnPlaceholder_toList (j : Nat) :
    (columnPlaceholder j).toList = "col_".toList ++ Nat.toDigits 10 (j + 1) := by
  rw [columnPlaceholder, String.toList_append, Nat.toString_eq_repr, Nat.toList_repr]

theorem isPlaceholder_table (i : Nat) : IsPlaceholder (tablePlaceholder i).toList :=
  ⟨_, by simp, _, tablePlaceholder_toList i⟩

theorem isPlaceholder_column (j : Nat) : IsPlaceholder (columnPlaceholder j).toList :=
  ⟨_, by simp, _, columnPlaceholder_toList j⟩

theorem tablePlaceholder_injective {i j : Nat}
    (h : (tablePlaceholder i).toList = (tablePlaceholder j).toList) : i = j := by
  rw [tablePlaceholder_toList, tablePlaceholder_toList, List.append_cancel_left_eq] at h
  exact Nat.succ.inj (toDigits_injective h)

theorem columnPlaceholder_injective {i j : Nat}
    (h : (columnPlaceholder i).toList = (columnPlaceholder j).toList) : i = j := by
  rw [columnPlaceholder_toList, columnPlaceholder_toList, List.append_cancel_left_eq] at h
  exact Nat.succ.inj (toDigits_injective h)

theorem columnPlaceholder_ne_table (i j : Nat) :
    (columnPlaceholder j).toList ≠ (tablePlaceholder i).toList := by
  rw [columnPlaceholder_toList, tablePlaceholder_toList]
  exact fun h => absurd (List.head_eq_of_cons_eq h) (by decide)

theorem asciiUpper_tablePlaceholder (i : Nat) :
    asciiUpper (tablePlaceholder i).toList ≠ ['A', 'S'] := by
  rw [tablePlaceholder_toList]
  exact fun h => absurd (List.head_eq_of_cons_eq h) (by decide)

section

variable {name : List Char} (h : IsPlaceholder name)

include h

theorem IsPlaceholder.forall {P : Char → Bool}
    (hstems : ["table_".toList, "col_".toList].all (·.all P) = true)
    (hdigits : ∀ n ∈ List.range' 48 10, P (Char.ofNat n) = true) : ∀ c ∈ name, P c = true := by
  obtain ⟨stem, hmem, n, rfl⟩ := h
  intro c hc
  rcases List.mem_append.1 hc with hc | hc
  · exact List.all_eq_true.1 (List.all_eq_true.1 hstems stem hmem) c hc
  · exact forall_digit (P := (P · = true)) hdigits (isDigit_of_mem_toDigits hc)

theorem IsPlaceholder.lower_eq : lower name = name := by
  refine lowerFrom_eq_self fun c hc => of_decide_eq_true (?_ : decide (_ ∧ _) = true)
  exact h.forall (P := fun c => c ≠ 'Σ' ∧ lowerChar c = [c]) (by decide +kernel)
    (by decide +kernel) c hc

theorem IsPlaceholder.isWord : IsWord name := by
  refine ⟨?_, h.forall (by decide +kernel) (by decide +kernel)⟩
  obtain ⟨stem, hmem, n, rfl⟩ := h
  simp [Nat.toDigits_ne_nil]

end

section

variable {α β : Type}

theorem map_fst_zipIdx (f : α → β) (xs : List α) : xs.zipIdx.map (fun x => f x.1) = xs.map f := by
  rw [← Function.comp_def f Prod.fst, ← List.map_map, List.zipIdx_map_fst]

theorem nodup_map_snd_zipIdx {f : Nat → β} (hf : ∀ i j, f i = f j → i = j) (xs : List α) :
    (xs.zipIdx.map fun x => f x.2).Nodup := by
  rw [← Function.comp_def f Prod.snd, ← List.map_map, List.zipIdx_map_snd]
  exact List.Nodup.map (fun i j => hf i j) List.nodup_range'

end

theorem lowerCase_toList (a : String) : (lowerCase a).toList = lower a.toList :=
  Text.onString_toList ..

theorem nodup_lower {α : Type} {name : α → String} {xs : List α}
    (h : (xs.map fun x => lowerCase (name x)).Nodup) :
    (xs.map fun x => lower (name x).toList).Nodup := by
  have hlists := h.map (f := String.toList) fun a b => String.toList_inj.1
  rw [List.map_map] at hlists
  simpa only [Function.comp_def, lowerCase_toList] using hlists

theorem Table.sources_pairing (t : Table) (i : Nat) :
    (Table.pairing (t, i)).sources = (t.name :: t.columnNames).map String.toList := by
  simp only [Pairing.sources, Table.pairing, List.map_map, Function.comp_def, List.map_cons,
    Table.columnNames]
  rw [map_fst_zipIdx fun c : Column => c.name.toList]

namespace Schema

def names (s : Schema) : List String := s.tables.flatMap fun t => t.name :: t.columnNames

def PlainNames (s : Schema) : Prop := ∀ name ∈ s.names, IsWord name.toList

instance (s : Schema) : Decidable s.PlainNames :=
  inferInstanceAs (Decidable (∀ name ∈ s.names, IsWord name.toList))

structure DistinctNames (s : Schema) : Prop where
  tables : (s.tables.map fun t => lowerCase t.name).Nodup
  columns : ∀ t ∈ s.tables, (t.columnNames.map lowerCase).Nodup
  apart : ∀ t ∈ s.tables, ∀ u ∈ s.tables, ∀ c ∈ u.columnNames, lowerCase c ≠ lowerCase t.name

variable {s : Schema}

theorem mem_pairings {p : Pairing} (h : p ∈ s.pairings) :
    ∃ t i, (t, i) ∈ s.tables.zipIdx ∧ p = Table.pairing (t, i) := by
  obtain ⟨⟨t, i⟩, ht, rfl⟩ := List.mem_map.1 h
  exact ⟨t, i, ht, rfl⟩

theorem mem_names_iff {name : String} :
    name ∈ s.names ↔ ∃ p ∈ s.pairings, name.toList ∈ p.sources := by
  rw [names, List.mem_flatMap]
  constructor
  · rintro ⟨t, ht, hname⟩
    rw [← List.zipIdx_map_fst 0 s.tables] at ht
    obtain ⟨⟨t, i⟩, hi, rfl⟩ := List.mem_map.1 ht
    refine ⟨_, List.mem_map_of_mem hi, ?_⟩
    rw [Table.sources_pairing]
    exact List.mem_map_of_mem hname
  · rintro ⟨p, hp, hname⟩
    obtain ⟨t, i, ht, rfl⟩ := mem_pairings hp
    rw [Table.sources_pairing, List.mem_map] at hname
    obtain ⟨a, ha, heq⟩ := hname
    exact ⟨t, List.fst_mem_of_mem_zipIdx ht, String.toList_inj.1 heq ▸ ha⟩

theorem PlainNames.isWord (h : s.PlainNames) {p : Pairing} (hp : p ∈ s.pairings) {name : List Char}
    (hname : name ∈ p.sources) : IsWord name := by
  have hknown : String.ofList name ∈ s.names :=
    mem_names_iff.2 ⟨p, hp, by rwa [String.toList_ofList]⟩
  simpa using h _ hknown

theorem isPlaceholder_of_mem_targets {p : Pairing} (hp : p ∈ s.pairings) {name : List Char}
    (h : name ∈ p.targets) : IsPlaceholder name := by
  obtain ⟨t, i, -, rfl⟩ := mem_pairings hp
  rcases List.mem_cons.1 h with rfl | h
  · exact isPlaceholder_table i
  · simp only [Table.pairing, List.map_map, List.mem_map, Function.comp_apply] at h
    obtain ⟨c, -, rfl⟩ := h
    exact isPlaceholder_column c.2

structure Shows (t : Table) (p : Pairing) : Prop where
  table : t.name.toList = p.target
  columns : t.columnNames.map String.toList = p.columns.map Prod.snd

theorem disguised_tables (s : Schema) : List.Forall₂ Shows s.disguised.tables s.pairings := by
  rw [disguised, Disguise.schema, pairings, List.forall₂_map_left_iff, List.forall₂_map_right_iff]
  refine List.forall₂_same.2 fun t _ => ⟨rfl, ?_⟩
  simp [Disguise.table, Table.pairing, Table.columnNames]

theorem Shows.mem_targets_iff {t : Table} {p : Pairing} (h : Shows t p) {name : String} :
    name.toList ∈ p.targets ↔ name = t.name ∨ name ∈ t.columnNames := by
  rw [Pairing.targets, ← h.table, ← h.columns, List.mem_cons, String.toList_inj,
    List.mem_map_of_injective fun a b => String.toList_inj.1]

theorem mem_disguised_names_iff {name : String} :
    name ∈ s.disguised.names ↔ ∃ p ∈ s.pairings, name.toList ∈ p.targets := by
  rw [names, List.mem_flatMap]
  constructor
  · rintro ⟨t, ht, hname⟩
    obtain ⟨p, hp, hshows⟩ := exists_mem_of_forall₂ s.disguised_tables ht
    exact ⟨p, hp, hshows.mem_targets_iff.2 (List.mem_cons.1 hname)⟩
  · rintro ⟨p, hp, hname⟩
    obtain ⟨t, ht, hshows⟩ := exists_mem_of_forall₂ s.disguised_tables.flip hp
    exact ⟨t, ht, List.mem_cons.2 (hshows.mem_targets_iff.1 hname)⟩

theorem DistinctNames.separated (h : s.DistinctNames) : Separated s.pairings where
  tables := by
    rw [pairings, List.map_map]
    exact (map_fst_zipIdx (fun t : Table => lower t.name.toList) s.tables).symm ▸ nodup_lower h.tables
  columns p hp := by
    obtain ⟨t, i, ht, rfl⟩ := mem_pairings hp
    have hcolumns := h.columns t (List.fst_mem_of_mem_zipIdx ht)
    rw [Table.columnNames, List.map_map] at hcolumns
    rw [Table.pairing, List.map_map]
    exact (map_fst_zipIdx (fun c : Column => lower c.name.toList) t.columns).symm ▸
      nodup_lower hcolumns
  apart p hp q hq c hc := by
    obtain ⟨t, i, ht, rfl⟩ := mem_pairings hp
    obtain ⟨u, j, hu, rfl⟩ := mem_pairings hq
    obtain ⟨d, hd, rfl⟩ := List.mem_map.1 hc
    have hcolumn : d.1.name ∈ u.columnNames :=
      List.mem_map_of_mem (List.fst_mem_of_mem_zipIdx hd)
    intro heq
    exact h.apart t (List.fst_mem_of_mem_zipIdx ht) u (List.fst_mem_of_mem_zipIdx hu) d.1.name hcolumn
      (lowerCase_eq_iff.2 heq)

/-- Placeholders tell tables and columns apart, whatever the names are. -/
theorem separated_placeholders (s : Schema) : Separated (s.pairings.map Pairing.swap) where
  tables := by
    rw [pairings, List.map_map, List.map_map]
    refine nodup_map_snd_zipIdx (f := fun i => lower (tablePlaceholder i).toList) ?_ s.tables
    intro i j h
    rw [(isPlaceholder_table i).lower_eq, (isPlaceholder_table j).lower_eq] at h
    exact tablePlaceholder_injective h
  columns p hp := by
    obtain ⟨q, hq, rfl⟩ := List.mem_map.1 hp
    obtain ⟨t, i, -, rfl⟩ := mem_pairings hq
    rw [Pairing.swap, Table.pairing, List.map_map, List.map_map]
    refine nodup_map_snd_zipIdx (f := fun j => lower (columnPlaceholder j).toList) ?_ t.columns
    intro i j h
    rw [(isPlaceholder_column i).lower_eq, (isPlaceholder_column j).lower_eq] at h
    exact columnPlaceholder_injective h
  apart p hp q hq c hc := by
    obtain ⟨p', hp', rfl⟩ := List.mem_map.1 hp
    obtain ⟨q', hq', rfl⟩ := List.mem_map.1 hq
    obtain ⟨t, i, -, rfl⟩ := mem_pairings hp'
    obtain ⟨u, j, -, rfl⟩ := mem_pairings hq'
    simp only [Pairing.swap, Table.pairing, List.map_map, List.mem_map, Function.comp_apply] at hc ⊢
    obtain ⟨d, -, rfl⟩ := hc
    rw [Prod.fst_swap, (isPlaceholder_column d.2).lower_eq, (isPlaceholder_table i).lower_eq]
    exact columnPlaceholder_ne_table i d.2

theorem DistinctNames.reversible (h : s.DistinctNames) : Reversible s.pairings where
  sources := h.separated
  targets := s.separated_placeholders
  not_as p hp := by
    obtain ⟨t, i, -, rfl⟩ := mem_pairings hp
    exact asciiUpper_tablePlaceholder i

end Schema

def Sql.identifiers (sql : String) : List String :=
  (tokens sql.toList).filterMap fun t => t.name?.map String.ofList

/-- A statement as it is written for the disguised schema. Placeholders are in lower case; a column
stands behind a dot, and what is before the dot is a table that has the column, by its name or by an
alias; all other names are foreign to the schema. -/
structure WrittenFor (s : Schema) (sql : String) : Prop where
  spelled : ∀ name ∈ identifiers sql, lowerCase name ∈ s.disguised.names → lowerCase name = name
  qualified : ∀ x ∈ placed [] (tokens sql.toList), ∀ column ∈ x.2.name?,
    (∃ t ∈ s.disguised.tables, String.ofList column ∈ t.columnNames) →
      ∃ t ∈ s.disguised.tables, String.ofList column ∈ t.columnNames ∧
        (qualifier? x.1).bind ((scopeOf (Disguise.ofSchema s).reals (tokens sql.toList)).table?
          (Disguise.ofSchema s).reals) = some t.name.toList
  foreign : ∀ name ∈ identifiers sql, name ∉ s.disguised.names →
    ∀ known ∈ s.names, lowerCase name ≠ lowerCase known

theorem mem_of_placed {before ts : List Token} {x : List Token × Token} (h : x ∈ placed before ts) :
    x.2 ∈ ts := by
  induction ts generalizing before with
  | nil => cases h
  | cons t ts ih =>
    rcases List.mem_cons.1 h with rfl | h
    · exact List.mem_cons_self
    · exact List.mem_cons_of_mem _ (ih h)

namespace WrittenFor

variable {s : Schema} {sql : String} (h : WrittenFor s sql)

include h

theorem readable_column {before : List Token} {t : Token} {name : List Char}
    (hx : (before, t) ∈ placed [] (tokens sql.toList)) (hname : t.name? = some name)
    (hcolumn : ∃ u ∈ s.disguised.tables, String.ofList name ∈ u.columnNames) :
    Readable s.pairings (scopeOf (back s.pairings) (tokens sql.toList)) before t := by
  obtain ⟨u, hu, hmem, hqualifier⟩ := h.qualified _ hx name hname hcolumn
  obtain ⟨p, hp, hshows⟩ := exists_mem_of_forall₂ s.disguised_tables hu
  have htargets : name ∈ p.columns.map Prod.snd := by
    rw [← hshows.columns]
    exact List.mem_map.2 ⟨_, hmem, String.toList_ofList⟩
  obtain ⟨c, hc, rfl⟩ := List.mem_map.1 htargets
  refine .column hp hc hname ?_
  rw [Disguise.ofSchema_eq, hshows.table] at hqualifier
  rw [(Schema.isPlaceholder_of_mem_targets hp List.mem_cons_self).lower_eq]
  exact hqualifier

theorem foreign_of_not_mem {name : List Char} (hname : String.ofList name ∈ identifiers sql)
    (hunknown : String.ofList name ∉ s.disguised.names) : Foreign s.pairings name := by
  intro p hp known hmem hlower
  rcases List.mem_append.1 hmem with hsource | htarget
  · have hreal : String.ofList known ∈ s.names :=
      Schema.mem_names_iff.2 ⟨p, hp, by rwa [String.toList_ofList]⟩
    refine absurd (lowerCase_eq_iff.2 ?_) (h.foreign _ hname hunknown _ hreal)
    rw [String.toList_ofList, String.toList_ofList, hlower]
  · have hplaceholder : lowerCase (String.ofList name) = String.ofList known := by
      rw [← String.toList_inj, lowerCase_toList, String.toList_ofList, String.toList_ofList,
        ← hlower, (Schema.isPlaceholder_of_mem_targets hp htarget).lower_eq]
    have hshown : lowerCase (String.ofList name) ∈ s.disguised.names := by
      rw [hplaceholder]
      exact Schema.mem_disguised_names_iff.2 ⟨p, hp, by rwa [String.toList_ofList]⟩
    exact hunknown (h.spelled _ hname hshown ▸ hshown)

theorem readable : ∀ x ∈ placed [] (tokens sql.toList),
    Readable s.pairings (scopeOf (back s.pairings) (tokens sql.toList)) x.1 x.2 := by
  rintro ⟨before, t⟩ hx
  cases hname : t.name? with
  | none => exact .foreign fun name h => by simp [hname] at h
  | some name =>
    by_cases hknown : String.ofList name ∈ s.disguised.names
    · obtain ⟨p, hp, htarget⟩ := Schema.mem_disguised_names_iff.1 hknown
      obtain ⟨u, hu, hshows⟩ := exists_mem_of_forall₂ s.disguised_tables.flip hp
      rcases hshows.mem_targets_iff.1 htarget with heq | hcolumn
      · refine .table hp (hname.trans (congrArg some ?_))
        rw [← hshows.table, ← heq, String.toList_ofList]
      · exact h.readable_column hx hname ⟨u, hu, hcolumn⟩
    · refine .foreign fun a ha => ?_
      obtain rfl : a = name := Option.some.inj (ha.symm.trans hname)
      have hidentifier : String.ofList a ∈ identifiers sql :=
        List.mem_filterMap.2 ⟨t, mem_of_placed hx, by rw [hname]; rfl⟩
      exact h.foreign_of_not_mem hidentifier hknown

end WrittenFor

/-- Hiding undoes revealing. -/
theorem Disguise.hide_reveal {s : Schema} {sql : String} (hplain : s.PlainNames)
    (hdistinct : s.DistinctNames) (hsql : WrittenFor s sql) :
    (ofSchema s).hide ((ofSchema s).reveal sql) = sql := by
  rw [← String.toList_inj, hide, reveal, Text.onString_toList, Text.onString_toList, ofSchema_eq]
  exact hdistinct.reversible.rename_rename (fun _ hp _ hname => hplain.isWord hp hname) hsql.readable

theorem Disguise.hide_reveal_shop :
    let sql := "SELECT u.col_2, \"table_2\".col_1 FROM table_1 u, table_2 WHERE u.col_1 <> 'table_1' --u"
    (ofSchema Rehearsal.shop).reveal sql =
        "SELECT u.name, \"orders\".user_id FROM users u, orders WHERE u.id <> 'table_1' --u" ∧
      (ofSchema Rehearsal.shop).hide ((ofSchema Rehearsal.shop).reveal sql) = sql :=
  ⟨by decide +kernel, hide_reveal (by decide +kernel)
    ⟨by decide +kernel, by decide +kernel, by decide +kernel⟩
    ⟨by decide +kernel, by decide +kernel, by decide +kernel⟩⟩

end AskSql
