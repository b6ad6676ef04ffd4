import AskSql.Database.Connection
import AskSql.Proofs.Cache.Snapshot
import AskSql.Proofs.Json.Record

namespace AskSql

open Json

namespace Json

theorem isLegible_int {n : Int} (h : Width.isSigned 64 n) : (Json.int n).IsLegible := by
  rw [Width.isSigned, Bool.and_eq_true, decide_eq_true_eq, decide_eq_true_eq] at h
  have hwidth : Width.values 63 ≤ Width.values 64 := by decide
  exact .num (.int h.1 (Int.lt_of_lt_of_le h.2 (Int.ofNat_le.2 hwidth)))

theorem isLegible_nat {n : Nat} (h : Width.isWord 64 n) : (Json.nat n).IsLegible := by
  have hn : n < Width.values 64 := of_decide_eq_true h
  exact .num (.int (by omega) (by omega))

theorem isLegible_arr_map {α : Type} {f : α → Json} {l : List α} (h : ∀ a ∈ l, (f a).IsLegible) :
    (Json.arr (l.map f)).IsLegible := by
  refine .arr fun v hv => ?_
  obtain ⟨a, ha, rfl⟩ := List.mem_map.1 hv
  exact h a ha

theorem isLegible_strings (l : List String) : (Json.strings l).IsLegible :=
  isLegible_arr_map fun s _ => .str s

theorem isLegible_opt {α : Type} {f : α → Json} {x : Option α} (h : ∀ a ∈ x, (f a).IsLegible) :
    (Json.opt f x).IsLegible := by
  cases x with
  | none => exact .null
  | some a => exact h a rfl

theorem isLegible_whenSome {α : Type} {key : String} {f : α → Json} {x : Option α}
    (h : ∀ a ∈ x, (f a).IsLegible) : ∀ m ∈ whenSome key f x, m.2.IsLegible := by
  intro m hm
  cases x with
  | none => cases hm
  | some a =>
    obtain rfl := List.mem_singleton.1 hm
    exact h a rfl

/-- No number is a float or too wide, and the keys of objects ascend. -/
inductive IsWhole : Json → Prop
  | null : IsWhole .null
  | bool (b : Bool) : IsWhole (.bool b)
  | int {n : Int} : -Width.values 63 ≤ n → n < Width.values 64 → IsWhole (.num (.int n))
  | str (s : String) : IsWhole (.str s)
  | arr : (∀ v ∈ items, IsWhole v) → IsWhole (.arr items)
  | obj : members.Pairwise (·.1 < ·.1) → (∀ m ∈ members, IsWhole m.2) → IsWhole (.obj members)

theorem IsWhole.isLegible {v : Json} (h : v.IsWhole) : v.IsLegible := by
  induction h with
  | null => exact .null
  | bool b => exact .bool b
  | int hlow hhigh => exact .num (.int hlow hhigh)
  | str s => exact .str s
  | arr _ ih => exact .arr ih
  | obj _ _ ih => exact .obj ih

theorem sortedItems_eq_self {vs : List Json} (h : ∀ v ∈ vs, v.sorted = v) : sortedItems vs = vs := by
  induction vs with
  | nil => rfl
  | cons v vs ih =>
    rw [List.forall_mem_cons] at h
    rw [sortedItems, h.1, ih h.2]

theorem IsWhole.sorted_eq {v : Json} (h : v.IsWhole) : v.sorted = v := by
  induction h with
  | arr _ ih => rw [sorted, sortedItems_eq_self ih]
  | obj hascending _ ih => rw [sorted, sortedMembers_eq_self ih, sortKeys_eq_self hascending]
  | _ => rfl

theorem Reader.Reads.decode_compact {α : Type} {read : Reader α} {v : Json} {a : α}
    (h : read.Reads maxLevels v a) (hlegible : v.IsLegible) :
    decode read v.compact.toList = .ok a :=
  decode_eq hlegible.isText_toList_compact h

end Json

variable {levels : Nat}

namespace Column

theorem isLegible_toJson (c : Column) : c.toJson.IsLegible := by
  refine .obj ?_
  simp only [List.forall_mem_append, List.forall_mem_cons]
  exact ⟨⟨.str _, .str _, .bool _, .bool _, nofun⟩, isLegible_whenSome fun s _ => .str s⟩

theorem reads_reader (c : Column) : reader.Reads (levels + 1) c.toJson c := by
  refine Fields.Finds.record (((((Fields.Finds.map (finds_field ?_ (Reader.reads_string c.name))
    Column.mk).seq (finds_field ?_ (Reader.reads_string c.dataType))).seq
    (finds_field ?_ (Reader.reads_bool c.nullable))).seq
    (finds_field ?_ (Reader.reads_bool c.isPrimaryKey))).seq
    (finds_whenSome ?_ (fun s _ => Reader.reads_string s) nofun rfl)) _
  all_goals simp

end Column

namespace ForeignKey

theorem isLegible_toJson (k : ForeignKey) : k.toJson.IsLegible := by
  refine .obj ?_
  simp only [List.forall_mem_cons]
  exact ⟨.str _, .str _, .str _, nofun⟩

theorem reads_reader (k : ForeignKey) : reader.Reads (levels + 1) k.toJson k := by
  refine Fields.Finds.record (((Fields.Finds.map (finds_field ?_ (Reader.reads_string k.column))
    ForeignKey.mk).seq (finds_field ?_ (Reader.reads_string k.table))).seq
    (finds_field ?_ (Reader.reads_string k.target))) _
  all_goals simp

end ForeignKey

namespace Table

def Fits (t : Table) : Prop := ∀ n ∈ t.rowCount, Width.isWord 64 n

theorem Fits.isLegible_toJson {t : Table} (h : t.Fits) : t.toJson.IsLegible := by
  refine .obj ?_
  simp only [List.forall_mem_append, List.forall_mem_cons]
  refine ⟨⟨⟨⟨.str _, ?_, nofun⟩, ?_⟩, ?_⟩, ?_⟩
  · exact isLegible_arr_map fun c _ => c.isLegible_toJson
  · exact isLegible_whenSome fun names _ => isLegible_strings names
  · exact isLegible_whenSome fun ks _ => isLegible_arr_map fun k _ => k.isLegible_toJson
  · exact isLegible_whenSome fun n hn => isLegible_nat (h n hn)

theorem Fits.reads_reader {t : Table} (h : t.Fits) : reader.Reads (levels + 3) t.toJson t := by
  have hcolumns : (Reader.list Column.reader).Reads (levels + 2) (.arr (t.columns.map Column.toJson))
      t.columns := Reader.reads_map fun c _ => c.reads_reader
  have hforeign (ks : List ForeignKey) : (Reader.list ForeignKey.reader).Reads (levels + 2)
      (.arr (ks.map ForeignKey.toJson)) ks := Reader.reads_map fun k _ => k.reads_reader
  refine Fields.Finds.record (((((Fields.Finds.map (finds_field ?_ (Reader.reads_string t.name))
    Table.mk).seq (finds_field ?_ hcolumns)).seq
    (finds_whenSome ?_ (fun names _ => Reader.reads_strings names) nofun rfl)).seq
    (finds_whenSome ?_ (fun ks _ => hforeign ks) nofun rfl)).seq
    (finds_whenSome ?_ (fun n hn => Reader.reads_word (h n hn) "u64") nofun rfl)) _
  all_goals simp

end Table

namespace Schema

def Fits (s : Schema) : Prop := ∀ t ∈ s.tables, t.Fits

theorem Fits.isLegible_toJson {s : Schema} (h : s.Fits) : s.toJson.IsLegible := by
  refine .obj ?_
  simp only [List.forall_mem_cons]
  exact ⟨isLegible_arr_map fun t ht => (h t ht).isLegible_toJson, nofun⟩

theorem Fits.reads_reader {s : Schema} (h : s.Fits) : reader.Reads (levels + 5) s.toJson s := by
  have htables : (Reader.list Table.reader).Reads (levels + 4) (.arr (s.tables.map Table.toJson))
      s.tables := Reader.reads_map fun t ht => (h t ht).reads_reader
  refine Fields.Finds.record (Fields.Finds.map (finds_field ?_ htables) Schema.mk) _
  simp

end Schema

theorem Dialect.reads_reader (d : Dialect) : reader.Reads levels d.toJson d :=
  Reader.reads_enum (by cases d <;> rfl)

theorem ErrorKind.reads_reader (k : ErrorKind) : reader.Reads levels k.toJson k :=
  Reader.reads_enum (by cases k <;> rfl)

namespace Request

theorem isLegible_toJson {r : Request} (h : r.schema.Fits) : r.toJson.IsLegible := by
  refine .obj ?_
  simp only [List.forall_mem_cons]
  exact ⟨.str _, .str _, h.isLegible_toJson, .str _, .bool _, .str _, .bool _, .bool _, nofun⟩

theorem reads_reader {r : Request} (h : r.schema.Fits) :
    reader.Reads (levels + 6) r.toJson r := by
  refine Fields.Finds.record ((((((((Fields.Finds.map
    (finds_field ?_ (Reader.reads_string r.connection)) Request.mk).seq
    (finds_field ?_ (Reader.reads_string r.question))).seq
    (finds_field ?_ h.reads_reader)).seq
    (finds_field ?_ r.dialect.reads_reader)).seq
    (finds_field ?_ (Reader.reads_bool r.readOnly))).seq
    (finds_field ?_ (Reader.reads_string r.locale))).seq
    (finds_field ?_ (Reader.reads_bool r.privacy))).seq
    (finds_field ?_ (Reader.reads_bool r.anonymize))) _
  all_goals simp

end Request

namespace ConnectionInfo

theorem isLegible_toJson {i : ConnectionInfo} (h : i.schema.Fits) : i.toJson.IsLegible := by
  refine .obj ?_
  simp only [List.forall_mem_cons]
  exact ⟨h.isLegible_toJson, .bool _, .str _, nofun⟩

theorem reads_reader {i : ConnectionInfo} (h : i.schema.Fits) :
    reader.Reads (levels + 6) i.toJson i := by
  refine Fields.Finds.record (((Fields.Finds.map (finds_field ?_ h.reads_reader)
    ConnectionInfo.mk).seq (finds_field ?_ (Reader.reads_bool i.isReadOnly))).seq
    (finds_field ?_ i.dialect.reads_reader)) _
  all_goals simp

end ConnectionInfo

namespace Decision

theorem toJson_eq (d : Decision) :
    d.toJson = .obj (("valid", .bool d.valid) :: whenSome "reason" .str d.reason) := by
  rw [toJson]
  cases d.reason <;> rfl

theorem isLegible_toJson (d : Decision) : d.toJson.IsLegible := by
  rw [toJson_eq]
  refine .obj ?_
  simp only [List.forall_mem_cons]
  exact ⟨.bool _, isLegible_whenSome fun s _ => .str s⟩

theorem reads_reader (d : Decision) : reader.Reads (levels + 1) d.toJson d := by
  rw [toJson_eq]
  refine Fields.Finds.record ((Fields.Finds.map (finds_field ?_ (Reader.reads_bool d.valid))
    Decision.mk).seq (finds_whenSome ?_ (fun s _ => Reader.reads_string s) nofun rfl)) _
  all_goals simp

end Decision

namespace HistoryItem

structure Fits (i : HistoryItem) : Prop where
  timestamp : Width.isSigned 64 i.timestamp
  resultCount : Width.isWord 64 i.resultCount
  executionTime : ∀ ms ∈ i.executionTime, Width.isWord 64 ms

def members (i : HistoryItem) : List (String × Json) :=
  [("id", .str i.id), ("question", .str i.question), ("sql", .str i.sql),
    ("timestamp", .int i.timestamp), ("resultCount", .nat i.resultCount)] ++
    whenSome "executionTime" .nat i.executionTime ++ [("isFavorite", .bool i.isFavorite)]

theorem toJson_eq (i : HistoryItem) : i.toJson = .obj i.members := by
  rw [toJson, members]
  cases i.executionTime <;> rfl

variable {i : HistoryItem}

theorem Fits.isLegible_toJson (h : i.Fits) : i.toJson.IsLegible := by
  rw [toJson_eq]
  refine .obj ?_
  simp only [members, List.forall_mem_append, List.forall_mem_cons]
  exact ⟨⟨⟨.str _, .str _, .str _, isLegible_int h.timestamp, isLegible_nat h.resultCount, nofun⟩,
    isLegible_whenSome fun ms hms => isLegible_nat (h.executionTime ms hms)⟩, .bool _, nofun⟩

theorem Fits.reads_reader_of_perm (h : i.Fits) {ms : List (String × Json)}
    (hperm : ms.Perm i.members) : reader.Reads (levels + 1) (.obj ms) i := by
  refine Fields.Finds.record_of_perm (((((((Fields.Finds.map
    (finds_field ?_ (Reader.reads_string i.id)) HistoryItem.mk).seq
    (finds_field ?_ (Reader.reads_string i.question))).seq
    (finds_field ?_ (Reader.reads_string i.sql))).seq
    (finds_field ?_ (Reader.reads_int64 h.timestamp))).seq
    (finds_field ?_ (Reader.reads_word h.resultCount "usize"))).seq
    (finds_whenSome ?_ (fun ms hms => Reader.reads_word (h.executionTime ms hms) "u64") nofun
      rfl)).seq
    (finds_field ?_ (Reader.reads_bool i.isFavorite))) hperm _
  all_goals simp [members]

end HistoryItem

def Row.IsWhole (r : Row) : Prop := ∀ c ∈ r.cells, c.2.IsWhole ∧ c.2.depth ≤ 100

theorem Row.IsWhole.isLegible {r : Row} (h : r.IsWhole) : r.IsLegible :=
  ⟨fun c hc => (h c hc).1.isLegible, fun c hc => (h c hc).1.sorted_eq, fun c hc => (h c hc).2⟩

section

variable {rows : List Row}

theorem Row.isLegible_listToJson (h : ∀ r ∈ rows, r.IsWhole) : (listToJson rows).IsLegible :=
  isLegible_arr_map fun r hr => (h r hr).isLegible.toJson

theorem Row.reads_list (h : ∀ r ∈ rows, r.IsWhole) (hlevels : 100 ≤ levels) :
    (Reader.list Row.reader).Reads (levels + 2) (listToJson rows) rows :=
  Reader.reads_map fun r hr => (h r hr).isLegible.reads hlevels

end

namespace QueryOutput

variable {o : QueryOutput}

theorem isLegible_toJson (h : ∀ r ∈ o.rows, r.IsWhole) : o.toJson.IsLegible := by
  refine .obj ?_
  simp only [List.forall_mem_cons]
  exact ⟨Row.isLegible_listToJson h, isLegible_strings _, nofun⟩

theorem reads_reader (h : ∀ r ∈ o.rows, r.IsWhole) (hlevels : 100 ≤ levels) :
    reader.Reads (levels + 3) o.toJson o := by
  refine Fields.Finds.record ((Fields.Finds.map (finds_field ?_ (Row.reads_list h hlevels))
    QueryOutput.mk).seq (finds_field ?_ (Reader.reads_strings o.columns))) _
  all_goals simp

end QueryOutput

namespace Response

variable {r : Response}

theorem isLegible_toJson (h : ∀ row ∈ r.rows, row.IsWhole) : r.toJson.IsLegible := by
  refine .obj ?_
  simp only [List.forall_mem_append, List.forall_mem_cons]
  refine ⟨⟨⟨⟨⟨.bool _, nofun⟩, ?_⟩, ⟨Row.isLegible_listToJson h, isLegible_strings _, ?_, .bool _,
    .bool _, nofun⟩⟩, ?_⟩, ?_⟩
  · exact isLegible_whenSome fun s _ => .str s
  · exact isLegible_opt fun s _ => .str s
  · exact isLegible_whenSome fun s _ => .str s
  · exact isLegible_whenSome fun k _ => .str k.name

theorem reads_reader (h : ∀ row ∈ r.rows, row.IsWhole) (hlevels : 100 ≤ levels) :
    reader.Reads (levels + 3) r.toJson r := by
  have hsummary : (Reader.option Reader.string).Reads (levels + 2) (.opt .str r.summary) r.summary :=
    Reader.reads_opt Reader.reads_string nofun r.summary
  refine Fields.Finds.record (((((((((Fields.Finds.map
    (finds_field ?_ (Reader.reads_bool r.success)) Response.mk).seq
    (finds_whenSome ?_ (fun s _ => Reader.reads_string s) nofun rfl)).seq
    (finds_field ?_ (Row.reads_list h hlevels))).seq
    (finds_field ?_ (Reader.reads_strings r.columns))).seq
    (finds_field ?_ hsummary)).seq
    (finds_field ?_ (Reader.reads_bool r.wasRepaired))).seq
    (finds_field ?_ (Reader.reads_bool r.cached))).seq
    (finds_whenSome ?_ (fun s _ => Reader.reads_string s) nofun rfl)).seq
    (finds_whenSome ?_ (fun k _ => k.reads_reader) nofun rfl)) _
  all_goals simp

end Response

theorem CachedResult.isLegible {r : CachedResult} (h : ∀ row ∈ r.rows, row.IsWhole) :
    r.IsLegible := fun row hrow => (h row hrow).isLegible

theorem CachedResult.IsLegible.reads_reader {r : CachedResult} (h : r.IsLegible)
    (hlevels : 100 ≤ levels) : reader.Reads (levels + 3) r.toJson r := by
  intro n hn
  cases hn with
  | obj hks =>
    refine (h.reads hlevels).finish hks ?_ _
    change Once [["sql"], ["rows"], ["columns"], ["summary"]] ["sql", "rows", "columns", "summary"]
    decide

/-- Whatever is sent is read back as it was, from the compact text of its value. -/
theorem decode_compact_toJson :
    (∀ c : Column, decode Column.reader c.toJson.compact.toList = .ok c) ∧
    (∀ k : ForeignKey, decode ForeignKey.reader k.toJson.compact.toList = .ok k) ∧
    (∀ t : Table, t.Fits → decode Table.reader t.toJson.compact.toList = .ok t) ∧
    (∀ s : Schema, s.Fits → decode Schema.reader s.toJson.compact.toList = .ok s) ∧
    (∀ r : Request, r.schema.Fits → decode Request.reader r.toJson.compact.toList = .ok r) ∧
    (∀ i : ConnectionInfo, i.schema.Fits →
      decode ConnectionInfo.reader i.toJson.compact.toList = .ok i) ∧
    (∀ d : Decision, decode Decision.reader d.toJson.compact.toList = .ok d) ∧
    (∀ i : HistoryItem, i.Fits → decode HistoryItem.reader i.toJson.compact.toList = .ok i) ∧
    (∀ o : QueryOutput, (∀ row ∈ o.rows, row.IsWhole) →
      decode QueryOutput.reader o.toJson.compact.toList = .ok o) ∧
    (∀ r : Response, (∀ row ∈ r.rows, row.IsWhole) →
      decode Response.reader r.toJson.compact.toList = .ok r) ∧
    (∀ r : CachedResult, (∀ row ∈ r.rows, row.IsWhole) →
      decode CachedResult.reader r.toJson.compact.toList = .ok r) ∧
    ∀ e : CacheEntry, (∀ row ∈ e.result.rows, row.IsWhole) →
      decode CacheEntry.reader e.toJson.compact.toList = .ok e := by
  have hlevels : 100 ≤ 124 := by decide
  refine ⟨fun c => ?_, fun k => ?_, fun t h => ?_, fun s h => ?_, fun r h => ?_, fun i h => ?_,
    fun d => ?_, fun i h => ?_, fun o h => ?_, fun r h => ?_, fun r h => ?_, fun e h => ?_⟩
  · exact c.reads_reader.decode_compact c.isLegible_toJson
  · exact k.reads_reader.decode_compact k.isLegible_toJson
  · exact h.reads_reader.decode_compact h.isLegible_toJson
  · exact h.reads_reader.decode_compact h.isLegible_toJson
  · exact (Request.reads_reader h).decode_compact (Request.isLegible_toJson h)
  · exact (ConnectionInfo.reads_reader h).decode_compact (ConnectionInfo.isLegible_toJson h)
  · exact d.reads_reader.decode_compact d.isLegible_toJson
  · exact (i.toJson_eq ▸ h.reads_reader_of_perm (.refl _)).decode_compact h.isLegible_toJson
  · exact (QueryOutput.reads_reader h hlevels).decode_compact (QueryOutput.isLegible_toJson h)
  · exact (Response.reads_reader h hlevels).decode_compact (Response.isLegible_toJson h)
  · have hr := CachedResult.isLegible h
    exact (hr.reads_reader hlevels).decode_compact (.obj hr.members)
  · have he := CachedResult.isLegible h
    exact (CacheEntry.reads_reader he hlevels).decode_compact (CacheEntry.toJson_isLegible he)

theorem decode_compact_toJson_widest :
    let t : Table :=
      { name := "r\u00e9sum\u00e9", columns := [{ name := "\"\n\x00", dataType := "" }],
        primaryKey := some [], rowCount := some (2 ^ 64 - 1) }
    let q : Request := ⟨"app", "Who?", ⟨[t]⟩, .mysql, false, "en", true, false⟩
    let i : HistoryItem := ⟨"a", "Who?", "SELECT 1", -2 ^ 63, 2 ^ 64 - 1, none, true⟩
    let row : Row := ⟨[("n", .int (2 ^ 64 - 1)), ("o", .obj [("k", .arr [.null])])], by decide⟩
    let r : Response := { success := true, rows := [row], columns := ["n", "o"] }
    let e : CacheEntry := ⟨⟨"SELECT 1", [row], ["n", "o"], none⟩, .epoch⟩
    (t.Fits ∧ decode Table.reader t.toJson.compact.toList = .ok t) ∧
      (q.schema.Fits ∧ decode Request.reader q.toJson.compact.toList = .ok q) ∧
      (i.Fits ∧ decode HistoryItem.reader i.toJson.compact.toList = .ok i) ∧
      row.IsWhole ∧ decode Response.reader r.toJson.compact.toList = .ok r ∧
      decode CacheEntry.reader e.toJson.compact.toList = .ok e := by
  intro t q i row r e
  have ht : t.Fits := by
    rintro _ ⟨⟩
    decide
  have hq : q.schema.Fits := List.forall_mem_singleton.2 ht
  have hi : i.Fits := ⟨by decide, by decide, nofun⟩
  have hrow : row.IsWhole := by
    simp only [row, Row.IsWhole, List.forall_mem_cons]
    refine ⟨⟨.int (by decide) (by decide), Nat.zero_le _⟩, ⟨.obj (by decide) ?_, by decide⟩, nofun⟩
    exact List.forall_mem_singleton.2 (.arr (List.forall_mem_singleton.2 .null))
  have hrows : ∀ row' ∈ [row], row'.IsWhole := List.forall_mem_singleton.2 hrow
  obtain ⟨-, -, htable, -, hrequest, -, -, hitem, -, hresponse, -, hentry⟩ := decode_compact_toJson
  exact ⟨⟨ht, htable t ht⟩, ⟨hq, hrequest q hq⟩, ⟨hi, hitem i hi⟩, hrow, hresponse r hrows,
    hentry e hrows⟩

end AskSql
