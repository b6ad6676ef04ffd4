import AskSql.Cache.Snapshot
import AskSql.Proofs.Json.Reading
import AskSql.Proofs.Time.Stamp

namespace AskSql

open Json

theorem Instant.reads_reader (levels : Nat) (i : Instant) :
    Instant.reader.Reads levels (.str i.text) i := by
  rintro _ ⟨⟩
  refine bind_eq_ok.2 ⟨i.text, rfl, ?_⟩
  rw [Instant.ofText?_text]

/-- Numbers are read as they are written, the keys of objects ascend, and lists and objects nest at
most a hundred deep. -/
structure Row.IsLegible (r : Row) : Prop where
  numbers : ∀ c ∈ r.cells, c.2.IsLegible
  sorted : ∀ c ∈ r.cells, c.2.sorted = c.2
  depth : ∀ c ∈ r.cells, c.2.depth ≤ 100

def CachedResult.IsLegible (r : CachedResult) : Prop := ∀ row ∈ r.rows, row.IsLegible

theorem Row.IsLegible.toJson {r : Row} (h : r.IsLegible) : r.toJson.IsLegible := .obj h.numbers

theorem Row.ofList_sorted {r : Row} (h : ∀ c ∈ r.cells, c.2.sorted = c.2) :
    Row.ofList (sortKeys (sortedMembers r.cells)) = r := by
  obtain ⟨cells, hascending⟩ := r
  simp only [Row.ofList, sortedMembers_eq_self h, sortKeys_eq_self hascending]

theorem Row.IsLegible.reads {r : Row} (h : r.IsLegible) {levels : Nat} (hlevels : 100 ≤ levels) :
    Row.reader.Reads (levels + 1) r.toJson r := by
  intro n hn
  have hmembers := Reader.reads_members (fun c hc => Nat.le_trans (h.depth c hc) hlevels) n hn
  rw [Row.reader, hmembers]
  exact congrArg Except.ok (Row.ofList_sorted h.sorted)

namespace CachedResult

variable {r : CachedResult}

theorem IsLegible.members (h : r.IsLegible) : ∀ m ∈ r.members, m.2.IsLegible := by
  simp only [CachedResult.members, List.forall_mem_cons]
  refine ⟨.str _, .arr ?_, .arr ?_, ?_, by simp⟩
  · rintro _ hv
    obtain ⟨row, hrow, rfl⟩ := List.mem_map.1 hv
    exact (h row hrow).toJson
  · rintro _ hv
    obtain ⟨column, -, rfl⟩ := List.mem_map.1 hv
    exact .str _
  · cases r.summary with
    | none => exact .null
    | some s => exact .str s

theorem IsLegible.depth (h : r.IsLegible) : ∀ m ∈ r.members, m.2.depth ≤ 102 := by
  simp only [CachedResult.members, List.forall_mem_cons]
  refine ⟨Nat.zero_le _, ?_, ?_, ?_, by simp⟩
  · refine Nat.succ_le_succ (depthOfItems_le.2 ?_)
    rintro _ hv
    obtain ⟨row, hrow, rfl⟩ := List.mem_map.1 hv
    exact Nat.succ_le_succ (depthOfMembers_le.2 (h row hrow).depth)
  · refine Nat.succ_le_succ (depthOfItems_le.2 ?_)
    rintro _ hv
    obtain ⟨column, -, rfl⟩ := List.mem_map.1 hv
    exact Nat.zero_le _
  · cases r.summary <;> exact Nat.zero_le _

theorem IsLegible.reads (h : r.IsLegible) {levels : Nat} (hlevels : 100 ≤ levels) :
    CachedResult.fields.Reads (levels + 2) r.members r := by
  refine (((Fields.Reads.map (reads_field (m := ("sql", _)) rfl (Reader.reads_string _)) _).seq
    (reads_field (m := ("rows", _)) rfl ?_)).seq (reads_field (m := ("columns", _)) rfl ?_)).seq
      (reads_field (m := ("summary", _)) rfl ?_)
  · exact Reader.reads_map fun row hrow => (h row hrow).reads hlevels
  · exact Reader.reads_map fun column _ => Reader.reads_string column
  · exact Reader.reads_opt Reader.reads_string nofun r.summary

end CachedResult

namespace CacheEntry

variable {e : CacheEntry} {levels : Nat}

theorem toJson_isLegible (h : e.result.IsLegible) : e.toJson.IsLegible := by
  refine .obj fun m hm => ?_
  rcases List.mem_append.1 hm with hm | hm
  · exact h.members m hm
  · rw [List.mem_singleton.1 hm]
    exact .str _

theorem split_eq {ks : List (Label × Node)} {ms : List (String × Json)} (i : Instant)
    (hks : List.Forall₂ ShowsMember ks (ms ++ [(stampName, .str i.text)]))
    (hname : ∀ m ∈ ms, m.1 ≠ stampName) (hdepth : ∀ m ∈ ms, m.2.depth ≤ levels)
    (others : List (Label × Node)) :
    ∃ rest, List.Forall₂ ShowsMember rest ms ∧
      split levels none others ks = .ok (some i, others.reverse ++ rest) := by
  induction ms generalizing ks others with
  | nil =>
    cases hks with
    | cons hk hks =>
      cases hks
      obtain ⟨hlabel, hn⟩ := hk
      refine ⟨[], .nil, bind_eq_ok.2 ⟨_, hlabel, ?_⟩⟩
      rw [if_pos rfl]
      refine bind_eq_ok.2 ⟨i, Instant.reads_reader levels i _ hn, ?_⟩
      rw [split, List.append_nil]
  | cons m ms ih =>
    rw [List.forall_mem_cons] at hname hdepth
    cases hks with
    | @cons k _ ks _ hk hks =>
      obtain ⟨rest, hrest, hsplit⟩ := ih hks hname.2 hdepth.2 (k :: others)
      refine ⟨k :: rest, .cons hk hrest, ?_⟩
      obtain ⟨hlabel, hn⟩ := hk
      refine bind_eq_ok.2 ⟨_, hlabel, ?_⟩
      rw [if_neg hname.1]
      refine bind_eq_ok.2 ⟨_, hn.any hdepth.1, ?_⟩
      rw [hsplit, List.reverse_cons, List.append_assoc]
      rfl

theorem reads_reader (h : e.result.IsLegible) (hlevels : 100 ≤ levels) :
    reader.Reads (levels + 3) e.toJson e := by
  intro n hn
  cases hn with
  | @obj ks _ _ left hks =>
    have hname : ∀ m ∈ e.result.members, m.1 ≠ stampName := by
      simp [CachedResult.members, stampName]
    obtain ⟨rest, hrest, hsplit⟩ := split_eq e.createdAt hks hname
      (fun m hm => Nat.le_trans (h.depth m hm) (Nat.add_le_add_right hlevels 2)) []
    refine bind_eq_ok.2 ⟨_, hsplit, ?_⟩
    refine bind_eq_ok.2 ⟨e.result, ?_, rfl⟩
    have honce : Once CachedResult.fields.names (e.result.members.map Prod.fst) := by
      change Once [["sql"], ["rows"], ["columns"], ["summary"]]
        ["sql", "rows", "columns", "summary"]
      decide
    exact (h.reads hlevels).finish hrest honce left

end CacheEntry

namespace Cache

theorem reads_pairReader {m : String × CacheEntry} {levels : Nat} (h : m.2.result.IsLegible)
    (hlevels : 100 ≤ levels) : pairReader.Reads (levels + 4) (pairToJson m) m := by
  intro n hn
  cases hn with
  | arr hns =>
    cases hns with
    | cons hkey hns =>
    cases hns with
    | cons hentry hns =>
    cases hns
    have hread := CacheEntry.reads_reader h hlevels _ hentry
    cases hkey
    simp [pairReader, Fields.finish, Seq.seq, Fields.seq, Functor.map, Fields.map, required, field,
      Reader.string, hread, Except.map, Except.mapError, Source.fault?, extraFault?]

theorem pairToJson_isLegible {m : String × CacheEntry} (h : m.2.result.IsLegible) :
    (pairToJson m).IsLegible := by
  refine .arr ?_
  simp only [List.forall_mem_cons]
  exact ⟨.str _, CacheEntry.toJson_isLegible h, by simp⟩

theorem readSnapshot?_compact {l : List (String × CacheEntry)} (h : ∀ m ∈ l, m.2.result.IsLegible) :
    readSnapshot? (Json.arr (l.map pairToJson)).compact = some l := by
  have hlegible : (Json.arr (l.map pairToJson)).IsLegible := by
    refine .arr fun v hv => ?_
    obtain ⟨m, hm, rfl⟩ := List.mem_map.1 hv
    exact pairToJson_isLegible (h m hm)
  have hreads : (Reader.list pairReader).Reads maxLevels (.arr (l.map pairToJson)) l :=
    Reader.reads_map fun m hm => reads_pairReader (h m hm) (by decide : 100 ≤ 122)
  rw [readSnapshot?, compact, String.toList_ofList, decode_eq hlegible.isText hreads]
  rfl

end Cache

end AskSql
