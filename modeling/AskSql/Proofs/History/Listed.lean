import AskSql.History.Basic
import AskSql.Proofs.Json.Members
import AskSql.Proofs.Wire

namespace AskSql

open Json

namespace HistoryItem

/-- The object has the texts and the time of the entry. What else it has must be of the right type,
and may be left out. -/
structure IsReadFrom (i : HistoryItem) (ms : List (String × Json)) : Prop where
  id : ms.lookup "id" = some (.str i.id)
  question : ms.lookup "question" = some (.str i.question)
  sql : ms.lookup "sql" = some (.str i.sql)
  timestamp : ms.lookup "timestamp" = some (.int i.timestamp)
  resultCount : (ms.lookup "resultCount").getD (.nat 0) = .nat i.resultCount
  executionTime : (ms.lookup "executionTime").getD .null = .opt .nat i.executionTime
  isFavorite : (ms.lookup "isFavorite").getD (.bool false) = .bool i.isFavorite
  fits : i.Fits

variable {i : HistoryItem} {ms : List (String × Json)}

theorem read?_reader_iff (hkeys : (ms.map Prod.fst).Nodup) :
    Json.read? reader (.obj ms) = some i ↔ i.IsReadFrom ms := by
  have hcount {levels : Nat} : Reader.word "usize" levels (.ofJson (.nat 0)) = .ok 0 := rfl
  have htime {levels : Nat} : (Reader.word "u64").option levels (.ofJson .null) = .ok none := rfl
  have hfavorite {levels : Nat} : Reader.bool levels (.ofJson (.bool false)) = .ok false := rfl
  have hoption {levels : Nat} {v : Json} {x : Option Nat} :
      (Reader.word "u64").option levels (.ofJson v) = .ok x ↔
        v = .opt .nat x ∧ ∀ ms ∈ x, Width.isWord 64 ms :=
    Reader.option_ofJson (fun _ => Reader.word_ofJson) nofun
  rw [reader, read?_record ["id", "question", "sql", "timestamp", "resultCount", "executionTime",
    "isFavorite"] rfl hkeys]
  simp only [build_seq_eq_ok, build_map_eq_ok, build_required_eq_ok, build_defaulted_eq_ok hcount,
    build_defaulted_eq_ok htime, build_defaulted_eq_ok hfavorite, Reader.string_ofJson,
    Reader.int64_ofJson, Reader.bool_ofJson, Reader.size, Reader.word64, Reader.word_ofJson, hoption,
    exists_eq_right]
  -- The fields come off one by one, the last first.
  constructor
  · rintro ⟨_, ⟨_, ⟨_, ⟨_, ⟨_, ⟨_, ⟨id, hid, rfl⟩, question, hquestion, rfl⟩, sql, hsql, rfl⟩,
      time, ⟨_, htime, rfl, hsigned⟩, rfl⟩, count, ⟨hcount, hword⟩, rfl⟩, ms, ⟨hms, hwords⟩, rfl⟩,
      isFavorite, hfavorite, rfl⟩
    exact ⟨hid, hquestion, hsql, htime, hcount, hms, hfavorite, ⟨hsigned, hword, hwords⟩⟩
  · rintro ⟨hid, hquestion, hsql, htime, hcount, hms, hfavorite, ⟨hsigned, hword, hwords⟩⟩
    exact ⟨_, ⟨_, ⟨_, ⟨_, ⟨_, ⟨_, ⟨_, hid, rfl⟩, _, hquestion, rfl⟩, _, hsql, rfl⟩,
      _, ⟨_, htime, rfl, hsigned⟩, rfl⟩, _, ⟨hcount, hword⟩, rfl⟩, _, ⟨hms, hwords⟩, rfl⟩,
      _, hfavorite, rfl⟩

end HistoryItem

theorem mapM_eq_some_iff {α β : Type} {f : α → Option β} {l : List α} {bs : List β} :
    l.mapM f = some bs ↔ List.Forall₂ (fun a b => f a = some b) l bs := by
  induction l generalizing bs with
  | nil =>
    rw [List.forall₂_nil_left_iff]
    exact ⟨fun h => (Option.some.inj h).symm, fun h => congrArg some h.symm⟩
  | cons a l ih =>
    rw [List.forall₂_cons_left_iff]
    simp only [List.mapM_cons, Option.bind_eq_bind, Option.pure_def, Option.bind_eq_some_iff, ih,
      Option.some.injEq]
    constructor
    · rintro ⟨b, hb, bs, hbs, rfl⟩
      exact ⟨b, bs, hb, hbs, rfl⟩
    · rintro ⟨b, bs, hb, hbs, rfl⟩
      exact ⟨b, hb, bs, hbs, rfl⟩

namespace History

def IsListOf (items : List HistoryItem) (text : String) : Prop :=
  ∃ vs, Json.parse text.toList = .ok (.arr vs) ∧
    List.Forall₂ (fun v i => ∃ ms, v = .obj ms ∧ i.IsReadFrom ms) vs items

variable {items : List HistoryItem} {text : String}

theorem itemOf?_eq_some_iff {v : Json} {i : HistoryItem}
    (hkeys : ∀ ms, v = .obj ms → (ms.map Prod.fst).Nodup) :
    itemOf? v = some i ↔ ∃ ms, v = .obj ms ∧ i.IsReadFrom ms := by
  cases v with
  | obj ms =>
    rw [itemOf?, HistoryItem.read?_reader_iff (hkeys ms rfl)]
    simp only [Json.obj.injEq, exists_eq_left']
  | _ => exact ⟨nofun, nofun⟩

theorem itemsOf?_eq_some_iff : itemsOf? text = some items ↔ IsListOf items text := by
  rw [itemsOf?, IsListOf]
  split
  · rename_i vs hparse
    simp only [hparse, Except.ok.injEq, Json.arr.injEq, exists_eq_left', mapM_eq_some_iff,
      List.forall₂_iff_zip]
    refine and_congr_right fun _ => forall₂_congr fun v i => imp_congr_right fun hmem => ?_
    have hv := (List.of_mem_zip hmem).1
    exact itemOf?_eq_some_iff fun ms hms => nodup_keys_of_parse hparse (hms ▸ hv)
  · rename_i hparse
    exact ⟨nofun, fun ⟨vs, hvs, _⟩ => absurd hvs (hparse vs)⟩

theorem IsListOf.fits (h : IsListOf items text) : ∀ i ∈ items, i.Fits := by
  obtain ⟨vs, -, hall⟩ := h
  induction hall with
  | nil => exact nofun
  | cons hi _ ih =>
    obtain ⟨ms, -, hread⟩ := hi
    exact List.forall_mem_cons.2 ⟨hread.fits, ih⟩

end History

end AskSql
