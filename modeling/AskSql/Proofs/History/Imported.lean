import Mathlib.Data.List.Dedup
import AskSql.Proofs.History.Moves

namespace AskSql

open Json
open History (keptItem)

/-- The entry is the latest under its identifier. Of entries that are equally late it is the one
that is listed last. -/
def IsLatest (items : List HistoryItem) (i : HistoryItem) : Prop :=
  ∃ before after, items = before ++ i :: after ∧
    (∀ j ∈ before, j.id = i.id → j.timestamp ≤ i.timestamp) ∧
    ∀ j ∈ after, j.id = i.id → j.timestamp < i.timestamp

section

variable {items : List HistoryItem} {i : HistoryItem}

theorem IsLatest.mem (h : IsLatest items i) : i ∈ items := by
  obtain ⟨before, after, rfl, -⟩ := h
  exact List.mem_append_cons_self

theorem IsLatest.timestamp_le (h : IsLatest items i) {j : HistoryItem} (hj : j ∈ items)
    (hid : j.id = i.id) : j.timestamp ≤ i.timestamp := by
  obtain ⟨before, after, rfl, hbefore, hafter⟩ := h
  rcases List.mem_append.1 hj with hj | hj
  · exact hbefore j hj hid
  · rcases List.mem_cons.1 hj with rfl | hj
    · exact Int.le_refl _
    · exact Int.le_of_lt (hafter j hj hid)

theorem IsLatest.cons (h : IsLatest items i) {a : HistoryItem}
    (ha : a.id = i.id → a.timestamp ≤ i.timestamp) : IsLatest (a :: items) i := by
  obtain ⟨before, after, rfl, hbefore, hafter⟩ := h
  exact ⟨a :: before, after, rfl, List.forall_mem_cons.2 ⟨ha, hbefore⟩, hafter⟩

theorem exists_isLatest (h : i ∈ items) : ∃ j, IsLatest items j ∧ j.id = i.id := by
  induction items generalizing i with
  | nil => cases h
  | cons a items ih =>
    by_cases hlater : ∃ j ∈ items, j.id = i.id
    · obtain ⟨k, hk, hkid⟩ := hlater
      obtain ⟨j, hj, hjid⟩ := ih hk
      by_cases hfirst : a.id = j.id ∧ j.timestamp < a.timestamp
      · refine ⟨a, ⟨[], items, rfl, nofun, fun l hl hid => ?_⟩, hfirst.1.trans (hjid.trans hkid)⟩
        exact Int.lt_of_le_of_lt (hj.timestamp_le hl (hid.trans hfirst.1)) hfirst.2
      · exact ⟨j, hj.cons fun hid => Int.not_lt.1 fun hlt => hfirst ⟨hid, hlt⟩, hjid.trans hkid⟩
    · rcases List.mem_cons.1 h with rfl | hi
      · exact ⟨i, ⟨[], items, rfl, nofun, fun j hj hid => absurd ⟨j, hj, hid⟩ hlater⟩, rfl⟩
      · exact absurd ⟨i, hi, rfl⟩ hlater

theorem byTime_cons (a : HistoryItem) (items : List HistoryItem) :
    ∃ early late, byTime (a :: items) = early ++ a :: late ∧ byTime items = early ++ late ∧
      ∀ b ∈ early, b.timestamp < a.timestamp := by
  have hsplit : ∃ early late, byTime (a :: items) = early ++ a :: late ∧
      byTime items = early ++ late ∧ ∀ b ∈ early, !decide (a.timestamp ≤ b.timestamp) :=
    List.mergeSort_cons (by simp only [decide_eq_true_eq]; omega)
      (by simp only [Bool.or_eq_true, decide_eq_true_eq]; omega) a items
  simpa using hsplit

def IsLast (l : List HistoryItem) (i : HistoryItem) : Prop :=
  ∃ before after, l = before ++ i :: after ∧ ∀ j ∈ after, j.id ≠ i.id

theorem IsLast.insert {early late : List HistoryItem} {a : HistoryItem}
    (h : IsLast (early ++ late) i) (ha : i ∈ early → a.id ≠ i.id) :
    IsLast (early ++ a :: late) i := by
  obtain ⟨before, after, hsplit, hafter⟩ := h
  rcases List.append_eq_append_iff.1 hsplit with ⟨middle, rfl, rfl⟩ | ⟨middle, rfl, htail⟩
  · exact ⟨early ++ a :: middle, after, by simp, hafter⟩
  · cases middle with
    | nil =>
      obtain rfl : i :: after = late := by simpa using htail
      exact ⟨before ++ [a], after, by simp, hafter⟩
    | cons j middle =>
      obtain ⟨rfl, rfl⟩ := List.cons.inj htail
      obtain ⟨hmiddle, hlate⟩ := List.forall_mem_append.1 hafter
      refine ⟨before, middle ++ a :: late, by simp, List.forall_mem_append.2 ⟨hmiddle, ?_⟩⟩
      exact List.forall_mem_cons.2 ⟨ha (by simp), hlate⟩

theorem IsLatest.isLast_byTime (h : IsLatest items i) : IsLast (byTime items) i := by
  obtain ⟨first, last, rfl, hfirst, hlast⟩ := h
  induction first with
  | nil =>
    obtain ⟨early, late, hcons, hitems, -⟩ := byTime_cons i last
    refine ⟨early, late, hcons, fun j hj hid => ?_⟩
    have hsorted := pairwise_byTime (i :: last)
    rw [hcons, List.pairwise_append, List.pairwise_cons] at hsorted
    have hmem : j ∈ last := (byTime_perm last).mem_iff.1 (hitems ▸ List.mem_append_right _ hj)
    exact Int.not_le.2 (hlast j hmem hid) (hsorted.2.1.1 j hj)
  | cons a first ih =>
    rw [List.forall_mem_cons] at hfirst
    obtain ⟨early, late, hcons, hitems, hearly⟩ := byTime_cons a (first ++ i :: last)
    have hrest := ih hfirst.2
    rw [hitems] at hrest
    rw [List.cons_append, hcons]
    exact hrest.insert fun hi hid => Int.not_le.2 (hearly i hi) (hfirst.1 hid)

end

namespace Ledger

variable {l : Ledger} {items : List HistoryItem} {e : HistoryItem}

theorem mem_putAll (h : e ∈ l) (hitems : ∀ j ∈ items, j.id ≠ e.id) : e ∈ l.putAll items := by
  induction items generalizing l with
  | nil => exact h
  | cons j items ih =>
    rw [List.forall_mem_cons] at hitems
    refine ih (List.mem_cons_of_mem _ (List.mem_filter.2 ⟨h, ?_⟩)) hitems.2
    exact decide_eq_true hitems.1.symm

theorem keptItem_mem_ofItems {i : HistoryItem} (h : IsLatest items i) :
    keptItem i ∈ ofItems items := by
  obtain ⟨before, after, hitems, hafter⟩ := h.isLast_byTime
  rw [ofItems, hitems, putAll, List.foldl_append, List.foldl_cons]
  exact mem_putAll (l := put i (putAll before [])) List.mem_cons_self hafter

theorem mem_ofItems : e ∈ ofItems items ↔ ∃ i, IsLatest items i ∧ keptItem i = e := by
  constructor
  · intro he
    have hmem := (ofItems_sublist items).subset he
    rw [List.mem_reverse, List.mem_map] at hmem
    obtain ⟨j, hj, rfl⟩ := hmem
    obtain ⟨i, hi, hid⟩ := exists_isLatest ((byTime_perm items).mem_iff.1 hj)
    exact ⟨i, hi, List.inj_on_of_nodup_map (nodup_ofItems items) (keptItem_mem_ofItems hi) he hid⟩
  · rintro ⟨i, hi, rfl⟩
    exact keptItem_mem_ofItems hi

theorem ids_ofItems_perm (items : List HistoryItem) :
    ((ofItems items).map (·.id)).Perm (items.map (·.id)).dedup := by
  refine (List.perm_ext_iff_of_nodup (nodup_ofItems items) (List.nodup_dedup _)).2 fun id => ?_
  rw [List.mem_dedup, List.mem_map, List.mem_map]
  constructor
  · rintro ⟨e, he, rfl⟩
    obtain ⟨i, hi, rfl⟩ := mem_ofItems.1 he
    exact ⟨i, hi.mem, rfl⟩
  · rintro ⟨i, hi, rfl⟩
    obtain ⟨j, hj, hid⟩ := exists_isLatest hi
    exact ⟨keptItem j, keptItem_mem_ofItems hj, hid⟩

theorem pairwise_ofItems (items : List HistoryItem) :
    (ofItems items).Pairwise fun i j => j.timestamp ≤ i.timestamp := by
  refine List.Pairwise.sublist (ofItems_sublist items) ?_
  rw [List.pairwise_reverse, List.pairwise_map]
  exact pairwise_byTime items

end Ledger

namespace History

/-- A text that is no list of entries leaves the history as it is. A list of entries takes the place
of all that was there: under each of its identifiers the latest entry is shown, the latest of all
first, with counts and times of 63 bits. -/
theorem load_all_or_nothing (h : History) (text : String) :
    ((imported? text).isSome ↔ ∃ items, IsListOf items text) ∧
      (imported? text = none → h.move (.load text) = h) ∧
      ∀ items, IsListOf items text →
        let l := (h.move (.load text)).list
        (l.map (·.id)).Perm (items.map (·.id)).dedup ∧
          (∀ e, e ∈ l ↔ ∃ i, IsLatest items i ∧ keptItem i = e) ∧
          l.Pairwise fun i j => j.timestamp ≤ i.timestamp := by
  refine ⟨?_, fun hnone => congrArg (·.getD h) hnone, fun items hitems => ?_⟩
  · simp only [imported?, Option.isSome_map, Option.isSome_iff_exists, itemsOf?_eq_some_iff]
  · have hmove : h.move (.load text) = ofItems items := by
      rw [move, imported?, itemsOf?_eq_some_iff.2 hitems]
      rfl
    simp only [hmove, (isLedger_ofItems items).list_eq]
    exact ⟨Ledger.ids_ofItems_perm items, fun e => Ledger.mem_ofItems, Ledger.pairwise_ofItems items⟩

theorem isListOf_pretty {items : List HistoryItem} (h : ∀ i ∈ items, i.Fits) :
    IsListOf items (Json.arr (items.map HistoryItem.toJson)).pretty :=
  itemsOf?_eq_some_iff.1 (itemsOf?_of_isText h
    (isLegible_arr_map fun i hi => (h i hi).isLegible_toJson).isText_toList_pretty)

theorem load_all_or_nothing_twice :
    let a : HistoryItem := { id := "a", question := "Who?", sql := "SELECT 1", timestamp := 1 }
    let b : HistoryItem := { id := "b", question := "When?", sql := "SELECT 2", timestamp := 2 }
    let a' := { a with sql := "SELECT 3" }
    let text := (Json.arr ([a, b, a'].map HistoryItem.toJson)).pretty
    let l := (move ⟨[⟨{ b with id := "c" }, 1⟩]⟩ (.load text)).list
    IsListOf [a, b, a'] text ∧ (l.map (·.id)).Perm ["b", "a"] ∧ a' ∈ l ∧ a ∉ l := by
  intro a b a' text l
  have hitems : IsListOf [a, b, a'] text := isListOf_pretty (by
    simp only [List.forall_mem_cons]
    exact ⟨⟨rfl, rfl, nofun⟩, ⟨rfl, rfl, nofun⟩, ⟨rfl, rfl, nofun⟩, nofun⟩)
  obtain ⟨hids, hmem, -⟩ := (load_all_or_nothing _ text).2.2 _ hitems
  have hlatest : IsLatest [a, b, a'] a' := ⟨[a, b], [], rfl, by decide, nofun⟩
  have ha' : a' ∈ l := (hmem a').2 ⟨a', hlatest, rfl⟩
  refine ⟨hitems, hids, ha', fun ha => ?_⟩
  have hnodup : (l.map (·.id)).Nodup := hids.nodup_iff.2 (by decide)
  exact absurd (List.inj_on_of_nodup_map hnodup ha ha' rfl) (by decide)

theorem exists_imported?_singleton {i : HistoryItem} (hi : i.Fits) :
    ∃ h, imported? (Json.arr ([i].map HistoryItem.toJson)).pretty = some h ∧
      h.list = [keptItem i] := by
  have hfits : ∀ j ∈ [i], j.Fits := List.forall_mem_singleton.2 hi
  obtain ⟨h, himported, hlist⟩ := exists_imported?_pretty hfits (List.nodup_singleton i.id)
  refine ⟨h, himported, ?_⟩
  rw [hlist, byTime, List.mergeSort_singleton]
  rfl

/-- A time of more than 63 bits is not shown as it was listed. -/
theorem latest_not_mem_imported? :
    let i : HistoryItem :=
      { id := "a", question := "Who?", sql := "SELECT 1", timestamp := 0,
        executionTime := some (2 ^ 63) }
    let text := (Json.arr ([i].map HistoryItem.toJson)).pretty
    IsListOf [i] text ∧ IsLatest [i] i ∧ ∃ h, imported? text = some h ∧
      h.list = [{ i with executionTime := some 0 }] ∧ i ∉ h.list := by
  intro i text
  have hfits : i.Fits := ⟨rfl, rfl, by decide⟩
  obtain ⟨h, himported, hlist⟩ := exists_imported?_singleton hfits
  refine ⟨isListOf_pretty (List.forall_mem_singleton.2 hfits), ⟨[], [], rfl, nofun, nofun⟩,
    h, himported, hlist, ?_⟩
  rw [hlist]
  decide

theorem kept_eq_self_iff {n : Nat} : kept n = n ↔ n < 2 ^ 63 := by
  have hword : Width.isWord 63 n ↔ n < 2 ^ 63 := decide_eq_true_iff
  have hkept : kept n = if n < 2 ^ 63 then n else 0 := if_congr hword rfl rfl
  rw [hkept]
  split <;> omega

theorem keptItem_eq_self_iff {i : HistoryItem} :
    keptItem i = i ↔ i.resultCount < 2 ^ 63 ∧ ∀ ms ∈ i.executionTime, ms < 2 ^ 63 := by
  obtain ⟨id, question, sql, timestamp, count, time, isFavorite⟩ := i
  cases time <;> simp [keptItem, kept_eq_self_iff]

/-- The text of a list is loaded entry for entry, and the entries whose counts and times have 63
bits are the ones that come back as they were. -/
theorem exists_imported?_mem_iff {items : List HistoryItem} {text : String}
    (hfits : ∀ i ∈ items, i.Fits) (hids : (items.map (·.id)).Nodup)
    (htext : text = (Json.arr (items.map HistoryItem.toJson)).compact ∨
      text = (Json.arr (items.map HistoryItem.toJson)).pretty) :
    ∃ h, imported? text = some h ∧ (∀ g : History, g.move (.load text) = h) ∧
      h.list.Perm (items.map keptItem) ∧
      ∀ i ∈ items, i ∈ h.list ↔ i.resultCount < 2 ^ 63 ∧ ∀ ms ∈ i.executionTime, ms < 2 ^ 63 := by
  have hlegible := isLegible_arr_map fun i hi => (hfits i hi).isLegible_toJson
  have hisText : (Json.arr (items.map HistoryItem.toJson)).IsText text.toList := by
    rcases htext with rfl | rfl
    · exact hlegible.isText_toList_compact
    · exact hlegible.isText_toList_pretty
  obtain ⟨h, himported, hlist⟩ := exists_imported?_of_isText hfits hids hisText
  have hperm : h.list.Perm (items.map keptItem) := by
    rw [hlist]
    exact (List.reverse_perm _).trans ((byTime_perm items).map _)
  refine ⟨h, himported, fun g => congrArg (·.getD g) himported, hperm, fun i hi => ?_⟩
  rw [hperm.mem_iff, List.mem_map, ← keptItem_eq_self_iff]
  constructor
  · rintro ⟨j, hj, hij⟩
    have hid : (keptItem j).id = i.id := congrArg HistoryItem.id hij
    exact List.inj_on_of_nodup_map hids hj hi hid ▸ hij
  · exact fun hkept => ⟨i, hi, hkept⟩

theorem exists_imported?_mem_iff_widest :
    let a : HistoryItem :=
      { id := "a", question := "Who?", sql := "SELECT 1", timestamp := 1, resultCount := 2 ^ 63 - 1,
        executionTime := some 7 }
    let b : HistoryItem :=
      { id := "b", question := "When?", sql := "SELECT 2", timestamp := 2, resultCount := 2 ^ 64 - 1 }
    let text := (Json.arr ([a, b].map HistoryItem.toJson)).compact
    (∀ i ∈ [a, b], i.Fits) ∧ ([a, b].map (·.id)).Nodup ∧
      ∃ h, imported? text = some h ∧ a ∈ h.list ∧ b ∉ h.list := by
  intro a b text
  have hfits : ∀ i ∈ [a, b], i.Fits := by
    simp only [List.forall_mem_cons]
    exact ⟨⟨rfl, rfl, by decide⟩, ⟨rfl, rfl, nofun⟩, nofun⟩
  obtain ⟨h, himported, -, -, hmem⟩ := exists_imported?_mem_iff hfits (by decide) (.inl rfl)
  refine ⟨hfits, by decide, h, himported, (hmem a (by decide)).2 (by decide), fun hb => ?_⟩
  exact absurd ((hmem b (by decide)).1 hb).1 (by decide)

/-- A count of more than 63 bits comes back as 0. -/
theorem not_mem_imported?_of_count :
    let i : HistoryItem :=
      { id := "a", question := "Who?", sql := "SELECT 1", timestamp := 0, resultCount := 2 ^ 63 }
    i.Fits ∧ ∃ h, imported? (Json.arr ([i].map HistoryItem.toJson)).pretty = some h ∧
      h.list = [{ i with resultCount := 0 }] ∧ i ∉ h.list := by
  intro i
  have hfits : i.Fits := ⟨rfl, rfl, nofun⟩
  obtain ⟨h, himported, hlist⟩ := exists_imported?_singleton hfits
  refine ⟨hfits, h, himported, hlist, ?_⟩
  rw [hlist]
  decide

end History

end AskSql
