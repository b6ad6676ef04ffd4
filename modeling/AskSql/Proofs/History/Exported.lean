import AskSql.Proofs.History
import AskSql.Proofs.History.Listed
import AskSql.Proofs.Json.Pretty

namespace AskSql

open Json
open History (keptItem kept)

namespace HistoryItem

variable {i : HistoryItem}

theorem nodup_keys_members (i : HistoryItem) : (i.members.map Prod.fst).Nodup := by
  cases htime : i.executionTime <;> simp [members, whenSome, htime]

theorem flat_members (i : HistoryItem) : ∀ m ∈ i.members, m.2.sorted = m.2 ∧ m.2.depth = 0 := by
  simp only [members, List.forall_mem_append, List.forall_mem_cons]
  have htime : ∀ m ∈ whenSome "executionTime" .nat i.executionTime,
      m.2.sorted = m.2 ∧ m.2.depth = 0 := by
    cases i.executionTime with
    | none => exact List.forall_mem_nil _
    | some ms => exact List.forall_mem_singleton.2 ⟨rfl, rfl⟩
  exact ⟨⟨⟨⟨rfl, rfl⟩, ⟨rfl, rfl⟩, ⟨rfl, rfl⟩, ⟨rfl, rfl⟩, ⟨rfl, rfl⟩, List.forall_mem_nil _⟩, htime⟩,
    ⟨rfl, rfl⟩, List.forall_mem_nil _⟩

theorem sorted_toJson (i : HistoryItem) : i.toJson.sorted = .obj (sortKeys i.members) := by
  rw [toJson_eq, sorted, sortedMembers_eq_self fun m hm => (i.flat_members m hm).1]

theorem depth_toJson (i : HistoryItem) : i.toJson.depth = 1 := by
  have hmembers : depthOfMembers i.members ≤ 0 :=
    depthOfMembers_le.2 fun m hm => Nat.le_of_eq (i.flat_members m hm).2
  rw [toJson_eq, depth, Nat.le_zero.1 hmembers]

theorem Fits.itemOf?_sorted (h : i.Fits) : History.itemOf? i.toJson.sorted = some i := by
  rw [sorted_toJson]
  exact (h.reads_reader_of_perm (sortKeys_perm i.nodup_keys_members)).read?

end HistoryItem

theorem Json.sortedItems_eq_map (vs : List Json) : sortedItems vs = vs.map sorted := by
  induction vs with
  | nil => rfl
  | cons v vs ih => rw [sortedItems, ih, List.map_cons]

theorem History.itemsOf?_of_isText {items : List HistoryItem} {text : String}
    (h : ∀ i ∈ items, i.Fits) (htext : (Json.arr (items.map HistoryItem.toJson)).IsText text.toList) :
    itemsOf? text = some items := by
  have hdepth : (Json.arr (items.map HistoryItem.toJson)).depth ≤ maxLevels := by
    have hitems : depthOfItems (items.map HistoryItem.toJson) ≤ 1 := depthOfItems_le.2 fun v hv => by
      obtain ⟨i, -, rfl⟩ := List.mem_map.1 hv
      exact Nat.le_of_eq i.depth_toJson
    exact Nat.le_trans (Nat.succ_le_succ hitems) (by decide)
  have hparse := decode_eq htext fun _ hn => hn.any hdepth
  rw [itemsOf?, parse, hparse, sorted, sortedItems_eq_map, List.map_map]
  exact mapM_eq_some_iff.2 (List.forall₂_map_left_iff.2
    (List.forall₂_same.2 fun i hi => (h i hi).itemOf?_sorted))

theorem History.isSigned_of_mem_itemsOf? {text : String} {items : List HistoryItem}
    (h : itemsOf? text = some items) {i : HistoryItem} (hi : i ∈ items) :
    Width.isSigned 64 i.timestamp :=
  ((itemsOf?_eq_some_iff.1 h).fits i hi).timestamp

/-- The entry is one that a row can hold. -/
structure HistoryItem.IsStored (i : HistoryItem) : Prop where
  timestamp : Width.isSigned 64 i.timestamp
  kept : keptItem i = i

theorem History.isWord_kept (n : Nat) : Width.isWord 64 (kept n) := by
  have hwidth : Width.values 63 < Width.values 64 := by decide
  unfold kept
  split
  · rename_i hn
    exact decide_eq_true (Nat.lt_trans (of_decide_eq_true hn) hwidth)
  · rfl

theorem HistoryItem.IsStored.fits {i : HistoryItem} (h : i.IsStored) : i.Fits := by
  refine ⟨h.timestamp, ?_, fun ms hms => ?_⟩
  · rw [← h.kept]
    exact History.isWord_kept i.resultCount
  · rw [← h.kept] at hms
    obtain ⟨n, -, rfl⟩ := Option.map_eq_some_iff.1 hms
    exact History.isWord_kept n

theorem History.keptItem_keptItem (i : HistoryItem) : keptItem (keptItem i) = keptItem i := by
  have hkept (n : Nat) : kept (kept n) = kept n := by
    unfold kept
    split <;> simp_all
  simp only [keptItem, hkept, Option.map_map, Function.comp_def]

def byTime (items : List HistoryItem) : List HistoryItem :=
  items.mergeSort fun i j => i.timestamp ≤ j.timestamp

theorem byTime_perm (items : List HistoryItem) : (byTime items).Perm items :=
  List.mergeSort_perm ..

theorem pairwise_byTime (items : List HistoryItem) :
    (byTime items).Pairwise fun i j => i.timestamp ≤ j.timestamp := by
  have hle : (byTime items).Pairwise fun i j => decide (i.timestamp ≤ j.timestamp) :=
    List.pairwise_mergeSort (by simp only [decide_eq_true_eq]; omega)
      (by simp only [Bool.or_eq_true, decide_eq_true_eq]; omega) items
  simpa only [decide_eq_true_eq] using hle

namespace Ledger

def put (i : HistoryItem) (l : Ledger) : Ledger := keptItem i :: l.filter (·.id ≠ i.id)

def putAll (items : List HistoryItem) (l : Ledger) : Ledger := items.foldl (fun l i => l.put i) l

def ofItems (items : List HistoryItem) : Ledger := putAll (byTime items) []

variable {l : Ledger} {items : List HistoryItem}

theorem nodup_put (h : (l.map (·.id)).Nodup) (i : HistoryItem) : ((l.put i).map (·.id)).Nodup := by
  have hnew : i.id ∉ (l.filter (·.id ≠ i.id)).map (·.id) := by simp
  exact List.nodup_cons.2 ⟨hnew, h.sublist (List.filter_sublist.map _)⟩

theorem nodup_putAll (h : (l.map (·.id)).Nodup) (items : List HistoryItem) :
    ((l.putAll items).map (·.id)).Nodup := by
  induction items generalizing l with
  | nil => exact h
  | cons i items ih => exact ih (nodup_put h i)

theorem putAll_sublist (items : List HistoryItem) (l : Ledger) :
    (l.putAll items).Sublist ((items.map keptItem).reverse ++ l) := by
  induction items generalizing l with
  | nil => exact .refl l
  | cons i items ih =>
    refine (ih (l.put i)).trans ?_
    rw [List.map_cons, List.reverse_cons, List.append_assoc]
    exact (List.filter_sublist.cons_cons (keptItem i)).append_left _

theorem putAll_of_nodup (h : (((items.map keptItem).reverse ++ l).map (·.id)).Nodup) :
    l.putAll items = (items.map keptItem).reverse ++ l := by
  induction items generalizing l with
  | nil => rfl
  | cons i items ih =>
    rw [List.map_cons, List.reverse_cons, List.append_assoc] at h ⊢
    have hlast : (keptItem i :: l).Sublist ((items.map keptItem).reverse ++ ([keptItem i] ++ l)) :=
      List.sublist_append_right ..
    have hnew : i.id ∉ l.map (·.id) := (List.nodup_cons.1 (h.sublist (hlast.map _))).1
    have hput : l.put i = keptItem i :: l := by
      refine congrArg (keptItem i :: ·) (List.filter_eq_self.2 fun j hj => decide_eq_true ?_)
      exact fun hid => hnew (hid ▸ List.mem_map_of_mem hj)
    rw [putAll, List.foldl_cons, hput]
    exact ih h

theorem nodup_ofItems (items : List HistoryItem) : ((ofItems items).map (·.id)).Nodup :=
  nodup_putAll (l := []) .nil _

theorem ofItems_sublist (items : List HistoryItem) :
    (ofItems items).Sublist ((byTime items).map keptItem).reverse := by
  rw [← List.append_nil (List.reverse _)]
  exact putAll_sublist (byTime items) []

theorem ofItems_of_nodup (h : (items.map (·.id)).Nodup) :
    ofItems items = ((byTime items).map keptItem).reverse := by
  have hids : (((byTime items).map keptItem).reverse.map (·.id)).Nodup := by
    rw [List.map_reverse, List.nodup_reverse, List.map_map]
    exact ((byTime_perm items).map _).nodup_iff.2 h
  have hall : ofItems items = ((byTime items).map keptItem).reverse ++ [] :=
    putAll_of_nodup (by rwa [List.append_nil])
  rwa [List.append_nil] at hall

theorem length_ofItems_le (items : List HistoryItem) : (ofItems items).length ≤ items.length := by
  have hle := (ofItems_sublist items).length_le
  rwa [List.length_reverse, List.length_map, (byTime_perm items).length_eq] at hle

end Ledger

namespace History

theorem isLedger_ofItems (items : List HistoryItem) :
    (ofItems items).IsLedger (Ledger.ofItems items) := by
  change (((byTime items).zipIdx.foldl _ _ : History).IsLedger (Ledger.putAll (byTime items) []))
  -- Before the entry at place `k` is put in, all numbers are at most `k`.
  suffices hall : ∀ (l : List HistoryItem) (k : Nat) (h : History) (rows : List HistoryRow),
      h.Shows rows → (∀ r ∈ rows, r.number ≤ k) →
        ((l.zipIdx k).foldl (fun h p => h.insert p.1 (p.2 + 1)) h).IsLedger
          (Ledger.putAll l (rows.map (·.item))) from
    hall (byTime items) 0 {} [] ⟨.nil, .nil⟩ (List.forall_mem_nil _)
  intro l
  induction l with
  | nil => exact fun k h rows hs _ => ⟨rows, hs, rfl⟩
  | cons i l ih =>
    intro k h rows hs hk
    have hinsert := hs.insert_above i fun r hr => Nat.lt_succ_of_le (hk r hr)
    have hput : Ledger.putAll (i :: l) (rows.map (·.item)) = Ledger.putAll l
        (((⟨keptItem i, k + 1⟩ : HistoryRow) :: rows.filter (·.item.id ≠ i.id)).map (·.item)) := by
      rw [Ledger.putAll, List.foldl_cons, Ledger.put, List.filter_map]
      rfl
    rw [List.zipIdx_cons, List.foldl_cons, hput]
    refine ih (k + 1) _ _ hinsert (List.forall_mem_cons.2 ⟨Nat.le_refl _, fun r hr => ?_⟩)
    exact Nat.le_succ_of_le (hk r (List.mem_of_mem_filter hr))

theorem exists_imported?_of_isText {items : List HistoryItem} {text : String}
    (hfits : ∀ i ∈ items, i.Fits) (hids : (items.map (·.id)).Nodup)
    (htext : (Json.arr (items.map HistoryItem.toJson)).IsText text.toList) :
    ∃ h, imported? text = some h ∧ h.list = ((byTime items).map keptItem).reverse := by
  refine ⟨ofItems items, ?_, ?_⟩
  · rw [imported?, itemsOf?_of_isText hfits htext]
    rfl
  · rw [(isLedger_ofItems items).list_eq, Ledger.ofItems_of_nodup hids]

theorem exists_imported?_pretty {items : List HistoryItem} (hfits : ∀ i ∈ items, i.Fits)
    (hids : (items.map (·.id)).Nodup) :
    ∃ h, imported? (Json.arr (items.map HistoryItem.toJson)).pretty = some h ∧
      h.list = ((byTime items).map keptItem).reverse :=
  exists_imported?_of_isText hfits hids
    (isLegible_arr_map fun i hi => (hfits i hi).isLegible_toJson).isText_toList_pretty

end History

end AskSql
