import Mathlib.Data.List.Nodup
import Mathlib.Data.List.Perm.Basic
import AskSql.History.Basic

/-!
The history as the list of entries that it shows, the newest first.

Rows stand in the order in which they were made, and their numbers carry the order in which they are
shown. Each operation is said here of the list that is shown, without rows and numbers; the history
shows that list after every run.
-/

namespace AskSql

open History (noted keptItem kept maxItems)

namespace HistoryNote

def isOf (n : HistoryNote) (i : HistoryItem) : Bool := i.question = n.question ∧ i.sql = n.sql

structure Fits (n : HistoryNote) : Prop where
  resultCount : Width.isWord 63 n.resultCount
  executionTime : ∀ ms ∈ n.executionTime, Width.isWord 63 ms

instance (n : HistoryNote) : Decidable n.Fits :=
  decidable_of_iff (_ ∧ _) ⟨fun h => ⟨h.1, h.2⟩, fun h => ⟨h.1, h.2⟩⟩

theorem isOf_iff {n : HistoryNote} {i : HistoryItem} :
    n.isOf i = true ↔ (i.question, i.sql) = (n.question, n.sql) := by
  simp [isOf]

theorem isOf_noted (n : HistoryNote) (id : String) (now : Int) (isFavorite : Bool) :
    n.isOf (noted n id now isFavorite) = true := isOf_iff.2 rfl

theorem Fits.keptItem_noted {n : HistoryNote} (h : n.Fits) (id : String) (now : Int)
    (isFavorite : Bool) : keptItem (noted n id now isFavorite) = noted n id now isFavorite := by
  have hkept {k : Nat} (hk : Width.isWord 63 k) : kept k = k := if_pos hk
  have htime : n.executionTime.map kept = n.executionTime := by
    cases hn : n.executionTime with
    | none => rfl
    | some ms => rw [Option.map_some, hkept (h.executionTime ms hn)]
  simp only [keptItem, noted, hkept h.resultCount, htime]

end HistoryNote

abbrev Ledger := List HistoryItem

inductive HistoryStep
  | add (now : Int) (freshId : String) (n : HistoryNote)
  | toggle (id : String)
  | delete (id : String)
  | clear (keepFavorites : Bool)

namespace Ledger

def entry (now : Int) (freshId : String) (n : HistoryNote) (l : Ledger) : HistoryItem :=
  match l.find? n.isOf with
  | some old => noted n old.id now old.isFavorite
  | none => noted n freshId now false

def add (now : Int) (freshId : String) (n : HistoryNote) (l : Ledger) : Ledger :=
  (l.entry now freshId n :: l.filter fun i => !n.isOf i).take maxItems

def toggle (id : String) (l : Ledger) : Ledger :=
  l.map fun i => if i.id = id then { i with isFavorite := !i.isFavorite } else i

def delete (id : String) (l : Ledger) : Ledger := l.filter (·.id ≠ id)

def clear (keepFavorites : Bool) (l : Ledger) : Ledger :=
  if keepFavorites then l.filter (·.isFavorite) else []

def step (l : Ledger) : HistoryStep → Ledger
  | .add now freshId n => l.add now freshId n
  | .toggle id => l.toggle id
  | .delete id => l.delete id
  | .clear keepFavorites => l.clear keepFavorites

theorem isOf_entry (l : Ledger) (now : Int) (freshId : String) (n : HistoryNote) :
    n.isOf (l.entry now freshId n) = true := by
  unfold entry
  split <;> exact n.isOf_noted ..

theorem map_toggle (l : Ledger) {β : Type} {f : HistoryItem → β}
    (hf : ∀ i : HistoryItem, f { i with isFavorite := !i.isFavorite } = f i) (id : String) :
    (l.toggle id).map f = l.map f := by
  rw [Ledger.toggle, List.map_map]
  refine List.map_congr_left fun i _ => ?_
  rw [Function.comp_apply]
  split
  · exact hf i
  · rfl

theorem clear_sublist (l : Ledger) (keepFavorites : Bool) : (l.clear keepFavorites).Sublist l := by
  cases keepFavorites with
  | true => exact List.filter_sublist
  | false => exact List.nil_sublist l

/-- Entries are told apart by their identifiers, and by question and statement. -/
structure WellKept (l : Ledger) : Prop where
  ids : (l.map (·.id)).Nodup
  pairs : (l.map fun i => (i.question, i.sql)).Nodup
  length_le : l.length ≤ maxItems

def Admits (l : Ledger) : HistoryStep → Prop
  | .add _ freshId n => n.Fits ∧ freshId ∉ l.map (·.id)
  | _ => True

def AdmitsAll (l : Ledger) : List HistoryStep → Prop
  | [] => True
  | a :: as => l.Admits a ∧ AdmitsAll (l.step a) as

instance decidableAdmits (l : Ledger) : (a : HistoryStep) → Decidable (l.Admits a)
  | .add .. => inferInstanceAs (Decidable (_ ∧ _))
  | .toggle _ | .delete _ | .clear _ => .isTrue trivial

instance decidableAdmitsAll : (l : Ledger) → (as : List HistoryStep) → Decidable (l.AdmitsAll as)
  | _, [] => .isTrue trivial
  | l, a :: as =>
    have := decidableAdmitsAll (l.step a) as
    inferInstanceAs (Decidable (_ ∧ _))

namespace WellKept

variable {l : Ledger}

theorem nil : WellKept [] := ⟨List.nodup_nil, List.nodup_nil, Nat.zero_le _⟩

theorem sublist (h : WellKept l) {m : Ledger} (hm : m.Sublist l) : WellKept m :=
  ⟨h.ids.sublist (hm.map _), h.pairs.sublist (hm.map _), Nat.le_trans hm.length_le h.length_le⟩

theorem eq_of_id_eq (h : WellKept l) {i j : HistoryItem} (hi : i ∈ l) (hj : j ∈ l)
    (hid : i.id = j.id) : i = j := List.inj_on_of_nodup_map h.ids hi hj hid

theorem eq_of_isOf (h : WellKept l) {n : HistoryNote} {i j : HistoryItem} (hi : i ∈ l) (hj : j ∈ l)
    (hn : n.isOf i = true) (hn' : n.isOf j = true) : i = j :=
  List.inj_on_of_nodup_map h.pairs hi hj
    ((HistoryNote.isOf_iff.1 hn).trans (HistoryNote.isOf_iff.1 hn').symm)

theorem find?_eq_some_iff (h : WellKept l) {n : HistoryNote} {i : HistoryItem} :
    l.find? n.isOf = some i ↔ i ∈ l ∧ n.isOf i = true := by
  constructor
  · intro hfind
    exact ⟨List.mem_of_find?_eq_some hfind, List.find?_some hfind⟩
  · rintro ⟨hi, hn⟩
    cases hfind : l.find? n.isOf with
    | none => exact absurd hn (List.find?_eq_none.1 hfind i hi)
    | some j =>
      rw [h.eq_of_isOf hi (List.mem_of_find?_eq_some hfind) hn (List.find?_some hfind)]

theorem isOf_iff_id_eq (h : WellKept l) (now : Int) {freshId : String} {n : HistoryNote}
    (hfresh : freshId ∉ l.map (·.id)) {i : HistoryItem} (hi : i ∈ l) :
    n.isOf i = true ↔ i.id = (l.entry now freshId n).id := by
  unfold entry
  cases hfind : l.find? n.isOf with
  | none =>
    refine iff_of_false (List.find?_eq_none.1 hfind i hi) ?_
    rintro (hid : i.id = freshId)
    exact hfresh (hid ▸ List.mem_map_of_mem hi)
  | some old =>
    obtain ⟨hold, hn⟩ := h.find?_eq_some_iff.1 hfind
    constructor
    · intro hi'
      rw [h.eq_of_isOf hi hold hi' hn]
      rfl
    · rintro (hid : i.id = old.id)
      rwa [h.eq_of_id_eq hi hold hid]

theorem filter_not_isOf (h : WellKept l) (now : Int) {freshId : String} (n : HistoryNote)
    (hfresh : freshId ∉ l.map (·.id)) :
    l.filter (fun i => !n.isOf i) = l.filter (·.id ≠ (l.entry now freshId n).id) := by
  refine List.filter_congr fun i hi => ?_
  rw [Bool.eq_iff_iff]
  simp [← h.isOf_iff_id_eq now hfresh hi]

theorem add (h : WellKept l) (now : Int) {freshId : String} (n : HistoryNote)
    (hfresh : freshId ∉ l.map (·.id)) : WellKept (l.add now freshId n) := by
  have hfilter : (l.filter fun i => !n.isOf i).Sublist l := List.filter_sublist
  refine ⟨?_, ?_, List.length_take_le ..⟩
  · have hnew : (l.entry now freshId n).id ∉ (l.filter fun i => !n.isOf i).map (·.id) := by
      rw [h.filter_not_isOf now n hfresh]
      simp
    rw [Ledger.add, List.map_take]
    exact (List.nodup_cons.2 ⟨hnew, h.ids.sublist (hfilter.map _)⟩).sublist (List.take_sublist ..)
  · have hnew : ((l.entry now freshId n).question, (l.entry now freshId n).sql) ∉
        (l.filter fun i => !n.isOf i).map fun i => (i.question, i.sql) := by
      rw [HistoryNote.isOf_iff.1 (l.isOf_entry now freshId n), List.mem_map]
      rintro ⟨i, hi, hpair⟩
      simpa [HistoryNote.isOf_iff.2 hpair] using List.of_mem_filter hi
    rw [Ledger.add, List.map_take]
    exact (List.nodup_cons.2 ⟨hnew, h.pairs.sublist (hfilter.map _)⟩).sublist
      (List.take_sublist ..)

theorem toggle (h : WellKept l) (id : String) : WellKept (l.toggle id) := by
  refine ⟨?_, ?_, Nat.le_trans (Nat.le_of_eq (List.length_map ..)) h.length_le⟩
  · rw [l.map_toggle fun _ => rfl]
    exact h.ids
  · rw [l.map_toggle fun _ => rfl]
    exact h.pairs

theorem step (h : WellKept l) {a : HistoryStep} (ha : l.Admits a) : WellKept (l.step a) := by
  cases a with
  | add now freshId n => exact h.add now n ha.2
  | toggle id => exact h.toggle id
  | delete id => exact h.sublist List.filter_sublist
  | clear keepFavorites => exact h.sublist (l.clear_sublist keepFavorites)

end WellKept

end Ledger

namespace History

def step (h : History) : HistoryStep → History
  | .add now freshId n => (h.add now freshId n).2
  | .toggle id => (h.toggle id).2
  | .delete id => (h.delete id).2
  | .clear keepFavorites => h.clear keepFavorites

/-- The rows by falling numbers. -/
structure Shows (h : History) (rows : List HistoryRow) : Prop where
  perm : rows.Perm h.rows
  falling : rows.Pairwise fun r s => s.number < r.number

theorem filter_countP_lt_eq_take {rows : List HistoryRow}
    (h : rows.Pairwise fun r s => s.number < r.number) (k : Nat) :
    (rows.filter fun r => rows.countP (r.number < ·.number) < k) = rows.take k := by
  induction rows generalizing k with
  | nil => simp
  | cons r rows ih =>
    obtain ⟨hr, hrows⟩ := List.pairwise_cons.1 h
    have hfirst : (r :: rows).countP (r.number < ·.number) = 0 := by
      rw [List.countP_eq_zero]
      intro s hs
      rcases List.mem_cons.1 hs with rfl | hs
      · simp
      · simpa using Nat.le_of_lt (hr s hs)
    have hrest : ∀ s ∈ rows, (r :: rows).countP (s.number < ·.number) =
        rows.countP (s.number < ·.number) + 1 := fun s hs =>
      List.countP_cons_of_pos (by simpa using hr s hs)
    cases k with
    | zero => simp
    | succ k =>
      rw [List.filter_cons_of_pos (by simp [hfirst]), List.take_succ_cons, ← ih hrows k]
      congr 1
      refine List.filter_congr fun s hs => ?_
      rw [hrest s hs, decide_eq_decide]
      exact Nat.add_lt_add_iff_right

namespace Shows

variable {h : History} {rows : List HistoryRow}

theorem list_eq (hs : h.Shows rows) : h.list = rows.map (·.item) := by
  have hsorted : (newestFirst h.rows).Pairwise fun r s => s.number ≤ r.number := by
    have hle : (newestFirst h.rows).Pairwise fun r s => decide (s.number ≤ r.number) :=
      List.pairwise_mergeSort (by simp only [decide_eq_true_eq]; omega)
        (by simp only [Bool.or_eq_true, decide_eq_true_eq]; omega) h.rows
    simpa only [decide_eq_true_eq] using hle
  have hnumbers : (rows.map (·.number)).Nodup :=
    List.pairwise_map.2 (hs.falling.imp fun hlt => Nat.ne_of_gt hlt)
  have hperm : (newestFirst h.rows).Perm rows := (List.mergeSort_perm ..).trans hs.perm.symm
  have hrows : newestFirst h.rows = rows := by
    refine List.Perm.eq_of_pairwise ?_ hsorted (hs.falling.imp Nat.le_of_lt) hperm
    intro r s hr hmem hle hge
    exact List.inj_on_of_nodup_map hnumbers (hperm.mem_iff.1 hr) hmem (Nat.le_antisymm hge hle)
  rw [list, hrows]

theorem lt_nextNumber (hs : h.Shows rows) {r : HistoryRow} (hr : r ∈ rows) :
    r.number < h.nextNumber := by
  have hmem : r.number ∈ h.rows.map (·.number) := List.mem_map_of_mem (hs.perm.mem_iff.1 hr)
  have hle := List.le_max?_getD_of_mem (k := 0) hmem
  rw [nextNumber, List.foldl_max]
  omega

theorem filter (hs : h.Shows rows) (keep : HistoryItem → Bool) :
    (h.filter keep).Shows (rows.filter fun r => keep r.item) :=
  ⟨hs.perm.filter _, hs.falling.filter _⟩

theorem cons (hs : h.Shows rows) {r : HistoryRow} (hr : ∀ s ∈ rows, s.number < r.number)
    {h' : History} (hperm : (r :: rows).Perm h'.rows) : h'.Shows (r :: rows) :=
  ⟨hperm, List.pairwise_cons.2 ⟨hr, hs.falling⟩⟩

theorem trim (hs : h.Shows rows) : h.trim.Shows (rows.take maxItems) := by
  refine ⟨?_, hs.falling.sublist (List.take_sublist ..)⟩
  rw [← filter_countP_lt_eq_take hs.falling]
  -- A row goes by how many numbers are above its own, wherever they stand.
  have hcount (r : HistoryRow) := hs.perm.countP_eq (r.number < ·.number)
  simp only [hcount]
  exact hs.perm.filter _

theorem insert_above (hs : h.Shows rows) (i : HistoryItem) {k : Nat}
    (hk : ∀ r ∈ rows, r.number < k) :
    (h.insert i k).Shows (⟨keptItem i, k⟩ :: rows.filter (·.item.id ≠ i.id)) := by
  have hfilter := hs.filter (·.id ≠ i.id)
  refine hfilter.cons (fun s hmem => hk s (List.mem_of_mem_filter hmem)) ?_
  exact (List.perm_append_singleton ..).symm.trans (hfilter.perm.append_right _)

theorem insert (hs : h.Shows rows) (i : HistoryItem) :
    (h.insert i h.nextNumber).Shows
      (⟨keptItem i, h.nextNumber⟩ :: rows.filter (·.item.id ≠ i.id)) :=
  hs.insert_above i fun _ => hs.lt_nextNumber

theorem map_perm_cons_filter {rows : List HistoryRow} (hids : (rows.map (·.item.id)).Nodup)
    {r : HistoryRow} (hr : r ∈ rows) (new : HistoryRow) :
    (rows.map fun s => if s.item.id = r.item.id then new else s).Perm
      (new :: rows.filter (·.item.id ≠ r.item.id)) := by
  induction rows with
  | nil => cases hr
  | cons s rows ih =>
    obtain ⟨hs, hrows⟩ := List.nodup_cons.1 hids
    rcases List.mem_cons.1 hr with rfl | hr
    · have hne : ∀ t ∈ rows, t.item.id ≠ r.item.id := fun t ht hid =>
        hs (List.mem_map.2 ⟨t, ht, hid⟩)
      have hmap : (rows.map fun t => if t.item.id = r.item.id then new else t) = rows := by
        rw [List.map_congr_left fun t ht => if_neg (hne t ht), List.map_id']
      have hfilter : rows.filter (·.item.id ≠ r.item.id) = rows :=
        List.filter_eq_self.2 (by simpa using hne)
      rw [List.map_cons, if_pos rfl, hmap, List.filter_cons_of_neg (by simp), hfilter]
    · have hne : s.item.id ≠ r.item.id := fun hid =>
        hs (List.mem_map.2 ⟨r, hr, hid.symm⟩)
      rw [List.map_cons, if_neg hne, List.filter_cons_of_pos (by simpa using hne)]
      exact ((ih hrows hr).cons s).trans (.swap ..)

theorem refresh (hs : h.Shows rows) (hids : (rows.map (·.item.id)).Nodup) {r : HistoryRow}
    (hr : r ∈ rows) (i : HistoryItem) :
    (h.modify r.item.id fun _ => ⟨i, h.nextNumber⟩).Shows
      (⟨i, h.nextNumber⟩ :: rows.filter (·.item.id ≠ r.item.id)) :=
  (hs.filter (·.id ≠ r.item.id)).cons
    (fun _ hmem => hs.lt_nextNumber (List.mem_of_mem_filter hmem))
    ((map_perm_cons_filter hids hr _).symm.trans (hs.perm.map _))

theorem modify (hs : h.Shows rows) (id : String) {f : HistoryRow → HistoryRow}
    (hf : ∀ r, (f r).number = r.number) :
    (h.modify id f).Shows (rows.map fun r => if r.item.id = id then f r else r) := by
  refine ⟨hs.perm.map _, List.pairwise_map.2 (hs.falling.imp fun {r s} hlt => ?_)⟩
  have hnumber (r : HistoryRow) : (if r.item.id = id then f r else r).number = r.number := by
    split
    · exact hf r
    · rfl
  rwa [hnumber, hnumber]

end Shows

def IsLedger (h : History) (l : Ledger) : Prop := ∃ rows, h.Shows rows ∧ rows.map (·.item) = l

namespace IsLedger

variable {h : History} {l : Ledger}

theorem list_eq (hl : h.IsLedger l) : h.list = l := by
  obtain ⟨rows, hs, rfl⟩ := hl
  exact hs.list_eq

theorem known?_eq (hl : h.IsLedger l) (hw : l.WellKept) (n : HistoryNote) :
    h.known? n = l.find? n.isOf := by
  obtain ⟨rows, hs, rfl⟩ := hl
  ext i
  rw [hw.find?_eq_some_iff]
  change (h.rows.find? fun r => n.isOf r.item).map (·.item) = some i ↔ _
  constructor
  · intro hknown
    obtain ⟨r, hfind, rfl⟩ := Option.map_eq_some_iff.1 hknown
    have hr := hs.perm.mem_iff.2 (List.mem_of_find?_eq_some hfind)
    exact ⟨List.mem_map_of_mem hr, List.find?_some (p := fun r : HistoryRow => n.isOf r.item) hfind⟩
  · rintro ⟨hi, hn⟩
    obtain ⟨r, hr, rfl⟩ := List.mem_map.1 hi
    cases hfind : h.rows.find? fun r => n.isOf r.item with
    | none => exact absurd hn (List.find?_eq_none.1 hfind r (hs.perm.mem_iff.1 hr))
    | some s =>
      have hs' := List.mem_map_of_mem (f := (·.item))
        (hs.perm.mem_iff.2 (List.mem_of_find?_eq_some hfind))
      have hn' := List.find?_some (p := fun r : HistoryRow => n.isOf r.item) hfind
      exact congrArg some (hw.eq_of_isOf hs' hi hn' hn)

theorem filter (hl : h.IsLedger l) (keep : HistoryItem → Bool) :
    (h.filter keep).IsLedger (l.filter keep) := by
  obtain ⟨rows, hs, rfl⟩ := hl
  exact ⟨_, hs.filter keep, by rw [List.filter_map]; rfl⟩

theorem toggle (hl : h.IsLedger l) (id : String) : (h.toggle id).2.IsLedger (l.toggle id) := by
  obtain ⟨rows, hs, rfl⟩ := hl
  refine ⟨_, hs.modify id fun _ => rfl, ?_⟩
  rw [Ledger.toggle, List.map_map, List.map_map]
  refine List.map_congr_left fun r _ => ?_
  simp only [Function.comp_apply]
  split <;> rfl

theorem clear (hl : h.IsLedger l) (keepFavorites : Bool) :
    (h.clear keepFavorites).IsLedger (l.clear keepFavorites) := by
  cases keepFavorites with
  | true => exact hl.filter _
  | false =>
    have hnone := hl.filter fun _ => false
    rwa [List.filter_false] at hnone

theorem add (hl : h.IsLedger l) (hw : l.WellKept) (now : Int) {freshId : String}
    (hfresh : freshId ∉ l.map (·.id)) {n : HistoryNote} (hn : n.Fits) :
    (h.add now freshId n).1 = l.entry now freshId n ∧
      (h.add now freshId n).2.IsLedger (l.add now freshId n) := by
  have hknown := hl.known?_eq hw n
  rw [Ledger.add, hw.filter_not_isOf now n hfresh, Ledger.entry]
  obtain ⟨rows, hs, rfl⟩ := hl
  cases hfind : (rows.map (·.item)).find? n.isOf with
  | none =>
    rw [hfind] at hknown
    rw [History.add, hknown]
    refine ⟨rfl, _, (hs.insert _).trim, ?_⟩
    rw [List.map_take, List.map_cons, hn.keptItem_noted, List.filter_map]
    rfl
  | some old =>
    rw [hfind] at hknown
    obtain ⟨r, hr, rfl⟩ := List.mem_map.1 (List.mem_of_find?_eq_some hfind)
    have hids : (rows.map (·.item.id)).Nodup := by
      have hids := hw.ids
      rwa [List.map_map] at hids
    rw [History.add, hknown]
    refine ⟨rfl, _, (hs.refresh hids hr _).trim, ?_⟩
    rw [List.map_take, List.map_cons, hn.keptItem_noted, List.filter_map]
    rfl

theorem step (hl : h.IsLedger l) (hw : l.WellKept) {a : HistoryStep} (ha : l.Admits a) :
    (h.step a).IsLedger (l.step a) := by
  cases a with
  | add now freshId n => exact (hl.add hw now ha.2 ha.1).2
  | toggle id => exact hl.toggle id
  | delete id => exact hl.filter (·.id ≠ id)
  | clear keepFavorites => exact hl.clear keepFavorites

theorem run (hl : h.IsLedger l) (hw : l.WellKept) {as : List HistoryStep} (has : l.AdmitsAll as) :
    (as.foldl History.step h).IsLedger (as.foldl Ledger.step l) ∧
      (as.foldl Ledger.step l).WellKept := by
  induction as generalizing h l with
  | nil => exact ⟨hl, hw⟩
  | cons a as ih => exact ih (hl.step hw has.1) (hw.step has.1) has.2

end IsLedger

/-- After every run the ledger is shown, and what is added next is shown first. -/
theorem list_run_eq (as : List HistoryStep) (has : Ledger.AdmitsAll [] as) :
    let h := as.foldl History.step {}
    let l := as.foldl Ledger.step []
    h.list = l ∧ (l.map (·.id)).Nodup ∧ (l.map fun i => (i.question, i.sql)).Nodup ∧
      l.length ≤ maxItems ∧
      ∀ now freshId n, l.Admits (.add now freshId n) →
        (h.add now freshId n).2.list.head? = some (h.add now freshId n).1 := by
  intro h l
  have hempty : IsLedger {} [] := ⟨[], ⟨.nil, .nil⟩, rfl⟩
  obtain ⟨hl, hw⟩ := hempty.run .nil has
  refine ⟨hl.list_eq, hw.ids, hw.pairs, hw.length_le, fun now freshId n hn => ?_⟩
  obtain ⟨hitem, hadd⟩ := hl.add hw now hn.2 hn.1
  rw [hadd.list_eq, hitem]
  rfl

theorem list_run_eq_refreshed :
    let as : List HistoryStep :=
      [.add 1 "a" ⟨"Who?", "SELECT 1", 3, none⟩, .add 2 "b" ⟨"How many?", "SELECT 2", 5, none⟩,
       .toggle "a", .add 3 "c" ⟨"Who?", "SELECT 1", 4, some 12⟩]
    Ledger.AdmitsAll [] as ∧
      (as.foldl History.step {}).list =
        [⟨"a", "Who?", "SELECT 1", 3, 4, some 12, true⟩,
         ⟨"b", "How many?", "SELECT 2", 2, 5, none, false⟩] := by
  intro as
  have has : Ledger.AdmitsAll [] as := by decide
  have hledger : as.foldl Ledger.step [] =
      [⟨"a", "Who?", "SELECT 1", 3, 4, some 12, true⟩,
       ⟨"b", "How many?", "SELECT 2", 2, 5, none, false⟩] := by decide
  exact ⟨has, (list_run_eq as has).1.trans hledger⟩

end History

end AskSql
