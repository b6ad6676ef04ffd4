import AskSql.Proofs.History.Exported

/-!
A history into which lists are loaded.

What a move can make of the list that is shown is said once, in `Ledger.Moves`. A list that is loaded
is taken as it comes: neither its length nor questions that it answers twice are looked at. Adding an
entry brings the length down to what there is room for.
-/

namespace AskSql

open History (noted keptItem maxItems)

inductive HistoryMove
  | step (a : HistoryStep)
  | load (text : String)

def History.move (h : History) : HistoryMove → History
  | .step a => h.step a
  | .load text => (imported? text).getD h

def History.moves (h : History) (ms : List HistoryMove) : History := ms.foldl History.move h

namespace HistoryMove

def IsAdd : HistoryMove → Prop
  | .step (.add ..) => True
  | _ => False

def IsClocked : HistoryMove → Prop
  | .step (.add now ..) => Width.isSigned 64 now
  | _ => True

instance decidableIsClocked : (m : HistoryMove) → Decidable m.IsClocked
  | .step (.add ..) => inferInstanceAs (Decidable (_ = true))
  | .step (.toggle _) | .step (.delete _) | .step (.clear _) | .load _ => .isTrue trivial

end HistoryMove

def HistoryItem.pair (i : HistoryItem) : String × String := (i.question, i.sql)

namespace Ledger

/-- What a move makes of the list that is shown. -/
inductive Moves (l : Ledger) : HistoryMove → Ledger → Prop
  | refresh {n : HistoryNote} {old : HistoryItem} (now : Int) (freshId : String) :
      old ∈ l → n.isOf old = true →
        Moves l (.step (.add now freshId n))
          ((l.put (noted n old.id now old.isFavorite)).take maxItems)
  | insert {n : HistoryNote} (now : Int) (freshId : String) :
      (∀ i ∈ l, n.isOf i = false) →
        Moves l (.step (.add now freshId n)) ((l.put (noted n freshId now false)).take maxItems)
  | toggle (id : String) : Moves l (.step (.toggle id)) (l.toggle id)
  | delete (id : String) : Moves l (.step (.delete id)) (l.delete id)
  | clear (keepFavorites : Bool) : Moves l (.step (.clear keepFavorites)) (l.clear keepFavorites)
  | load {text : String} {items : List HistoryItem} :
      History.itemsOf? text = some items → Moves l (.load text) (ofItems items)
  | skip {text : String} : History.itemsOf? text = none → Moves l (.load text) l

inductive After : List HistoryMove → Ledger → Prop
  | start : After [] []
  | move {ms : List HistoryMove} {m : HistoryMove} {l l' : Ledger} :
      After ms l → l.Moves m l' → After (ms ++ [m]) l'

variable {l l' : Ledger} {m : HistoryMove} {ms : List HistoryMove}

theorem Moves.nodup (h : l.Moves m l') (hids : (l.map (·.id)).Nodup) :
    (l'.map (·.id)).Nodup := by
  cases h with
  | refresh | insert => exact (nodup_put hids _).sublist ((List.take_sublist ..).map _)
  | toggle id => rwa [l.map_toggle fun _ => rfl]
  | delete id => exact hids.sublist (List.filter_sublist.map _)
  | clear keepFavorites => exact hids.sublist ((l.clear_sublist keepFavorites).map _)
  | load => exact nodup_ofItems _
  | skip => exact hids

theorem After.nodup (h : After ms l) : (l.map (·.id)).Nodup := by
  induction h with
  | start => exact .nil
  | move _ hm ih => exact hm.nodup ih

end Ledger

namespace History

variable {h : History} {l : Ledger}

theorem Shows.trim_put {rows : List HistoryRow} {i : HistoryItem} {k : Nat}
    (hs : h.Shows (⟨keptItem i, k⟩ :: rows.filter (·.item.id ≠ i.id))) :
    h.trim.IsLedger ((Ledger.put i (rows.map (·.item))).take maxItems) := by
  refine ⟨_, hs.trim, ?_⟩
  rw [List.map_take, Ledger.put, List.filter_map]
  rfl

theorem IsLedger.add_moves (hl : h.IsLedger l) (hids : (l.map (·.id)).Nodup) (now : Int)
    (freshId : String) (n : HistoryNote) :
    ∃ l', l.Moves (.step (.add now freshId n)) l' ∧ (h.add now freshId n).2.IsLedger l' := by
  obtain ⟨rows, hs, rfl⟩ := hl
  cases hknown : h.known? n with
  | none =>
    rw [History.add, hknown]
    refine ⟨_, .insert now freshId fun i hi => ?_, (hs.insert _).trim_put⟩
    obtain ⟨r, hr, rfl⟩ := List.mem_map.1 hi
    rw [known?, Option.map_eq_none_iff, List.find?_eq_none] at hknown
    exact Bool.eq_false_iff.2 (hknown r (hs.perm.mem_iff.1 hr))
  | some old =>
    rw [History.add, hknown]
    obtain ⟨r, hfind, rfl⟩ := Option.map_eq_some_iff.1 hknown
    have hr : r ∈ rows := hs.perm.mem_iff.2 (List.mem_of_find?_eq_some hfind)
    have hn : n.isOf r.item = true :=
      List.find?_some (p := fun r : HistoryRow => n.isOf r.item) hfind
    rw [List.map_map] at hids
    refine ⟨_, .refresh now freshId (List.mem_map_of_mem hr) hn, ?_⟩
    exact Shows.trim_put (i := noted n r.item.id now r.item.isFavorite) (hs.refresh hids hr _)

theorem IsLedger.exists_moves (hl : h.IsLedger l) (hids : (l.map (·.id)).Nodup) (m : HistoryMove) :
    ∃ l', l.Moves m l' ∧ (h.move m).IsLedger l' := by
  cases m with
  | step a =>
    cases a with
    | add now freshId n => exact hl.add_moves hids now freshId n
    | toggle id => exact ⟨_, .toggle id, hl.toggle id⟩
    | delete id => exact ⟨_, .delete id, hl.filter (·.id ≠ id)⟩
    | clear keepFavorites => exact ⟨_, .clear keepFavorites, hl.clear keepFavorites⟩
  | load text =>
    rw [move, imported?]
    cases hitems : itemsOf? text with
    | none => exact ⟨l, .skip hitems, hl⟩
    | some items => exact ⟨_, .load hitems, isLedger_ofItems items⟩

theorem moves_append (h : History) (ms : List HistoryMove) (m : HistoryMove) :
    h.moves (ms ++ [m]) = (h.moves ms).move m := by
  rw [moves, List.foldl_append]
  rfl

theorem after_list (ms : List HistoryMove) : Ledger.After ms (moves {} ms).list := by
  suffices hledger : ∃ l, Ledger.After ms l ∧ (moves {} ms).IsLedger l by
    obtain ⟨l, hafter, hl⟩ := hledger
    exact hl.list_eq.symm ▸ hafter
  induction ms using List.reverseRecOn with
  | nil => exact ⟨[], .start, [], ⟨.nil, .nil⟩, rfl⟩
  | append_singleton ms m ih =>
    obtain ⟨l, hafter, hl⟩ := ih
    obtain ⟨l', hm, hl'⟩ := hl.exists_moves hafter.nodup m
    exact ⟨l', hafter.move hm, moves_append {} ms m ▸ hl'⟩

end History

def Loaded (ms after : List HistoryMove) (items : List HistoryItem) : Prop :=
  ∃ before text, ms = before ++ .load text :: after ∧ History.itemsOf? text = some items

namespace Loaded

variable {ms after : List HistoryMove} {items : List HistoryItem}

theorem last {text : String} (h : History.itemsOf? text = some items) (ms : List HistoryMove) :
    Loaded (ms ++ [.load text]) [] items := ⟨ms, text, rfl, h⟩

theorem snoc (h : Loaded ms after items) (m : HistoryMove) :
    Loaded (ms ++ [m]) (after ++ [m]) items := by
  obtain ⟨before, text, rfl, hitems⟩ := h
  exact ⟨before, text, by simp, hitems⟩

end Loaded

namespace Ledger

variable {l l' : Ledger} {m : HistoryMove} {ms : List HistoryMove}

def InRoom (ms : List HistoryMove) (l : Ledger) : Prop :=
  l.length ≤ maxItems ∨ ∃ after items, Loaded ms after items ∧
    (∀ m ∈ after, ¬m.IsAdd) ∧ l.length ≤ items.length

/-- No pair of a question and a statement stands there twice, unless it was loaded as often. -/
def Distinct (ms : List HistoryMove) (l : Ledger) : Prop :=
  ∀ p, (l.map HistoryItem.pair).count p ≤ 1 ∨ ∃ after items, Loaded ms after items ∧
    (l.map HistoryItem.pair).count p ≤ (items.map HistoryItem.pair).count p

theorem InRoom.mono (h : InRoom ms l) (hm : ¬m.IsAdd) (hle : l'.length ≤ l.length) :
    InRoom (ms ++ [m]) l' := by
  rcases h with h | ⟨after, items, hloaded, hafter, hlength⟩
  · exact .inl (Nat.le_trans hle h)
  · refine .inr ⟨_, items, hloaded.snoc m, fun m' hm' => ?_, Nat.le_trans hle hlength⟩
    rcases List.mem_append.1 hm' with hm' | hm'
    · exact hafter m' hm'
    · rwa [List.mem_singleton.1 hm']

theorem InRoom.move (h : InRoom ms l) (hm : l.Moves m l') : InRoom (ms ++ [m]) l' := by
  cases hm with
  | refresh | insert => exact .inl (List.length_take_le ..)
  | toggle id => exact h.mono nofun (Nat.le_of_eq (List.length_map ..))
  | delete id => exact h.mono nofun List.filter_sublist.length_le
  | clear keepFavorites => exact h.mono nofun (l.clear_sublist keepFavorites).length_le
  | load hitems => exact .inr ⟨[], _, .last hitems ms, nofun, length_ofItems_le _⟩
  | skip => exact h.mono nofun (Nat.le_refl _)

theorem count_put_le_of_new {i : HistoryItem} (h : ∀ j ∈ l, j.pair ≠ i.pair) (p : String × String) :
    ((l.put i).map HistoryItem.pair).count p ≤ max 1 ((l.map HistoryItem.pair).count p) := by
  change (i.pair :: (l.filter (·.id ≠ i.id)).map HistoryItem.pair).count p ≤ _
  have hfilter : ((l.filter (·.id ≠ i.id)).map HistoryItem.pair).count p ≤
      (l.map HistoryItem.pair).count p := (List.filter_sublist.map _).count_le p
  by_cases heq : i.pair = p
  · have hzero : (l.map HistoryItem.pair).count p = 0 := by
      rw [List.count_eq_zero, ← heq, List.mem_map]
      rintro ⟨j, hj, hpair⟩
      exact h j hj hpair
    rw [heq, List.count_cons_self]
    omega
  · rw [List.count_cons_of_ne heq]
    omega

theorem count_put_le_of_mem {i old : HistoryItem} (hold : old ∈ l) (hid : old.id = i.id)
    (hpair : old.pair = i.pair) (p : String × String) :
    ((l.put i).map HistoryItem.pair).count p ≤ (l.map HistoryItem.pair).count p := by
  have hdropped : old ∉ l.filter (·.id ≠ i.id) := by simp [hid]
  obtain ⟨l', hperm, hsub⟩ : (old :: l.filter (·.id ≠ i.id)).Subperm l :=
    List.cons_subperm_of_not_mem_of_mem hdropped hold List.filter_sublist.subperm
  change (i.pair :: (l.filter (·.id ≠ i.id)).map HistoryItem.pair).count p ≤ _
  rw [← hpair, ← List.map_cons, ← (hperm.map HistoryItem.pair).count_eq]
  exact (hsub.map HistoryItem.pair).count_le p

theorem count_ofItems_le (items : List HistoryItem) (p : String × String) :
    ((ofItems items).map HistoryItem.pair).count p ≤ (items.map HistoryItem.pair).count p := by
  have hle := ((ofItems_sublist items).map HistoryItem.pair).count_le p
  rw [List.map_reverse, List.count_reverse, List.map_map] at hle
  exact Nat.le_trans hle (Nat.le_of_eq (((byTime_perm items).map HistoryItem.pair).count_eq p))

theorem Distinct.mono (h : Distinct ms l) (m : HistoryMove)
    (hle : ∀ p, (l'.map HistoryItem.pair).count p ≤ max 1 ((l.map HistoryItem.pair).count p)) :
    Distinct (ms ++ [m]) l' := by
  intro p
  have hp := hle p
  rcases h p with h | ⟨after, items, hloaded, hcount⟩
  · exact .inl (by omega)
  · by_cases hone : (l.map HistoryItem.pair).count p ≤ 1
    · exact .inl (by omega)
    · exact .inr ⟨_, items, hloaded.snoc m, by omega⟩

theorem Distinct.sublist (h : Distinct ms l) (m : HistoryMove)
    (hle : (l'.map HistoryItem.pair).Sublist (l.map HistoryItem.pair)) :
    Distinct (ms ++ [m]) l' :=
  h.mono m fun p => Nat.le_trans (hle.count_le p) (Nat.le_max_right ..)

theorem Distinct.move (h : Distinct ms l) (hm : l.Moves m l') : Distinct (ms ++ [m]) l' := by
  have htake (i : HistoryItem) (p : String × String) :
      (((l.put i).take maxItems).map HistoryItem.pair).count p ≤
        ((l.put i).map HistoryItem.pair).count p := ((List.take_sublist ..).map _).count_le p
  cases hm with
  | @refresh n old now freshId hold hn =>
    refine h.mono _ fun p => Nat.le_trans (htake _ p) (Nat.le_trans ?_ (Nat.le_max_right ..))
    exact count_put_le_of_mem (i := noted n old.id now old.isFavorite) hold rfl
      (HistoryNote.isOf_iff.1 hn) p
  | @insert n now freshId hnew =>
    refine h.mono _ fun p => Nat.le_trans (htake _ p) (count_put_le_of_new (fun j hj hpair => ?_) p)
    exact Bool.eq_false_iff.1 (hnew j hj) (HistoryNote.isOf_iff.2 hpair)
  | toggle id =>
    have hpairs : (l.toggle id).map HistoryItem.pair = l.map HistoryItem.pair :=
      l.map_toggle (fun _ => rfl) id
    exact h.sublist _ (hpairs ▸ .refl _)
  | delete id => exact h.sublist _ (List.filter_sublist.map _)
  | clear keepFavorites => exact h.sublist _ ((l.clear_sublist keepFavorites).map _)
  | load hitems => exact fun p => .inr ⟨[], _, .last hitems ms, count_ofItems_le _ p⟩
  | skip => exact h.sublist _ (.refl _)

theorem After.inRoom (h : After ms l) : InRoom ms l := by
  induction h with
  | start => exact .inl (Nat.zero_le _)
  | move _ hm ih => exact ih.move hm

theorem After.distinct (h : After ms l) : Distinct ms l := by
  induction h with
  | start => exact fun p => .inl (Nat.zero_le _)
  | move _ hm ih => exact ih.move hm

end Ledger

/-- Whatever is done to a history, its identifiers differ, it has room for its entries, and no
statement answers a question twice, but for what a loaded list brought with it. -/
theorem History.nodup_and_inRoom (ms : List HistoryMove) :
    let l : Ledger := (moves {} ms).list
    (l.map (·.id)).Nodup ∧ l.InRoom ms ∧ l.Distinct ms :=
  ⟨(after_list ms).nodup, (after_list ms).inRoom, (after_list ms).distinct⟩

theorem History.not_length_le_of_load :
    let items : List HistoryItem := (List.range 51).map fun k =>
      { id := toString k, question := "Who?", sql := "SELECT 1", timestamp := 0 }
    let text := (Json.arr (items.map HistoryItem.toJson)).pretty
    let l := (moves {} [.load text]).list
    ¬l.length ≤ maxItems ∧ ¬(l.map HistoryItem.pair).Nodup := by
  intro items text l
  have hfits : ∀ i ∈ items, i.Fits := by
    intro i hi
    obtain ⟨k, -, rfl⟩ := List.mem_map.1 hi
    exact ⟨rfl, rfl, nofun⟩
  have hids : (items.map (·.id)).Nodup := by decide +kernel
  obtain ⟨h, himported, hlist⟩ := exists_imported?_pretty hfits hids
  have hl : (moves {} [.load text]).list = ((byTime items).map keptItem).reverse := by
    rw [moves, List.foldl_cons, List.foldl_nil, move, himported, Option.getD_some, hlist]
  have hperm : (l.map HistoryItem.pair).Perm (items.map HistoryItem.pair) := by
    change ((moves {} [.load text]).list.map HistoryItem.pair).Perm _
    rw [hl, List.map_reverse, List.map_map]
    exact (List.reverse_perm _).trans ((byTime_perm items).map _)
  refine ⟨?_, fun hnodup => ?_⟩
  · rw [← List.length_map HistoryItem.pair, hperm.length_eq]
    decide
  · exact absurd (hperm.nodup_iff.1 hnodup) (by decide +kernel)

namespace Ledger

variable {l l' : Ledger} {m : HistoryMove} {ms : List HistoryMove}

theorem mem_put {i j : HistoryItem} (h : j ∈ l.put i) : j = keptItem i ∨ j ∈ l :=
  (List.mem_cons.1 h).imp_right List.mem_of_mem_filter

theorem Moves.isStored (h : l.Moves m l') (hclock : m.IsClocked) (hl : ∀ i ∈ l, i.IsStored) :
    ∀ i ∈ l', i.IsStored := by
  have hput (i : HistoryItem) (hi : Width.isSigned 64 i.timestamp) :
      ∀ j ∈ (l.put i).take maxItems, j.IsStored := by
    intro j hj
    rcases mem_put (List.mem_of_mem_take hj) with rfl | hj
    · exact ⟨hi, History.keptItem_keptItem i⟩
    · exact hl j hj
  cases h with
  | refresh | insert => exact hput _ hclock
  | toggle id =>
    intro i hi
    obtain ⟨j, hj, rfl⟩ := List.mem_map.1 hi
    split
    · obtain ⟨htime, hkept⟩ := hl j hj
      exact ⟨htime, congrArg (fun i : HistoryItem => { i with isFavorite := !j.isFavorite }) hkept⟩
    · exact hl j hj
  | delete id => exact fun i hi => hl i (List.mem_of_mem_filter hi)
  | clear keepFavorites => exact fun i hi => hl i ((l.clear_sublist keepFavorites).subset hi)
  | load hitems =>
    intro i hi
    have hmem := (ofItems_sublist _).subset hi
    rw [List.mem_reverse, List.mem_map] at hmem
    obtain ⟨j, hj, rfl⟩ := hmem
    refine ⟨?_, History.keptItem_keptItem j⟩
    exact History.isSigned_of_mem_itemsOf? (i := j) hitems ((byTime_perm _).mem_iff.1 hj)
  | skip => exact hl

theorem After.isStored (h : After ms l) (hclock : ∀ m ∈ ms, m.IsClocked) :
    ∀ i ∈ l, i.IsStored := by
  induction h with
  | start => exact nofun
  | move _ hm ih =>
    rw [List.forall_mem_append, List.forall_mem_singleton] at hclock
    exact hm.isStored hclock.2 (ih hclock.1)

end Ledger

/-- An exported history can be loaded in place of any other. It comes back with the same entries, in
the order of their times. -/
theorem History.exists_imported?_exported (ms : List HistoryMove)
    (hclock : ∀ m ∈ ms, m.IsClocked) :
    let h := moves {} ms
    ∃ h', imported? h.exported = some h' ∧ (∀ g : History, g.move (.load h.exported) = h') ∧
      h'.list.Perm h.list ∧ h'.list.Pairwise (fun i j => j.timestamp ≤ i.timestamp) ∧
      (h.list.Pairwise (fun i j => j.timestamp < i.timestamp) → h'.list = h.list) := by
  intro h
  have hafter : Ledger.After ms h.list := after_list ms
  have hstored := hafter.isStored hclock
  obtain ⟨h', himported, hlist⟩ :=
    exists_imported?_pretty (fun i hi => (hstored i hi).fits) hafter.nodup
  have hkept : (byTime h.list).map keptItem = byTime h.list := by
    refine (List.map_congr_left fun i hi => ?_).trans (List.map_id _)
    exact (hstored i ((byTime_perm _).mem_iff.1 hi)).kept
  rw [hkept] at hlist
  have hperm : h'.list.Perm h.list := by
    rw [hlist]
    exact (List.reverse_perm _).trans (byTime_perm _)
  have hfalling : h'.list.Pairwise fun i j => j.timestamp ≤ i.timestamp := by
    rw [hlist, List.pairwise_reverse]
    exact pairwise_byTime _
  refine ⟨h', himported, fun g => ?_, hperm, hfalling, fun hstrict => ?_⟩
  · exact congrArg (·.getD g) himported
  -- The times tell the entries apart, so that only one order falls.
  have htimes : (h.list.map (·.timestamp)).Nodup :=
    List.pairwise_map.2 (hstrict.imp fun hlt => Int.ne_of_gt hlt)
  refine List.Perm.eq_of_pairwise (fun i j hi hj hji hij => ?_) hfalling
    (hstrict.imp Int.le_of_lt) hperm
  exact List.inj_on_of_nodup_map htimes (hperm.mem_iff.1 hi) hj (Int.le_antisymm hij hji)

theorem History.exists_imported?_exported_added :
    let a : HistoryItem := { id := "a", question := "Who?", sql := "SELECT 1", timestamp := 1 }
    let b : HistoryItem := { id := "b", question := "When?", sql := "SELECT 2", timestamp := 2 }
    let ms : List HistoryMove :=
      [.step (.add 1 "a" ⟨"Who?", "SELECT 1", 0, none⟩),
       .step (.add 2 "b" ⟨"When?", "SELECT 2", 0, none⟩)]
    (∀ m ∈ ms, m.IsClocked) ∧
      ∃ h', imported? (moves {} ms).exported = some h' ∧ h'.list = [b, a] := by
  intro a b ms
  have hclock : ∀ m ∈ ms, m.IsClocked := by decide
  have hlist : (moves {} ms).list = [b, a] :=
    IsLedger.list_eq ⟨[⟨b, 2⟩, ⟨a, 1⟩], ⟨by decide, by decide⟩, rfl⟩
  obtain ⟨h', himported, -, -, -, hsame⟩ := exists_imported?_exported ms hclock
  refine ⟨hclock, h', himported, (hsame ?_).trans hlist⟩
  rw [hlist]
  decide

/-- An entry that was added while the clock had gone back does not come back as the newest. -/
theorem History.exists_imported?_exported_ne :
    let a : HistoryItem := { id := "a", question := "Who?", sql := "SELECT 1", timestamp := 2 }
    let b : HistoryItem := { id := "b", question := "When?", sql := "SELECT 2", timestamp := 1 }
    let h := moves {} [.step (.add 2 "a" ⟨"Who?", "SELECT 1", 0, none⟩),
      .step (.add 1 "b" ⟨"When?", "SELECT 2", 0, none⟩)]
    h.list = [b, a] ∧
      ∃ h', imported? h.exported = some h' ∧ h'.list = [a, b] ∧ h'.list ≠ h.list := by
  intro a b h
  have hlist : h.list = [b, a] :=
    IsLedger.list_eq ⟨[⟨b, 2⟩, ⟨a, 1⟩], ⟨by decide, by decide⟩, rfl⟩
  have hfits : ∀ i ∈ [b, a], i.Fits := by
    simp only [List.forall_mem_cons]
    exact ⟨⟨by decide, by decide, nofun⟩, ⟨by decide, by decide, nofun⟩, nofun⟩
  obtain ⟨h', himported, hlist'⟩ := exists_imported?_pretty hfits (by decide)
  have hsorted : byTime [b, a] = [b, a] := List.mergeSort_of_pairwise (by decide)
  have hback : h'.list = [a, b] := by
    rw [hlist', hsorted]
    rfl
  refine ⟨hlist, h', ?_, hback, ?_⟩
  · rw [exported, hlist, himported]
  · rw [hback, hlist]
    decide

end AskSql
