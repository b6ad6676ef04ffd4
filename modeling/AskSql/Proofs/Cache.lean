import Mathlib.Data.List.Nodup
import AskSql.Cache.Snapshot

/-!
The cache as a list of keys with their entries, the oldest key first.

The hash map and the queue of keys are two views of one such list. Each operation keeps them in step;
what it does to the list is said without either.
-/

namespace AskSql

abbrev Shelf := List (String × CacheEntry)

namespace Shelf

def put (key : String) (e : CacheEntry) (l : Shelf) : Shelf :=
  if (l.lookup key).isSome then l.map fun m => if m.1 = key then (key, e) else m
  else l ++ [(key, e)]

def remove (key : String) (l : Shelf) : Shelf := l.filter fun m => m.1 ≠ key

def set (s : CacheSettings) (now : Instant) (key : String) (r : CachedResult) (l : Shelf) : Shelf :=
  (l.put key ⟨r, now⟩).drop ((l.put key ⟨r, now⟩).length - s.maxEntries)

def isFresh (s : CacheSettings) (now : Instant) (e : CacheEntry) : Bool :=
  now.since e.createdAt ≤ s.ttl

def get (s : CacheSettings) (now : Instant) (key : String) (l : Shelf) :
    Option CacheEntry × Shelf :=
  match l.lookup key with
  | none => (none, l)
  | some e => if isFresh s now e then (some e, l) else (none, l.remove key)

def clearExpired (s : CacheSettings) (now : Instant) (l : Shelf) : Shelf :=
  l.filter fun m => isFresh s now m.2

theorem isExpired_eq (s : CacheSettings) (now : Instant) (e : CacheEntry) :
    s.isExpired now e = !isFresh s now e := by
  rw [CacheSettings.isExpired, isFresh, ← decide_not]
  exact decide_eq_decide.2 Int.not_le.symm

theorem mem_remove {key k : String} {e : CacheEntry} {l : Shelf} :
    (k, e) ∈ l.remove key ↔ (k, e) ∈ l ∧ k ≠ key := by simp [remove]

theorem mem_put {key k : String} {e e' : CacheEntry} {l : Shelf} :
    (k, e) ∈ l.put key e' ↔ if k = key then e = e' else (k, e) ∈ l := by
  unfold put
  split <;> rename_i hknown
  · obtain ⟨⟨key', e₀⟩, hmem, hkey⟩ := List.lookup_isSome_iff.1 hknown
    obtain rfl : key = key' := by simpa using hkey
    rw [List.mem_map]
    constructor
    · rintro ⟨⟨k', e₁⟩, hmem', heq⟩
      by_cases hk : k' = key <;> simp_all
    · intro h
      by_cases hk : k = key
      · rw [if_pos hk] at h
        exact ⟨_, hmem, by simp [hk, h]⟩
      · rw [if_neg hk] at h
        exact ⟨_, h, by simp [hk]⟩
  · have hnone := List.lookup_eq_none_iff.1 (Option.not_isSome_iff_eq_none.1 hknown)
    by_cases hk : k = key
    · have : (key, e) ∉ l := fun hmem => by simpa using hnone _ hmem
      simp [hk, this]
    · simp [hk]

theorem mem_of_mem_set {s : CacheSettings} {now : Instant} {key k : String} {r : CachedResult}
    {e : CacheEntry} {l : Shelf} (h : (k, e) ∈ l.set s now key r) :
    if k = key then e = ⟨r, now⟩ else (k, e) ∈ l :=
  mem_put.1 (List.mem_of_mem_drop h)

theorem set_nil {s : CacheSettings} (hroom : 0 < s.maxEntries) (now : Instant) (key : String)
    (r : CachedResult) : Shelf.set s now key r [] = [(key, ⟨r, now⟩)] := by
  have hput : Shelf.put key ⟨r, now⟩ [] = [(key, ⟨r, now⟩)] := rfl
  have hdrop : 1 - s.maxEntries = 0 := by omega
  rw [set, hput, List.length_singleton, hdrop, List.drop_zero]

theorem keys_put (key : String) (e : CacheEntry) (l : Shelf) :
    (l.put key e).map Prod.fst =
      if (l.lookup key).isSome then l.map Prod.fst else l.map Prod.fst ++ [key] := by
  unfold put
  split
  · rw [List.map_map]
    refine List.map_congr_left fun m _ => ?_
    by_cases hm : m.1 = key <;> simp [hm]
  · rw [List.map_append, List.map_singleton]

theorem lookup_eq_some_iff_mem {l : Shelf} (h : (l.map Prod.fst).Nodup) {k : String}
    {e : CacheEntry} : l.lookup k = some e ↔ (k, e) ∈ l := by
  induction l with
  | nil => simp
  | cons m l ih =>
    rw [List.map_cons, List.nodup_cons] at h
    rw [List.lookup_cons, List.mem_cons, ← ih h.2]
    by_cases hk : k = m.1
    · have hnone : l.lookup k ≠ some e := fun hlookup =>
        h.1 (hk ▸ List.mem_map_of_mem (f := Prod.fst) ((ih h.2).1 hlookup))
      simp only [hk, BEq.rfl, Option.some.injEq, Prod.ext_iff, true_and] at hnone ⊢
      simp [hnone, eq_comm]
    · have hkey : (k == m.1) = false := beq_false_of_ne hk
      simp [hkey, hk, Prod.ext_iff]

end Shelf

namespace Cache

/-- The map and the queue are those of the list. -/
structure Shelved (c : Cache) (l : Shelf) : Prop where
  order : c.order = l.map Prod.fst
  distinct : (l.map Prod.fst).Nodup
  entries : ∀ {k e}, c.entries[k]? = some e ↔ (k, e) ∈ l

namespace Shelved

variable {c : Cache} {l : Shelf}

theorem getElem?_eq (h : Shelved c l) (k : String) : c.entries[k]? = l.lookup k := by
  ext e
  rw [h.entries, Shelf.lookup_eq_some_iff_mem h.distinct]

theorem contains_eq (h : Shelved c l) (k : String) :
    c.entries.contains k = (l.lookup k).isSome := by
  rw [Std.HashMap.contains_eq_isSome_getElem?, h.getElem?_eq]

theorem mem_order_iff (h : Shelved c l) (k : String) : k ∈ c.order ↔ k ∈ c.entries := by
  rw [h.order, ← Std.HashMap.contains_iff_mem, h.contains_eq, List.lookup_isSome_iff, List.mem_map]
  simp only [beq_iff_eq, eq_comm (a := k)]

theorem size (h : Shelved c l) : c.size = l.length := by
  -- The keys of the map are those of the queue, in an order of their own.
  have hperm : c.entries.keys.Perm c.order :=
    (List.perm_ext_iff_of_nodup Std.HashMap.nodup_keys (h.order ▸ h.distinct)).2 fun k => by
      rw [Std.HashMap.mem_keys, h.mem_order_iff]
  rw [Cache.size, ← Std.HashMap.length_keys, hperm.length_eq, h.order, List.length_map]

theorem toList (h : Shelved c l) : c.toList = l := by
  have hentry : ∀ m ∈ l, (c.entries[m.1]?).map (m.1, ·) = some m := fun m hm => by
    rw [h.entries.2 hm]
    rfl
  rw [Cache.toList, h.order, List.filterMap_map]
  exact (List.filterMap_congr fun m hm => hentry m hm).trans List.filterMap_some

theorem empty : Shelved .empty [] := ⟨rfl, List.nodup_nil, by simp [Cache.empty]⟩

theorem erase (h : Shelved c l) (key : String) : Shelved (c.erase key) (l.remove key) where
  order := by
    rw [Cache.erase, h.order, Shelf.remove, List.filter_map]
    rfl
  distinct := h.distinct.sublist (List.filter_sublist.map _)
  entries {k e} := by
    rw [Shelf.mem_remove, ← h.entries, Cache.erase, Std.HashMap.getElem?_erase]
    by_cases hk : key = k
    · simp [hk]
    · simp [hk, Ne.symm hk]

theorem insert (h : Shelved c l) (key : String) (e : CacheEntry) :
    Shelved (c.insert key e) (l.put key e) where
  order := by rw [Cache.insert, Shelf.keys_put, h.contains_eq, h.order]
  distinct := by
    rw [Shelf.keys_put]
    split <;> rename_i hknown
    · exact h.distinct
    · rw [← h.contains_eq, Std.HashMap.contains_iff_mem, ← h.mem_order_iff, h.order] at hknown
      exact h.distinct.append (List.nodup_singleton key) (List.disjoint_singleton.2 hknown)
  entries {k e'} := by
    rw [Shelf.mem_put, Cache.insert, Std.HashMap.getElem?_insert]
    by_cases hk : k = key
    · simp [hk, eq_comm]
    · simp [hk, Ne.symm hk, h.entries]

theorem tail {m : String × CacheEntry} (h : Shelved c (m :: l)) :
    Shelved ⟨c.entries.erase m.1, l.map Prod.fst⟩ l := by
  have hremove : Shelf.remove m.1 (m :: l) = l := by
    have hm : ∀ m' ∈ l, m'.1 ≠ m.1 := fun m' hm' hkey =>
      (List.nodup_cons.1 h.distinct).1 (hkey ▸ List.mem_map_of_mem hm')
    rw [Shelf.remove, List.filter_cons_of_neg (by simp), List.filter_eq_self]
    simpa using hm
  have herase := h.erase m.1
  rw [hremove] at herase
  exact ⟨rfl, herase.distinct, herase.entries⟩

theorem shrink (h : Shelved c l) (most : Nat) :
    Shelved (Cache.shrink most c.entries c.order) (l.drop (l.length - most)) := by
  rw [h.order]
  induction l generalizing c with
  | nil =>
    rw [List.drop_nil]
    exact ⟨rfl, List.nodup_nil, h.entries⟩
  | cons m l ih =>
    have hsize : c.entries.size = l.length + 1 := h.size
    rw [List.map_cons, Cache.shrink]
    split <;> rename_i hmost
    · have hdrop : (m :: l).length - most = (l.length - most) + 1 := by
        rw [List.length_cons]
        omega
      rw [hdrop, List.drop_succ_cons]
      exact ih h.tail
    · have hdrop : (m :: l).length - most = 0 := by
        rw [List.length_cons]
        omega
      rw [hdrop, List.drop_zero]
      exact ⟨rfl, h.distinct, h.entries⟩

theorem set (h : Shelved c l) (s : CacheSettings) (now : Instant) (key : String)
    (r : CachedResult) : Shelved (c.set s now key r) (l.set s now key r) :=
  (h.insert key ⟨r, now⟩).shrink s.maxEntries

theorem clearExpired (h : Shelved c l) (s : CacheSettings) (now : Instant) :
    Shelved (c.clearExpired s now) (l.clearExpired s now) := by
  have hentries {k : String} {e : CacheEntry} :
      (c.clearExpired s now).entries[k]? = some e ↔ (k, e) ∈ l.clearExpired s now := by
    rw [Cache.clearExpired, Std.HashMap.getElem?_filter', Shelf.clearExpired, List.mem_filter,
      ← h.entries, Option.filter_eq_some_iff]
    simp [Shelf.isExpired_eq]
  refine ⟨?_, h.distinct.sublist (List.filter_sublist.map _), hentries⟩
  rw [Cache.clearExpired, h.order, List.filter_map, Shelf.clearExpired]
  refine congrArg _ (List.filter_congr fun m hm => ?_)
  rw [Function.comp_apply, Std.HashMap.contains_eq_isSome_getElem?, Std.HashMap.getElem?_filter',
    h.entries.2 hm, Option.filter_some, Shelf.isExpired_eq, Bool.not_not]
  cases Shelf.isFresh s now m.2 <;> rfl

end Shelved

end Cache

inductive CacheStep
  | set (key : String) (result : CachedResult)
  | get (key : String)
  | clear
  | clearExpired

structure CacheReport where
  hit : Option CacheEntry := none
  size : Nat

def SavedCache.step (now : Instant) (c : SavedCache) : CacheStep → CacheReport × SavedCache
  | .set key r => ({ size := (c.set now key r).size }, c.set now key r)
  | .get key => ({ hit := (c.get now key).1, size := (c.get now key).2.size }, (c.get now key).2)
  | .clear => ({ size := c.clear.size }, c.clear)
  | .clearExpired => ({ size := (c.clearExpired now).size }, c.clearExpired now)

def Shelf.step (s : CacheSettings) (now : Instant) (l : Shelf) : CacheStep → CacheReport × Shelf
  | .set key r => ({ size := (l.set s now key r).length }, l.set s now key r)
  | .get key =>
    ({ hit := (l.get s now key).1, size := (l.get s now key).2.length }, (l.get s now key).2)
  | .clear => ({ size := 0 }, [])
  | .clearExpired => ({ size := (l.clearExpired s now).length }, l.clearExpired s now)

def CacheStep.run (step : Instant → σ → CacheStep → CacheReport × σ) (s : σ) :
    List (Instant × CacheStep) → List CacheReport × σ
  | [] => ([], s)
  | (now, a) :: rest =>
    ((step now s a).1 :: (run step (step now s a).2 rest).1, (run step (step now s a).2 rest).2)

namespace SavedCache

structure Holds (s : CacheSettings) (c : SavedCache) (l : Shelf) : Prop where
  settings : c.settings = s
  snapshot : c.snapshot = .off
  shelved : c.cache.Shelved l

variable {s : CacheSettings} {c : SavedCache} {l : Shelf}

theorem Holds.save (h : Holds s c l) : Holds s c.save l :=
  ⟨h.settings, by rw [SavedCache.save, h.snapshot]; rfl, h.shelved⟩

theorem Holds.get (h : Holds s c l) (now : Instant) (key : String) :
    (c.get now key).1 = (l.get s now key).1 ∧ Holds s (c.get now key).2 (l.get s now key).2 := by
  rw [SavedCache.get, Shelf.get, h.settings, Cache.lookup, h.shelved.getElem?_eq]
  cases l.lookup key with
  | none => exact ⟨rfl, h⟩
  | some e =>
    simp only [Shelf.isExpired_eq]
    cases Shelf.isFresh s now e with
    | true => exact ⟨rfl, h⟩
    | false => exact ⟨rfl, Holds.save ⟨rfl, h.snapshot, h.shelved.erase key⟩⟩

theorem Holds.step (h : Holds s c l) (now : Instant) (a : CacheStep) :
    (c.step now a).1 = (l.step s now a).1 ∧ Holds s (c.step now a).2 (l.step s now a).2 := by
  cases a with
  | set key r =>
    have hset : Holds s (c.set now key r) (l.set s now key r) :=
      Holds.save ⟨h.settings, h.snapshot, h.settings ▸ h.shelved.set c.settings now key r⟩
    exact ⟨congrArg _ hset.shelved.size, hset⟩
  | get key =>
    obtain ⟨hhit, hget⟩ := h.get now key
    exact ⟨congrArg₂ _ hhit hget.shelved.size, hget⟩
  | clear =>
    have hclear : Holds s c.clear [] := Holds.save ⟨h.settings, h.snapshot, .empty⟩
    exact ⟨congrArg _ hclear.shelved.size, hclear⟩
  | clearExpired =>
    have hclear : Holds s (c.clearExpired now) (l.clearExpired s now) :=
      Holds.save ⟨h.settings, h.snapshot, h.settings ▸ h.shelved.clearExpired c.settings now⟩
    exact ⟨congrArg _ hclear.shelved.size, hclear⟩

theorem Holds.run (h : Holds s c l) (as : List (Instant × CacheStep)) :
    (CacheStep.run SavedCache.step c as).1 = (CacheStep.run (Shelf.step s) l as).1 ∧
      Holds s (CacheStep.run SavedCache.step c as).2 (CacheStep.run (Shelf.step s) l as).2 := by
  induction as generalizing c l with
  | nil => exact ⟨rfl, h⟩
  | cons a as ih =>
    obtain ⟨hreport, hstep⟩ := h.step a.1 a.2
    obtain ⟨hreports, hrun⟩ := ih hstep
    exact ⟨congrArg₂ _ hreport hreports, hrun⟩

/-- Step for step the cache answers like the list, and at any time it holds what the list holds. -/
theorem run_eq_shelf_run (s : CacheSettings) (start : Instant) (as : List (Instant × CacheStep)) :
    let c := CacheStep.run step (openAt start s .off) as
    let l := CacheStep.run (Shelf.step s) [] as
    c.1 = l.1 ∧ c.2.size = l.2.length ∧ c.2.cache.toList = l.2 ∧
      c.2.cache.order = l.2.map Prod.fst ∧ c.2.cache.order.Nodup ∧
      ∀ k, k ∈ c.2.cache.order ↔ k ∈ c.2.cache.entries := by
  obtain ⟨hreports, hholds⟩ := Holds.run (s := s) (c := openAt start s .off) (l := [])
    ⟨rfl, rfl, .empty⟩ as
  have h := hholds.shelved
  exact ⟨hreports, h.size, h.toList, h.order, h.order ▸ h.distinct, h.mem_order_iff⟩

end SavedCache

end AskSql
