import AskSql.Proofs.Cache
import AskSql.Proofs.Cache.Snapshot

/-!
A cache with a file, closed and opened again.

The file always holds what is in memory, so that opening it again only drops what has expired by
then. How many entries a file may hold is asked by no one: a cache keeps within its room once
something is set in it, but not before.
-/

namespace AskSql

/-- Of several entries under one key the last is kept, at the place of the first. -/
def Shelf.ofEntries (entries : List (String × CacheEntry)) : Shelf :=
  entries.foldl (fun l m => l.put m.1 m.2) []

namespace Shelf

theorem ofEntries_append (entries : List (String × CacheEntry)) (m : String × CacheEntry) :
    ofEntries (entries ++ [m]) = (ofEntries entries).put m.1 m.2 := by
  rw [ofEntries, List.foldl_append]
  rfl

theorem mem_of_mem_ofEntries {entries : List (String × CacheEntry)} {m : String × CacheEntry}
    (h : m ∈ ofEntries entries) : m ∈ entries := by
  induction entries using List.reverseRecOn with
  | nil => cases h
  | append_singleton entries new ih =>
    rw [ofEntries_append, mem_put] at h
    rw [List.mem_append, List.mem_singleton]
    split at h <;> rename_i hkey
    · exact .inr (Prod.ext hkey h)
    · exact .inl (ih h)

theorem length_put_le (key : String) (e : CacheEntry) (l : Shelf) :
    (l.put key e).length ≤ l.length + 1 := by
  unfold put
  split
  · rw [List.length_map]
    omega
  · rw [List.length_append, List.length_singleton]

theorem length_ofEntries_le (entries : List (String × CacheEntry)) :
    (ofEntries entries).length ≤ entries.length := by
  induction entries using List.reverseRecOn with
  | nil => exact Nat.le_refl 0
  | append_singleton entries m ih =>
    rw [ofEntries_append, List.length_append, List.length_singleton]
    have := length_put_le m.1 m.2 (ofEntries entries)
    omega

theorem ofEntries_eq_self {l : Shelf} (h : (l.map Prod.fst).Nodup) : ofEntries l = l := by
  induction l using List.reverseRecOn with
  | nil => rfl
  | append_singleton l m ih =>
    rw [List.map_append, List.nodup_append] at h
    have hnew : l.lookup m.1 = none := by
      refine List.lookup_eq_none_iff.2 fun k hk => bne_iff_ne.2 (Ne.symm ?_)
      exact h.2.2 k.1 (List.mem_map_of_mem hk) m.1 (by simp)
    rw [ofEntries_append, ih h.1, put, hnew]
    rfl

end Shelf

theorem Cache.Shelved.addAll (entries : List (String × CacheEntry)) :
    (Cache.empty.addAll entries).Shelved (Shelf.ofEntries entries) := by
  induction entries using List.reverseRecOn with
  | nil => exact .empty
  | append_singleton entries m ih =>
    rw [Cache.addAll, List.foldl_append, Shelf.ofEntries_append]
    exact ih.insert m.1 m.2

namespace SavedCache

theorem cache_step (c : SavedCache) (snapshot : Snapshot) (now : Instant) (a : CacheStep) :
    (({ c with snapshot } : SavedCache).step now a).2.cache = (c.step now a).2.cache := by
  cases a with
  | get key =>
    change (SavedCache.get now key _).2.cache = (SavedCache.get now key _).2.cache
    unfold SavedCache.get
    dsimp only
    split <;> rfl
  | _ => rfl

theorem step_eq_or_save (c : SavedCache) (now : Instant) (a : CacheStep) :
    (c.step now a).2 = c ∨ ∃ cache, (c.step now a).2 = save { c with cache } := by
  cases a with
  | get key =>
    change (c.get now key).2 = c ∨ ∃ cache, (c.get now key).2 = save { c with cache }
    unfold SavedCache.get
    split
    · exact .inl rfl
    · exact .inr ⟨_, rfl⟩
    · exact .inl rfl
  | _ => exact .inr ⟨_, rfl⟩

end SavedCache

theorem Cache.Shelved.step {c : SavedCache} {l : Shelf} (h : c.cache.Shelved l) (now : Instant)
    (a : CacheStep) : (c.step now a).2.cache.Shelved (l.step c.settings now a).2 := by
  have hholds : SavedCache.Holds c.settings { c with snapshot := .off } l := ⟨rfl, rfl, h⟩
  rw [← c.cache_step .off now a]
  exact (hholds.step now a).2.shelved

inductive CacheMove
  | step (a : CacheStep)
  | reopen

namespace SavedCache

def move (now : Instant) (c : SavedCache) : CacheMove → SavedCache
  | .step a => (c.step now a).2
  | .reopen => c.reopen now

def moves (c : SavedCache) (ms : List (Instant × CacheMove)) : SavedCache :=
  ms.foldl (fun c m => c.move m.1 m.2) c

end SavedCache

def CacheMove.IsLegible : CacheMove → Prop
  | .step (.set _ r) => r.IsLegible
  | _ => True

namespace Shelf

def IsLegible (l : Shelf) : Prop := ∀ m ∈ l, m.2.result.IsLegible

variable {l : Shelf}

theorem isLegible_nil : IsLegible [] := List.forall_mem_nil _

theorem IsLegible.filter (h : IsLegible l) (p : String × CacheEntry → Bool) :
    IsLegible (l.filter p) := fun m hm => h m (List.mem_of_mem_filter hm)

theorem IsLegible.set (h : IsLegible l) (s : CacheSettings) (now : Instant) (key : String)
    {r : CachedResult} (hr : r.IsLegible) : IsLegible (l.set s now key r) := by
  rintro ⟨k, e⟩ hm
  have hmem := mem_of_mem_set hm
  split at hmem
  · rw [hmem]
    exact hr
  · exact h _ hmem

theorem IsLegible.step (h : IsLegible l) (s : CacheSettings) (now : Instant) {a : CacheStep}
    (ha : (CacheMove.step a).IsLegible) : IsLegible (l.step s now a).2 := by
  cases a with
  | set key r => exact h.set s now key ha
  | get key =>
    change IsLegible (l.get s now key).2
    unfold Shelf.get
    split
    · exact h
    · split
      · exact h
      · exact h.filter _
  | clear => exact isLegible_nil
  | clearExpired => exact h.filter _

end Shelf

structure Cache.Alike (c c' : Cache) : Prop where
  order : c.order = c'.order
  entries : ∀ k : String, c.entries[k]? = c'.entries[k]?

theorem Cache.Shelved.alike {c c' : Cache} {l : Shelf} (h : c.Shelved l) (h' : c'.Shelved l) :
    c.Alike c' :=
  ⟨h.order.trans h'.order.symm, fun k => (h.getElem?_eq k).trans (h'.getElem?_eq k).symm⟩

namespace SavedCache

structure Filed (c : SavedCache) : Prop where
  shelved : c.cache.Shelved c.cache.toList
  file : c.snapshot.text?.bind Cache.readSnapshot? = some c.cache.toList

/-- The file holds the entries in memory; or it cannot be read, and nothing is in memory. -/
structure Backed (s : CacheSettings) (c : SavedCache) (l : Shelf) : Prop where
  settings : c.settings = s
  shelved : c.cache.Shelved l
  legible : l.IsLegible
  file : ∃ text, c.snapshot = .file text ∧ (text.bind Cache.readSnapshot? = some l ∨
    (text.bind Cache.readSnapshot? = none ∧ c.cache = .empty))

variable {s : CacheSettings} {c : SavedCache} {l : Shelf}

theorem filed_save {text : Option String} (hsnapshot : c.snapshot = .file text)
    (hshelved : c.cache.Shelved l) (hlegible : l.IsLegible) :
    Filed c.save ∧ Backed c.settings c.save l := by
  have hread : Cache.readSnapshot? c.cache.snapshotText = some l := by
    rw [Cache.snapshotText, hshelved.toList]
    exact Cache.readSnapshot?_compact hlegible
  have hsave : c.save.snapshot = .file (some c.cache.snapshotText) := by
    rw [save, hsnapshot]
    rfl
  refine ⟨⟨?_, ?_⟩, rfl, hshelved, hlegible, _, hsave, .inl hread⟩
  · change c.cache.Shelved c.cache.toList
    rwa [hshelved.toList]
  · rw [hsave]
    change Cache.readSnapshot? _ = some c.cache.toList
    rw [hread, hshelved.toList]

theorem openAt_of_read {text : Option String} {entries : List (String × CacheEntry)}
    (h : text.bind Cache.readSnapshot? = some entries) (s : CacheSettings) (now : Instant) :
    openAt now s (.file text) =
      save ⟨s, .file text, (Cache.empty.addAll entries).clearExpired s now⟩ := by
  rw [openAt, Snapshot.text?, h]

theorem openAt_of_unread {text : Option String} (h : text.bind Cache.readSnapshot? = none)
    (s : CacheSettings) (now : Instant) :
    openAt now s (.file text) = { settings := s, snapshot := .file text } := by
  rw [openAt, Snapshot.text?, h]

theorem exists_backed_openAt {text : Option String}
    (h : ∀ entries, text.bind Cache.readSnapshot? = some entries → Shelf.IsLegible entries)
    (s : CacheSettings) (now : Instant) : ∃ l, Backed s (openAt now s (.file text)) l := by
  cases hread : text.bind Cache.readSnapshot? with
  | none =>
    rw [openAt_of_unread hread]
    exact ⟨[], rfl, .empty, Shelf.isLegible_nil, text, rfl, .inr ⟨hread, rfl⟩⟩
  | some entries =>
    have hlegible : (Shelf.ofEntries entries).IsLegible := fun m hm =>
      h entries hread m (Shelf.mem_of_mem_ofEntries hm)
    have hshelved := (Cache.Shelved.addAll entries).clearExpired s now
    rw [openAt_of_read hread]
    exact ⟨_, (filed_save (c := ⟨s, _, _⟩) rfl hshelved (hlegible.filter _)).2⟩

theorem Backed.reopen (h : Backed s c l) (now : Instant) :
    (c.reopen now = c ∨ Filed (c.reopen now)) ∧
      Backed s (c.reopen now) (l.clearExpired s now) := by
  obtain ⟨rfl, hshelved, hlegible, text, hsnapshot, hread | ⟨hread, hempty⟩⟩ := h
  · have hshelved' := (Cache.Shelved.addAll l).clearExpired c.settings now
    rw [Shelf.ofEntries_eq_self hshelved.distinct] at hshelved'
    rw [SavedCache.reopen, hsnapshot, openAt_of_read hread]
    exact (filed_save rfl hshelved' (hlegible.filter _)).imp_left .inr
  · -- A file that cannot be read stays as it is, and so does the empty cache.
    have hsame : c.reopen now = c := by
      rw [SavedCache.reopen, hsnapshot, openAt_of_unread hread, ← hsnapshot]
      exact congrArg (SavedCache.mk c.settings c.snapshot) hempty.symm
    have hnil : l = [] := by
      rw [← hshelved.toList, hempty]
      rfl
    subst hnil
    rw [hsame]
    exact ⟨.inl rfl, rfl, hshelved, hlegible, text, hsnapshot, .inr ⟨hread, hempty⟩⟩

theorem Backed.step (h : Backed s c l) (now : Instant) {a : CacheStep}
    (ha : (CacheMove.step a).IsLegible) :
    ((c.step now a).2 = c ∨ Filed (c.step now a).2) ∧
      Backed s (c.step now a).2 (l.step s now a).2 := by
  obtain ⟨rfl, hshelved, hlegible, text, hsnapshot, -⟩ := id h
  have hstep := hshelved.step now a
  have hlegible' := hlegible.step c.settings now ha
  rcases step_eq_or_save c now a with hsame | ⟨cache, hsave⟩
  · rw [hsame] at hstep ⊢
    have hl : (l.step c.settings now a).2 = l := hstep.toList.symm.trans hshelved.toList
    rw [hl]
    exact ⟨.inl rfl, h⟩
  · rw [hsave] at hstep ⊢
    exact (filed_save (c := { c with cache }) hsnapshot hstep hlegible').imp_left .inr

theorem Backed.move (h : Backed s c l) (now : Instant) {m : CacheMove} (hm : m.IsLegible) :
    (c.move now m = c ∨ Filed (c.move now m)) ∧ ∃ l', Backed s (c.move now m) l' := by
  cases m with
  | step a => exact (h.step now hm).imp_right fun h => ⟨_, h⟩
  | reopen => exact (h.reopen now).imp_right fun h => ⟨_, h⟩

theorem Backed.moves (h : Backed s c l) {ms : List (Instant × CacheMove)}
    (hms : ∀ m ∈ ms, m.2.IsLegible) : ∃ l', Backed s (c.moves ms) l' := by
  induction ms generalizing c l with
  | nil => exact ⟨l, h⟩
  | cons m ms ih =>
    rw [List.forall_mem_cons] at hms
    obtain ⟨-, l', hmove⟩ := h.move m.1 hms.1
    exact ih hmove hms.2

/-- After every step that does anything the file holds what is in memory; and to open the cache
again is to drop what has expired. -/
theorem filed_and_reopened (s : CacheSettings) (start : Instant) (text : Option String)
    (ms : List (Instant × CacheMove))
    (hfile : ∀ entries, text.bind Cache.readSnapshot? = some entries → Shelf.IsLegible entries)
    (hmoves : ∀ m ∈ ms, m.2.IsLegible) :
    let c := (openAt start s (.file text)).moves ms
    (∀ now m, m.IsLegible → c.move now m ≠ c → Filed (c.move now m)) ∧
      ∀ now, (c.reopen now).cache.Alike (c.clearExpired now).cache := by
  obtain ⟨l₀, hopen⟩ := exists_backed_openAt hfile s start
  obtain ⟨l, hbacked⟩ := hopen.moves hmoves
  refine ⟨fun now m hm hchanged => (hbacked.move now hm).1.resolve_left hchanged, fun now => ?_⟩
  have hcleared := (hbacked.step now (a := .clearExpired) trivial).2
  exact (hbacked.reopen now).2.shelved.alike hcleared.shelved

theorem filed_and_reopened_counted :
    let r : CachedResult := ⟨"SELECT 1 AS n", [Row.ofList [("n", .int 1)]], ["n"], none⟩
    let text := (Json.arr ([("old", ⟨r, .epoch⟩)].map Cache.pairToJson)).compact
    let c := (openAt .epoch {} (.file (some text))).moves [(.epoch, .step (.set "new" r))]
    r.IsLegible ∧ Cache.readSnapshot? text = some [("old", ⟨r, .epoch⟩)] ∧
      (∀ now m, m.IsLegible → c.move now m ≠ c → Filed (c.move now m)) ∧
      ∀ now, (c.reopen now).cache.Alike (c.clearExpired now).cache := by
  intro r text c
  have hlegible : r.IsLegible := by
    intro row hrow
    obtain rfl := List.mem_singleton.1 hrow
    have hcells : (Row.ofList [("n", .int 1)]).cells = [("n", .int 1)] := rfl
    constructor <;> rw [hcells] <;> simp only [List.forall_mem_singleton]
    · exact .num (.int (by decide) (by decide))
    · rfl
    · exact Nat.zero_le _
  have hentry : Shelf.IsLegible [("old", ⟨r, .epoch⟩)] := by
    intro m hm
    rw [List.mem_singleton.1 hm]
    exact hlegible
  have hread : Cache.readSnapshot? text = some [("old", ⟨r, .epoch⟩)] :=
    Cache.readSnapshot?_compact hentry
  have hfile : ∀ entries, (some text).bind Cache.readSnapshot? = some entries →
      Shelf.IsLegible entries := by
    intro entries hentries
    rw [Option.bind_some, hread, Option.some.injEq] at hentries
    rwa [← hentries]
  have hmoves : ∀ m ∈ [(Instant.epoch, CacheMove.step (.set "new" r))], m.2.IsLegible := by
    intro m hm
    rw [List.mem_singleton.1 hm]
    exact hlegible
  exact ⟨hlegible, hread, filed_and_reopened {} .epoch (some text) _ hfile hmoves⟩

end SavedCache

namespace Shelf

theorem length_set_le (s : CacheSettings) (now : Instant) (key : String) (r : CachedResult)
    (l : Shelf) : (l.set s now key r).length ≤ s.maxEntries := by
  rw [set, List.length_drop]
  omega

theorem length_step_le (s : CacheSettings) (now : Instant) (a : CacheStep) (l : Shelf) :
    (l.step s now a).2.length ≤ max l.length s.maxEntries := by
  cases a with
  | set key r => exact Nat.le_trans (length_set_le s now key r l) (Nat.le_max_right ..)
  | get key =>
    refine Nat.le_trans ?_ (Nat.le_max_left ..)
    change (l.get s now key).2.length ≤ l.length
    unfold get
    split
    · exact Nat.le_refl _
    · split
      · exact Nat.le_refl _
      · exact List.length_filter_le ..
  | clear => exact Nat.zero_le _
  | clearExpired => exact Nat.le_trans (List.length_filter_le ..) (Nat.le_max_left ..)

end Shelf

def Snapshot.held (f : Snapshot) : List (String × CacheEntry) :=
  (f.text?.bind Cache.readSnapshot?).getD []

/-- How many entries may be owed to the file: as many as it held when it was opened, none once
something is set or all is cleared. -/
def CacheMove.owed (c : SavedCache) (n : Nat) : CacheMove → Nat
  | .step (.set ..) | .step .clear => 0
  | .step _ => n
  | .reopen => c.snapshot.held.length

def SavedCache.owed (c : SavedCache) (n : Nat) : List (Instant × CacheMove) → Nat
  | [] => n
  | (now, m) :: ms => (c.move now m).owed (m.owed c n) ms

namespace SavedCache

theorem exists_shelved_openAt (s : CacheSettings) (now : Instant) (f : Snapshot) :
    ∃ l : Shelf, (openAt now s f).cache.Shelved l ∧ l.length ≤ f.held.length := by
  unfold openAt Snapshot.held
  cases f.text?.bind Cache.readSnapshot? with
  | none => exact ⟨[], .empty, Nat.le_refl 0⟩
  | some entries =>
    refine ⟨_, (Cache.Shelved.addAll entries).clearExpired s now, ?_⟩
    exact Nat.le_trans (List.length_filter_le ..) (Shelf.length_ofEntries_le entries)

theorem settings_openAt (s : CacheSettings) (now : Instant) (f : Snapshot) :
    (openAt now s f).settings = s := by
  unfold openAt
  split <;> rfl

theorem settings_move (now : Instant) (c : SavedCache) (m : CacheMove) :
    (c.move now m).settings = c.settings := by
  cases m with
  | reopen => exact settings_openAt ..
  | step a =>
    change (c.step now a).2.settings = c.settings
    rcases c.step_eq_or_save now a with h | ⟨cache, h⟩ <;> rw [h]
    rfl

def Fits (c : SavedCache) (n : Nat) : Prop :=
  ∃ l, c.cache.Shelved l ∧ l.length ≤ max c.settings.maxEntries n

theorem Fits.move {c : SavedCache} {n : Nat} (h : Fits c n) (now : Instant) (m : CacheMove) :
    Fits (c.move now m) (m.owed c n) := by
  obtain ⟨l, hshelved, hlength⟩ := h
  unfold Fits
  rw [settings_move]
  cases m with
  | reopen =>
    obtain ⟨l', hshelved', hlength'⟩ := exists_shelved_openAt c.settings now c.snapshot
    exact ⟨l', hshelved', Nat.le_trans hlength' (Nat.le_max_right ..)⟩
  | step a =>
    refine ⟨_, hshelved.step now a, ?_⟩
    have hstep := Shelf.length_step_le c.settings now a l
    cases a with
    | set key r => exact Nat.le_trans (Shelf.length_set_le ..) (Nat.le_max_left ..)
    | clear => exact Nat.zero_le _
    | _ =>
      change _ ≤ max c.settings.maxEntries n
      omega

theorem Fits.moves {c : SavedCache} {n : Nat} (h : Fits c n) (ms : List (Instant × CacheMove)) :
    Fits (c.moves ms) (c.owed n ms) := by
  induction ms generalizing c n with
  | nil => exact h
  | cons m ms ih => exact ih (h.move m.1 m.2)

theorem settings_moves (c : SavedCache) (ms : List (Instant × CacheMove)) :
    (c.moves ms).settings = c.settings := by
  induction ms generalizing c with
  | nil => rfl
  | cons m ms ih => exact (ih (c.move m.1 m.2)).trans (settings_move m.1 c m.2)

/-- What is above the room of a cache was in its file when it was opened last, and nothing has been
set since. -/
theorem size_moves_le (s : CacheSettings) (start : Instant) (f : Snapshot)
    (ms : List (Instant × CacheMove)) :
    ((openAt start s f).moves ms).size ≤
      max s.maxEntries ((openAt start s f).owed f.held.length ms) := by
  obtain ⟨l, hshelved, hlength⟩ := exists_shelved_openAt s start f
  have hopen : Fits (openAt start s f) f.held.length :=
    ⟨l, hshelved, Nat.le_trans hlength (Nat.le_max_right ..)⟩
  obtain ⟨l', hshelved', hlength'⟩ := hopen.moves ms
  rw [settings_moves, settings_openAt] at hlength'
  exact hshelved'.size.trans_le hlength'

/-- Right after it is opened on a file with two entries, a cache with room for one holds both. -/
theorem not_size_le_maxEntries :
    let start : Instant := ⟨1704067200, 0, by decide, by decide, by decide⟩
    let text := "[[\"k1\",\x7b\"sql\":\"SELECT 1\",\"rows\":[],\"columns\":[],\"summary\":null," ++
      "\"created_at\":\"2024-01-01T00:00:00Z\"\x7d]," ++
      "[\"k2\",\x7b\"sql\":\"SELECT 2\",\"rows\":[],\"columns\":[],\"summary\":null," ++
      "\"created_at\":\"2024-01-01T00:00:00Z\"\x7d]]"
    ¬(openAt start { maxEntries := 1 } (.file (some text))).size ≤ 1 := by
  intro start text
  let entry (sql : String) : CacheEntry := ⟨⟨sql, [], [], none⟩, start⟩
  let entries : Shelf := [("k1", entry "SELECT 1"), ("k2", entry "SELECT 2")]
  have htext : text = (Json.arr (entries.map Cache.pairToJson)).compact := by decide +kernel
  have hread : (some text).bind Cache.readSnapshot? = some entries := by
    rw [Option.bind_some, htext]
    exact Cache.readSnapshot?_compact (by simp [entries, entry, CachedResult.IsLegible])
  have hshelved := (Cache.Shelved.addAll entries).clearExpired { maxEntries := 1 } start
  have hsize : ((Shelf.ofEntries entries).clearExpired { maxEntries := 1 } start).length = 2 := by
    decide +kernel
  have htwo : (openAt start { maxEntries := 1 } (.file (some text))).size = 2 := by
    rw [openAt_of_read hread]
    exact hshelved.size.trans hsize
  omega

end SavedCache

end AskSql
