import AskSql.Proofs.Cache
import AskSql.Proofs.Pipeline.Release

/-!
Runs one after another at one desk.

A run finds there what earlier ones have left. An entry of the cache was left by the last run under its
key that the peers have answered: such a run fills the key anew, and any other run leaves the entry as
it is or drops it.
-/

namespace AskSql

structure Turn (δ : Type) where
  request : Request
  occasion : Occasion
  database : δ

structure Visit where
  request : Request
  occasion : Occasion
  exchanges : List Exchange
  response : Response

namespace Visit

def isFresh (v : Visit) : Bool := v.response.success && !v.response.cached

def fills (key : String) (v : Visit) : Bool := v.isFresh && v.request.key == key

def entry? (v : Visit) : Option CacheEntry :=
  v.response.sql.map fun sql => ⟨v.response.cachedResult sql, v.occasion.answered⟩

def IsHeard (s : PipelineSettings) (v : Visit) : Prop :=
  ∃ result, Answered s v.request v.occasion.cancelled v.exchanges result ∧
    v.response = .ofResult result

def last? (f : Visit → Bool) (past : List Visit) : Option Visit := (past.filter f).getLast?

variable {f : Visit → Bool} {past : List Visit} {u v : Visit}

theorem last?_concat (f : Visit → Bool) (past : List Visit) (v : Visit) :
    last? f (past ++ [v]) = if f v then some v else last? f past := by
  rw [last?, List.filter_append, List.filter_singleton]
  cases f v with
  | true => exact List.getLast?_concat
  | false => exact congrArg _ (List.append_nil _)

theorem mem_of_last? (h : last? f past = some u) : u ∈ past ∧ f u = true :=
  List.mem_filter.1 (List.mem_of_getLast? h)

end Visit

/-- Whatever the cache holds was left by the last run under its key that the peers have answered. -/
structure SavedCache.StockedBy (s : CacheSettings) (past : List Visit) (c : SavedCache) : Prop where
  settings : c.settings = s
  shelf : ∃ l : Shelf, c.cache.Shelved l ∧
    ∀ {k e}, (k, e) ∈ l → (Visit.last? (Visit.fills k) past).bind Visit.entry? = some e

namespace SavedCache

variable {s : CacheSettings} {past : List Visit} {c : SavedCache} {now : Instant} {key : String}

theorem StockedBy.empty (h : c.cache = .empty) : c.StockedBy c.settings [] :=
  ⟨rfl, [], h ▸ .empty, nofun⟩

theorem StockedBy.get (h : c.StockedBy s past) (now : Instant) (key : String) :
    (c.get now key).2.StockedBy s past := by
  obtain ⟨hsettings, l, hshelved, hsource⟩ := h
  rw [SavedCache.get]
  cases c.cache.lookup c.settings now key with
  | hit e => exact ⟨hsettings, l, hshelved, hsource⟩
  | missing => exact ⟨hsettings, l, hshelved, hsource⟩
  | expired =>
    exact ⟨hsettings, l.remove key, hshelved.erase key,
      fun hmem => hsource (Shelf.mem_remove.1 hmem).1⟩

theorem StockedBy.hit (h : c.StockedBy s past) {e : CacheEntry} (hhit : (c.get now key).1 = some e) :
    (Visit.last? (Visit.fills key) past).bind Visit.entry? = some e ∧
      now.since e.createdAt ≤ s.ttl := by
  obtain ⟨rfl, l, hshelved, hsource⟩ := h
  rw [SavedCache.get, Cache.lookup] at hhit
  cases hentry : c.cache.entries[key]? with
  | none =>
    rw [hentry] at hhit
    cases hhit
  | some e' =>
    simp only [hentry, Shelf.isExpired_eq] at hhit
    cases hfresh : Shelf.isFresh c.settings now e' with
    | false =>
      rw [hfresh] at hhit
      cases hhit
    | true =>
      rw [hfresh] at hhit
      cases hhit
      exact ⟨hsource (hshelved.entries.1 hentry), of_decide_eq_true hfresh⟩

theorem get_set_of_empty (hempty : c.cache = .empty) (hroom : 0 < c.settings.maxEntries)
    {asked : Instant} {r : CachedResult} (hage : asked.since now ≤ c.settings.ttl) :
    (((c.set now key r).get asked key).1) = some ⟨r, now⟩ := by
  have hshelved : (c.cache.set c.settings now key r).Shelved [(key, ⟨r, now⟩)] := by
    rw [← Shelf.set_nil hroom, hempty]
    exact Cache.Shelved.empty.set c.settings now key r
  have hlookup : (c.set now key r).cache.lookup c.settings asked key = .hit ⟨r, now⟩ := by
    have hfresh : Shelf.isFresh c.settings asked ⟨r, now⟩ = true := decide_eq_true hage
    simp only [set, save, Cache.lookup, hshelved.getElem?_eq, List.lookup_cons, BEq.rfl,
      Shelf.isExpired_eq, hfresh]
    rfl
  have hsettings : (c.set now key r).settings = c.settings := rfl
  rw [SavedCache.get, hsettings, hlookup]

theorem StockedBy.passed (h : c.StockedBy s past) {v : Visit} (hv : v.isFresh = false) :
    c.StockedBy s (past ++ [v]) := by
  obtain ⟨hsettings, l, hshelved, hsource⟩ := h
  refine ⟨hsettings, l, hshelved, fun {k e} hmem => ?_⟩
  have hfills : v.fills k = false := by rw [Visit.fills, hv, Bool.false_and]
  rw [Visit.last?_concat, hfills]
  exact hsource hmem

theorem StockedBy.filled (h : c.StockedBy s past) {v : Visit} (hv : v.isFresh = true)
    {r : CachedResult} (hentry : v.entry? = some ⟨r, now⟩) :
    (c.set now v.request.key r).StockedBy s (past ++ [v]) := by
  obtain ⟨rfl, l, hshelved, hsource⟩ := h
  refine ⟨rfl, _, hshelved.set c.settings now v.request.key r, fun {k e} hmem => ?_⟩
  have hset := Shelf.mem_of_mem_set hmem
  have hfills : v.fills k = (v.request.key == k) := by rw [Visit.fills, hv, Bool.true_and]
  rw [Visit.last?_concat, hfills]
  by_cases hk : k = v.request.key
  · rw [if_pos hk] at hset
    rw [if_pos (beq_iff_eq.2 hk.symm), hset]
    exact hentry
  · rw [if_neg hk] at hset
    rw [if_neg fun h => hk (beq_iff_eq.1 h).symm]
    exact hsource hset

end SavedCache

variable {μ δ η : Type}

def Desk.StockedBy (s : CacheSettings) (past : List Visit) (d : Desk μ δ η) : Prop :=
  ∃ c, d.cache = some c ∧ c.StockedBy s past

namespace Pipeline

variable (p : Pipeline μ δ η)

def visit (t : Turn δ) (d : Desk μ δ η) : Visit × Desk μ δ η :=
  let d := { d with database := t.database }
  (⟨t.request, t.occasion, p.exchanges t.request t.occasion d, (p.run t.request t.occasion d).1⟩,
    (p.run t.request t.occasion d).2.2)

def visits : List (Turn δ) → Desk μ δ η → List Visit
  | [], _ => []
  | t :: ts, d => (p.visit t d).1 :: visits ts (p.visit t d).2

variable {p} {s : CacheSettings} {past before after : List Visit} {v : Visit} {t : Turn δ}
  {ts : List (Turn δ)} {d : Desk μ δ η}

theorem cached_eq_false_of_miss {r : Request} {o : Occasion}
    (h : (fromCache r o d).1 = none) : (p.run r o d).1.cached = false := by
  obtain ⟨xs, result, hruns⟩ := p.exists_runs_of_miss r o d h
  rw [hruns.response]
  cases result <;> rfl

theorem isHeard_visit (hcached : (p.visit t d).1.response.cached = false) :
    (p.visit t d).1.IsHeard p.settings := by
  simp only [visit] at hcached ⊢
  generalize { d with database := t.database } = d' at hcached ⊢
  cases hhit : (fromCache t.request t.occasion d').1 with
  | some e =>
    rw [p.run_of_hit _ _ _ hhit] at hcached
    cases hcached
  | none =>
    obtain ⟨xs, result, hruns⟩ := p.exists_runs_of_miss t.request t.occasion d' hhit
    exact ⟨result, hruns.exchanges ▸ hruns.answered, hruns.response⟩

theorem visit_of_hit {c : SavedCache} (hcache : d.cache = some c) {e : CacheEntry}
    (hhit : (c.get t.occasion.asked t.request.key).1 = some e) :
    (p.visit t d).1 = ⟨t.request, t.occasion, [], .ofCached e.result⟩ := by
  have hfrom : (fromCache t.request t.occasion { d with database := t.database }).1 = some e := by
    rw [fromCache, hcache]
    exact hhit
  rw [visit, exchanges, p.run_of_hit _ _ _ hfrom]
  rfl

/-- An answer from the cache is that of the last run that filled its key. -/
theorem exists_entry_of_cached (h : d.StockedBy s past)
    (hcached : (p.visit t d).1.response.cached = true) :
    ∃ e, (Visit.last? (Visit.fills t.request.key) past).bind Visit.entry? = some e ∧
      (p.visit t d).1.response = .ofCached e.result ∧
      t.occasion.asked.since e.createdAt ≤ s.ttl := by
  obtain ⟨c, hcache, hstocked⟩ := h
  cases hhit : (c.get t.occasion.asked t.request.key).1 with
  | none =>
    have hmiss : (fromCache t.request t.occasion { d with database := t.database }).1 = none := by
      rw [fromCache, hcache]
      exact hhit
    have huncached : (p.visit t d).1.response.cached = false := cached_eq_false_of_miss hmiss
    rw [huncached] at hcached
    cases hcached
  | some e =>
    obtain ⟨hsource, hage⟩ := hstocked.hit hhit
    exact ⟨e, hsource, congrArg Visit.response (visit_of_hit hcache hhit), hage⟩

theorem stockedBy_visit (h : d.StockedBy s past) :
    (p.visit t d).2.StockedBy s (past ++ [(p.visit t d).1]) := by
  obtain ⟨c, hcache, hstocked⟩ := h
  simp only [visit]
  generalize hd : { d with database := t.database } = d'
  have hcache : d'.cache = some c := by rw [← hd, hcache]
  cases hhit : (fromCache t.request t.occasion d').1 with
  | some e =>
    rw [p.run_of_hit _ _ _ hhit]
    exact ⟨c, hcache, hstocked.passed rfl⟩
  | none =>
    have hget : (fromCache t.request t.occasion d').2.cache =
        some (c.get t.occasion.asked t.request.key).2 := by rw [fromCache, hcache]
    have hstocked := hstocked.get t.occasion.asked t.request.key
    have huncached := cached_eq_false_of_miss (p := p) hhit
    obtain ⟨_, kept, _, -, -, hkeeps⟩ := (p.releases_of_miss _ _ _ hhit).released
    cases hsuccess : (p.run t.request t.occasion d').1.success with
    | false =>
      obtain ⟨-, hleft, -⟩ := hkeeps.failure hsuccess
      refine ⟨_, hleft.trans hget, hstocked.passed ?_⟩
      simp only [Visit.isFresh, hsuccess, Bool.false_and]
    | true =>
      obtain ⟨sql, hsql, -, hleft, -⟩ := hkeeps.success hsuccess
      rw [hget] at hleft
      refine ⟨_, hleft, hstocked.filled ?_ ?_⟩
      · simp only [Visit.isFresh, hsuccess, huncached, Bool.not_false, Bool.and_true]
      · simp only [Visit.entry?, hsql, Option.map_some]

theorem exists_visit_of_visits (h : d.StockedBy s past)
    (hvisits : p.visits ts d = before ++ v :: after) :
    ∃ t d', v = (p.visit t d').1 ∧ d'.StockedBy s (past ++ before) := by
  -- On the turns, for any past: each run adds itself to it.
  induction ts generalizing d past before with
  | nil => simp [visits] at hvisits
  | cons t ts ih =>
    rw [visits] at hvisits
    cases before with
    | nil =>
      obtain ⟨hv, -⟩ := List.cons.inj hvisits
      exact ⟨t, d, hv.symm, by rwa [List.append_nil]⟩
    | cons u before =>
      obtain ⟨rfl, hrest⟩ := List.cons.inj hvisits
      have hvisit := ih (stockedBy_visit h) hrest
      rwa [List.append_assoc] at hvisit

theorem map_request_visits (p : Pipeline μ δ η) (ts : List (Turn δ)) (d : Desk μ δ η) :
    (p.visits ts d).map Visit.request = ts.map Turn.request := by
  induction ts generalizing d with
  | nil => rfl
  | cons t ts ih =>
    rw [visits, List.map_cons, List.map_cons, ih]
    rfl

theorem fromCache_of_empty {r : Request} {o : Occasion} {c : SavedCache} (hcache : d.cache = some c)
    (hempty : c.cache = .empty) : fromCache r o d = (none, d) := by
  have hlookup : c.cache.lookup c.settings o.asked r.key = .missing := by
    rw [hempty, Cache.lookup, Cache.empty, Std.HashMap.getElem?_empty]
  rw [fromCache, hcache]
  simp only [SavedCache.get, hlookup]
  rw [← hcache]

theorem response_visit_of_empty {c : SavedCache} (hcache : d.cache = some c)
    (hempty : c.cache = .empty) : (p.visit t d).1.response =
      (p.runUncached t.request t.occasion { d with database := t.database }).1 := by
  have hfrom := fromCache_of_empty (d := { d with database := t.database }) (r := t.request)
    (o := t.occasion) hcache hempty
  have hmiss : (fromCache t.request t.occasion { d with database := t.database }).1 = none := by
    rw [hfrom]
  rw [visit, p.run_of_miss _ _ _ hmiss, hfrom]

theorem cache_visit_of_empty {c : SavedCache} {sql : String} (hcache : d.cache = some c)
    (hempty : c.cache = .empty) (hsuccess : (p.visit t d).1.response.success = true)
    (hsql : (p.visit t d).1.response.sql = some sql) :
    (p.visit t d).2.cache = some (c.set t.occasion.answered t.request.key
      ((p.visit t d).1.response.cachedResult sql)) := by
  simp only [visit] at hsuccess hsql ⊢
  generalize hd : { d with database := t.database } = d' at hsuccess hsql ⊢
  have hcache : d'.cache = some c := by rw [← hd, hcache]
  have hfrom := fromCache_of_empty (r := t.request) (o := t.occasion) hcache hempty
  have hmiss : (fromCache t.request t.occasion d').1 = none := by rw [hfrom]
  obtain ⟨_, kept, _, -, -, hkeeps⟩ := (p.releases_of_miss _ _ _ hmiss).released
  obtain ⟨sql', hsql', -, hleft, -⟩ := hkeeps.success hsuccess
  obtain rfl : sql' = sql := Option.some.inj (hsql'.symm.trans hsql)
  rw [hleft, hfrom, hcache, Option.map_some]

theorem visit_again {u : Turn δ} {c : SavedCache} {sql : String} (hcache : d.cache = some c)
    (hempty : c.cache = .empty) (hroom : 0 < c.settings.maxEntries)
    (hkey : u.request.key = t.request.key) (hsuccess : (p.visit t d).1.response.success = true)
    (hsql : (p.visit t d).1.response.sql = some sql)
    (hage : u.occasion.asked.since t.occasion.answered ≤ c.settings.ttl) :
    (p.visit u (p.visit t d).2).1 = ⟨u.request, u.occasion, [],
      .ofCached ((p.visit t d).1.response.cachedResult sql)⟩ := by
  have hleft := cache_visit_of_empty (p := p) hcache hempty hsuccess hsql
  rw [← hkey] at hleft
  exact visit_of_hit hleft (SavedCache.get_set_of_empty hempty hroom hage)

end Pipeline

namespace Rehearsal

def turns (r r' : Request) : List (Turn DatabaseScript) :=
  [⟨r, occasion, {}⟩, ⟨r', later, {}⟩]

def answer (d : Desk ModelScript DatabaseScript History) (r : Request) : Response :=
  ((pipeline {}).runUncached r occasion d).1

theorem visits_turns {text summary sql : String} {r r' : Request} (hkey : r'.key = r.key)
    (hsuccess : (answer (stocked text summary) r).success = true)
    (hsql : (answer (stocked text summary) r).sql = some sql) :
    ∃ u, u.request = r ∧ u.response = answer (stocked text summary) r ∧
      (pipeline {}).visits (turns r r') (stocked text summary) =
        [u, ⟨r', later, [], .ofCached ((answer (stocked text summary) r).cachedResult sql)⟩] := by
  have hfirst : ((pipeline {}).visit ⟨r, occasion, {}⟩ (stocked text summary)).1.response =
      answer (stocked text summary) r := Pipeline.response_visit_of_empty (c := {}) rfl rfl
  rw [← hfirst] at hsuccess hsql ⊢
  have hage : later.asked.since occasion.answered ≤ (CacheSettings.ttl {} : Nat) := by decide
  have hagain := Pipeline.visit_again (p := pipeline {}) (d := stocked text summary) (c := {})
    (t := ⟨r, occasion, {}⟩) (u := ⟨r', later, {}⟩) rfl rfl (by decide) hkey hsuccess hsql hage
  refine ⟨_, rfl, rfl, ?_⟩
  rw [turns, Pipeline.visits, Pipeline.visits, Pipeline.visits, hagain]

theorem visits_russian : ∃ u, u.request = request ∧ u.response = answer asking request ∧
    (pipeline {}).visits (turns request russian) asking = [u, ⟨russian, later, [],
      .ofCached ((answer asking request).cachedResult "SELECT name FROM users LIMIT 100")⟩] :=
  visits_turns rfl (by decide +kernel) (by decide +kernel)

theorem summary_answer_asking : (answer asking request).summary = some "Nobody." := by
  decide +kernel

theorem visits_deleting : ∃ u, u.request = writing ∧ u.response = answer deleting writing ∧
    (pipeline {}).visits (turns writing writing) deleting = [u, ⟨writing, later, [],
      .ofCached ((answer deleting writing).cachedResult "DELETE FROM users LIMIT 100")⟩] :=
  visits_turns rfl (by decide +kernel) (by decide +kernel)

end Rehearsal

end AskSql
