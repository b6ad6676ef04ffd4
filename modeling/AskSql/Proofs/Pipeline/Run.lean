import AskSql.Proofs.Pipeline.Answer

namespace AskSql

def Response.ofResult : Except QueryError (Executed × Option String) → Response
  | .error e => .failure e
  | .ok (x, summary) => .ofExecuted x summary

variable {μ δ η : Type}

namespace Pipeline

def settle (p : Pipeline μ δ η) (r : Request) (o : Occasion)
    (result : Except QueryError (Executed × Option String)) (d : Desk μ δ η) :
    List Call × Desk μ δ η :=
  match result with
  | .error _ => ([], d)
  | .ok (x, summary) => p.keep r o x summary d

theorem get_eq_self_of_hit {now : Instant} {key : String} {c : SavedCache} {e : CacheEntry}
    (h : (c.get now key).1 = some e) : (c.get now key).2 = c := by
  unfold SavedCache.get at h ⊢
  cases hlookup : c.cache.lookup c.settings now key <;> simp_all

theorem fromCache_of_hit {r : Request} {o : Occasion} {d : Desk μ δ η} {e : CacheEntry}
    (h : (fromCache r o d).1 = some e) : (fromCache r o d).2 = d := by
  obtain ⟨model, database, history, cache⟩ := d
  cases cache with
  | none => rfl
  | some c =>
    simp only [fromCache] at h ⊢
    rw [get_eq_self_of_hit h]

theorem fromCache_desk (r : Request) (o : Occasion) (d : Desk μ δ η) :
    (fromCache r o d).2 = { d with cache := (fromCache r o d).2.cache } := by
  obtain ⟨model, database, history, cache⟩ := d
  cases cache <;> rfl

variable (p : Pipeline μ δ η) (r : Request) (o : Occasion) (d : Desk μ δ η)

theorem run_of_hit {e : CacheEntry} (h : (fromCache r o d).1 = some e) :
    p.run r o d = (.ofCached e.result, [], d) := by
  have hdesk := fromCache_of_hit h
  rw [run]
  rcases hcache : fromCache r o d with ⟨_ | _, d'⟩ <;> simp_all

theorem run_of_miss (h : (fromCache r o d).1 = none) :
    p.run r o d = p.runUncached r o (fromCache r o d).2 := by
  rw [run]
  rcases hcache : fromCache r o d with ⟨_ | _, d'⟩ <;> simp_all

theorem runUncached_eq (w : Work μ δ) (hw : w = ⟨d.model, d.database, o.cancelled, []⟩) :
    p.runUncached r o d =
      (.ofResult (p.answer r w).1,
        (p.answer r w).2.calls ++ (p.settle r o (p.answer r w).1 d).1,
        { (p.settle r o (p.answer r w).1 d).2 with
          model := (p.answer r w).2.model, database := (p.answer r w).2.database }) := by
  subst hw
  rw [runUncached]
  rcases p.answer r ⟨d.model, d.database, o.cancelled, []⟩ with ⟨_ | ⟨x, summary⟩, w⟩
  · simp [settle, Response.ofResult]
  · simp only [settle, keep, Response.ofResult]
    cases p.recorder <;> rfl

theorem store_or_record_of_mem_settle {result : Except QueryError (Executed × Option String)}
    {c : Call} (h : c ∈ (p.settle r o result d).1) :
    (∃ key kept, c = .store key kept) ∨ ∃ n, c = .record n := by
  rcases result with _ | ⟨x, summary⟩
  · cases h
  · simp only [settle, keep] at h
    cases hcache : d.cache <;> cases hrecorder : p.recorder <;> simp [hcache, hrecorder] at h
    · exact .inr ⟨_, h⟩
    · exact .inl ⟨_, _, h⟩
    · exact h.imp (fun h => ⟨_, _, h⟩) fun h => ⟨_, h⟩

theorem replay_settle (result : Except QueryError (Executed × Option String)) (s : μ × δ) :
    replay p.model p.database (p.settle r o result d).1 s = ([], s) := by
  rcases result with _ | ⟨x, summary⟩
  · rfl
  · simp only [settle, keep]
    cases d.cache <;> cases p.recorder <;> rfl

/-- A run past the cache, told by what was said in it and by its result. -/
structure Runs (xs : List Exchange) (result : Except QueryError (Executed × Option String)) :
    Prop where
  answered : Answered p.settings r o.cancelled xs result
  exchanges : p.exchanges r o d = xs
  response : (p.run r o d).1 = .ofResult result
  calls : (p.run r o d).2.1 = xs.map Exchange.call ++ (p.settle r o result (fromCache r o d).2).1
  left : (p.run r o d).2.2 = { (p.settle r o result (fromCache r o d).2).2 with
    model := (replay p.model p.database (p.run r o d).2.1 (d.model, d.database)).2.1
    database := (replay p.model p.database (p.run r o d).2.1 (d.model, d.database)).2.2 }

theorem exists_runs_of_miss (h : (fromCache r o d).1 = none) :
    ∃ xs result, p.Runs r o d xs result := by
  have hdesk := fromCache_desk r o d
  obtain ⟨xs, hanswered, hheard⟩ := p.exists_answered r ⟨d.model, d.database, o.cancelled, []⟩
  have hrun := p.run_of_miss r o d h
  rw [p.runUncached_eq r o _ ⟨d.model, d.database, o.cancelled, []⟩ (by rw [hdesk]),
    hheard.calls] at hrun
  have hreplay : replay p.model p.database (p.run r o d).2.1 (d.model, d.database) =
      (xs, (p.answer r ⟨d.model, d.database, o.cancelled, []⟩).2.model,
        (p.answer r ⟨d.model, d.database, o.cancelled, []⟩).2.database) := by
    rw [hrun]
    simp only [List.nil_append]
    rw [replay_append, hheard.replay, replay_settle, List.append_nil]
  refine ⟨xs, _, hanswered, ?_, ?_, ?_, ?_⟩
  · rw [exchanges, hreplay]
  · rw [hrun]
  · rw [hrun, List.nil_append]
  · rw [hreplay, hrun]

theorem exists_runs_of_mem_exchanges {x : Exchange} (h : x ∈ p.exchanges r o d) :
    ∃ result, p.Runs r o d (p.exchanges r o d) result := by
  cases hcache : (fromCache r o d).1 with
  | some e =>
    rw [exchanges, p.run_of_hit r o d hcache] at h
    cases h
  | none =>
    obtain ⟨xs, result, hruns⟩ := p.exists_runs_of_miss r o d hcache
    exact ⟨result, hruns.exchanges ▸ hruns⟩

theorem exchanged_or_kept_of_mem {call : Call} (h : call ∈ (p.run r o d).2.1) :
    (∃ xs result, p.Runs r o d xs result ∧ ∃ x ∈ xs, x.call = call) ∨
      (∃ key kept, call = .store key kept) ∨ ∃ n, call = .record n := by
  cases hcache : (fromCache r o d).1 with
  | some e =>
    rw [p.run_of_hit r o d hcache] at h
    cases h
  | none =>
    obtain ⟨xs, result, hruns⟩ := p.exists_runs_of_miss r o d hcache
    rw [hruns.calls] at h
    rcases List.mem_append.1 h with h | h
    · obtain ⟨x, hx, hcall⟩ := List.mem_map.1 h
      exact .inl ⟨xs, result, hruns, x, hx, hcall⟩
    · exact .inr (p.store_or_record_of_mem_settle r o _ h)

end Pipeline

end AskSql
