import AskSql.Proofs.Pipeline.Run
import AskSql.Rehearsal.Desk

namespace AskSql

def Call.seeksAnswer : Call → Bool
  | .connect | .generate _ | .repair _ | .execute _ => true
  | .disconnect | .summarize _ | .store .. | .record _ => false

namespace Response

def cachedResult (x : Response) (sql : String) : CachedResult :=
  { sql, rows := x.rows, columns := x.columns, summary := x.summary }

def note (x : Response) (r : Request) (o : Occasion) (sql : String) : HistoryNote :=
  { question := r.question, sql, resultCount := x.rows.length, executionTime := some o.elapsedMs }

end Response

theorem Attempt.seeksAnswer_of_mem {a : Attempt} {x : Exchange} (h : x ∈ a.exchanges) :
    x.call.seeksAnswer = true := by
  obtain ⟨asked, reply, ran⟩ := a
  rcases List.mem_cons.1 h with rfl | h
  · cases asked <;> rfl
  · cases ran with
    | none => cases h
    | some ran =>
      cases List.mem_singleton.1 h
      rfl

variable {s : PipelineSettings} {r : Request} {c : Bool} {xs : List Exchange}

theorem Contact.seeksAnswer_of_mem {result : Except QueryError Executed}
    (h : Contact s r c xs result) {x : Exchange} (hx : x ∈ xs) : x.call.seeksAnswer = true := by
  obtain ⟨_, rfl⟩ | ⟨as, a, -, -, -, hx⟩ := h.connect_or_exists_attempt hx
  · rfl
  · exact Attempt.seeksAnswer_of_mem hx

theorem Answered.exists_release {result : Except QueryError (Executed × Option String)}
    (h : Answered s r c xs result) :
    ∃ before, ∃ task : Option SummaryTask,
      xs.map Exchange.call = before ++ .disconnect :: (task.map Call.summarize).toList ∧
      ∀ c ∈ before, c.seeksAnswer = true := by
  have hbefore {ys : List Exchange} {result : Except QueryError Executed}
      (hcontact : Contact s r c ys result) : ∀ c ∈ ys.map Exchange.call, c.seeksAnswer = true := by
    intro c hc
    obtain ⟨x, hx, rfl⟩ := List.mem_map.1 hc
    exact hcontact.seeksAnswer_of_mem hx
  cases h with
  | failed hcontact | cancelled hcontact =>
    exact ⟨_, none, List.map_append, hbefore hcontact⟩
  | @abandoned ys y o hcontact | @summarized ys y o t hcontact =>
    refine ⟨_, some ((View.ofRequest r).summaryTask r y), ?_, hbefore hcontact⟩
    rw [List.map_append, List.map_append, List.append_assoc]
    rfl

variable {μ δ η : Type} (p : Pipeline μ δ η) (r : Request) (o : Occasion) (d : Desk μ δ η)

namespace Pipeline

/-- The calls with which a run on the desk ends, and the desk that it leaves. -/
structure Keeps (x : Response) (calls : List Call) (left : Desk μ δ η) : Prop where
  success : x.success = true → ∃ sql, x.sql = some sql ∧
    calls = (d.cache.map fun _ => .store r.key (x.cachedResult sql)).toList ++
      (p.recorder.map fun _ => .record (x.note r o sql)).toList ∧
    left.cache = d.cache.map (·.set o.answered r.key (x.cachedResult sql)) ∧
    left.history =
      (p.recorder.map fun h => (h.record (x.note r o sql) d.history).2).getD d.history
  failure : x.success = false → calls = [] ∧ left.cache = d.cache ∧ left.history = d.history

theorem keeps_settle (result : Except QueryError (Executed × Option String)) :
    p.Keeps r o d (.ofResult result) (p.settle r o result d).1 (p.settle r o result d).2 := by
  rcases result with e | ⟨x, summary⟩
  · exact ⟨nofun, fun _ => ⟨rfl, rfl, rfl⟩⟩
  · refine ⟨fun _ => ⟨x.sql, rfl, ?_⟩, nofun⟩
    simp only [settle, keep]
    cases d.cache <;> cases p.recorder <;> exact ⟨rfl, rfl, rfl⟩

structure Releases (x : Response) (calls : List Call) (left : Desk μ δ η) : Prop where
  released : ∃ before kept, ∃ task : Option SummaryTask,
    calls = before ++ .disconnect :: (task.map .summarize).toList ++ kept ∧
    (∀ c ∈ before, c.seeksAnswer = true) ∧ p.Keeps r o (fromCache r o d).2 x kept left
  touched : (replay p.model p.database calls (d.model, d.database)).2 =
    (left.model, left.database)

theorem releases_of_miss (h : (fromCache r o d).1 = none) :
    p.Releases r o d (p.run r o d).1 (p.run r o d).2.1 (p.run r o d).2.2 := by
  obtain ⟨xs, result, hruns⟩ := p.exists_runs_of_miss r o d h
  obtain ⟨before, task, hxs, hbefore⟩ := hruns.answered.exists_release
  have hkeeps := p.keeps_settle r o (fromCache r o d).2 result
  constructor
  · refine ⟨before, (p.settle r o result (fromCache r o d).2).1, task, ?_, hbefore, ?_⟩
    · rw [hruns.calls, hxs]
    · rw [hruns.response, hruns.left]
      exact ⟨hkeeps.success, hkeeps.failure⟩
  · rw [hruns.left]

/-- A run answered from the cache touches nothing; any other lets the database go. -/
theorem cached_or_releases :
    (p.run r o d).1.cached = true ∧ (p.run r o d).2 = ([], d) ∨
      (p.run r o d).1.cached = false ∧
        p.Releases r o d (p.run r o d).1 (p.run r o d).2.1 (p.run r o d).2.2 := by
  cases hcache : (fromCache r o d).1 with
  | some e =>
    rw [p.run_of_hit r o d hcache]
    exact .inl ⟨rfl, rfl⟩
  | none =>
    refine .inr ⟨?_, p.releases_of_miss r o d hcache⟩
    obtain ⟨xs, result, hruns⟩ := p.exists_runs_of_miss r o d hcache
    rw [hruns.response]
    cases result <;> rfl

end Pipeline

end AskSql
