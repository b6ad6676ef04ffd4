import AskSql.Proofs.Cache.Key
import AskSql.Proofs.Pipeline.Safety
import AskSql.Proofs.Pipeline.Visits

/-!
Where the answer of a run comes from.

Each answer is that of one run past the cache: of the run itself, or of the last one under its key. The
key tells neither the locale of a request nor whether its statement wrote anything, so that an answer
from the cache has the locale of its source, and stands for what its source has done.
-/

namespace AskSql

namespace Visit

/-- The run that the answer of a visit comes from: the visit itself, or the last that filled its key,
if that is not too long ago. -/
inductive Source (s : CacheSettings) (before : List Visit) (v : Visit) : Visit → Prop
  | itself : v.response.cached = false → Source s before v v
  | stored : v.response.cached = true → last? (fills v.request.key) before = some u →
      v.occasion.asked.since u.occasion.answered ≤ s.ttl → Source s before v u

def answers (r : Request) (v : Visit) : Bool := v.isFresh && decide (v.request.Matches r)

end Visit

structure Response.Repeats (x y : Response) : Prop where
  success : x.success = y.success
  sql : x.sql = y.sql
  rows : x.rows = y.rows
  columns : x.columns = y.columns
  summary : x.summary = y.summary

variable {s : PipelineSettings} {r : Request} {c : Bool} {xs : List Exchange} {x : Executed}
  {summary : Option String}

theorem Course.exists_executed {g : Guards} {v : View} {n : Nat} {p : Progress} {as : List Attempt}
    (h : Course g r v n p as (.ok x)) :
    ∃ a ∈ as, ∃ q c, a.ran = some (q, .finished ⟨.ok x.output, c⟩) ∧ q.sql = x.sql := by
  obtain ⟨before, a, q, rfl, hanswer, hsql⟩ := h.exists_answer
  obtain ⟨c, hran⟩ := Attempt.ran_of_answer? hanswer
  exact ⟨a, List.mem_concat_self, q, c, hran, hsql⟩

theorem Contact.exists_executed (h : Contact s r c xs (.ok x)) :
    ∃ q c', .execute q (.finished ⟨.ok x.output, c'⟩) ∈ xs ∧ q.sql = x.sql := by
  cases h with
  | connected hcourse =>
    obtain ⟨a, ha, q, c', hran, hsql⟩ := hcourse.exists_executed
    have hmem : Exchange.execute q (.finished ⟨.ok x.output, c'⟩) ∈ a.exchanges := by
      simp [Attempt.exchanges, hran]
    exact ⟨q, c', List.mem_cons_of_mem _ (List.mem_flatMap.2 ⟨a, ha, hmem⟩), hsql⟩

theorem Answered.contact_and_summarize (h : Answered s r c xs (.ok (x, summary))) :
    ∃ ys t, Contact s r c ys (.ok x) ∧ ys ⊆ xs ∧
      .summarize ((View.ofRequest r).summaryTask r x) (.finished t) ∈ xs ∧
      summary = (View.ofRequest r).summary t.result := by
  cases h with
  | summarized hcontact =>
    refine ⟨_, _, hcontact, ?_, by simp, rfl⟩
    rw [List.append_assoc]
    exact List.subset_append_left ..

theorem Answered.exists_executed (h : Answered s r c xs (.ok (x, summary))) :
    ∃ q c, .execute q (.finished ⟨.ok x.output, c⟩) ∈ xs ∧ q.sql = x.sql := by
  obtain ⟨ys, _, hcontact, hsub, -⟩ := h.contact_and_summarize
  obtain ⟨q, c, hmem, hsql⟩ := hcontact.exists_executed
  exact ⟨q, c, hsub hmem, hsql⟩

theorem Answered.exists_summarized {result : Except QueryError (Executed × Option String)}
    (h : Answered s r c xs result) {task : SummaryTask} {reply : Reply String}
    (hmem : .summarize task reply ∈ xs) :
    ∃ ys x, Contact s r c ys (.ok x) ∧ ys ⊆ xs ∧ task = (View.ofRequest r).summaryTask r x ∧
      ∀ t, reply = .finished t → result = .ok (x, (View.ofRequest r).summary t.result) := by
  have hcontact {ys : List Exchange} {result : Except QueryError Executed}
      (hcontact : Contact s r c ys result) : .summarize task reply ∉ ys := by
    intro hmem
    have hseeks := hcontact.seeksAnswer_of_mem hmem
    cases hseeks
  cases h with
  | failed h | cancelled h => simp [hcontact h] at hmem
  | abandoned h | summarized h =>
    simp only [List.mem_append, hcontact h, List.mem_singleton, reduceCtorEq, false_or,
      Exchange.summarize.injEq] at hmem
    obtain ⟨rfl, rfl⟩ := hmem
    refine ⟨_, _, h, ?_, rfl, fun t ht => by cases ht <;> rfl⟩
    rw [List.append_assoc]
    exact List.subset_append_left ..

theorem Answered.locale_eq_of_summarize_mem {result : Except QueryError (Executed × Option String)}
    (h : Answered s r c xs result) {task : SummaryTask} {reply : Reply String}
    (hmem : .summarize task reply ∈ xs) : task.locale = r.locale := by
  obtain ⟨_, _, -, -, rfl, -⟩ := h.exists_summarized hmem
  rfl

theorem View.ofRequest_of_anonymize (h : r.anonymize = true) :
    View.ofRequest r = ⟨r.schema.disguised, some (Disguise.ofSchema r.schema)⟩ := by
  rw [ofRequest, if_pos h]

theorem View.exists_of_summary {v : View} {answer : Except QueryError String} {text : String}
    (h : v.summary answer = some text) : ∃ raw, answer = .ok raw ∧ text = v.reveal raw := by
  cases answer with
  | error e => cases h
  | ok raw =>
    rw [View.summary] at h
    split at h
    · cases h
    · exact ⟨raw, rfl, (Option.some.inj h).symm⟩

namespace Pipeline

variable {μ δ η : Type} (p : Pipeline μ δ η)

theorem exists_summarized {p : Pipeline μ δ η} {o : Occasion} {d : Desk μ δ η} {task : SummaryTask}
    {reply : Reply String} (h : .summarize task reply ∈ p.exchanges r o d) :
    ∃ x q c, .execute q (.finished ⟨.ok x.output, c⟩) ∈ p.exchanges r o d ∧
      task = (View.ofRequest r).summaryTask r x ∧ ∀ t, reply = .finished t →
        (p.run r o d).1 = .ofExecuted x ((View.ofRequest r).summary t.result) := by
  obtain ⟨result, hruns⟩ := p.exists_runs_of_mem_exchanges r o d h
  obtain ⟨ys, x, hcontact, hsub, htask, hresult⟩ := hruns.answered.exists_summarized h
  obtain ⟨q, c, hexecute, -⟩ := hcontact.exists_executed
  refine ⟨x, q, c, hsub hexecute, htask, fun t ht => ?_⟩
  rw [hruns.response, hresult t ht]
  rfl

section

variable {p} {ts : List (Turn δ)} {d : Desk μ δ η} {before after : List Visit} {v : Visit}

theorem isHeard_of_fresh {u : Visit} (hu : u ∈ p.visits ts d) (hfresh : u.isFresh = true) :
    u.IsHeard p.settings := by
  induction ts generalizing d with
  | nil => cases hu
  | cons t ts ih =>
    rcases List.mem_cons.1 hu with rfl | hu
    · simp only [Visit.isFresh, Bool.and_eq_true, Bool.not_eq_true'] at hfresh
      exact isHeard_visit hfresh.2
    · exact ih hu

theorem exists_source {c : SavedCache} (hcache : d.cache = some c) (hempty : c.cache = .empty)
    (hvisits : p.visits ts d = before ++ v :: after) :
    ∃ u, Visit.Source c.settings before v u ∧ u.IsHeard p.settings ∧
      v.response.Repeats u.response ∧ (v.response.cached = true → v.response.wasRepaired = false) := by
  obtain ⟨t, d', hv, hstocked⟩ := exists_visit_of_visits ⟨c, hcache, .empty hempty⟩ hvisits
  rw [List.nil_append] at hstocked
  cases hcached : v.response.cached with
  | false =>
    refine ⟨v, .itself hcached, ?_, ⟨rfl, rfl, rfl, rfl, rfl⟩, nofun⟩
    subst hv
    exact isHeard_visit hcached
  | true =>
    rw [hv] at hcached
    obtain ⟨e, hsource, hresponse, hage⟩ := exists_entry_of_cached hstocked hcached
    rw [← hv] at hcached hresponse
    obtain ⟨u, hlast, hentry⟩ := Option.bind_eq_some_iff.1 hsource
    obtain ⟨sql, hsql, rfl⟩ := Option.map_eq_some_iff.1 hentry
    obtain ⟨hmem, hfills⟩ := Visit.mem_of_last? hlast
    obtain ⟨hfresh, -⟩ := Bool.and_eq_true_iff.1 hfills
    obtain ⟨hsuccess, -⟩ := Bool.and_eq_true_iff.1 hfresh
    have hu : u ∈ p.visits ts d := hvisits ▸ List.mem_append_left _ hmem
    refine ⟨u, ?_, isHeard_of_fresh hu hfresh, ?_, fun _ => by rw [hresponse]; rfl⟩
    · subst hv
      exact .stored hcached hlast hage
    · rw [hresponse]
      exact ⟨hsuccess.symm, hsql.symm, rfl, rfl, rfl⟩

theorem exists_answered_source {c : SavedCache} (hcache : d.cache = some c) (hempty : c.cache = .empty)
    (hvisits : p.visits ts d = before ++ v :: after) (hsuccess : v.response.success = true) :
    ∃ u x summary, Visit.Source c.settings before v u ∧
      Answered p.settings u.request u.occasion.cancelled u.exchanges (.ok (x, summary)) ∧
      v.response.sql = some x.sql ∧ v.response.summary = summary := by
  obtain ⟨u, hsource, ⟨result, hanswered, hresponse⟩, hrepeats, -⟩ :=
    exists_source hcache hempty hvisits
  rw [hrepeats.success, hresponse] at hsuccess
  cases result with
  | error e => cases hsuccess
  | ok x =>
    refine ⟨u, x.1, x.2, hsource, hanswered, ?_, ?_⟩
    · rw [hrepeats.sql, hresponse]
      rfl
    · rw [hrepeats.summary, hresponse]
      rfl

theorem last?_fills_eq (hdistinct : Request.Distinguished (ts.map Turn.request))
    (hvisits : p.visits ts d = before ++ v :: after) :
    Visit.last? (Visit.fills v.request.key) before =
      Visit.last? (Visit.answers v.request) before := by
  have hrequest {u : Visit} (hu : u ∈ p.visits ts d) : u.request ∈ ts.map Turn.request := by
    rw [← p.map_request_visits ts d]
    exact List.mem_map_of_mem hu
  have hv : v.request ∈ ts.map Turn.request := hrequest (by simp [hvisits])
  apply congrArg List.getLast?
  apply List.filter_congr
  intro u hu
  have hu : u.request ∈ ts.map Turn.request := hrequest (hvisits ▸ List.mem_append_left _ hu)
  have hkey : (u.request.key == v.request.key) = decide (u.request.Matches v.request) := by
    rw [Bool.eq_iff_iff, beq_iff_eq, decide_eq_true_iff]
    exact ⟨hdistinct.matches_of_key_eq hu hv, Request.Matches.key_eq⟩
  rw [Visit.fills, Visit.answers, hkey]

end

/-- An answer from the cache repeats that of the last run past it for a request that matches. -/
theorem exists_latest_of_cached (ts : List (Turn δ)) (d : Desk μ δ η) {c : SavedCache}
    (hcache : d.cache = some c) (hempty : c.cache = .empty)
    (hdistinct : Request.Distinguished (ts.map Turn.request)) {before after : List Visit} {v : Visit}
    (hvisits : p.visits ts d = before ++ v :: after) (hcached : v.response.cached = true) :
    ∃ u, Visit.last? (Visit.answers v.request) before = some u ∧
      v.response.Repeats u.response ∧ v.response.wasRepaired = false ∧
      v.occasion.asked.since u.occasion.answered ≤ c.settings.ttl := by
  obtain ⟨u, hsource, -, hrepeats, hrepaired⟩ := exists_source hcache hempty hvisits
  cases hsource with
  | itself huncached =>
    rw [hcached] at huncached
    cases huncached
  | stored _ hlast hage =>
    rw [last?_fills_eq hdistinct hvisits] at hlast
    exact ⟨u, hlast, hrepeats, hrepaired hcached, hage⟩

theorem exists_latest_of_cached_russian :
    let turns := Rehearsal.turns Rehearsal.request Rehearsal.russian
    Request.Distinguished (turns.map Turn.request) ∧
      ∃ u v, (Rehearsal.pipeline {}).visits turns Rehearsal.asking = [u, v] ∧
        v.response.cached = true ∧
        ∃ u', Visit.last? (Visit.answers v.request) [u] = some u' ∧
          v.response.Repeats u'.response ∧ v.response.wasRepaired = false ∧
          v.occasion.asked.since u'.occasion.answered ≤ CacheSettings.ttl {} := by
  intro turns
  have hdistinct : Request.Distinguished (turns.map Turn.request) := by
    have hmaterial : ∀ r ∈ turns.map Turn.request,
        r.keyMaterial = Rehearsal.request.keyMaterial := by
      intro r hr
      obtain rfl | rfl : r = Rehearsal.request ∨ r = Rehearsal.russian := by
        simpa [turns, Rehearsal.turns] using hr
      · rfl
      · rfl
    constructor
    · decide +kernel
    · intro r hr r' hr' _
      rw [hmaterial r hr, hmaterial r' hr']
  obtain ⟨u, -, -, hvisits⟩ := Rehearsal.visits_russian
  exact ⟨hdistinct, u, _, hvisits, rfl, exists_latest_of_cached _ turns _ (c := {}) rfl rfl hdistinct
    (show _ = [u] ++ _ :: [] from hvisits) rfl⟩

/-- A statement that a reader may not run was run by the source of the answer, which was allowed to
write. -/
theorem exists_executed_of_write (ts : List (Turn δ)) (d : Desk μ δ η) {c : SavedCache}
    (hcache : d.cache = some c) (hempty : c.cache = .empty) {before after : List Visit} {v : Visit}
    (hvisits : p.visits ts d = before ++ v :: after) (hsuccess : v.response.success = true)
    {sql : String} (hsql : v.response.sql = some sql)
    (hwrite : (Policy.readOnly.judge sql).isAllowed = false) :
    ∃ u, Visit.Source c.settings before v u ∧ u.request.readOnly = false ∧
      ∃ q output cancels, .execute q (.finished ⟨.ok output, cancels⟩) ∈ u.exchanges ∧
        q.sql = sql := by
  obtain ⟨u, x, summary, hsource, hanswered, hx, -⟩ :=
    exists_answered_source hcache hempty hvisits hsuccess
  obtain rfl : x.sql = sql := Option.some.inj (hx.symm.trans hsql)
  obtain ⟨q, cancels, hmem, hq⟩ := hanswered.exists_executed
  obtain ⟨text, hallowed, hlimit⟩ := hanswered.exists_allowed_of_execute_mem hmem
  refine ⟨u, hsource, ?_, q, x.output, cancels, hmem, hq⟩
  -- A request that only reads would have run nothing but what a reader may run.
  cases hreadOnly : u.request.readOnly with
  | false => rfl
  | true =>
    have hjudge : Policy.readOnly.judge x.sql = u.request.policy.judge text := by
      rw [← hq, hlimit, Request.policy, hreadOnly]
      exact judge_ensureLimit ..
    rw [hjudge, hallowed] at hwrite
    cases hwrite

theorem exists_executed_of_write_deletion :
    ∃ u v, (Rehearsal.pipeline {}).visits (Rehearsal.turns Rehearsal.writing Rehearsal.writing)
        Rehearsal.deleting = [u, v] ∧
      v.response.success = true ∧ v.response.sql = some "DELETE FROM users LIMIT 100" ∧
      (Policy.readOnly.judge "DELETE FROM users LIMIT 100").isAllowed = false ∧
      ∃ u', Visit.Source {} [u] v u' ∧ u'.request.readOnly = false ∧
        ∃ q output cancels, .execute q (.finished ⟨.ok output, cancels⟩) ∈ u'.exchanges ∧
          q.sql = "DELETE FROM users LIMIT 100" := by
  have hwrite : (Policy.readOnly.judge "DELETE FROM users LIMIT 100").isAllowed = false := by
    decide +kernel
  obtain ⟨u, -, -, hvisits⟩ := Rehearsal.visits_deleting
  exact ⟨u, _, hvisits, rfl, rfl, hwrite, exists_executed_of_write _ _ _ (c := {}) rfl rfl
    (show _ = [u] ++ _ :: [] from hvisits) rfl rfl hwrite⟩

/-- Asked for again, a deletion is reported as done although nothing is deleted. -/
theorem not_executed_of_write_deletion :
    ¬ ∀ before v after, (Rehearsal.pipeline {}).visits
        (Rehearsal.turns Rehearsal.writing Rehearsal.writing)
        Rehearsal.deleting = before ++ v :: after →
      v.response.success = true → ∀ sql, v.response.sql = some sql →
      (Policy.readOnly.judge sql).isAllowed = false →
      ∃ q reply, .execute q reply ∈ v.exchanges ∧ q.sql = sql := by
  intro h
  obtain ⟨u, -, -, hvisits⟩ := Rehearsal.visits_deleting
  obtain ⟨q, reply, hmem, -⟩ := h [u] _ [] hvisits rfl _ rfl (by decide +kernel)
  cases hmem

/-- A summary was written for the source of the answer, in the locale of that request. -/
theorem exists_summarize_of_summary (ts : List (Turn δ)) (d : Desk μ δ η) {c : SavedCache}
    (hcache : d.cache = some c) (hempty : c.cache = .empty) {before after : List Visit} {v : Visit}
    (hvisits : p.visits ts d = before ++ v :: after) (hsuccess : v.response.success = true)
    {text : String} (hsummary : v.response.summary = some text) :
    ∃ u, Visit.Source c.settings before v u ∧
      ∃ task raw cancels, .summarize task (.finished ⟨.ok raw, cancels⟩) ∈ u.exchanges ∧
        task.locale = u.request.locale ∧ text = (View.ofRequest u.request).reveal raw := by
  obtain ⟨u, x, summary, hsource, hanswered, -, hx⟩ :=
    exists_answered_source hcache hempty hvisits hsuccess
  obtain ⟨_, ⟨answer, cancels⟩, -, -, hmem, rfl⟩ := hanswered.contact_and_summarize
  obtain ⟨raw, rfl, htext⟩ := View.exists_of_summary (hx.symm.trans hsummary)
  exact ⟨u, hsource, _, raw, cancels, hmem, rfl, htext⟩

theorem exists_summarize_of_summary_russian :
    ∃ u v, (Rehearsal.pipeline {}).visits (Rehearsal.turns Rehearsal.request Rehearsal.russian)
        Rehearsal.asking = [u, v] ∧
      v.response.success = true ∧ v.response.summary = some "Nobody." ∧
      ∃ u', Visit.Source {} [u] v u' ∧
        ∃ task raw cancels, .summarize task (.finished ⟨.ok raw, cancels⟩) ∈ u'.exchanges ∧
          task.locale = u'.request.locale ∧ "Nobody." = (View.ofRequest u'.request).reveal raw := by
  obtain ⟨u, -, -, hvisits⟩ := Rehearsal.visits_russian
  exact ⟨u, _, hvisits, rfl, Rehearsal.summary_answer_asking,
    exists_summarize_of_summary _ _ _ (c := {}) rfl rfl (show _ = [u] ++ _ :: [] from hvisits) rfl
      Rehearsal.summary_answer_asking⟩

/-- Asked for in Russian, a question is answered with the summary that was written in English. -/
theorem not_summarize_of_summary_russian :
    ¬ ∀ before v after, (Rehearsal.pipeline {}).visits
        (Rehearsal.turns Rehearsal.request Rehearsal.russian)
        Rehearsal.asking = before ++ v :: after →
      v.response.success = true → ∀ text, v.response.summary = some text →
      ∃ u ∈ before ++ [v], ∃ task raw cancels,
        .summarize task (.finished ⟨.ok raw, cancels⟩) ∈ u.exchanges ∧
        task.locale = v.request.locale ∧ text = (View.ofRequest u.request).reveal raw := by
  intro h
  obtain ⟨u, hrequest, hresponse, hvisits⟩ := Rehearsal.visits_russian
  obtain ⟨u', hu', task, raw, cancels, hmem, hlocale, -⟩ :=
    h [u] _ [] hvisits rfl _ Rehearsal.summary_answer_asking
  rcases List.mem_append.1 hu' with hu' | hu'
  · -- The first run has been asked in English, and has asked in English.
    obtain rfl := List.mem_singleton.1 hu'
    have hfresh : u'.isFresh = true := by
      rw [Visit.isFresh, hresponse]
      decide +kernel
    obtain ⟨_, hanswered, -⟩ := isHeard_of_fresh (hvisits ▸ List.mem_cons_self) hfresh
    rw [hanswered.locale_eq_of_summarize_mem hmem, hrequest] at hlocale
    exact absurd hlocale (by decide)
  · obtain rfl := List.mem_singleton.1 hu'
    cases hmem

end Pipeline

end AskSql
