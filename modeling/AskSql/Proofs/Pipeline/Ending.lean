import AskSql.Proofs.Pipeline.Progress
import AskSql.Proofs.Pipeline.Undisturbed
import AskSql.Rehearsal.Desk

namespace AskSql

open Attempt

theorem View.exists_generation_of_statement_error {v : View} {result : Except QueryError String}
    {e : QueryError} (h : v.statement result = .error e) : ∃ detail, e = .generation detail := by
  cases result with
  | error e' =>
    cases h
    cases e' <;> exact ⟨_, rfl⟩
  | ok raw =>
    simp only [View.statement] at h
    split at h <;> cases h
    exact ⟨_, rfl⟩

namespace Course

variable {g : Guards} {r : Request} {v : View} {n : Nat} {p : Progress} {as before rest : List Attempt}
  {a : Attempt} {x : Except QueryError Executed}

theorem answered_at (h : Course g r v n p (before ++ a :: rest) x) {s : Statement}
    {output : QueryOutput} (ha : a.answer? = some (s, output)) :
    rest = [] ∧ ∃ wasRepaired, x = .ok ⟨s.sql, output, wasRepaired⟩ := by
  obtain ⟨m, -, hsuffix⟩ := h.suffix
  cases hsuffix with
  | abandoned | unwritten | refused | discarded | cut | failed => cases ha
  | answered =>
    cases ha
    exact ⟨rfl, _, rfl⟩

theorem refused_at (h : Course g r v n p (before ++ a :: rest) x) {reason : String}
    (ha : a.refusal? v r = some reason) :
    rest = [] ∧ (∀ b ∈ before, b.failure? = none) ∧ x = .error (.policyViolation reason) := by
  obtain ⟨m, -, hsuffix⟩ := h.suffix
  -- Behind a failure the text is a repair, and no repair is refused.
  have hbefore : (p.after v before).failed = none := by
    cases hfailed : (p.after v before).failed with
    | none => rfl
    | some f => cases hsuffix <;> simp [refusal?, View.asked, hfailed] at ha
  refine and_left_comm.1 ⟨(Progress.after_failed_eq_none.1 hbefore).2, ?_⟩
  cases hsuffix with
  | abandoned => simp [refusal?, View.asked, hbefore] at ha
  | unwritten hstatement => simp [refusal?, View.asked, hbefore, hstatement] at ha
  | refused hstatement hverdict =>
    obtain ⟨reason', hreason, hrefusal⟩ := Verdict.exists_reason hverdict
    simp only [refusal?, View.asked, hbefore, hstatement, hreason, Option.some.injEq] at ha
    exact ⟨rfl, by rw [hrefusal, ha]⟩
  | discarded _ _ hfailed => cases hbefore.symm.trans hfailed
  | cut hstatement hverdict | answered hstatement hverdict | failed hstatement hverdict =>
    simp [refusal?, View.asked, hbefore, hstatement, Verdict.reason?_of_isAllowed hverdict] at ha

theorem spent_of_no_end (h : Course g r v n p as x) (hcancels : ∀ a ∈ as, a.cancels = false)
    (hanswer : ∀ a ∈ as, a.answer? = none) (hrefusal : ∀ a ∈ as, a.refusal? v r = none) :
    as.length = n ∧ x = .error (p.after v as).failure := by
  induction as generalizing n p with
  | nil =>
    cases h
    exact ⟨rfl, rfl⟩
  | cons a as ih =>
    simp only [List.forall_mem_cons] at hcancels hanswer hrefusal
    obtain ⟨-, hend⟩ | ⟨m, rfl, htail⟩ := h.ends_or_continues
    · simp [hcancels.1, hanswer.1, hrefusal.1] at hend
    · obtain ⟨rfl, rfl⟩ := ih htail hcancels.2 hanswer.2 hrefusal.2
      rw [← Progress.after_cons]
      exact ⟨rfl, rfl⟩

theorem isSome_unwritten (h : Course g r v n {} (a :: rest) x) (hcancels : a.cancels = false)
    (hran : a.ran = none) (hrefusal : a.refusal? v r = none) : (a.unwritten? v).isSome := by
  cases h with
  | abandoned => cases hcancels
  | unwritten hstatement => simp [unwritten?, hstatement]
  | refused hstatement hverdict =>
    obtain ⟨reason, hreason, -⟩ := Verdict.exists_reason hverdict
    simp [refusal?, View.asked, hstatement, hreason] at hrefusal
  | discarded _ _ hfailed => cases hfailed
  | cut | answered | failed => cases hran

end Course

namespace Attempt

variable {v : View} {a : Attempt} {as : List Attempt}

theorem exists_failure (hcancels : a.cancels = false) (hanswer : a.answer? = none)
    (hran : a.ran.isSome) : ∃ f, a.failure? = some f := by
  obtain ⟨asked, reply, ran⟩ := a
  cases ran with
  | none => cases hran
  | some x =>
    obtain ⟨s, ⟨⟨e | output, c⟩⟩ | _⟩ := x
    · exact ⟨_, rfl⟩
    · cases hanswer
    · simp [cancels, exchanges, Exchange.cancels, Reply.cancels] at hcancels

theorem exists_lastFailure {f : Failed} (ha : a ∈ as) (hf : a.failure? = some f) :
    ∃ f', lastFailure as = some f' := by
  rw [← Option.isSome_iff_exists, lastFailure, List.getLast?_isSome]
  exact List.ne_nil_of_mem (List.mem_filterMap.2 ⟨a, ha, hf⟩)

theorem exists_generation_of_unwritten {e : QueryError} (he : a.unwritten? v = some e) :
    ∃ detail, e = .generation detail := by
  obtain ⟨asked, reply, ran⟩ := a
  cases reply with
  | abandoned => cases he
  | finished o =>
    simp only [unwritten?] at he
    cases hstatement : v.statement o.result with
    | ok sql =>
      rw [hstatement] at he
      cases he
    | error e' =>
      rw [hstatement] at he
      cases he
      exact View.exists_generation_of_statement_error hstatement

theorem exists_lastUnwritten {e : QueryError} (ha : a ∈ as) (he : a.unwritten? v = some e) :
    ∃ detail, lastUnwritten v as = some (.generation detail) := by
  have hne : as.filterMap (unwritten? v) ≠ [] :=
    List.ne_nil_of_mem (List.mem_filterMap.2 ⟨a, ha, he⟩)
  obtain ⟨b, -, hb⟩ := List.mem_filterMap.1 (List.getLast_mem hne)
  obtain ⟨detail, hdetail⟩ := exists_generation_of_unwritten hb
  exact ⟨detail, by rw [lastUnwritten, List.getLast?_eq_some_getLast hne, hdetail]⟩

theorem lastFailure_eq_none (h : ∀ a ∈ as, a.ran = none) : lastFailure as = none := by
  rw [lastFailure, List.filterMap_eq_nil_iff.2]
  · rfl
  · intro a ha
    rw [failure?, h a ha]

end Attempt

theorem PipelineSettings.maxAttempts_pos (s : PipelineSettings) : 0 < s.maxAttempts :=
  Nat.lt_min.2 ⟨Nat.succ_pos _, by decide⟩

/-- What a run that nobody cancels makes of its attempts. -/
structure Ending (r : Request) (as : List Attempt) (x : Response) : Prop where
  answered : ∀ before a rest s output, as = before ++ a :: rest → a.answer? = some (s, output) →
    rest = [] ∧ x.success = true ∧ x.sql = some s.sql ∧ x.rows = output.rows ∧
      x.columns = output.columns
  refused : ∀ before a rest reason, as = before ++ a :: rest →
    a.refusal? (.ofRequest r) r = some reason →
    rest = [] ∧ (∀ b ∈ before, b.failure? = none) ∧
      x = { success := false, error := some reason, errorKind := some .policyViolation }
  failed : (∀ a ∈ as, a.answer? = none) → (∀ a ∈ as, a.refusal? (.ofRequest r) r = none) →
    (∃ a ∈ as, a.ran.isSome) → ∃ f, lastFailure as = some f ∧
      x = { success := false, error := some f.error, errorKind := some .execution }
  unwritten : (∀ a ∈ as, a.ran = none) → (∀ a ∈ as, a.refusal? (.ofRequest r) r = none) →
    ∃ e, lastUnwritten (.ofRequest r) as = some e ∧
      x = { success := false, error := some e.message, errorKind := some .generation }

theorem Course.ending {s : PipelineSettings} {r : Request} {as : List Attempt}
    {x : Except QueryError Executed} (h : Course s.guards r (.ofRequest r) s.maxAttempts {} as x)
    (hcancels : ∀ a ∈ as, a.cancels = false) (summary : Option String) :
    Ending r as (.ofResult (x.map (·, summary))) where
  answered := by
    rintro before a rest q output rfl ha
    obtain ⟨hrest, wasRepaired, rfl⟩ := h.answered_at ha
    exact ⟨hrest, rfl, rfl, rfl, rfl⟩
  refused := by
    rintro before a rest reason rfl ha
    obtain ⟨hrest, hbefore, rfl⟩ := h.refused_at ha
    exact ⟨hrest, hbefore, rfl⟩
  failed := by
    rintro hanswer hrefusal ⟨a, ha, hran⟩
    obtain ⟨-, rfl⟩ := h.spent_of_no_end hcancels hanswer hrefusal
    obtain ⟨f, hf⟩ := exists_failure (hcancels a ha) (hanswer a ha) hran
    obtain ⟨f', hlast⟩ := exists_lastFailure ha hf
    refine ⟨f', hlast, ?_⟩
    rw [Progress.after, hlast]
    rfl
  unwritten := by
    intro hran hrefusal
    have hanswer : ∀ a ∈ as, a.answer? = none := by
      intro a ha
      rw [answer?, hran a ha]
    obtain ⟨hlength, rfl⟩ := h.spent_of_no_end hcancels hanswer hrefusal
    -- Nothing has failed before the first attempt, so that it cannot have been discarded.
    obtain ⟨a, rest, rfl⟩ := List.exists_cons_of_length_pos (hlength ▸ s.maxAttempts_pos)
    have ha : a ∈ a :: rest := List.mem_cons_self
    have hunwritten := h.isSome_unwritten (hcancels a ha) (hran a ha) (hrefusal a ha)
    obtain ⟨e, he⟩ := Option.isSome_iff_exists.1 hunwritten
    obtain ⟨detail, hlast⟩ := exists_lastUnwritten ha he
    refine ⟨_, hlast, ?_⟩
    rw [Progress.after, hlast, lastFailure_eq_none hran]
    rfl

/-- A failure shows nothing of a statement, a success no error. -/
structure Response.Consistent (x : Response) : Prop where
  failure : x.success = false → x.sql = none ∧ x.rows = [] ∧ x.columns = [] ∧ x.summary = none
  success : x.success = true → x.error = none ∧ x.errorKind = none

theorem Response.consistent_ofResult (result : Except QueryError (Executed × Option String)) :
    (Response.ofResult result).Consistent := by
  cases result with
  | error e => exact ⟨fun _ => ⟨rfl, rfl, rfl, rfl⟩, nofun⟩
  | ok x => exact ⟨nofun, fun _ => ⟨rfl, rfl⟩⟩

namespace Pipeline

variable {μ δ η : Type} (p : Pipeline μ δ η) (r : Request) (o : Occasion) (d : Desk μ δ η)

theorem consistent_run : (p.run r o d).1.Consistent := by
  cases hcache : (fromCache r o d).1 with
  | some e =>
    rw [p.run_of_hit r o d hcache]
    exact ⟨nofun, fun _ => ⟨rfl, rfl⟩⟩
  | none =>
    obtain ⟨xs, result, hruns⟩ := p.exists_runs_of_miss r o d hcache
    rw [hruns.response]
    exact Response.consistent_ofResult result

theorem consistent_and_ending :
    (p.run r o d).1.Consistent ∧
      (p.Undisturbed r o d → ∃ c : Conversation, p.exchanges r o d = c.exchanges ∧
        Ending r c.attempts (p.run r o d).1) := by
  refine ⟨p.consistent_run r o d, fun h => ?_⟩
  obtain ⟨c, x, summary, hcourse, hexchanges, hresponse⟩ := h.exists_course
  rw [hresponse]
  exact ⟨c, hexchanges, hcourse.ending (fun a ha => h.cancels_eq_false hexchanges ha) summary⟩

theorem consistent_and_ending_unrepaired :
    ((Rehearsal.pipeline {}).run Rehearsal.request Rehearsal.occasion
        Rehearsal.unrepaired).1.error = some "no such column: nam" ∧
      ∃ c : Conversation, (Rehearsal.pipeline {}).exchanges Rehearsal.request Rehearsal.occasion
          Rehearsal.unrepaired = c.exchanges ∧
        Ending Rehearsal.request c.attempts ((Rehearsal.pipeline {}).run Rehearsal.request
          Rehearsal.occasion Rehearsal.unrepaired).1 := by
  refine ⟨by decide +kernel, ?_⟩
  exact (consistent_and_ending _ _ _ _).2 (by decide +kernel)

end Pipeline

end AskSql
