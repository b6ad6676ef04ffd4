import AskSql.Proofs.Pipeline.Progress
import AskSql.Proofs.Pipeline.Undisturbed
import AskSql.Rehearsal.Desk

namespace AskSql

open Attempt

namespace Course

variable {g : Guards} {r : Request} {v : View} {n : Nat} {p : Progress} {as : List Attempt}

theorem length_le {x : Except QueryError Executed} (h : Course g r v n p as x) : as.length ≤ n := by
  induction h with
  | spent => exact Nat.le_refl 0
  | abandoned | refused | cut | answered => exact Nat.succ_le_succ (Nat.zero_le _)
  | unwritten _ _ ih | discarded _ _ _ _ ih | failed _ _ _ ih => exact Nat.succ_le_succ ih

theorem asked {x : Except QueryError Executed} {before rest : List Attempt} {a : Attempt}
    (h : Course g r v n p (before ++ a :: rest) x) :
    a.asked = v.asked r ((lastFailure before).or p.failed) := by
  obtain ⟨m, -, hsuffix⟩ := h.suffix
  cases hsuffix <;> rfl

theorem length_eq_of_error {e : QueryError} (h : Course g r v n p as (.error e))
    (hkind : e.kind = .execution ∨ e.kind = .generation) : as.length = n := by
  -- The induction needs a variable for the end of the course.
  generalize hx : (Except.error e : Except QueryError Executed) = x at h
  induction h with
  | spent => rfl
  | abandoned | cut =>
    cases hx
    simp [QueryError.kind] at hkind
  | refused =>
    cases hx
    simp [QueryError.kind, Verdict.refusal] at hkind
  | answered => cases hx
  | unwritten _ _ ih | discarded _ _ _ _ ih | failed _ _ _ ih => exact congrArg (· + 1) (ih hx)

theorem wasRepaired_iff {y : Executed} (h : Course g r v n p as (.ok y)) :
    y.wasRepaired = true ↔ p.failed.isSome ∨ ∃ a ∈ as, a.failure?.isSome := by
  generalize hx : (Except.ok y : Except QueryError Executed) = x at h
  induction h with
  | spent | abandoned | refused | cut => cases hx
  | answered =>
    cases hx
    simp [failure?]
  | unwritten _ _ ih | discarded _ _ _ _ ih =>
    rw [ih hx]
    simp [failure?]
  | failed _ _ _ ih =>
    rw [ih hx]
    simp [failure?]

end Course

/-- A text on its way to the model. -/
def Request.shown (r : Request) (s : String) : String :=
  if r.anonymize then (Disguise.ofSchema r.schema).hide s else s

theorem View.hide_ofRequest (r : Request) (s : String) : (View.ofRequest r).hide s = r.shown s := by
  unfold View.ofRequest Request.shown
  cases r.anonymize <;> rfl

/-- What the attempts of a run are, and what its response tells of them. -/
structure Attempted (s : PipelineSettings) (r : Request) (as : List Attempt) (x : Response) :
    Prop where
  length_le : as.length ≤ min (s.maxRepairs + 1) (Width.values 32 - 1)
  asked : ∀ before a rest, as = before ++ a :: rest →
    match lastFailure before with
    | none => ∃ q, a.asked = .inl q
    | some f => ∃ q, a.asked = .inr q ∧ q.failedSql = r.shown f.sql ∧ q.error = r.shown f.error
  spent : x.errorKind = some .execution ∨ x.errorKind = some .generation →
    as.length = min (s.maxRepairs + 1) (Width.values 32 - 1)
  repaired : x.success = true → (x.wasRepaired = true ↔ ∃ a ∈ as, a.failure?.isSome)
  answered : x.success = true → ∃ before a q output, as = before ++ [a] ∧
    a.answer? = some (q, output) ∧ x.sql = some q.sql ∧ x.rows = output.rows ∧
      x.columns = output.columns

theorem Course.attempted {s : PipelineSettings} {r : Request} {as : List Attempt}
    {x : Except QueryError Executed} (h : Course s.guards r (.ofRequest r) s.maxAttempts {} as x)
    (summary : Option String) : Attempted s r as (.ofResult (x.map (·, summary))) where
  length_le := h.length_le
  asked := by
    rintro before a rest rfl
    have hasked := h.asked
    rw [Option.or_none] at hasked
    cases hfailure : lastFailure before with
    | none => exact ⟨_, by rw [hasked, hfailure]; rfl⟩
    | some f =>
      refine ⟨_, by rw [hasked, hfailure]; rfl, ?_, ?_⟩
      · exact View.hide_ofRequest r f.sql
      · exact View.hide_ofRequest r f.error
  spent hkind := by
    cases x with
    | error e =>
      apply h.length_eq_of_error
      simpa [Except.map, Response.ofResult, Response.failure] using hkind
    | ok y => simp [Except.map, Response.ofResult, Response.ofExecuted] at hkind
  repaired hsuccess := by
    cases x with
    | error e => cases hsuccess
    | ok y => exact h.wasRepaired_iff.trans (by simp)
  answered hsuccess := by
    cases x with
    | error e => cases hsuccess
    | ok y =>
      obtain ⟨before, a, q, has, hanswer, hsql⟩ := h.exists_answer
      exact ⟨before, a, q, y.output, has, hanswer, congrArg some hsql.symm, rfl, rfl⟩

namespace Pipeline

/-- Attempts at generation until the first failure, attempts at repair from then on. -/
theorem Undisturbed.exists_attempted {μ δ η : Type} {p : Pipeline μ δ η} {r : Request}
    {o : Occasion} {d : Desk μ δ η} (h : p.Undisturbed r o d) :
    ∃ c : Conversation, p.exchanges r o d = c.exchanges ∧
      Attempted p.settings r c.attempts (p.run r o d).1 := by
  obtain ⟨c, x, summary, hcourse, hexchanges, hresponse⟩ := h.exists_course
  rw [hresponse]
  exact ⟨c, hexchanges, hcourse.attempted summary⟩

theorem Undisturbed.exists_attempted_repaired :
    (Rehearsal.pipeline {}).Undisturbed Rehearsal.request Rehearsal.occasion Rehearsal.repaired ∧
      ∃ c : Conversation, (Rehearsal.pipeline {}).exchanges Rehearsal.request Rehearsal.occasion
          Rehearsal.repaired = c.exchanges ∧
        Attempted {} Rehearsal.request c.attempts ((Rehearsal.pipeline {}).run Rehearsal.request
          Rehearsal.occasion Rehearsal.repaired).1 := by
  have h : (Rehearsal.pipeline {}).Undisturbed Rehearsal.request Rehearsal.occasion
      Rehearsal.repaired := by decide +kernel
  exact ⟨h, h.exists_attempted⟩

end Pipeline

end AskSql
