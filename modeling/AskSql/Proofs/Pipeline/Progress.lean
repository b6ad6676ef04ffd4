import AskSql.Proofs.Pipeline.Course

namespace AskSql

namespace Attempt

def lastFailure (as : List Attempt) : Option Failed := (as.filterMap failure?).getLast?

def lastUnwritten (v : View) (as : List Attempt) : Option QueryError :=
  (as.filterMap (unwritten? v)).getLast?

end Attempt

open Attempt

theorem Verdict.exists_reason {w : Verdict} (h : w.isAllowed = false) :
    ∃ reason, w.reason? = some reason ∧ w.refusal = .policyViolation reason := by
  cases w with
  | allowed => cases h
  | forbidden keyword => exact ⟨_, rfl, rfl⟩
  | notAQuery => exact ⟨_, rfl, rfl⟩

theorem Verdict.reason?_of_isAllowed {w : Verdict} (h : w.isAllowed = true) : w.reason? = none := by
  cases w with
  | allowed => rfl
  | forbidden keyword => cases h
  | notAQuery => cases h

theorem getLast?_filterMap_cons_or {α β : Type} (f : α → Option β) (a : α) (as : List α)
    (b : Option β) :
    ((a :: as).filterMap f).getLast?.or b = (as.filterMap f).getLast?.or ((f a).or b) := by
  rw [List.filterMap_cons]
  cases f a with
  | none => rfl
  | some c => cases h : (as.filterMap f).getLast? <;> simp [List.getLast?_cons, h]

namespace Progress

def after (v : View) (p : Progress) (as : List Attempt) : Progress :=
  { failed := (lastFailure as).or p.failed
    generationError := (lastUnwritten v as).or p.generationError }

variable {v : View}

theorem after_cons (p : Progress) (a : Attempt) (as : List Attempt) :
    p.after v (a :: as) = (p.after v [a]).after v as := by
  simp only [after, lastFailure, lastUnwritten, getLast?_filterMap_cons_or]
  rfl

theorem after_singleton (p : Progress) (a : Attempt) :
    p.after v [a] =
      { failed := a.failure?.or p.failed, generationError := (a.unwritten? v).or p.generationError } := by
  simp only [after, lastFailure, lastUnwritten, getLast?_filterMap_cons_or]
  rfl

/-- The first failure is there to stay, if only as one that others have replaced. -/
theorem after_failed_eq_none {p : Progress} {as : List Attempt} :
    (p.after v as).failed = none ↔ p.failed = none ∧ ∀ a ∈ as, a.failure? = none := by
  simp [after, lastFailure, and_comm]

end Progress

namespace Course

variable {g : Guards} {r : Request} {v : View} {n : Nat} {p : Progress} {a : Attempt}
  {before rest : List Attempt} {x : Except QueryError Executed}

theorem ends_or_continues (h : Course g r v n p (a :: rest) x) :
    (rest = [] ∧ (a.cancels = true ∨ a.answer?.isSome ∨ (a.refusal? v r).isSome)) ∨
      ∃ m, n = m + 1 ∧ Course g r v m (p.after v [a]) rest x := by
  cases h with
  | abandoned =>
    refine .inl ⟨rfl, .inl ?_⟩
    cases p.failed <;> rfl
  | refused hstatement hverdict hfailed =>
    obtain ⟨reason, hreason, -⟩ := Verdict.exists_reason hverdict
    refine .inl ⟨rfl, .inr (.inr ?_)⟩
    simp [refusal?, View.asked, hfailed, hstatement, hreason]
  | cut =>
    refine .inl ⟨rfl, .inl ?_⟩
    simp [cancels, exchanges, Exchange.cancels, Reply.cancels]
  | answered => exact .inl ⟨rfl, .inr (.inl rfl)⟩
  | unwritten hstatement hcourse | discarded hstatement _ _ hcourse | failed hstatement _ hcourse =>
    refine .inr ⟨_, rfl, ?_⟩
    simpa [Progress.after_singleton, failure?, unwritten?, hstatement] using hcourse

theorem suffix (h : Course g r v n p (before ++ a :: rest) x) :
    ∃ m, n = before.length + m ∧ Course g r v m (p.after v before) (a :: rest) x := by
  induction before generalizing n p with
  | nil => exact ⟨n, (Nat.zero_add n).symm, h⟩
  | cons b before ih =>
    obtain ⟨hnil, -⟩ | ⟨m, rfl, htail⟩ := h.ends_or_continues
    · simp at hnil
    obtain ⟨k, rfl, hsuffix⟩ := ih htail
    rw [← Progress.after_cons] at hsuffix
    exact ⟨k, by simp only [List.length_cons]; omega, hsuffix⟩

end Course

end AskSql
