import AskSql.Proofs.Pipeline.Determined
import AskSql.Proofs.Pipeline.Run
import AskSql.Rehearsal.Desk

/-!
What a private request tells the model of the rows.

A run looks into the rows for the summarizer only, and a private request shows it none. With their
cells blanked out, its exchanges are therefore again those of an answer, and this one is determined by
what is left of the rows: how many they are, and how their columns are called.
-/

namespace AskSql

structure Outline where
  rowCount : Nat
  columns : List String
  deriving DecidableEq

deriving instance DecidableEq for Outcome, Reply, Report

instance {α : Type} [DecidableEq α] (l m : List α) : Decidable (Agree l m) :=
  inferInstanceAs (Decidable (_ ∨ _))

def QueryOutput.outline (o : QueryOutput) : Outline := ⟨o.rows.length, o.columns⟩

def Outline.output (l : Outline) : QueryOutput := ⟨List.replicate l.rowCount .empty, l.columns⟩

def QueryOutput.blank (o : QueryOutput) : QueryOutput := o.outline.output

def Executed.blank (x : Executed) : Executed := { x with output := x.output.blank }

def Attempt.blank (a : Attempt) : Attempt :=
  { a with ran := a.ran.map fun x => (x.1, x.2.map QueryOutput.blank) }

def Report.map {α β : Type} (f : α → β) : Report α → Report β
  | .connected reply => .connected reply
  | .executed reply => .executed (reply.map f)
  | .disconnected outcome => .disconnected outcome

def outlines (xs : List Exchange) : List (Report Outline) :=
  (reports xs).map (Report.map QueryOutput.outline)

namespace Exchange

def blank : Exchange → Exchange
  | .execute s reply => .execute s (reply.map QueryOutput.blank)
  | .connect reply => .connect reply
  | .disconnect outcome => .disconnect outcome
  | .generate g reply => .generate g reply
  | .repair q reply => .repair q reply
  | .summarize t reply => .summarize t reply

theorem call_blank (x : Exchange) : x.blank.call = x.call := by cases x <;> rfl

theorem cancels_blank (x : Exchange) : x.blank.cancels = x.cancels := by
  cases x with
  | execute s reply => cases reply <;> rfl
  | _ => rfl

theorem report?_blank (x : Exchange) :
    x.blank.report? = x.report?.map (Report.map QueryOutput.blank) := by cases x <;> rfl

theorem any_cancels_blank (xs : List Exchange) :
    (xs.map blank).any cancels = xs.any cancels := by
  rw [List.any_map]
  exact congrArg xs.any (funext cancels_blank)

end Exchange

theorem Attempt.exchanges_blank (a : Attempt) : a.blank.exchanges = a.exchanges.map Exchange.blank := by
  obtain ⟨asked, reply, ran⟩ := a
  cases asked <;> cases ran <;> rfl

theorem flatMap_exchanges_blank (as : List Attempt) :
    (as.flatMap Attempt.exchanges).map Exchange.blank =
      (as.map Attempt.blank).flatMap Attempt.exchanges := by
  rw [List.map_flatMap, List.flatMap_map]
  exact congrArg (as.flatMap ·) (funext fun a => a.exchanges_blank.symm)

theorem Report.map_blank (x : Report QueryOutput) :
    x.map QueryOutput.blank = (x.map QueryOutput.outline).map Outline.output := by
  cases x with
  | executed reply => rcases reply with ⟨⟨_ | _, _⟩⟩ | _ <;> rfl
  | connected | disconnected => rfl

theorem reports_blank (xs : List Exchange) :
    reports (xs.map Exchange.blank) = (outlines xs).map (Report.map Outline.output) := by
  rw [outlines, reports, reports, List.filterMap_map, List.map_map, List.map_filterMap]
  refine congrArg (xs.filterMap ·) (funext fun x => ?_)
  rw [Function.comp_apply, Exchange.report?_blank]
  exact congrArg (x.report?.map ·) (funext Report.map_blank)

theorem ModelPeer.speaks_blank {μ : Type} {model : ModelPeer μ} {xs : List Exchange} {m : μ} :
    model.Speaks (xs.map Exchange.blank) m ↔ model.Speaks xs m := by
  induction xs generalizing m with
  | nil => rfl
  | cons x xs ih => cases x <;> exact and_congr_right fun _ => ih

variable {s : PipelineSettings} {r : Request} {c : Bool} {xs xs' : List Exchange}

theorem Course.blank {g : Guards} {v : View} {n : Nat} {p : Progress} {as : List Attempt}
    {x : Except QueryError Executed} (h : Course g r v n p as x) :
    Course g r v n p (as.map Attempt.blank) (x.map Executed.blank) := by
  induction h with
  | spent => exact .spent
  | abandoned => exact .abandoned
  | unwritten hstatement _ ih => exact .unwritten hstatement ih
  | refused hstatement hverdict hfailed => exact .refused hstatement hverdict hfailed
  | discarded hstatement hverdict hfailed _ ih => exact .discarded hstatement hverdict hfailed ih
  | cut hstatement hverdict => exact .cut hstatement hverdict
  | answered hstatement hverdict => exact .answered hstatement hverdict
  | failed hstatement hverdict _ ih => exact .failed hstatement hverdict ih

theorem Contact.blank {x : Except QueryError Executed} (h : Contact s r c xs x) :
    Contact s r c (xs.map Exchange.blank) (x.map Executed.blank) := by
  cases h with
  | cancelled => exact .cancelled
  | abandoned => exact .abandoned
  | unconnected => exact .unconnected
  | connected hcourse =>
    rw [List.map_cons, flatMap_exchanges_blank]
    exact .connected hcourse.blank

theorem View.summaryTask_blank (v : View) (hprivate : r.privacy = true) (x : Executed) :
    v.summaryTask r x.blank = v.summaryTask r x := by
  simp [summaryTask, hprivate, Executed.blank, QueryOutput.blank, QueryOutput.outline,
    Outline.output]

theorem Answered.blank (hprivate : r.privacy = true)
    {result : Except QueryError (Executed × Option String)} (h : Answered s r c xs result) :
    Answered s r c (xs.map Exchange.blank) (result.map fun y => (y.1.blank, y.2)) := by
  cases h with
  | failed hcontact =>
    rw [List.map_append]
    exact .failed hcontact.blank
  | cancelled hcontact hcancelled =>
    rw [← Exchange.any_cancels_blank, List.map_append] at hcancelled
    rw [List.map_append]
    exact .cancelled hcontact.blank hcancelled
  | abandoned hcontact hcancelled =>
    rw [← Exchange.any_cancels_blank, List.map_append] at hcancelled
    rw [List.map_append, List.map_append, ← View.summaryTask_blank _ hprivate]
    exact .abandoned hcontact.blank hcancelled
  | summarized hcontact hcancelled =>
    rw [← Exchange.any_cancels_blank, List.map_append] at hcancelled
    rw [List.map_append, List.map_append, ← View.summaryTask_blank _ hprivate]
    exact .summarized hcontact.blank hcancelled

/-- But for their cells, private answers come apart only where their databases do. -/
theorem Answered.blank_unique {μ : Type} {model : ModelPeer μ} {m : μ} (hprivate : r.privacy = true)
    {result result' : Except QueryError (Executed × Option String)} (h : Answered s r c xs result)
    (h' : Answered s r c xs' result') (hspeaks : model.Speaks xs m) (hspeaks' : model.Speaks xs' m)
    (hagree : Agree (outlines xs) (outlines xs')) :
    xs.map Exchange.blank = xs'.map Exchange.blank ∧
      result.map (fun y => (y.1.blank, y.2)) = result'.map fun y => (y.1.blank, y.2) := by
  apply (h.blank hprivate).unique (h'.blank hprivate) (ModelPeer.speaks_blank.2 hspeaks)
    (ModelPeer.speaks_blank.2 hspeaks')
  rw [reports_blank, reports_blank]
  exact hagree.map _

def Call.asksModel : Call → Bool
  | .generate _ | .repair _ | .summarize _ => true
  | .connect | .disconnect | .execute _ | .store .. | .record _ => false

namespace Pipeline

variable {μ δ δ' η η' : Type}

def asked (p : Pipeline μ δ η) (r : Request) (o : Occasion) (d : Desk μ δ η) : List Call :=
  (p.run r o d).2.1.filter Call.asksModel

section

variable {p : Pipeline μ δ η} {r : Request} {o : Occasion} {d : Desk μ δ η}
  {result : Except QueryError (Executed × Option String)}

theorem Runs.asked_eq (h : p.Runs r o d xs result) :
    p.asked r o d = ((xs.map Exchange.blank).map Exchange.call).filter Call.asksModel := by
  have hkept : (p.settle r o result (fromCache r o d).2).1.filter Call.asksModel = [] := by
    apply List.filter_eq_nil_iff.2
    intro call hcall
    obtain ⟨_, _, rfl⟩ | ⟨_, rfl⟩ := p.store_or_record_of_mem_settle r o _ hcall <;> exact nofun
  have hcalls : (xs.map Exchange.blank).map Exchange.call = xs.map Exchange.call := by
    rw [List.map_map]
    exact congrArg (xs.map ·) (funext Exchange.call_blank)
  rw [asked, h.calls, List.filter_append, hkept, List.append_nil, hcalls]

theorem Runs.speaks (h : p.Runs r o d xs result) : p.model.Speaks xs d.model := by
  rw [← h.exchanges]
  exact ModelPeer.speaks_replay ..

theorem Runs.summary_eq (h : p.Runs r o d xs result) : (p.run r o d).1.summary =
    (Response.ofResult (result.map fun y => (y.1.blank, y.2))).summary := by
  rw [h.response]
  cases result <;> rfl

end

/-- The cells that the database finds for a private request change neither what the model is asked
nor the summary. -/
theorem asked_eq_of_private (p : Pipeline μ δ η) (p' : Pipeline μ δ' η')
    (hsettings : p.settings = p'.settings) (hmodel : p.model = p'.model) (r : Request)
    (hprivate : r.privacy = true) (o o' : Occasion) (hcancelled : o.cancelled = o'.cancelled)
    (d : Desk μ δ η) (d' : Desk μ δ' η') (hstate : d.model = d'.model)
    (hmiss : (fromCache r o d).1 = none) (hmiss' : (fromCache r o' d').1 = none)
    (hagree : Agree (outlines (p.exchanges r o d)) (outlines (p'.exchanges r o' d'))) :
    p.asked r o d = p'.asked r o' d' ∧ (p.run r o d).1.summary = (p'.run r o' d').1.summary := by
  obtain ⟨xs, result, hruns⟩ := p.exists_runs_of_miss r o d hmiss
  obtain ⟨xs', result', hruns'⟩ := p'.exists_runs_of_miss r o' d' hmiss'
  have hanswered := hruns.answered
  have hspeaks := hruns.speaks
  rw [hsettings, hcancelled] at hanswered
  rw [hmodel, hstate] at hspeaks
  rw [hruns.exchanges, hruns'.exchanges] at hagree
  obtain ⟨hexchanges, hresult⟩ :=
    hanswered.blank_unique hprivate hruns'.answered hspeaks hruns'.speaks hagree
  rw [hruns.asked_eq, hruns'.asked_eq, hruns.summary_eq, hruns'.summary_eq, hexchanges, hresult]
  exact ⟨rfl, rfl⟩

theorem asked_eq_of_private_found :
    let p := Rehearsal.pipeline {}
    let d := Rehearsal.found "name" ("Ann", "Bob")
    let d' := Rehearsal.found "NAME" ("Eve", "")
    Rehearsal.confidential.privacy = true ∧
      Agree (outlines (p.exchanges Rehearsal.confidential Rehearsal.occasion d))
        (outlines (p.exchanges Rehearsal.confidential Rehearsal.occasion d')) ∧
      p.asked Rehearsal.confidential Rehearsal.occasion d =
        p.asked Rehearsal.confidential Rehearsal.occasion d' ∧
      (p.run Rehearsal.confidential Rehearsal.occasion d).1.summary =
        (p.run Rehearsal.confidential Rehearsal.occasion d').1.summary := by
  intro p d d'
  have hagree : Agree (outlines (p.exchanges Rehearsal.confidential Rehearsal.occasion d))
      (outlines (p.exchanges Rehearsal.confidential Rehearsal.occasion d')) := by decide +kernel
  exact ⟨rfl, hagree, asked_eq_of_private p p rfl rfl _ rfl _ _ rfl d d' rfl rfl rfl hagree⟩

end Pipeline

end AskSql
