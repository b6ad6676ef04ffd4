import AskSql.Proofs.Disguise.Hiding
import AskSql.Proofs.Pipeline.Repair

namespace AskSql

open Sql

def Call.repair? : Call → Option Repair
  | .repair q => some q
  | _ => none

namespace Exchange

def written? : Exchange → Option String
  | .generate _ (.finished ⟨.ok text, _⟩) => some text
  | .repair _ (.finished ⟨.ok text, _⟩) => some text
  | _ => none

def failed? : Exchange → Option Failed
  | .execute q (.finished ⟨.error e, _⟩) => some ⟨q.sql, e.message⟩
  | _ => none

end Exchange

theorem Attempt.asked_of_repair_mem {a : Attempt} {q : Repair} {reply : Reply String}
    (h : .repair q reply ∈ a.exchanges) : a.asked = .inr q := by
  obtain ⟨asked, text, ran⟩ := a
  cases asked <;> cases ran <;> simp [exchanges, request] at h ⊢
  all_goals exact h.1.symm

theorem Attempt.written?_request {a : Attempt} {raw : String} {c : Bool}
    (h : a.reply = .finished ⟨.ok raw, c⟩) : a.request.written? = some raw := by
  unfold request
  rw [h]
  cases a.asked <;> rfl

theorem Attempt.execute_mem_exchanges {a : Attempt} {s : Statement} {reply : Reply QueryOutput}
    (h : a.ran = some (s, reply)) : .execute s reply ∈ a.exchanges := by
  rw [exchanges, h]
  exact List.mem_cons_of_mem _ List.mem_cons_self

theorem Course.exists_failed_of_repair_mem {g : Guards} {r : Request} {v : View} {n : Nat}
    {as : List Attempt} {x : Except QueryError Executed} (h : Course g r v n {} as x) {a : Attempt}
    (ha : a ∈ as) {q : Repair} {reply : Reply String} (hq : .repair q reply ∈ a.exchanges) :
    ∃ b ∈ as, ∃ o sql e c, b.reply = .finished o ∧ v.statement o.result = .ok sql ∧
      b.ran = some (g.statement sql, .finished ⟨.error e, c⟩) ∧
      q = v.repair r ⟨(g.statement sql).sql, e.message⟩ := by
  obtain ⟨before, rest, rfl⟩ := List.append_of_mem ha
  have hasked := Attempt.asked_of_repair_mem hq
  rw [h.asked, Option.or_none] at hasked
  cases hfailure : Attempt.lastFailure before with
  | none =>
    rw [hfailure] at hasked
    cases hasked
  | some f =>
    rw [hfailure] at hasked
    obtain ⟨b, hb, hbf⟩ := List.mem_filterMap.1 (List.mem_of_getLast? hfailure)
    obtain ⟨s, e, c, hran, rfl⟩ := Attempt.ran_of_failure? hbf
    have hmem : b ∈ before ++ a :: rest := List.mem_append_left _ hb
    obtain ⟨o, sql, hreply, hstatement, -, rfl⟩ := h.exists_statement_of_ran hmem hran
    exact ⟨b, hmem, o, sql, e, c, hreply, hstatement, hran, (Sum.inr.inj hasked).symm⟩

theorem View.exists_of_statement {v : View} {result : Except QueryError String} {sql : String}
    (h : v.statement result = .ok sql) :
    ∃ raw, result = .ok raw ∧ sql = v.reveal (stripFences raw) := by
  cases result with
  | error e => cases h
  | ok raw =>
    simp only [statement] at h
    split at h
    · cases h
    · exact ⟨raw, rfl, (Except.ok.inj h).symm⟩

variable {μ δ η : Type} (p : Pipeline μ δ η) (r : Request) (o : Occasion) (d : Desk μ δ η)

namespace Pipeline

def written : List String := (p.exchanges r o d).filterMap Exchange.written?

def failures : List Failed := (p.exchanges r o d).filterMap Exchange.failed?

def repairs : List Repair := (p.run r o d).2.1.filterMap Call.repair?

variable {p r o d}

theorem exists_of_mem_repairs {q : Repair} (h : q ∈ p.repairs r o d) :
    ∃ raw ∈ p.written r o d, ∃ f ∈ p.failures r o d, q = (View.ofRequest r).repair r f ∧
      f.sql = ensureLimit ((View.ofRequest r).reveal (stripFences raw))
        p.settings.guards.resultLimit := by
  obtain ⟨call, hcall, hq⟩ := List.mem_filterMap.1 h
  obtain ⟨xs, result, hruns, x, hx, rfl⟩ | ⟨_, _, rfl⟩ | ⟨_, rfl⟩ :=
    p.exchanged_or_kept_of_mem r o d hcall
  · obtain ⟨reply, rfl⟩ : ∃ reply, x = .repair q reply := by
      cases x <;> cases hq
      exact ⟨_, rfl⟩
    obtain ⟨_, as, a, hcourse, hsub, ha, hmem⟩ := hruns.answered.exists_attempt hx rfl
    obtain ⟨b, hb, ⟨_, _⟩, sql, e, c, hreply, hstatement, hran, rfl⟩ :=
      hcourse.exists_failed_of_repair_mem ha hmem
    obtain ⟨raw, rfl, rfl⟩ := View.exists_of_statement hstatement
    have hrequest : b.request ∈ xs := hsub b hb List.mem_cons_self
    have hexecute := hsub b hb (Attempt.execute_mem_exchanges hran)
    rw [written, failures, hruns.exchanges]
    exact ⟨raw, List.mem_filterMap.2 ⟨_, hrequest, Attempt.written?_request hreply⟩, _,
      List.mem_filterMap.2 ⟨_, hexecute, rfl⟩, rfl, rfl⟩
  · cases hq
  · cases hq

/-- Of the tables a failed statement shows no name, unless it is a word of the limit; what the database
says of it shows one only where it does not stand as an identifier. -/
theorem conceals_of_mem_repairs (hanonymize : r.anonymize = true) (hplain : r.schema.PlainNames)
    (hwritten : ∀ text ∈ p.written r o d, ∀ w ∈ words text.toList, ¬r.schema.HasTable w)
    {q : Repair} (hq : q ∈ p.repairs r o d) :
    r.schema.Conceals q.failedSql (· ∈ words (limitClause p.settings.guards.resultLimit)) ∧
      ∃ f ∈ p.failures r o d, q.failedSql = r.shown f.sql ∧ q.error = r.shown f.error ∧
        r.schema.Conceals q.error (VerbatimWord f.error.toList) := by
  obtain ⟨raw, hraw, f, hf, rfl, hsql⟩ := exists_of_mem_repairs hq
  have hfailed : ((View.ofRequest r).repair r f).failedSql = r.shown f.sql :=
    View.hide_ofRequest r f.sql
  have herror : ((View.ofRequest r).repair r f).error = r.shown f.error :=
    View.hide_ofRequest r f.error
  have hshown (text : String) : r.shown text = (Disguise.ofSchema r.schema).hide text := by
    rw [Request.shown, if_pos hanonymize]
  have hconceals (text : String) : r.schema.Conceals (r.shown text) (VerbatimWord text.toList) :=
    hshown text ▸ Disguise.conceals_hide r.schema text
  refine ⟨?_, f, hf, hfailed, herror, herror ▸ hconceals f.error⟩
  rw [hfailed]
  refine fun w hw htable => (hconceals f.sql w hw htable).imp_right fun hverbatim => ?_
  rw [hsql, View.ofRequest, if_pos hanonymize] at hverbatim
  -- A verbatim word that is not of the limit is one of the answer, from before its names were revealed.
  refine hverbatim.of_ensureLimit.resolve_left fun hstatement => ?_
  obtain ⟨t, ht, hv, hmem⟩ := Disguise.verbatimWord_of_reveal hplain hstatement
  exact hwritten raw hraw w ((stripped_stripFences raw).mem_words ht hv hmem) htable

theorem conceals_of_mem_repairs_complained :
    ∃ q ∈ (Rehearsal.pipeline {}).repairs Rehearsal.request Rehearsal.occasion Rehearsal.complained,
      Rehearsal.request.schema.Conceals q.failedSql (· ∈ words (limitClause 100)) ∧
      ∃ f ∈ (Rehearsal.pipeline {}).failures Rehearsal.request Rehearsal.occasion
          Rehearsal.complained,
        q.failedSql = Rehearsal.request.shown f.sql ∧ q.error = Rehearsal.request.shown f.error ∧
          Rehearsal.request.schema.Conceals q.error (VerbatimWord f.error.toList) := by
  have hq : ⟨"Who are the users?", "SELECT col_1 FROM table_1 LIMIT 100",
      "relation \"shop.users\" does not exist", Rehearsal.request.schema.disguised, .postgresql⟩ ∈
        (Rehearsal.pipeline {}).repairs Rehearsal.request Rehearsal.occasion Rehearsal.complained := by
    decide +kernel
  exact ⟨_, hq, conceals_of_mem_repairs rfl (by decide +kernel) (by decide +kernel) hq⟩

/-- It shows the name of a table that the model has not written. -/
theorem not_conceals_complained :
    Rehearsal.request.anonymize = true ∧ Rehearsal.request.schema.PlainNames ∧
      (∀ text ∈ (Rehearsal.pipeline {}).written Rehearsal.request Rehearsal.occasion
          Rehearsal.complained,
        ∀ w ∈ words text.toList, ∀ name ∈ Rehearsal.request.schema.names,
          Unicode.lower w ≠ Unicode.lower name.toList) ∧
      ∃ q ∈ (Rehearsal.pipeline {}).repairs Rehearsal.request Rehearsal.occasion
          Rehearsal.complained,
        "users".toList ∈ words q.error.toList ∧ Rehearsal.request.schema.HasTable "users".toList ∧
          "users" ∉ Rehearsal.request.schema.disguised.names := by
  decide +kernel

end Pipeline

end AskSql
