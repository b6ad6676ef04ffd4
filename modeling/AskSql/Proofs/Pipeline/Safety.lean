import AskSql.Proofs.Limit
import AskSql.Proofs.Pipeline.Run
import AskSql.Rehearsal.Desk

namespace AskSql

def Call.statement? : Call → Option Statement
  | .execute s => some s
  | _ => none

theorem Attempt.ran_of_execute_mem_exchanges {a : Attempt} {s : Statement}
    {reply : Reply QueryOutput} (h : .execute s reply ∈ a.exchanges) :
    a.ran = some (s, reply) := by
  obtain ⟨asked, text, ran⟩ := a
  cases asked <;> cases ran <;> simp [exchanges, request] at h ⊢
  all_goals exact Prod.ext h.1.symm h.2.symm

variable {s : PipelineSettings} {r : Request} {c : Bool} {xs : List Exchange} {q : Statement}
  {reply : Reply QueryOutput}

theorem Answered.exists_allowed_of_execute_mem {result : Except QueryError (Executed × Option String)}
    (h : Answered s r c xs result) (hmem : .execute q reply ∈ xs) :
    ∃ sql, (r.policy.judge sql).isAllowed = true ∧ q = s.guards.statement sql := by
  obtain ⟨_, as, a, hcourse, -, ha, hx⟩ := h.exists_attempt hmem rfl
  obtain ⟨_, sql, -, -, hallowed, hq⟩ :=
    hcourse.exists_statement_of_ran ha (Attempt.ran_of_execute_mem_exchanges hx)
  exact ⟨sql, hallowed, hq⟩

variable {μ δ η : Type} (p : Pipeline μ δ η) (r : Request) (o : Occasion) (d : Desk μ δ η)

namespace Pipeline

theorem execute_mem_of_statement? {calls : List Call} {s : Statement}
    (h : s ∈ calls.filterMap Call.statement?) : .execute s ∈ calls := by
  obtain ⟨c, hc, hs⟩ := List.mem_filterMap.1 h
  cases c <;> cases hs
  exact hc

/-- Whatever the peers do, a run executes only statements that are themselves allowed and that hold
the word `LIMIT`. -/
theorem allowed_of_execute_mem {s : Statement} (h : .execute s ∈ (p.run r o d).2.1) :
    (Policy.ofReadOnly r.readOnly).judge s.sql = .allowed ∧
      ∃ w ∈ Keyword.words s.sql.toList, w.map Char.toUpper = "LIMIT".toList := by
  obtain ⟨xs, result, hruns, x, hx, hcall⟩ | ⟨_, _, hcall⟩ | ⟨_, hcall⟩ :=
    p.exchanged_or_kept_of_mem r o d h
  · obtain ⟨reply, rfl⟩ : ∃ reply, x = .execute s reply := by
      cases x <;> cases hcall
      exact ⟨_, rfl⟩
    obtain ⟨sql, hallowed, rfl⟩ := hruns.answered.exists_allowed_of_execute_mem hx
    have hverdict : r.policy.judge sql = .allowed := of_decide_eq_true hallowed
    have hkeyword : Keyword.IsKeyword "LIMIT".toList := by decide
    have hlimit := mentions_limit_ensureLimit sql p.settings.guards.resultLimit
    rw [mentions, Keyword.occurs_eq hkeyword, List.any_eq_true] at hlimit
    obtain ⟨w, hw, hspells⟩ := hlimit
    refine ⟨(judge_ensureLimit ..).trans hverdict, w, hw, ?_⟩
    exact (Keyword.spells_iff_map_toUpper hkeyword.2 (by decide) (by decide) w).1 hspells
  · cases hcall
  · cases hcall

theorem allowed_of_execute_mem_repaired :
    ∃ s : Statement, s.sql = "SELECT name FROM users LIMIT 100" ∧
      .execute s ∈ ((Rehearsal.pipeline {}).run Rehearsal.request Rehearsal.occasion
        Rehearsal.repaired).2.1 ∧
      Policy.readOnly.judge s.sql = .allowed ∧
      ∃ w ∈ Keyword.words s.sql.toList, w.map Char.toUpper = "LIMIT".toList := by
  have hmem : .execute ⟨"SELECT name FROM users LIMIT 100", 10000, 10000⟩ ∈
      ((Rehearsal.pipeline {}).run Rehearsal.request Rehearsal.occasion Rehearsal.repaired).2.1 :=
    execute_mem_of_statement? (by decide +kernel)
  exact ⟨_, rfl, hmem, allowed_of_execute_mem _ _ _ _ hmem⟩

end Pipeline

end AskSql
