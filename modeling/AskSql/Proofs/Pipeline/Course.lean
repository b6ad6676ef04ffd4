import AskSql.Proofs.Pipeline.Exchange

/-!
The course of the attempts of a run.

A course lists the attempts one after another and says how they end. It has one constructor for each
way in which an attempt can go, and mentions no peer: whatever the peers are, some course describes
what they were asked and what they said.
-/

namespace AskSql

/-- A text asked of the model, by generation or by repair, and the statement that was run, if any. -/
structure Attempt where
  asked : Generation ⊕ Repair
  reply : Reply String
  ran : Option (Statement × Reply QueryOutput) := none

namespace Attempt

def request (a : Attempt) : Exchange :=
  match a.asked with
  | .inl g => .generate g a.reply
  | .inr q => .repair q a.reply

def exchanges (a : Attempt) : List Exchange :=
  a.request :: (a.ran.map fun x => .execute x.1 x.2).toList

def cancels (a : Attempt) : Bool := a.exchanges.any Exchange.cancels

def answer? (a : Attempt) : Option (Statement × QueryOutput) :=
  match a.ran with
  | some (s, .finished ⟨.ok output, _⟩) => some (s, output)
  | _ => none

def failure? (a : Attempt) : Option Failed :=
  match a.ran with
  | some (s, .finished ⟨.error e, _⟩) => some ⟨s.sql, e.message⟩
  | _ => none

def unwritten? (v : View) (a : Attempt) : Option QueryError :=
  match a.reply with
  | .finished o =>
    match v.statement o.result with
    | .error e => some e
    | .ok _ => none
  | .abandoned => none

def refusal? (v : View) (r : Request) (a : Attempt) : Option String :=
  match a.asked, a.reply with
  | .inl _, .finished o =>
    match v.statement o.result with
    | .ok sql => (r.policy.judge sql).reason?
    | .error _ => none
  | _, _ => none

end Attempt

theorem Attempt.ran_of_answer? {a : Attempt} {q : Statement} {output : QueryOutput}
    (h : a.answer? = some (q, output)) : ∃ c, a.ran = some (q, .finished ⟨.ok output, c⟩) := by
  unfold answer? at h
  split at h
  · rename_i c hran
    cases h
    exact ⟨c, hran⟩
  · cases h

theorem Attempt.ran_of_failure? {a : Attempt} {f : Failed} (h : a.failure? = some f) :
    ∃ s e c, a.ran = some (s, .finished ⟨.error e, c⟩) ∧ f = ⟨s.sql, e.message⟩ := by
  unfold failure? at h
  split at h
  · rename_i s e c hran
    exact ⟨s, e, c, hran, (Option.some.inj h).symm⟩
  · cases h

def View.asked (v : View) (r : Request) : Option Failed → Generation ⊕ Repair
  | none => .inl (v.generation r)
  | some f => .inr (v.repair r f)

inductive Course (g : Guards) (r : Request) (v : View) :
    Nat → Progress → List Attempt → Except QueryError Executed → Prop
  | spent : Course g r v 0 p [] (.error p.failure)
  | abandoned : Course g r v (n + 1) p [⟨v.asked r p.failed, .abandoned, none⟩] (.error .cancelled)
  | unwritten : v.statement o.result = .error e →
      Course g r v n { p with generationError := some e } as x →
      Course g r v (n + 1) p (⟨v.asked r p.failed, .finished o, none⟩ :: as) x
  | refused : v.statement o.result = .ok sql → (r.policy.judge sql).isAllowed = false →
      p.failed = none →
      Course g r v (n + 1) p [⟨v.asked r p.failed, .finished o, none⟩]
        (.error (r.policy.judge sql).refusal)
  | discarded : v.statement o.result = .ok sql → (r.policy.judge sql).isAllowed = false →
      p.failed = some f → Course g r v n p as x →
      Course g r v (n + 1) p (⟨v.asked r p.failed, .finished o, none⟩ :: as) x
  | cut : v.statement o.result = .ok sql → (r.policy.judge sql).isAllowed = true →
      Course g r v (n + 1) p
        [⟨v.asked r p.failed, .finished o, some (g.statement sql, .abandoned)⟩] (.error .cancelled)
  | answered : v.statement o.result = .ok sql → (r.policy.judge sql).isAllowed = true →
      Course g r v (n + 1) p
        [⟨v.asked r p.failed, .finished o, some (g.statement sql, .finished ⟨.ok output, c⟩)⟩]
        (.ok ⟨(g.statement sql).sql, output, p.failed.isSome⟩)
  | failed : v.statement o.result = .ok sql → (r.policy.judge sql).isAllowed = true →
      Course g r v n { p with failed := some ⟨(g.statement sql).sql, e.message⟩ } as x →
      Course g r v (n + 1) p
        (⟨v.asked r p.failed, .finished o, some (g.statement sql, .finished ⟨.error e, c⟩)⟩ :: as) x

variable {μ δ : Type}

theorem Course.exists_statement_of_ran {g : Guards} {r : Request} {v : View} {n : Nat} {p : Progress}
    {as : List Attempt} {x : Except QueryError Executed} (h : Course g r v n p as x) {a : Attempt}
    (ha : a ∈ as) {s : Statement} {reply : Reply QueryOutput} (hran : a.ran = some (s, reply)) :
    ∃ o sql, a.reply = .finished o ∧ v.statement o.result = .ok sql ∧
      (r.policy.judge sql).isAllowed = true ∧ s = g.statement sql := by
  induction h with
  | spent => cases ha
  | abandoned =>
    cases List.mem_singleton.1 ha
    cases hran
  | unwritten hstatement hcourse ih | discarded hstatement hverdict hfailed hcourse ih =>
    rcases List.mem_cons.1 ha with rfl | ha
    · cases hran
    · exact ih ha
  | refused hstatement hverdict hfailed =>
    cases List.mem_singleton.1 ha
    cases hran
  | cut hstatement hverdict | answered hstatement hverdict =>
    cases List.mem_singleton.1 ha
    cases hran
    exact ⟨_, _, rfl, hstatement, hverdict, rfl⟩
  | failed hstatement hverdict hcourse ih =>
    rcases List.mem_cons.1 ha with rfl | ha
    · cases hran
      exact ⟨_, _, rfl, hstatement, hverdict, rfl⟩
    · exact ih ha

theorem Course.exists_answer {g : Guards} {r : Request} {v : View} {n : Nat} {p : Progress}
    {as : List Attempt} {y : Executed} (h : Course g r v n p as (.ok y)) :
    ∃ before a q, as = before ++ [a] ∧ a.answer? = some (q, y.output) ∧ q.sql = y.sql := by
  -- The induction needs a variable for the end of the course.
  generalize hx : (Except.ok y : Except QueryError Executed) = x at h
  induction h with
  | spent | abandoned | refused | cut => cases hx
  | answered =>
    cases hx
    exact ⟨[], _, _, rfl, rfl, rfl⟩
  | unwritten _ _ ih | discarded _ _ _ _ ih | failed _ _ _ ih =>
    obtain ⟨before, a, q, rfl, hanswer⟩ := ih hx
    exact ⟨_ :: before, a, q, rfl, hanswer⟩

theorem heard_produce (model : ModelPeer μ) (database : DatabasePeer δ) (r : Request) (v : View)
    (p : Progress) (w : Work μ δ) :
    w.Heard model database
      [Attempt.request ⟨v.asked r p.failed, (produce model r v p w).1, none⟩]
      (produce model r v p w).2 := by
  unfold produce
  cases p.failed <;> exact ⟨rfl, rfl, by simp [Work.ask, Work.note, Attempt.request, View.asked,
    Exchange.cancels]⟩

/-- Whatever the peers do, the attempts take a course. -/
theorem exists_course (model : ModelPeer μ) (database : DatabasePeer δ) (g : Guards) (r : Request)
    (v : View) (n : Nat) (p : Progress) (w : Work μ δ) :
    ∃ as, Course g r v n p as (attempts model database g r v n p w).1 ∧
      w.Heard model database (as.flatMap Attempt.exchanges)
        (attempts model database g r v n p w).2 := by
  -- On the attempts that are left, for any progress and any state of the peers.
  induction n generalizing p w with
  | zero => exact ⟨[], .spent, .refl model database w⟩
  | succ n ih =>
    have hproduce := heard_produce model database r v p w
    rw [attempts]
    rcases hreply : produce model r v p w with ⟨⟨o⟩ | _, w₁⟩ <;> rw [hreply] at hproduce
    · cases hstatement : v.statement o.result with
      | error e =>
        obtain ⟨as, hcourse, hheard⟩ := ih { p with generationError := some e } w₁
        simp only [hstatement]
        exact ⟨_, .unwritten hstatement hcourse, hproduce.trans hheard⟩
      | ok sql =>
        cases hverdict : (r.policy.judge sql).isAllowed with
        | false =>
          cases hfailed : p.failed with
          | none =>
            simp only [hstatement, hverdict]
            exact ⟨_, .refused hstatement hverdict hfailed, hproduce⟩
          | some f =>
            obtain ⟨as, hcourse, hheard⟩ := ih p w₁
            simp only [hstatement, hverdict]
            exact ⟨_, .discarded hstatement hverdict hfailed hcourse, hproduce.trans hheard⟩
        | true =>
          have hexecute := w₁.heard_execute model database (g.statement sql)
          simp only [hstatement, hverdict]
          rcases hran : w₁.query (.execute (g.statement sql))
            (database.execute (g.statement sql)) with ⟨⟨⟨e | output, c⟩⟩ | _, w₂⟩ <;>
            rw [hran] at hexecute
          · obtain ⟨as, hcourse, hheard⟩ :=
              ih { p with failed := some ⟨(g.statement sql).sql, e.message⟩ } w₂
            exact ⟨_, .failed hstatement hverdict hcourse,
              (hproduce.trans hexecute).trans hheard⟩
          · exact ⟨_, .answered hstatement hverdict, hproduce.trans hexecute⟩
          · exact ⟨_, .cut hstatement hverdict, hproduce.trans hexecute⟩
    · exact ⟨_, .abandoned, hproduce⟩

end AskSql
