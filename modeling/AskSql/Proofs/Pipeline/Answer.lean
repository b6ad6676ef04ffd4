import AskSql.Proofs.Pipeline.Course

namespace AskSql

/-- The flag tells whether the request was cancelled before it started. -/
inductive Contact (s : PipelineSettings) (r : Request) :
    Bool → List Exchange → Except QueryError Executed → Prop
  | cancelled : Contact s r true [] (.error .cancelled)
  | abandoned : Contact s r false [.connect .abandoned] (.error .cancelled)
  | unconnected : Contact s r false [.connect (.finished ⟨.error e, c⟩)] (.error e)
  | connected : Course s.guards r (.ofRequest r) s.maxAttempts {} as x →
      Contact s r false (.connect (.finished ⟨.ok (), c⟩) :: as.flatMap Attempt.exchanges) x

theorem Contact.connect_or_exists_attempt {s : PipelineSettings} {r : Request} {c : Bool}
    {xs : List Exchange} {result : Except QueryError Executed} (h : Contact s r c xs result)
    {x : Exchange} (hx : x ∈ xs) :
    (∃ reply, x = .connect reply) ∨ ∃ as a,
      Course s.guards r (.ofRequest r) s.maxAttempts {} as result ∧
        (∀ b ∈ as, b.exchanges ⊆ xs) ∧ a ∈ as ∧ x ∈ a.exchanges := by
  cases h with
  | cancelled => cases hx
  | abandoned | unconnected => exact .inl ⟨_, List.mem_singleton.1 hx⟩
  | connected hcourse =>
    rcases List.mem_cons.1 hx with rfl | hx
    · exact .inl ⟨_, rfl⟩
    · obtain ⟨a, ha, hx⟩ := List.mem_flatMap.1 hx
      refine .inr ⟨_, a, hcourse, fun b hb y hy => ?_, ha, hx⟩
      exact List.mem_cons_of_mem _ (List.mem_flatMap.2 ⟨b, hb, hy⟩)

inductive Answered (s : PipelineSettings) (r : Request) (c : Bool) :
    List Exchange → Except QueryError (Executed × Option String) → Prop
  | failed : Contact s r c xs (.error e) → Answered s r c (xs ++ [.disconnect o]) (.error e)
  | cancelled : Contact s r c xs (.ok x) →
      (c || (xs ++ [Exchange.disconnect o]).any Exchange.cancels) = true →
      Answered s r c (xs ++ [.disconnect o]) (.error .cancelled)
  | abandoned : Contact s r c xs (.ok x) →
      (c || (xs ++ [Exchange.disconnect o]).any Exchange.cancels) = false →
      Answered s r c
        (xs ++ [.disconnect o] ++ [.summarize ((View.ofRequest r).summaryTask r x) .abandoned])
        (.error .cancelled)
  | summarized : Contact s r c xs (.ok x) →
      (c || (xs ++ [Exchange.disconnect o]).any Exchange.cancels) = false →
      Answered s r c
        (xs ++ [.disconnect o] ++ [.summarize ((View.ofRequest r).summaryTask r x) (.finished t)])
        (.ok (x, (View.ofRequest r).summary t.result))

def Exchange.isAttempt : Exchange → Bool
  | .generate .. | .repair .. | .execute .. => true
  | .connect _ | .disconnect _ | .summarize .. => false

theorem Answered.exists_attempt {s : PipelineSettings} {r : Request} {c : Bool} {xs : List Exchange}
    {result : Except QueryError (Executed × Option String)} (h : Answered s r c xs result)
    {x : Exchange} (hx : x ∈ xs) (hattempt : x.isAttempt = true) : ∃ y as a,
      Course s.guards r (.ofRequest r) s.maxAttempts {} as y ∧
        (∀ b ∈ as, b.exchanges ⊆ xs) ∧ a ∈ as ∧ x ∈ a.exchanges := by
  have hcontact {ys : List Exchange} {y : Except QueryError Executed} (hcontact : Contact s r c ys y)
      (hys : ys ⊆ xs) (hx : x ∈ ys) : ∃ y as a,
        Course s.guards r (.ofRequest r) s.maxAttempts {} as y ∧
          (∀ b ∈ as, b.exchanges ⊆ xs) ∧ a ∈ as ∧ x ∈ a.exchanges := by
    obtain ⟨reply, rfl⟩ | ⟨as, a, hcourse, hsub, ha, hx⟩ := hcontact.connect_or_exists_attempt hx
    · cases hattempt
    · exact ⟨y, as, a, hcourse, fun b hb => List.Subset.trans (hsub b hb) hys, ha, hx⟩
  cases h with
  | failed h | cancelled h =>
    rcases List.mem_append.1 hx with hx | hx
    · exact hcontact h (List.subset_append_left ..) hx
    · cases List.mem_singleton.1 hx
      cases hattempt
  | abandoned h | summarized h =>
    rw [List.append_assoc] at hx hcontact ⊢
    rcases List.mem_append.1 hx with hx | hx
    · exact hcontact h (List.subset_append_left ..) hx
    · simp only [List.singleton_append, List.mem_cons, List.not_mem_nil, or_false] at hx
      rcases hx with rfl | rfl <;> cases hattempt

variable {μ δ η : Type} (p : Pipeline μ δ η) (r : Request)

namespace Pipeline

theorem exists_contact_of_connect (w : Work μ δ) :
    ∃ xs, Contact p.settings r false xs (p.connectAndExecute r w).1 ∧
      w.Heard p.model p.database xs (p.connectAndExecute r w).2 := by
  have hconnect := w.heard_connect p.model p.database
  rw [connectAndExecute]
  rcases hreply : w.query .connect p.database.connect with ⟨⟨⟨e | _, c⟩⟩ | _, w₁⟩ <;>
    rw [hreply] at hconnect
  · exact ⟨_, .unconnected, hconnect⟩
  · obtain ⟨as, hcourse, hheard⟩ := exists_course p.model p.database p.settings.guards r
      (.ofRequest r) p.settings.maxAttempts {} w₁
    exact ⟨_, .connected hcourse, hconnect.trans hheard⟩
  · exact ⟨_, .abandoned, hconnect⟩

theorem exists_contact (w : Work μ δ) :
    ∃ xs o, Contact p.settings r w.cancelled xs (p.execute r w).1 ∧
      w.Heard p.model p.database (xs ++ [.disconnect o]) (p.execute r w).2 := by
  rw [execute]
  cases hw : w.cancelled with
  | true => exact ⟨[], _, .cancelled, w.heard_disconnect p.model p.database⟩
  | false =>
    obtain ⟨xs, hcontact, hheard⟩ := p.exists_contact_of_connect r w
    exact ⟨xs, _, hcontact, hheard.trans (Work.heard_disconnect ..)⟩

theorem exists_answered (w : Work μ δ) :
    ∃ xs, Answered p.settings r w.cancelled xs (p.answer r w).1 ∧
      w.Heard p.model p.database xs (p.answer r w).2 := by
  obtain ⟨xs, o, hcontact, hheard⟩ := p.exists_contact r w
  rw [answer]
  rcases hexecute : p.execute r w with ⟨e | x, w₁⟩ <;> rw [hexecute] at hcontact hheard
  · exact ⟨_, .failed hcontact, hheard⟩
  · simp only [summarize]
    have hcancelled := hheard.cancelled.symm
    cases hw : w₁.cancelled with
    | true => exact ⟨_, .cancelled hcontact (hcancelled.trans hw), hheard⟩
    | false =>
      have hsummarize := w₁.heard_summarize p.model p.database
        ((View.ofRequest r).summaryTask r x)
      rcases hreply : w₁.ask (.summarize ((View.ofRequest r).summaryTask r x))
        (p.model.summarize ((View.ofRequest r).summaryTask r x)) with ⟨⟨t⟩ | _, w₂⟩ <;>
        rw [hreply] at hsummarize
      · exact ⟨_, .summarized hcontact (hcancelled.trans hw), hheard.trans hsummarize⟩
      · exact ⟨_, .abandoned hcontact (hcancelled.trans hw), hheard.trans hsummarize⟩

end Pipeline

end AskSql
