import AskSql.Proofs.Pipeline.Run

namespace AskSql

def Exchange.connects : Exchange → Bool
  | .connect (.finished ⟨.ok _, _⟩) => true
  | _ => false

structure Conversation where
  connected : Outcome Unit
  attempts : List Attempt
  disconnected : Outcome Unit
  summary : Option (SummaryTask × Reply String)

def Conversation.exchanges (c : Conversation) : List Exchange :=
  .connect (.finished c.connected) :: c.attempts.flatMap Attempt.exchanges ++
    .disconnect c.disconnected :: (c.summary.map fun t => .summarize t.1 t.2).toList

theorem Contact.exists_course_of_connects {s : PipelineSettings} {r : Request} {c : Bool}
    {xs : List Exchange} {x : Except QueryError Executed} (h : Contact s r c xs x)
    (hconnects : xs.any Exchange.connects = true) :
    ∃ q as, Course s.guards r (.ofRequest r) s.maxAttempts {} as x ∧
      xs = .connect (.finished q) :: as.flatMap Attempt.exchanges := by
  cases h with
  | cancelled | abandoned | unconnected => cases hconnects
  | connected hcourse => exact ⟨_, _, hcourse, rfl⟩

variable {μ δ η : Type} (p : Pipeline μ δ η) (r : Request) (o : Occasion) (d : Desk μ δ η)

namespace Pipeline

structure Undisturbed : Prop where
  missed : (fromCache r o d).1 = none
  connected : (p.exchanges r o d).any Exchange.connects = true
  uncancelled : o.cancelled = false ∧ (p.exchanges r o d).any Exchange.cancels = false

instance : Decidable (p.Undisturbed r o d) :=
  decidable_of_iff (_ ∧ _ ∧ _) ⟨fun h => ⟨h.1, h.2.1, h.2.2⟩, fun h => ⟨h.1, h.2, h.3⟩⟩

variable {p r o d}

theorem Undisturbed.exists_course (h : p.Undisturbed r o d) :
    ∃ (c : Conversation) (x : Except QueryError Executed) (summary : Option String),
      Course p.settings.guards r (.ofRequest r) p.settings.maxAttempts {} c.attempts x ∧
      p.exchanges r o d = c.exchanges ∧ (p.run r o d).1 = .ofResult (x.map (·, summary)) := by
  obtain ⟨hmissed, hconnected, hstart, hcalls⟩ := h
  obtain ⟨xs, result, hruns⟩ := p.exists_runs_of_miss r o d hmissed
  rw [hruns.exchanges] at hconnected hcalls
  rw [hruns.exchanges, hruns.response]
  cases hruns.answered with
  | failed hcontact =>
    obtain ⟨q, as, hcourse, rfl⟩ := hcontact.exists_course_of_connects
      (by simpa [Exchange.connects] using hconnected)
    exact ⟨⟨q, as, _, none⟩, _, none, hcourse, rfl, rfl⟩
  | cancelled _ hcancelled =>
    rw [hstart, hcalls] at hcancelled
    cases hcancelled
  | abandoned => simp [Exchange.cancels, Reply.cancels] at hcalls
  | summarized hcontact =>
    obtain ⟨q, as, hcourse, rfl⟩ := hcontact.exists_course_of_connects
      (by simpa [Exchange.connects] using hconnected)
    exact ⟨⟨q, as, _, some (_, _)⟩, _, _, hcourse, List.append_assoc .., rfl⟩

theorem Undisturbed.cancels_eq_false {c : Conversation} (h : p.Undisturbed r o d)
    (hexchanges : p.exchanges r o d = c.exchanges) {a : Attempt} (ha : a ∈ c.attempts) :
    a.cancels = false := by
  have hcalls := h.uncancelled.2
  rw [hexchanges, Conversation.exchanges, List.any_append, List.any_cons, List.any_flatMap] at hcalls
  simp only [Bool.or_eq_false_iff, List.any_eq_false] at hcalls
  simpa [Attempt.cancels] using hcalls.1.2 a ha

end Pipeline

end AskSql
