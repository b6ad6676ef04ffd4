import AskSql.Pipeline.Run

/-!
What the peers of a run are asked and what they say.

The calls that a run notes are all it does to the model and to the database: put to them again, one
after another, they bring back the same replies and leave both as the run left them.
-/

namespace AskSql

/-- A call to the model or to the database, with what came back. -/
inductive Exchange
  | connect (reply : Reply Unit)
  | disconnect (outcome : Outcome Unit)
  | generate (g : Generation) (reply : Reply String)
  | repair (q : Repair) (reply : Reply String)
  | execute (s : Statement) (reply : Reply QueryOutput)
  | summarize (t : SummaryTask) (reply : Reply String)

namespace Exchange

def call : Exchange → Call
  | .connect _ => .connect
  | .disconnect _ => .disconnect
  | .generate g _ => .generate g
  | .repair q _ => .repair q
  | .execute s _ => .execute s
  | .summarize t _ => .summarize t

def cancels : Exchange → Bool
  | .connect reply => reply.cancels
  | .disconnect outcome => outcome.cancels
  | .generate _ reply => reply.cancels
  | .repair _ reply => reply.cancels
  | .execute _ reply => reply.cancels
  | .summarize _ reply => reply.cancels

end Exchange

variable {μ δ η : Type}

section

variable (model : ModelPeer μ) (database : DatabasePeer δ)

def Call.put : Call → μ × δ → List Exchange × μ × δ
  | .connect, (m, d) => ([.connect (database.connect d).1], m, (database.connect d).2)
  | .disconnect, (m, d) => ([.disconnect (database.disconnect d).1], m, (database.disconnect d).2)
  | .generate g, (m, d) => ([.generate g (model.generate g m).1], (model.generate g m).2, d)
  | .repair q, (m, d) => ([.repair q (model.repair q m).1], (model.repair q m).2, d)
  | .execute s, (m, d) => ([.execute s (database.execute s d).1], m, (database.execute s d).2)
  | .summarize t, (m, d) => ([.summarize t (model.summarize t m).1], (model.summarize t m).2, d)
  | .store .., s | .record _, s => ([], s)

def replay : List Call → μ × δ → List Exchange × μ × δ
  | [], s => ([], s)
  | c :: cs, s =>
    let (xs, s) := c.put model database s
    let (ys, s) := replay cs s
    (xs ++ ys, s)

theorem replay_append (cs ds : List Call) (s : μ × δ) :
    replay model database (cs ++ ds) s =
      ((replay model database cs s).1 ++ (replay model database ds (replay model database cs s).2).1,
        (replay model database ds (replay model database cs s).2).2) := by
  induction cs generalizing s with
  | nil => rfl
  | cons c cs ih => simp [replay, ih]

/-- The exchanges lead from one state of a run to a later one. -/
structure Work.Heard (w : Work μ δ) (xs : List Exchange) (w' : Work μ δ) : Prop where
  calls : w'.calls = w.calls ++ xs.map Exchange.call
  replay : replay model database (xs.map Exchange.call) (w.model, w.database) =
    (xs, w'.model, w'.database)
  cancelled : w'.cancelled = (w.cancelled || xs.any Exchange.cancels)

end

namespace Work

variable (model : ModelPeer μ) (database : DatabasePeer δ) {w w₁ w₂ : Work μ δ}

theorem Heard.refl (w : Work μ δ) : w.Heard model database [] w := ⟨by simp, rfl, by simp⟩

variable {model database}

theorem Heard.trans {xs ys : List Exchange} (h₁ : w.Heard model database xs w₁)
    (h₂ : w₁.Heard model database ys w₂) : w.Heard model database (xs ++ ys) w₂ where
  calls := by rw [h₂.calls, h₁.calls, List.map_append, List.append_assoc]
  replay := by rw [List.map_append, replay_append, h₁.replay, h₂.replay]
  cancelled := by rw [h₂.cancelled, h₁.cancelled, List.any_append, Bool.or_assoc]

variable (model database)

theorem heard_connect (w : Work μ δ) :
    w.Heard model database [.connect (w.query .connect database.connect).1]
      (w.query .connect database.connect).2 :=
  ⟨rfl, rfl, by simp [query, note, Exchange.cancels]⟩

theorem heard_disconnect (w : Work μ δ) :
    w.Heard model database [.disconnect (database.disconnect w.database).1]
      (w.disconnect database) :=
  ⟨rfl, rfl, by simp [disconnect, note, Exchange.cancels]⟩

theorem heard_execute (w : Work μ δ) (s : Statement) :
    w.Heard model database [.execute s (w.query (.execute s) (database.execute s)).1]
      (w.query (.execute s) (database.execute s)).2 :=
  ⟨rfl, rfl, by simp [query, note, Exchange.cancels]⟩

theorem heard_summarize (w : Work μ δ) (t : SummaryTask) :
    w.Heard model database [.summarize t (w.ask (.summarize t) (model.summarize t)).1]
      (w.ask (.summarize t) (model.summarize t)).2 :=
  ⟨rfl, rfl, by simp [ask, note, Exchange.cancels]⟩

end Work

def Pipeline.exchanges (p : Pipeline μ δ η) (r : Request) (o : Occasion) (d : Desk μ δ η) :
    List Exchange :=
  (replay p.model p.database (p.run r o d).2.1 (d.model, d.database)).1

end AskSql
