import Mathlib.Data.List.Infix
import AskSql.Proofs.Pipeline.Answer
import AskSql.Proofs.Pipeline.Progress

/-!
What determines a run.

With the same model, two answers to one request can only come apart where their databases give back
something different. It is enough that these agree as far as both go: neither answer then goes further
than the other.
-/

namespace AskSql

/-- One of the lists goes on where the other ends. -/
def Agree {α : Type} (l m : List α) : Prop := l <+: m ∨ m <+: l

namespace Agree

variable {α β : Type} {a b : α} {l l' m m' : List α}

theorem cons_iff : Agree (a :: l) (b :: m) ↔ a = b ∧ Agree l m := by
  rw [Agree, Agree, List.cons_prefix_cons, List.cons_prefix_cons, eq_comm (a := b), and_or_left]

theorem append_left_iff : Agree (l ++ m) (l ++ m') ↔ Agree m m' := by
  rw [Agree, Agree, List.prefix_append_right_inj, List.prefix_append_right_inj]

theorem of_append (h : Agree (l ++ l') (m ++ m')) : Agree l m := by
  rcases h with h | h
  · exact List.prefix_or_prefix_of_prefix ((List.prefix_append l l').trans h)
      (List.prefix_append m m')
  · exact List.prefix_or_prefix_of_prefix (List.prefix_append l l')
      ((List.prefix_append m m').trans h)

theorem map (h : Agree l m) (f : α → β) : Agree (l.map f) (m.map f) :=
  h.imp (fun h => h.map f) fun h => h.map f

end Agree

/-- What a database gives back to a call. -/
inductive Report (α : Type)
  | connected (reply : Reply Unit)
  | executed (reply : Reply α)
  | disconnected (outcome : Outcome Unit)

def Exchange.report? : Exchange → Option (Report QueryOutput)
  | .connect reply => some (.connected reply)
  | .execute _ reply => some (.executed reply)
  | .disconnect outcome => some (.disconnected outcome)
  | .generate .. | .repair .. | .summarize .. => none

def reports (xs : List Exchange) : List (Report QueryOutput) := xs.filterMap Exchange.report?

theorem reports_append (xs ys : List Exchange) : reports (xs ++ ys) = reports xs ++ reports ys :=
  List.filterMap_append

variable {μ δ : Type} (model : ModelPeer μ)

namespace ModelPeer

def put : Generation ⊕ Repair → μ → Reply String × μ
  | .inl g, m => model.generate g m
  | .inr q, m => model.repair q m

def Gives : Exchange → μ → Prop
  | .generate g reply, m => reply = (model.generate g m).1
  | .repair q reply, m => reply = (model.repair q m).1
  | .summarize t reply, m => reply = (model.summarize t m).1
  | .connect _, _ | .disconnect _, _ | .execute .., _ => True

def next : Exchange → μ → μ
  | .generate g _, m => (model.generate g m).2
  | .repair q _, m => (model.repair q m).2
  | .summarize t _, m => (model.summarize t m).2
  | .connect _, m | .disconnect _, m | .execute .., m => m

def Speaks : List Exchange → μ → Prop
  | [], _ => True
  | x :: xs, m => model.Gives x m ∧ Speaks xs (model.next x m)

variable {model}

theorem speaks_append {xs ys : List Exchange} {m : μ} : model.Speaks (xs ++ ys) m ↔
    model.Speaks xs m ∧ model.Speaks ys (xs.foldl (fun m x => model.next x m) m) := by
  induction xs generalizing m with
  | nil => simp [Speaks]
  | cons x xs ih => simp [Speaks, ih, and_assoc]

theorem speaks_attempt {a : Attempt} {xs : List Exchange} {m : μ} :
    model.Speaks (a.exchanges ++ xs) m ↔
      a.reply = (model.put a.asked m).1 ∧ model.Speaks xs (model.put a.asked m).2 := by
  obtain ⟨asked, reply, ran⟩ := a
  cases asked <;> cases ran <;>
    simp [Attempt.exchanges, Attempt.request, Speaks, Gives, next, put]

theorem speaks_replay (database : DatabasePeer δ) (cs : List Call) (s : μ × δ) :
    model.Speaks (replay model database cs s).1 s.1 := by
  induction cs generalizing s with
  | nil => trivial
  | cons c cs ih =>
    have hrest := ih (c.put model database s).2
    cases c <;> simpa [replay, Call.put, Speaks, Gives, next] using hrest

end ModelPeer

theorem reports_attempt (a : Attempt) (xs : List Exchange) :
    reports (a.exchanges ++ xs) =
      (a.ran.map fun x => .executed x.2).toList ++ reports xs := by
  obtain ⟨asked, reply, ran⟩ := a
  cases asked <;> cases ran <;> rfl

theorem Attempt.eq_of_agree {a a' : Attempt} {xs xs' : List Exchange} (hasked : a.asked = a'.asked)
    (hreply : a.reply = a'.reply) (hstatement : a.ran.map Prod.fst = a'.ran.map Prod.fst)
    (hagree : Agree (reports (a.exchanges ++ xs)) (reports (a'.exchanges ++ xs'))) :
    a = a' ∧ Agree (reports xs) (reports xs') := by
  rw [reports_attempt, reports_attempt] at hagree
  obtain ⟨asked, reply, ran⟩ := a
  obtain ⟨asked', reply', ran'⟩ := a'
  obtain rfl : asked = asked' := hasked
  obtain rfl : reply = reply' := hreply
  cases ran with
  | none =>
    cases ran' with
    | none => exact ⟨rfl, hagree⟩
    | some y' => cases hstatement
  | some y =>
    cases ran' with
    | none => cases hstatement
    | some y' =>
      obtain ⟨hreport, htail⟩ := Agree.cons_iff.1 hagree
      have hy : y = y' := Prod.ext (Option.some.inj hstatement) (Report.executed.inj hreport)
      rw [hy]
      exact ⟨rfl, htail⟩

def View.runs? (v : View) (g : Guards) (r : Request) : Reply String → Option Statement
  | .abandoned => none
  | .finished o =>
    match v.statement o.result with
    | .error _ => none
    | .ok sql => if (r.policy.judge sql).isAllowed then some (g.statement sql) else none

def Attempt.conclusion? (v : View) (r : Request) (p : Progress) (a : Attempt) :
    Option (Except QueryError Executed) :=
  match a.reply, a.ran with
  | .abandoned, _ | .finished _, some (_, .abandoned) => some (.error .cancelled)
  | .finished _, some (s, .finished ⟨.ok output, _⟩) =>
    some (.ok ⟨s.sql, output, p.failed.isSome⟩)
  | .finished _, some (_, .finished ⟨.error _, _⟩) => none
  | .finished o, none =>
    match v.statement o.result with
    | .error _ => none
    | .ok sql => if p.failed.isNone then some (.error (r.policy.judge sql).refusal) else none

namespace Course

variable {g : Guards} {r : Request} {v : View} {n : Nat} {p : Progress} {as as' : List Attempt}
  {x x' : Except QueryError Executed}

theorem first (h : Course g r v (n + 1) p as x) : ∃ a rest, as = a :: rest ∧
    a.asked = v.asked r p.failed ∧ a.ran.map Prod.fst = v.runs? g r a.reply ∧
      (a.conclusion? v r p = some x ∧ rest = [] ∨
        a.conclusion? v r p = none ∧ Course g r v n (p.after v [a]) rest x) := by
  cases h with
  | abandoned => exact ⟨_, _, rfl, rfl, rfl, .inl ⟨rfl, rfl⟩⟩
  | refused hstatement hverdict hfailed =>
    refine ⟨_, _, rfl, rfl, ?_, .inl ⟨?_, rfl⟩⟩
    · simp [View.runs?, hstatement, hverdict]
    · simp [Attempt.conclusion?, hstatement, hfailed]
  | cut hstatement hverdict =>
    refine ⟨_, _, rfl, rfl, ?_, .inl ⟨rfl, rfl⟩⟩
    simp [View.runs?, hstatement, hverdict]
  | answered hstatement hverdict =>
    refine ⟨_, _, rfl, rfl, ?_, .inl ⟨rfl, rfl⟩⟩
    simp [View.runs?, hstatement, hverdict]
  | unwritten hstatement hcourse =>
    refine ⟨_, _, rfl, rfl, ?_, .inr ⟨?_, ?_⟩⟩
    · simp [View.runs?, hstatement]
    · simp [Attempt.conclusion?, hstatement]
    · simpa [Progress.after_singleton, Attempt.failure?, Attempt.unwritten?, hstatement]
        using hcourse
  | discarded hstatement hverdict hfailed hcourse =>
    refine ⟨_, _, rfl, rfl, ?_, .inr ⟨?_, ?_⟩⟩
    · simp [View.runs?, hstatement, hverdict]
    · simp [Attempt.conclusion?, hstatement, hfailed]
    · simpa [Progress.after_singleton, Attempt.failure?, Attempt.unwritten?, hstatement]
        using hcourse
  | failed hstatement hverdict hcourse =>
    refine ⟨_, _, rfl, rfl, ?_, .inr ⟨rfl, ?_⟩⟩
    · simp [View.runs?, hstatement, hverdict]
    · simpa [Progress.after_singleton, Attempt.failure?, Attempt.unwritten?, hstatement]
        using hcourse

theorem unique {model : ModelPeer μ} {m : μ} (h : Course g r v n p as x)
    (h' : Course g r v n p as' x') (hspeaks : model.Speaks (as.flatMap Attempt.exchanges) m)
    (hspeaks' : model.Speaks (as'.flatMap Attempt.exchanges) m)
    (hagree : Agree (reports (as.flatMap Attempt.exchanges))
      (reports (as'.flatMap Attempt.exchanges))) : as = as' ∧ x = x' := by
  -- On the attempts that are left, for any progress and any state of the model.
  induction n generalizing p as as' m with
  | zero =>
    cases h
    cases h'
    exact ⟨rfl, rfl⟩
  | succ n ih =>
    obtain ⟨a, rest, rfl, hasked, hran, hend⟩ := h.first
    obtain ⟨a', rest', rfl, hasked', hran', hend'⟩ := h'.first
    rw [List.flatMap_cons, ModelPeer.speaks_attempt, hasked] at hspeaks
    rw [List.flatMap_cons, ModelPeer.speaks_attempt, hasked'] at hspeaks'
    rw [List.flatMap_cons, List.flatMap_cons] at hagree
    have hreply : a.reply = a'.reply := hspeaks.1.trans hspeaks'.1.symm
    rw [← hreply] at hran'
    obtain ⟨rfl, htail⟩ := Attempt.eq_of_agree (hasked.trans hasked'.symm) hreply
      (hran.trans hran'.symm) hagree
    rcases hend with ⟨hend, rfl⟩ | ⟨hend, hcourse⟩
    · rcases hend' with ⟨hend', rfl⟩ | ⟨hend', -⟩
      · exact ⟨rfl, Option.some.inj (hend.symm.trans hend')⟩
      · cases hend.symm.trans hend'
    · rcases hend' with ⟨hend', -⟩ | ⟨-, hcourse'⟩
      · cases hend.symm.trans hend'
      · obtain ⟨rfl, rfl⟩ := ih hcourse hcourse' hspeaks.2 hspeaks'.2 htail
        exact ⟨rfl, rfl⟩

end Course

variable {s : PipelineSettings} {r : Request} {c : Bool} {xs xs' : List Exchange}

theorem Contact.first {x : Except QueryError Executed} (h : Contact s r false xs x) :
    ∃ reply rest, xs = .connect reply :: rest ∧
      match reply with
      | .abandoned => rest = [] ∧ x = .error .cancelled
      | .finished ⟨.error e, _⟩ => rest = [] ∧ x = .error e
      | .finished ⟨.ok _, _⟩ => ∃ as, rest = as.flatMap Attempt.exchanges ∧
          Course s.guards r (.ofRequest r) s.maxAttempts {} as x := by
  cases h with
  | abandoned | unconnected => exact ⟨_, _, rfl, rfl, rfl⟩
  | connected hcourse => exact ⟨_, _, rfl, _, rfl, hcourse⟩

theorem Contact.unique {model : ModelPeer μ} {m : μ} {x x' : Except QueryError Executed}
    (h : Contact s r c xs x) (h' : Contact s r c xs' x') (hspeaks : model.Speaks xs m)
    (hspeaks' : model.Speaks xs' m) (hagree : Agree (reports xs) (reports xs')) :
    xs = xs' ∧ x = x' := by
  cases c with
  | true =>
    cases h
    cases h'
    exact ⟨rfl, rfl⟩
  | false =>
    obtain ⟨reply, rest, rfl, hrest⟩ := h.first
    obtain ⟨reply', rest', rfl, hrest'⟩ := h'.first
    obtain ⟨hreport, htail⟩ := Agree.cons_iff.1 hagree
    obtain rfl := Report.connected.inj hreport
    rcases reply with ⟨⟨e | _, _⟩⟩ | _
    · obtain ⟨rfl, rfl⟩ := hrest
      obtain ⟨rfl, rfl⟩ := hrest'
      exact ⟨rfl, rfl⟩
    · obtain ⟨as, rfl, hcourse⟩ := hrest
      obtain ⟨as', rfl, hcourse'⟩ := hrest'
      obtain ⟨rfl, rfl⟩ := hcourse.unique hcourse' hspeaks.2 hspeaks'.2 htail
      exact ⟨rfl, rfl⟩
    · obtain ⟨rfl, rfl⟩ := hrest
      obtain ⟨rfl, rfl⟩ := hrest'
      exact ⟨rfl, rfl⟩

def Summed (r : Request) (cancelled : Bool) (rest : List Exchange)
    (result : Except QueryError (Executed × Option String)) : Except QueryError Executed → Prop
  | .error e => rest = [] ∧ result = .error e
  | .ok x =>
    if cancelled then rest = [] ∧ result = .error .cancelled
    else ∃ reply, rest = [.summarize ((View.ofRequest r).summaryTask r x) reply] ∧
      match reply with
      | .abandoned => result = .error .cancelled
      | .finished t => result = .ok (x, (View.ofRequest r).summary t.result)

theorem Summed.unique {model : ModelPeer μ} {m : μ} {x : Except QueryError Executed}
    {result result' : Except QueryError (Executed × Option String)} (h : Summed r c xs result x)
    (h' : Summed r c xs' result' x) (hspeaks : model.Speaks xs m) (hspeaks' : model.Speaks xs' m) :
    xs = xs' ∧ result = result' := by
  cases x with
  | error e =>
    obtain ⟨rfl, rfl⟩ := h
    obtain ⟨rfl, rfl⟩ := h'
    exact ⟨rfl, rfl⟩
  | ok x =>
    cases c with
    | true =>
      obtain ⟨rfl, rfl⟩ := h
      obtain ⟨rfl, rfl⟩ := h'
      exact ⟨rfl, rfl⟩
    | false =>
      obtain ⟨reply, rfl, hreply⟩ := h
      obtain ⟨reply', rfl, hreply'⟩ := h'
      -- The summarizer has been asked the same, and has answered the same.
      obtain rfl : reply = reply' := hspeaks.1.trans hspeaks'.1.symm
      cases reply with
      | abandoned => exact ⟨rfl, hreply.trans hreply'.symm⟩
      | finished t => exact ⟨rfl, hreply.trans hreply'.symm⟩

theorem Answered.contact {result : Except QueryError (Executed × Option String)}
    (h : Answered s r c xs result) : ∃ ys x o rest, xs = ys ++ .disconnect o :: rest ∧
      Contact s r c ys x ∧
        Summed r (c || (ys ++ [Exchange.disconnect o]).any Exchange.cancels) rest result x := by
  cases h with
  | failed hcontact => exact ⟨_, _, _, [], rfl, hcontact, rfl, rfl⟩
  | cancelled hcontact hcancelled =>
    refine ⟨_, _, _, [], rfl, hcontact, ?_⟩
    rw [hcancelled]
    exact ⟨rfl, rfl⟩
  | abandoned hcontact hcancelled | summarized hcontact hcancelled =>
    refine ⟨_, _, _, [_], List.append_assoc .., hcontact, ?_⟩
    rw [hcancelled]
    exact ⟨_, rfl, rfl⟩

theorem Answered.unique {model : ModelPeer μ} {m : μ}
    {result result' : Except QueryError (Executed × Option String)} (h : Answered s r c xs result)
    (h' : Answered s r c xs' result') (hspeaks : model.Speaks xs m) (hspeaks' : model.Speaks xs' m)
    (hagree : Agree (reports xs) (reports xs')) : xs = xs' ∧ result = result' := by
  obtain ⟨ys, x, o, rest, rfl, hcontact, hsummed⟩ := h.contact
  obtain ⟨ys', x', o', rest', rfl, hcontact', hsummed'⟩ := h'.contact
  rw [reports_append, reports_append] at hagree
  rw [ModelPeer.speaks_append] at hspeaks hspeaks'
  obtain ⟨rfl, rfl⟩ := hcontact.unique hcontact' hspeaks.1 hspeaks'.1 hagree.of_append
  obtain ⟨hreport, -⟩ := Agree.cons_iff.1 (Agree.append_left_iff.1 hagree)
  obtain rfl := Report.disconnected.inj hreport
  obtain ⟨rfl, rfl⟩ := hsummed.unique hsummed' hspeaks.2.2 hspeaks'.2.2
  exact ⟨rfl, rfl⟩

end AskSql
