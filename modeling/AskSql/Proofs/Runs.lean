import AskSql.Proofs.Trim

namespace AskSql.Text

open Unicode

variable {p : Char → Bool} {c : Char} {s t : List Char}

theorem takeWhile_append_eq (hs : ∀ c ∈ s, p c = true) (ht : ∀ c ∈ t.head?, p c = false) :
    (s ++ t).takeWhile p = s := by
  rw [List.takeWhile_append_of_pos hs]
  cases t with
  | nil => exact List.append_nil s
  | cons c t => rw [List.takeWhile_cons_of_neg (by simp [ht c rfl]), List.append_nil]

def runs (p : Char → Bool) (s : List Char) : List (List Char) :=
  (s.splitOnP fun c => !p c).filter fun w => !w.isEmpty

@[simp] theorem runs_nil : runs p [] = [] := rfl

theorem runs_append_cons (h : p c = false) (s t : List Char) :
    runs p (s ++ c :: t) = runs p s ++ runs p t := by
  rw [runs, List.splitOnP_append_cons s t (by simp [h]), List.filter_append]
  rfl

theorem runs_cons (h : p c = false) (s : List Char) : runs p (c :: s) = runs p s := by
  simpa using runs_append_cons h [] s

theorem runs_cons_of_pos (h : p c = true) (s : List Char) :
    runs p (c :: s) = (c :: s.takeWhile p) :: runs p (s.dropWhile p) := by
  have htake : ∀ d ∈ c :: s.takeWhile p, (!p d) = false := by
    intro d hd
    rcases List.mem_cons.1 hd with rfl | hd
    · simp [h]
    · simp [List.mem_takeWhile_imp hd]
  conv_lhs => rw [← List.takeWhile_append_dropWhile (p := p) (l := s)]
  rw [← List.cons_append]
  rcases hdrop : s.dropWhile p with _ | ⟨d, t⟩
  · rw [List.append_nil, runs, List.splitOnP_eq_singleton htake]
    rfl
  · have hd : p d = false := by
      simpa [hdrop] using List.head?_dropWhile_not p s
    rw [runs_cons hd, runs, List.splitOnP_append_cons_of_forall_mem htake d (by simp [hd])]
    rfl

theorem runs_append_of_left (h : ∀ c ∈ s, p c = false) (t : List Char) :
    runs p (s ++ t) = runs p t := by
  induction s with
  | nil => rfl
  | cons c s ih =>
    rw [List.cons_append, runs_cons (h c (by simp)), ih fun d hd => h d (by simp [hd])]

theorem runs_append_of_right (s : List Char) (h : ∀ c ∈ t, p c = false) :
    runs p (s ++ t) = runs p s := by
  cases t with
  | nil => rw [List.append_nil]
  | cons c t =>
    have ht : runs p t = [] := by
      simpa using runs_append_of_left (fun d hd => h d (by simp [hd])) ([] : List Char)
    rw [runs_append_cons (h c (by simp)), ht, List.append_nil]

theorem runs_eq_singleton (hne : s ≠ []) (h : ∀ c ∈ s, p c = true) : runs p s = [s] := by
  rw [runs, List.splitOnP_eq_singleton fun c hc => by simp [h c hc]]
  simp [hne]

/-- No run goes on from the one text to the other. -/
def Parted (p : Char → Bool) (s t : List Char) : Prop :=
  (∀ c ∈ s.getLast?, p c = false) ∨ ∀ c ∈ t.head?, p c = false

theorem runs_append (h : Parted p s t) : runs p (s ++ t) = runs p s ++ runs p t := by
  rcases h with h | h
  · rcases List.eq_nil_or_concat' s with rfl | ⟨s, c, rfl⟩
    · rfl
    · have hc : p c = false := h c (by simp)
      rw [List.append_assoc, List.singleton_append, runs_append_cons hc, runs_append_cons hc,
        runs_nil, List.append_nil]
  · cases t with
    | nil => simp
    | cons c t =>
      have hc : p c = false := h c rfl
      rw [runs_append_cons hc, runs_cons hc]

theorem runs_trimEnd (h : ∀ {c}, isBlank c = true → p c = false) (s : List Char) :
    runs p (trimEnd s) = runs p s := by
  obtain ⟨after, hs, hafter⟩ := exists_trimEnd_append s
  conv_rhs => rw [hs, runs_append_of_right _ fun c hc => h (hafter c hc)]

theorem runs_trim (h : ∀ {c}, isBlank c = true → p c = false) (s : List Char) :
    runs p (trim s) = runs p s := by
  obtain ⟨before, hs, hbefore⟩ := exists_append_trimStart s
  rw [trim, runs_trimEnd h]
  conv_rhs => rw [hs, runs_append_of_left fun c hc => h (hbefore c hc)]

variable {w : List Char}

def IsRun (p : Char → Bool) (s w : List Char) : Prop :=
  w ≠ [] ∧ (∀ c ∈ w, p c = true) ∧ ∃ before after, s = before ++ w ++ after ∧
    (∀ c ∈ before.getLast?, p c = false) ∧ ∀ c ∈ after.head?, p c = false

theorem IsRun.surround (h : IsRun p s w) {b a : List Char} (hb : ∀ c ∈ b.getLast?, p c = false)
    (ha : ∀ c ∈ a.head?, p c = false) : IsRun p (b ++ s ++ a) w := by
  obtain ⟨hne, hw, before, after, rfl, hbefore, hafter⟩ := h
  refine ⟨hne, hw, b ++ before, after ++ a, by simp, fun c hc => ?_, fun c hc => ?_⟩
  · rw [List.getLast?_append] at hc
    exact (Option.or_eq_some_iff.1 hc).elim (hbefore c) fun h => hb c h.2
  · rw [List.head?_append] at hc
    exact (Option.or_eq_some_iff.1 hc).elim (hafter c) fun h => ha c h.2

theorem head?_dropWhile (s : List Char) : ∀ c ∈ (s.dropWhile p).head?, p c = false := by
  intro c hc
  have := List.head?_dropWhile_not p s
  rw [hc] at this
  simpa using this

theorem mem_runs_of_isRun (h : IsRun p s w) : w ∈ runs p s := by
  obtain ⟨hne, hw, before, after, rfl, hbefore, hafter⟩ := h
  rw [runs_append (.inr hafter), runs_append (.inl hbefore), runs_eq_singleton hne hw]
  simp

theorem isRun_of_mem_runs (h : w ∈ runs p s) : IsRun p s w := by
  -- On the length, for behind a run the search goes on with what is left.
  induction hn : s.length using Nat.strongRecOn generalizing s with
  | ind n ih =>
    cases s with
    | nil => cases h
    | cons c s =>
      cases hc : p c with
      | false =>
        rw [runs_cons hc] at h
        have hrun : IsRun p s w := ih s.length (by simp [← hn]) h rfl
        simpa using hrun.surround (b := [c]) (a := []) (by simpa using hc) nofun
      | true =>
        rw [runs_cons_of_pos hc] at h
        rcases List.mem_cons.1 h with rfl | h
        · have hword : ∀ d ∈ c :: s.takeWhile p, p d = true :=
            List.forall_mem_cons.2 ⟨hc, fun d hd => List.mem_takeWhile_imp hd⟩
          refine ⟨List.cons_ne_nil _ _, hword, [], s.dropWhile p, ?_, nofun, head?_dropWhile s⟩
          simp
        · cases hdrop : s.dropWhile p with
          | nil =>
            rw [hdrop] at h
            cases h
          | cons d t =>
            have hd : p d = false := head?_dropWhile s d (by rw [hdrop]; rfl)
            have hs : c :: s = (c :: s.takeWhile p ++ [d]) ++ t ++ [] := by
              simpa [hdrop] using (List.takeWhile_append_dropWhile (p := p) (l := s)).symm
            have hlt : t.length < n := by
              rw [← hn, hs]
              simp only [List.append_nil, List.length_append, List.length_singleton]
              omega
            rw [hdrop, runs_cons hd] at h
            rw [hs]
            refine (ih _ hlt h rfl).surround (fun e he => ?_) nofun
            rw [List.getLast?_concat] at he
            exact Option.some.inj he ▸ hd

theorem mem_runs_iff : w ∈ runs p s ↔ IsRun p s w := ⟨isRun_of_mem_runs, mem_runs_of_isRun⟩

end AskSql.Text
