import AskSql.Proofs.Json.Outline

/-!
What readers make of a node is settled by the value it shows.

A reader of a record asks for each field under its names; that none of them is given twice, and that
all other members can be passed over, is said once for all records.
-/

namespace AskSql.Json

theorem nestedInduction {P : Json → Prop} (null : P .null) (bool : ∀ b, P (.bool b))
    (num : ∀ n, P (.num n)) (str : ∀ s, P (.str s))
    (arr : ∀ items, (∀ v ∈ items, P v) → P (.arr items))
    (obj : ∀ members, (∀ m ∈ members, P m.2) → P (.obj members)) : ∀ v, P v
  | .null => null
  | .bool b => bool b
  | .num n => num n
  | .str s => str s
  | .arr items => arr items fun v _ => nestedInduction null bool num str arr obj v
  | .obj members => obj members fun m _ => nestedInduction null bool num str arr obj m.2
termination_by v => sizeOf v
decreasing_by
  · have := List.sizeOf_lt_of_mem ‹_›
    simp only [Json.arr.sizeOf_spec]
    omega
  · have := List.sizeOf_lt_of_mem ‹_›
    have : sizeOf m.2 < sizeOf m := by cases m; simp +arith
    simp only [Json.obj.sizeOf_spec]
    omega

mutual

def depth : Json → Nat
  | .arr items => depthOfItems items + 1
  | .obj members => depthOfMembers members + 1
  | _ => 0

def depthOfItems : List Json → Nat
  | [] => 0
  | v :: rest => max v.depth (depthOfItems rest)

def depthOfMembers : List (String × Json) → Nat
  | [] => 0
  | (_, v) :: rest => max v.depth (depthOfMembers rest)

end

theorem depthOfItems_le {items : List Json} {n : Nat} :
    depthOfItems items ≤ n ↔ ∀ v ∈ items, v.depth ≤ n := by
  induction items with
  | nil => simp [depthOfItems]
  | cons v items ih => rw [depthOfItems, Nat.max_le, ih, List.forall_mem_cons]

theorem depthOfMembers_le {members : List (String × Json)} {n : Nat} :
    depthOfMembers members ≤ n ↔ ∀ m ∈ members, m.2.depth ≤ n := by
  induction members with
  | nil => simp [depthOfMembers]
  | cons m members ih => rw [depthOfMembers, Nat.max_le, ih, List.forall_mem_cons]

variable {levels : Nat}

theorem Node.Shows.laxFault? {n : Node} {v : Json} (h : n.Shows v) : n.laxFault? = none := by
  induction v using nestedInduction generalizing n with
  | arr items ih =>
    cases h with
    | @arr ns _ start left h =>
      rw [Node.laxFault?]
      induction h with
      | nil => rfl
      | cons hn _ hrest =>
        rw [laxFaultOfItems?, ih _ List.mem_cons_self hn, Option.none_or]
        exact hrest fun v hv => ih v (List.mem_cons_of_mem _ hv)
  | obj members ih =>
    cases h with
    | @obj ks _ start left h =>
      rw [Node.laxFault?]
      induction h with
      | nil => rfl
      | cons hk _ hrest =>
        cases hk with
        | mk _ hn =>
        rw [laxFaultOfMembers?, ih _ List.mem_cons_self hn, Option.none_or]
        exact hrest fun m hm => ih m (List.mem_cons_of_mem _ hm)
  | _ => cases h; rfl

theorem anyItems_eq {ns : List Node} {vs : List Json} (h : List.Forall₂ Node.Shows ns vs)
    (hany : ∀ v ∈ vs, ∀ n : Node, n.Shows v → Reader.any levels n = .ok v.sorted) :
    Reader.anyItems levels ns = .ok (sortedItems vs) := by
  induction h with
  | nil => rfl
  | cons hn _ ih =>
    rw [List.forall_mem_cons] at hany
    exact bind_eq_ok.2 ⟨_, hany.1 _ hn, bind_eq_ok.2 ⟨_, ih hany.2, rfl⟩⟩

theorem anyMembers_eq_of_any {ks : List (Label × Node)} {ms : List (String × Json)}
    (h : List.Forall₂ ShowsMember ks ms)
    (hany : ∀ m ∈ ms, ∀ n : Node, n.Shows m.2 → Reader.any levels n = .ok m.2.sorted) :
    Reader.anyMembers levels ks = .ok (sortedMembers ms) := by
  induction h with
  | nil => rfl
  | cons hk _ ih =>
    obtain ⟨hname, hn⟩ := hk
    rw [List.forall_mem_cons] at hany
    refine bind_eq_ok.2 ⟨_, hname, bind_eq_ok.2 ⟨_, hany.1 _ hn, ?_⟩⟩
    exact bind_eq_ok.2 ⟨_, ih hany.2, rfl⟩

theorem Node.Shows.any {n : Node} {v : Json} (h : n.Shows v) (hdepth : v.depth ≤ levels) :
    Reader.any levels n = .ok v.sorted := by
  induction v using nestedInduction generalizing n levels with
  | arr items ih =>
    cases h with
    | arr h =>
      rw [depth] at hdepth
      obtain ⟨levels, rfl⟩ := Nat.exists_eq_add_of_le' (Nat.le_trans (Nat.le_add_left 1 _) hdepth)
      have hitems := depthOfItems_le.1 (Nat.le_of_succ_le_succ hdepth)
      exact bind_eq_ok.2 ⟨_, anyItems_eq h fun v hv n hn => ih v hv hn (hitems v hv), rfl⟩
  | obj members ih =>
    cases h with
    | obj h =>
      rw [depth] at hdepth
      obtain ⟨levels, rfl⟩ := Nat.exists_eq_add_of_le' (Nat.le_trans (Nat.le_add_left 1 _) hdepth)
      have hmembers := depthOfMembers_le.1 (Nat.le_of_succ_le_succ hdepth)
      exact bind_eq_ok.2
        ⟨_, anyMembers_eq_of_any h fun m hm n hn => ih m hm hn (hmembers m hm), rfl⟩
  | _ => cases h; rfl

theorem anyMembers_eq {ks : List (Label × Node)} {ms : List (String × Json)}
    (h : List.Forall₂ ShowsMember ks ms) (hdepth : ∀ m ∈ ms, m.2.depth ≤ levels) :
    Reader.anyMembers levels ks = .ok (sortedMembers ms) :=
  anyMembers_eq_of_any h fun m hm _ hn => hn.any (hdepth m hm)

theorem insertKey_of_last {α : Type} {l : List (String × α)} {m : String × α}
    (h : ∀ k ∈ l, k.1 < m.1) : insertKey m.1 m.2 l = l ++ [m] := by
  induction l with
  | nil => rfl
  | cons k l ih =>
    rw [List.forall_mem_cons] at h
    rw [insertKey, if_neg (String.lt_asymm h.1), if_neg (String.ne_of_lt h.1).symm, ih h.2]
    rfl

theorem sortKeys_eq_self {α : Type} {l : List (String × α)} (h : l.Pairwise (·.1 < ·.1)) :
    sortKeys l = l := by
  suffices hfold : ∀ done : List (String × α), (done ++ l).Pairwise (·.1 < ·.1) →
      l.foldl (fun sorted m => insertKey m.1 m.2 sorted) done = done ++ l from hfold [] h
  clear h
  induction l with
  | nil => simp
  | cons m l ih =>
    intro done hdone
    have hlast : ∀ k ∈ done, k.1 < m.1 := fun k hk =>
      (List.pairwise_append.1 hdone).2.2 k hk m List.mem_cons_self
    rw [List.foldl_cons, insertKey_of_last hlast, ih _ (by simpa using hdone)]
    simp

theorem sortedMembers_eq_self {ms : List (String × Json)} (h : ∀ m ∈ ms, m.2.sorted = m.2) :
    sortedMembers ms = ms := by
  induction ms with
  | nil => rfl
  | cons m ms ih =>
    rw [List.forall_mem_cons] at h
    rw [sortedMembers, h.1, ih h.2]

/-- The reader makes this of every node that shows the value. -/
def Reader.Reads {α : Type} (read : Reader α) (levels : Nat) (v : Json) (a : α) : Prop :=
  ∀ n : Node, n.Shows v → read levels n = .ok a

section

variable {α : Type} {read : Reader α} {v : Json} {a : α}

theorem Reader.reads_string (s : String) : Reader.string.Reads levels (.str s) s := by
  rintro _ ⟨⟩
  rfl

theorem Reader.reads_option_none : (Reader.option read).Reads levels .null none := by
  rintro _ ⟨⟩
  rfl

theorem Reader.Reads.option (h : read.Reads levels v a) (hv : v ≠ .null) :
    (Reader.option read).Reads levels v (some a) := by
  intro n hn
  have hread := h n hn
  cases hn with
  | null => exact absurd rfl hv
  | _ => exact congrArg (Except.map some) hread

theorem Reader.reads_opt {f : α → Json} (h : ∀ a, read.Reads levels (f a) a) (hf : ∀ a, f a ≠ .null)
    (x : Option α) : (Reader.option read).Reads levels (.opt f x) x := by
  cases x with
  | none => exact Reader.reads_option_none
  | some a => exact (h a).option (hf a)

theorem Reader.items_eq {ns : List Node} {vs : List Json} {as : List α}
    (hns : List.Forall₂ Node.Shows ns vs) (has : List.Forall₂ (read.Reads levels) vs as) :
    Reader.items (read levels) ns = .ok as := by
  induction hns generalizing as with
  | nil => cases has; rfl
  | cons hn _ ih =>
    cases has with
    | cons ha has => exact bind_eq_ok.2 ⟨_, ha _ hn, bind_eq_ok.2 ⟨_, ih has, rfl⟩⟩

theorem Reader.reads_list {vs : List Json} {as : List α}
    (h : List.Forall₂ (read.Reads levels) vs as) :
    (Reader.list read).Reads (levels + 1) (.arr vs) as := by
  intro n hn
  cases hn with
  | arr hns => exact bind_eq_ok.2 ⟨_, Reader.items_eq hns h, rfl⟩

theorem Reader.reads_map {f : α → Json} {l : List α} (h : ∀ a ∈ l, read.Reads levels (f a) a) :
    (Reader.list read).Reads (levels + 1) (.arr (l.map f)) l := by
  refine Reader.reads_list ?_
  rw [List.forall₂_map_left_iff, List.forall₂_same]
  exact h

theorem Reader.reads_members {ms : List (String × Json)} (h : ∀ m ∈ ms, m.2.depth ≤ levels) :
    Reader.members.Reads (levels + 1) (.obj ms) (sortKeys (sortedMembers ms)) := by
  intro n hn
  cases hn with
  | obj hks => exact bind_eq_ok.2 ⟨_, anyMembers_eq hks h, rfl⟩

end

section

variable {α β : Type} {names : List String} {read : Reader α} {absent : Absent α} {v : Json} {a : α}
  {ms : List (String × Json)} {x : Fields α}

def Fields.Reads (x : Fields α) (levels : Nat) (ms : List (String × Json)) (a : α) : Prop :=
  ∀ ks, List.Forall₂ ShowsMember ks ms → ∀ position stop,
    x.build levels position (.object ks stop) = .ok a

theorem Fields.Reads.map (h : x.Reads levels ms a) (f : α → β) : (f <$> x).Reads levels ms (f a) :=
  fun ks hks position stop => congrArg (Except.map f) (h ks hks position stop)

theorem Fields.Reads.seq {f : Fields (α → β)} {g : α → β} (hf : f.Reads levels ms g)
    (hx : x.Reads levels ms a) : (f <*> x).Reads levels ms (g a) := by
  intro ks hks position stop
  change (Fields.seq f x).build levels position (.object ks stop) = _
  simp only [Fields.seq, hf ks hks, hx ks hks]

theorem labelled_eq {k : Label × Node} {m : String × Json} (h : ShowsMember k m) :
    labelled names k = names.contains m.1 := by
  obtain ⟨hname, -⟩ := h
  rw [labelled]
  simp only [hname]

theorem find?_labelled (names : List String) {ks : List (Label × Node)}
    (h : List.Forall₂ ShowsMember ks ms) :
    Option.Rel ShowsMember (ks.find? (labelled names)) (ms.find? fun m => names.contains m.1) := by
  induction h with
  | nil => exact .none
  | cons hk _ ih =>
    rw [List.find?_cons, List.find?_cons, labelled_eq hk]
    split
    · exact .some hk
    · exact ih

theorem exists_findIdx?_eq_some {l : List α} {p : α → Bool} (h : l.find? p = some a) :
    ∃ i, l.findIdx? p = some i := by
  rw [← Option.isSome_iff_exists, List.findIdx?_isSome, List.any_eq_true]
  exact ⟨a, List.mem_of_find?_eq_some h, List.find?_some h⟩

theorem reads_field {m : String × Json} (hm : ms.find? (fun m => names.contains m.1) = some m)
    (h : read.Reads levels m.2 a) : (field names read absent).Reads levels ms a := by
  intro ks hks position stop
  have hfind := find?_labelled names hks
  rw [hm] at hfind
  obtain ⟨k, hk, hshows⟩ : ∃ k, ks.find? (labelled names) = some k ∧ ShowsMember k m := by
    cases hk : ks.find? (labelled names) with
    | none => rw [hk] at hfind; cases hfind
    | some k => rw [hk] at hfind; cases hfind with | some h => exact ⟨k, rfl, h⟩
  obtain ⟨i, hi⟩ := exists_findIdx?_eq_some hk
  obtain ⟨-, hn⟩ := hshows
  simp only [field, hi, hk, h _ hn, Except.mapError]

def Once (names : List (List String)) (keys : List String) : Prop :=
  ∀ answers ∈ names, keys.countP answers.contains ≤ 1

instance (names : List (List String)) (keys : List String) : Decidable (Once names keys) :=
  inferInstanceAs (Decidable (∀ answers ∈ names, _))

theorem memberFault?_eq_none_of_before {names : List (List String)}
    {ks before : List (Label × Node)} (hks : List.Forall₂ ShowsMember ks ms)
    (honce : ∀ answers ∈ names,
      before.countP (labelled answers) + (ms.map Prod.fst).countP answers.contains ≤ 1) (i : Nat) :
    memberFault? names i before ks = none := by
  induction hks generalizing before i with
  | nil => rfl
  | @cons k m ks ms hk _ ih =>
    have hrest : memberFault? names (i + 1) (k :: before) ks = none := by
      refine ih (fun answers hanswers => ?_) (i + 1)
      have := honce answers hanswers
      simp only [List.map_cons, List.countP_cons, labelled_eq hk] at this ⊢
      omega
    obtain ⟨hname, hn⟩ := hk
    simp only [memberFault?, hname, hrest, hn.laxFault?]
    split
    · rename_i answers hanswers
      have := honce answers (List.mem_of_find?_eq_some hanswers)
      have hcontains := List.find?_some hanswers
      simp only [List.map_cons, List.countP_cons, hcontains, if_true] at this
      -- This member is the one that may answer to the names, so none before it does.
      have hbefore : before.any (labelled answers) = false := by
        rw [List.any_eq_false, ← List.countP_eq_zero]
        omega
      rw [hbefore]
      rfl
    · rfl

theorem memberFault?_eq_none {names : List (List String)} {ks : List (Label × Node)}
    (hks : List.Forall₂ ShowsMember ks ms) (honce : Once names (ms.map Prod.fst)) :
    memberFault? names 0 [] ks = none :=
  memberFault?_eq_none_of_before hks (by simpa [Once] using honce) 0

theorem Fields.Reads.finish (h : x.Reads levels ms a) {ks : List (Label × Node)}
    (hks : List.Forall₂ ShowsMember ks ms) (honce : Once x.names (ms.map Prod.fst))
    (left : List Char) : x.finish levels (.object ks (.closed left)) = .ok a := by
  simp only [Fields.finish, h _ hks, Source.fault?, memberFault?_eq_none hks honce]
  rfl

theorem decode_eq {s : List Char} (hs : v.IsText s) (h : read.Reads maxLevels v a) :
    decode read s = .ok a := by
  obtain ⟨hshows, left, hleft, hspace⟩ := hs.outline
  refine bind_eq_ok.2 ⟨a, h _ hshows, ?_⟩
  rw [hleft, Option.getD_some, ← skipSpace, hspace]
  rfl

end

end AskSql.Json
