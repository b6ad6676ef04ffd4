import AskSql.Proofs.Json.Reading
import AskSql.Schema

namespace AskSql.Json

variable {levels : Nat}

theorem Reader.reads_bool (b : Bool) : Reader.bool.Reads levels (.bool b) b := by
  rintro _ ⟨⟩
  rfl

theorem Reader.reads_int64 {n : Int} (h : Width.isSigned 64 n) :
    Reader.int64.Reads levels (.int n) n := by
  rw [Width.isSigned, Bool.and_eq_true, decide_eq_true_eq, decide_eq_true_eq] at h
  rintro _ ⟨⟩
  exact if_pos ⟨h.1, Int.le_sub_one_of_lt h.2⟩

theorem Reader.reads_word {n : Nat} (h : Width.isWord 64 n) (expected : String) :
    (Reader.word expected).Reads levels (.nat n) n := by
  have hn : n < Width.values 64 := of_decide_eq_true h
  rintro _ ⟨⟩
  have hbounds : 0 ≤ (n : Int) ∧ (n : Int) ≤ Width.values 64 - 1 := by omega
  exact congrArg (Except.map Int.toNat) (if_pos hbounds)

theorem Reader.reads_enum {α : Type} {known : List (String × α)} {s : String} {a : α}
    (h : known.lookup s = some a) : (Reader.enum known).Reads levels (.str s) a := by
  rintro _ ⟨⟩
  refine bind_eq_ok.2 ⟨s, rfl, ?_⟩
  rw [Reader.named, h]

theorem Reader.reads_strings (l : List String) :
    (Reader.list Reader.string).Reads (levels + 1) (.strings l) l :=
  Reader.reads_map fun s _ => Reader.reads_string s

mutual

theorem Node.shows_ofJson : (v : Json) → (Node.ofJson v).Shows v
  | .null => .null
  | .bool _ => .bool
  | .num _ => .num
  | .str _ => .str
  | .arr items => .arr (Node.shows_ofItems items)
  | .obj members => .obj (Node.shows_ofMembers members)

theorem Node.shows_ofItems : (items : List Json) →
    List.Forall₂ Node.Shows (Node.ofItems items) items
  | [] => .nil
  | v :: rest => .cons (Node.shows_ofJson v) (Node.shows_ofItems rest)

theorem Node.shows_ofMembers : (members : List (String × Json)) →
    List.Forall₂ ShowsMember (Node.ofMembers members) members
  | [] => .nil
  | (_, v) :: rest => .cons (.mk rfl (Node.shows_ofJson v)) (Node.shows_ofMembers rest)

end

theorem Reader.Reads.read? {α : Type} {read : Reader α} {v : Json} {a : α}
    (h : read.Reads maxLevels v a) : Json.read? read v = some a :=
  congrArg Except.toOption (h _ (Node.shows_ofJson v))

theorem insertKey_perm {α : Type} {key : String} {value : α} {l : List (String × α)}
    (h : key ∉ l.map Prod.fst) : (insertKey key value l).Perm ((key, value) :: l) := by
  induction l with
  | nil => exact .refl _
  | cons m l ih =>
    rw [List.map_cons, List.mem_cons, not_or] at h
    rw [insertKey]
    split
    · exact .refl _
    · rw [if_neg h.1]
      exact ((ih h.2).cons m).trans (.swap ..)

theorem sortKeys_perm {α : Type} {l : List (String × α)} (h : (l.map Prod.fst).Nodup) :
    (sortKeys l).Perm l := by
  suffices hfold : ∀ done : List (String × α), ((done ++ l).map Prod.fst).Nodup →
      (l.foldl (fun sorted m => insertKey m.1 m.2 sorted) done).Perm (done ++ l) from hfold [] h
  clear h
  induction l with
  | nil => simp
  | cons m l ih =>
    intro done hdone
    have hmiddle : (done ++ m :: l).Perm ((m :: done) ++ l) := List.perm_middle
    have hnew : ((m :: done).map Prod.fst).Nodup :=
      ((hmiddle.map Prod.fst).nodup_iff.1 hdone).sublist ((List.sublist_append_left ..).map _)
    have hinsert : (insertKey m.1 m.2 done).Perm (m :: done) :=
      insertKey_perm (List.nodup_cons.1 hnew).1
    have hall : (insertKey m.1 m.2 done ++ l).Perm (done ++ m :: l) :=
      (hinsert.append_right l).trans hmiddle.symm
    exact (ih _ ((hall.map Prod.fst).nodup_iff.2 hdone)).trans hall

def answering (names : List String) (ms : List (String × Json)) : List (String × Json) :=
  ms.filter fun m => names.contains m.1

section

variable {names : List String} {ms : List (String × Json)}

@[simp] theorem answering_nil : answering names [] = [] := rfl

@[simp] theorem answering_cons (m : String × Json) : answering names (m :: ms) =
    if names.contains m.1 then m :: answering names ms else answering names ms :=
  List.filter_cons

@[simp] theorem answering_append (s t : List (String × Json)) :
    answering names (s ++ t) = answering names s ++ answering names t :=
  List.filter_append s t

@[simp] theorem answering_whenSome {α : Type} {key : String} {f : α → Json} {x : Option α} :
    answering names (whenSome key f x) = if names.contains key then whenSome key f x else [] := by
  cases x <;> simp [whenSome]

theorem find?_eq_head?_answering :
    ms.find? (fun m => names.contains m.1) = (answering names ms).head? :=
  (List.head?_filter ..).symm

theorem countP_keys (names : List String) (ms : List (String × Json)) :
    (ms.map Prod.fst).countP names.contains = (answering names ms).length := by
  rw [List.countP_map, List.countP_eq_length_filter]
  rfl

end

/-- The fields are found among the members in any order, and none of them is given twice. -/
structure Fields.Finds {α : Type} (x : Fields α) (levels : Nat) (ms : List (String × Json)) (a : α) :
    Prop where
  reads : ∀ ms' : List (String × Json), ms'.Perm ms → x.Reads levels ms' a
  once : Once x.names (ms.map Prod.fst)

section

variable {α β : Type} {names : List String} {read : Reader α} {absent : Absent α} {a : α}
  {ms : List (String × Json)} {x : Fields α}

theorem Fields.Finds.map (h : x.Finds levels ms a) (f : α → β) : (f <$> x).Finds levels ms (f a) :=
  ⟨fun ms' hperm => (h.reads ms' hperm).map f, h.once⟩

theorem Fields.Finds.seq {f : Fields (α → β)} {g : α → β} (hf : f.Finds levels ms g)
    (hx : x.Finds levels ms a) : (f <*> x).Finds levels ms (g a) := by
  refine ⟨fun ms' hperm => (hf.reads ms' hperm).seq (hx.reads ms' hperm), ?_⟩
  intro names hnames
  exact (List.mem_append.1 hnames).elim (hf.once names) (hx.once names)

theorem once_of_length_le (h : (answering names ms).length ≤ 1) :
    Once [names] (ms.map Prod.fst) := by
  intro answers hanswers
  rw [List.mem_singleton.1 hanswers, countP_keys]
  exact h

theorem finds_field {key : String} {others : List String} {v : Json}
    (hm : answering (key :: others) ms = [(key, v)]) (h : read.Reads levels v a) :
    (field (key :: others) read absent).Finds levels ms a := by
  refine ⟨fun ms' hperm => reads_field (m := (key, v)) ?_ h, once_of_length_le (by simp [hm])⟩
  have hanswering : answering (key :: others) ms' = [(key, v)] := by
    have hfilter : (answering (key :: others) ms').Perm (answering (key :: others) ms) :=
      hperm.filter _
    rwa [hm, List.perm_singleton] at hfilter
  rw [find?_eq_head?_answering, hanswering]
  rfl

theorem reads_absent (hm : answering names ms = []) (h : absent.inObject = some a) :
    (field names read absent).Reads levels ms a := by
  intro ks hks position stop
  have hfind := find?_labelled names hks
  rw [find?_eq_head?_answering, hm] at hfind
  have hnone : ks.find? (labelled names) = none := by
    cases hk : ks.find? (labelled names) with
    | none => rfl
    | some k => rw [hk] at hfind; cases hfind
  simp only [field, hnone, h]
  split
  · contradiction
  · rfl

theorem finds_absent (hm : answering names ms = []) (h : absent.inObject = some a) :
    (field names read absent).Finds levels ms a := by
  refine ⟨fun ms' hperm => reads_absent ?_ h, once_of_length_le (by simp [hm])⟩
  have hfilter : (answering names ms').Perm (answering names ms) := hperm.filter _
  rwa [hm, List.perm_nil] at hfilter

theorem finds_whenSome {key : String} {others : List String} {f : α → Json} {x : Option α}
    {absent : Absent (Option α)} (hm : answering (key :: others) ms = whenSome key f x)
    (h : ∀ a ∈ x, read.Reads levels (f a) a) (hf : ∀ a, f a ≠ .null)
    (habsent : absent.inObject = some none) :
    (field (key :: others) (Reader.option read) absent).Finds levels ms x := by
  cases x with
  | none => exact finds_absent hm habsent
  | some a => exact finds_field hm ((h a rfl).option (hf a))

theorem Fields.Finds.record_of_perm (h : x.Finds levels ms a) {ms' : List (String × Json)}
    (hperm : ms'.Perm ms) (title : String) : (record title x).Reads (levels + 1) (.obj ms') a := by
  intro n hn
  cases hn with
  | obj hks =>
    refine (h.reads ms' hperm).finish hks (fun names hnames => ?_) _
    rw [(hperm.map Prod.fst).countP_eq]
    exact h.once names hnames

theorem Fields.Finds.record (h : x.Finds levels ms a) (title : String) :
    (record title x).Reads (levels + 1) (.obj ms) a :=
  h.record_of_perm (.refl ms) title

end

end AskSql.Json
