import Mathlib.Data.List.DropRight
import Mathlib.Data.List.Forall2
import AskSql.Proofs.Json.Numeral

/-!
The outline of a printed value shows the value.

A text of a value may stand in front of any other text that does not go on with a number; what is
left behind it is that text, but for white space. Lists and objects are put together from the texts
of their parts.
-/

namespace AskSql.Json

mutual

/-- What the node of a text says is the value, wherever its parts stand in the text. -/
inductive Node.Shows : Node → Json → Prop
  | null : Node.Shows (.null left) .null
  | bool : Node.Shows (.bool b left) (.bool b)
  | num : Node.Shows (.num (.ok n) left) (.num n)
  | str : Node.Shows (.str (.ok s) left) (.str s)
  | arr : List.Forall₂ Node.Shows ns vs → Node.Shows (.arr start ns (.closed left)) (.arr vs)
  | obj : List.Forall₂ ShowsMember ks ms → Node.Shows (.obj start ks (.closed left)) (.obj ms)

inductive ShowsMember : Label × Node → String × Json → Prop
  | mk : label.name = .ok key → Node.Shows n v → ShowsMember (label, n) (key, v)

end

theorem skipSpace_skipSpace (s : List Char) : skipSpace (skipSpace s) = skipSpace s :=
  List.dropWhile_idempotent isSpace s

theorem skipSpace_append {s rest : List Char} {c : Char} (h : skipSpace s = c :: rest)
    (t : List Char) : skipSpace (s ++ t) = c :: (rest ++ t) := by
  rw [skipSpace, List.dropWhile_append, ← skipSpace, h]
  rfl

theorem readNode_skipSpace (fuel : Nat) (s : List Char) :
    readNode (fuel + 1) (skipSpace s) = readNode (fuel + 1) s := by
  rw [readNode, readNode, skipSpace_skipSpace]

theorem readItems_congr {s t : List Char} (h : skipSpace s = skipSpace t) (fuel : Nat)
    (isFirst : Bool) : readItems (fuel + 1) isFirst s = readItems (fuel + 1) isFirst t := by
  rw [readItems, readItems, h]

theorem readMembers_congr {s t : List Char} (h : skipSpace s = skipSpace t) (fuel : Nat)
    (isFirst : Bool) : readMembers (fuel + 1) isFirst s = readMembers (fuel + 1) isFirst t := by
  rw [readMembers, readMembers, h]

structure Node.ShowsBefore (n : Node) (v : Json) (t : List Char) : Prop where
  shows : n.Shows v
  left : ∃ left, n.left? = some left ∧ skipSpace left = skipSpace t

def IsText (v : Json) (s : List Char) : Prop :=
  ∀ t, EndsNumber t → ∀ fuel, 3 * s.length ≤ fuel → (readNode fuel (s ++ t)).ShowsBefore v t

theorem endsNumber_nil : EndsNumber [] := nofun

theorem endsNumber_cons {c : Char} (h : c.isDigit = false ∧ c ≠ '.' ∧ c ≠ 'e' ∧ c ≠ 'E')
    (s : List Char) : EndsNumber (c :: s) := by
  rintro _ ⟨⟩
  exact h

theorem IsText.exists_cons {v : Json} {s : List Char} (h : IsText v s) :
    ∃ c rest, skipSpace s = c :: rest ∧ c ≠ ']' := by
  obtain ⟨left, hleft, -⟩ := (h [] endsNumber_nil (3 * s.length + 1) (by omega)).left
  rw [List.append_nil, readNode] at hleft
  cases hs : skipSpace s with
  | nil =>
    rw [hs] at hleft
    cases hleft
  | cons c rest =>
    refine ⟨c, rest, rfl, ?_⟩
    rintro rfl
    rw [hs] at hleft
    cases hleft

theorem isText_null : IsText .null "null".toList := by
  rintro t - (_ | fuel) hfuel
  · simp at hfuel
  · exact ⟨.null, t, rfl, rfl⟩

theorem isText_bool (b : Bool) : IsText (.bool b) (Json.bool b).chars := by
  rintro t - (_ | fuel) hfuel
  · cases b <;> simp [chars] at hfuel
  · cases b <;> exact ⟨.bool, t, rfl, rfl⟩

theorem isText_num {n : Number} (h : n.IsLegible) : IsText (.num n) n.text := by
  rintro t ht (_ | fuel) hfuel
  · obtain ⟨left, hnode, -⟩ := h.exists_readNode endsNumber_nil 0
    rw [List.eq_nil_of_length_eq_zero (by omega : n.text.length = 0)] at hnode
    cases hnode
  · obtain ⟨left, hnode, hleft⟩ := h.exists_readNode ht fuel
    rw [hnode]
    exact ⟨.num, left, rfl, hleft⟩

theorem length_lt_quoted (s : String) : s.toList.length < (quoted s).length := by
  have hescaped (c : Char) : 1 ≤ (escaped c).length := by
    unfold escaped
    split_ifs <;> simp
  have hflat (cs : List Char) : cs.length ≤ (cs.flatMap escaped).length := by
    induction cs with
    | nil => exact Nat.le_refl _
    | cons c cs ih =>
      rw [List.flatMap_cons, List.length_append, List.length_cons]
      have := hescaped c
      omega
  rw [quoted, List.length_append, List.length_cons]
  have := hflat s.toList
  omega

theorem stringLabel_quoted {fuel : Nat} {s : String} (h : (quoted s).length ≤ fuel)
    (t : List Char) :
    stringLabel fuel (s.toList.flatMap escaped ++ '\x22' :: t) = .ok ⟨.ok s, t⟩ := by
  rw [stringLabel, stringBody_flatMap_escaped (Nat.lt_of_lt_of_le (length_lt_quoted s) h)]
  simp

theorem quoted_append (s : String) (t : List Char) :
    quoted s ++ t = '\x22' :: (s.toList.flatMap escaped ++ '\x22' :: t) := by simp [quoted]

theorem isText_str (s : String) : IsText (.str s) (quoted s) := by
  rintro t - (_ | fuel) hfuel
  · simp [quoted] at hfuel
  · have hlength := length_lt_quoted s
    have hlabel := stringLabel_quoted (show (quoted s).length ≤ fuel by omega) t
    have hnode : readNode (fuel + 1) (quoted s ++ t) = .str (.ok s) t := by
      rw [quoted_append, readNode]
      simp [skipSpace, isSpace, stringNode, hlabel]
    rw [hnode]
    exact ⟨.str, t, rfl, rfl⟩

section

variable {α : Type} {f : α → List Char} {l : List α} {s t : List Char} {fuel : Nat}

theorem endsNumber_tail (f : α → List Char) (l : List α) {close : Char}
    (h : close = ']' ∨ close = '\x7d') (t : List Char) :
    EndsNumber (l.flatMap (fun a => ',' :: f a) ++ close :: t) := by
  cases l with
  | nil => exact endsNumber_cons (by rcases h with rfl | rfl <;> decide) t
  | cons a l => exact endsNumber_cons (by decide) _

theorem readItem_text {v : Json} (h : IsText v s) (ht : EndsNumber t)
    (hfuel : 3 * s.length < fuel) :
    ∃ n, n.Shows v ∧ readItem (fuel + 1) (skipSpace (s ++ t)) =
      (n :: (readItems fuel false t).1, (readItems fuel false t).2) := by
  obtain ⟨fuel, rfl⟩ := Nat.exists_eq_add_of_lt hfuel
  obtain ⟨hshows, left, hleft, hspace⟩ := h t ht (3 * s.length + fuel + 1) (by omega)
  refine ⟨_, hshows, ?_⟩
  rw [readItem, readNode_skipSpace, hleft]
  simp only [readItems_congr hspace]

theorem readItems_tail {vs : List Json} (h : List.Forall₂ (fun v a => IsText v (f a)) vs l)
    (hfuel : 3 * (l.flatMap fun a => ',' :: f a).length < fuel) (t : List Char) :
    ∃ ns, List.Forall₂ Node.Shows ns vs ∧
      readItems fuel false (l.flatMap (fun a => ',' :: f a) ++ ']' :: t) = (ns, .closed t) := by
  induction h generalizing fuel with
  | nil =>
    obtain ⟨fuel, rfl⟩ := Nat.exists_eq_add_of_lt hfuel
    exact ⟨[], .nil, rfl⟩
  | @cons v a vs l hv _ ih =>
    rw [List.flatMap_cons, List.length_append, List.length_cons] at hfuel
    -- One step goes over the comma and one into the item.
    obtain ⟨fuel, rfl⟩ := Nat.exists_eq_add_of_le' (show 2 ≤ fuel by omega)
    obtain ⟨ns, hns, hitems⟩ := ih (show _ < fuel by omega)
    obtain ⟨n, hn, hitem⟩ := readItem_text hv (endsNumber_tail f l (.inl rfl) t)
      (show _ < fuel by omega)
    obtain ⟨c, rest, hs, hc⟩ := hv.exists_cons
    refine ⟨n :: ns, .cons hn hns, ?_⟩
    rw [hitems, skipSpace_append hs] at hitem
    rw [List.flatMap_cons, List.cons_append, List.cons_append, List.append_assoc, readItems,
      skipSpace]
    simp [isSpace, skipSpace_append hs, hc, hitem]

theorem readItems_commas {vs : List Json} (h : List.Forall₂ (fun v a => IsText v (f a)) vs l)
    (hfuel : 3 * (commas f l).length + 5 ≤ fuel) (t : List Char) :
    ∃ ns, List.Forall₂ Node.Shows ns vs ∧
      readItems fuel true (commas f l ++ ']' :: t) = (ns, .closed t) := by
  obtain ⟨fuel, rfl⟩ := Nat.exists_eq_add_of_le' (show 2 ≤ fuel by omega)
  cases h with
  | nil => exact ⟨[], .nil, rfl⟩
  | @cons v a vs l hv h =>
    rw [commas, List.length_append] at hfuel
    obtain ⟨ns, hns, hitems⟩ := readItems_tail h (show _ < fuel by omega) t
    obtain ⟨n, hn, hitem⟩ := readItem_text hv (endsNumber_tail f l (.inl rfl) t)
      (show _ < fuel by omega)
    obtain ⟨c, rest, hs, hc⟩ := hv.exists_cons
    refine ⟨n :: ns, .cons hn hns, ?_⟩
    rw [hitems, skipSpace_append hs] at hitem
    simp [commas, readItems, skipSpace_append hs, hc, hitem]

theorem isText_arr {vs : List Json} (h : List.Forall₂ (fun v a => IsText v (f a)) vs l) :
    IsText (.arr vs) ('[' :: commas f l ++ [']']) := by
  intro t _ fuel hfuel
  rw [List.length_append, List.length_cons, List.length_singleton] at hfuel
  obtain ⟨fuel, rfl⟩ := Nat.exists_eq_add_of_le' (show 1 ≤ fuel by omega)
  obtain ⟨ns, hns, hitems⟩ := readItems_commas h (show _ ≤ fuel by omega) t
  have hnode : readNode (fuel + 1) ('[' :: commas f l ++ [']'] ++ t) =
      .arr ('[' :: (commas f l ++ ']' :: t)) ns (.closed t) := by
    simp [readNode, skipSpace, isSpace, hitems]
  rw [hnode]
  exact ⟨.arr hns, t, rfl, rfl⟩

structure IsMemberText (m : String × Json) (s : List Char) : Prop where
  split : ∃ text, skipSpace s = quoted m.1 ++ ':' :: text ∧ m.2.IsText text

theorem IsMemberText.skipSpace_eq {m : String × Json} {text : List Char}
    (h : skipSpace s = quoted m.1 ++ ':' :: text) (t : List Char) : skipSpace (s ++ t) =
      '\x22' :: (m.1.toList.flatMap escaped ++ '\x22' :: (':' :: (text ++ t))) := by
  rw [quoted_append] at h
  rw [skipSpace_append h]
  simp

theorem readMember_text {m : String × Json} (h : IsMemberText m s) (ht : EndsNumber t)
    (hfuel : 3 * s.length < fuel) :
    ∃ k, ShowsMember k m ∧ readMember (fuel + 1) (skipSpace (s ++ t)) =
      (k :: (readMembers fuel false t).1, (readMembers fuel false t).2) := by
  obtain ⟨text, hs, htext⟩ := h.split
  have hlength : (quoted m.1).length + 1 + text.length ≤ s.length := by
    have := (List.dropWhile_suffix isSpace (l := s)).length_le
    rw [← skipSpace, hs] at this
    simp at this
    omega
  obtain ⟨fuel, rfl⟩ := Nat.exists_eq_add_of_lt hfuel
  obtain ⟨hshows, left, hleft, hspace⟩ := htext t ht (3 * s.length + fuel + 1) (by omega)
  have hkey : (quoted m.1).length ≤ 3 * s.length + fuel + 1 := by omega
  refine ⟨(⟨.ok m.1, ':' :: (text ++ t)⟩, _), .mk rfl hshows, ?_⟩
  rw [IsMemberText.skipSpace_eq hs, readMember, stringLabel_quoted hkey]
  simp [skipSpace, isSpace, hleft, readMembers_congr hspace]

theorem readMembers_tail {ms : List (String × Json)}
    (h : List.Forall₂ (fun m a => IsMemberText m (f a)) ms l)
    (hfuel : 3 * (l.flatMap fun a => ',' :: f a).length < fuel) (t : List Char) :
    ∃ ks, List.Forall₂ ShowsMember ks ms ∧
      readMembers fuel false (l.flatMap (fun a => ',' :: f a) ++ '\x7d' :: t) =
        (ks, .closed t) := by
  induction h generalizing fuel with
  | nil =>
    obtain ⟨fuel, rfl⟩ := Nat.exists_eq_add_of_lt hfuel
    exact ⟨[], .nil, rfl⟩
  | @cons m a ms l hm _ ih =>
    rw [List.flatMap_cons, List.length_append, List.length_cons] at hfuel
    obtain ⟨fuel, rfl⟩ := Nat.exists_eq_add_of_le' (show 2 ≤ fuel by omega)
    obtain ⟨ks, hks, hmembers⟩ := ih (show _ < fuel by omega)
    obtain ⟨k, hk, hmember⟩ := readMember_text hm (endsNumber_tail f l (.inr rfl) t)
      (show _ < fuel by omega)
    obtain ⟨text, hs, -⟩ := hm.split
    refine ⟨k :: ks, .cons hk hks, ?_⟩
    rw [hmembers, IsMemberText.skipSpace_eq hs] at hmember
    rw [List.flatMap_cons, List.cons_append, List.cons_append, List.append_assoc, readMembers,
      skipSpace]
    simp [isSpace, IsMemberText.skipSpace_eq hs, hmember]

theorem readMembers_commas {ms : List (String × Json)}
    (h : List.Forall₂ (fun m a => IsMemberText m (f a)) ms l)
    (hfuel : 3 * (commas f l).length + 5 ≤ fuel) (t : List Char) :
    ∃ ks, List.Forall₂ ShowsMember ks ms ∧
      readMembers fuel true (commas f l ++ '\x7d' :: t) = (ks, .closed t) := by
  obtain ⟨fuel, rfl⟩ := Nat.exists_eq_add_of_le' (show 2 ≤ fuel by omega)
  cases h with
  | nil => exact ⟨[], .nil, rfl⟩
  | @cons m a ms l hm h =>
    rw [commas, List.length_append] at hfuel
    obtain ⟨ks, hks, hmembers⟩ := readMembers_tail h (show _ < fuel by omega) t
    obtain ⟨k, hk, hmember⟩ := readMember_text hm (endsNumber_tail f l (.inr rfl) t)
      (show _ < fuel by omega)
    obtain ⟨text, hs, -⟩ := hm.split
    refine ⟨k :: ks, .cons hk hks, ?_⟩
    rw [hmembers, IsMemberText.skipSpace_eq hs] at hmember
    simp [commas, readMembers, IsMemberText.skipSpace_eq hs, hmember]

theorem isText_obj {ms : List (String × Json)}
    (h : List.Forall₂ (fun m a => IsMemberText m (f a)) ms l) :
    IsText (.obj ms) ('\x7b' :: commas f l ++ ['\x7d']) := by
  intro t _ fuel hfuel
  rw [List.length_append, List.length_cons, List.length_singleton] at hfuel
  obtain ⟨fuel, rfl⟩ := Nat.exists_eq_add_of_le' (show 1 ≤ fuel by omega)
  obtain ⟨ks, hks, hmembers⟩ := readMembers_commas h (show _ ≤ fuel by omega) t
  have hnode : readNode (fuel + 1) ('\x7b' :: commas f l ++ ['\x7d'] ++ t) =
      .obj ('\x7b' :: (commas f l ++ '\x7d' :: t)) ks (.closed t) := by
    simp [readNode, skipSpace, isSpace, hmembers]
  rw [hnode]
  exact ⟨.obj hks, t, rfl, rfl⟩

end

inductive IsLegible : Json → Prop
  | null : IsLegible .null
  | bool (b : Bool) : IsLegible (.bool b)
  | num : n.IsLegible → IsLegible (.num n)
  | str (s : String) : IsLegible (.str s)
  | arr : (∀ v ∈ items, IsLegible v) → IsLegible (.arr items)
  | obj : (∀ m ∈ members, IsLegible m.2) → IsLegible (.obj members)

theorem IsLegible.isText {v : Json} (h : v.IsLegible) : v.IsText v.chars := by
  induction h with
  | null => exact isText_null
  | bool b => exact isText_bool b
  | num h => exact isText_num h
  | str s => exact isText_str s
  | arr _ ih =>
    rw [chars, itemChars_eq]
    exact isText_arr (List.forall₂_same.2 ih)
  | @obj members _ ih =>
    rw [chars, memberChars_eq]
    exact isText_obj (List.forall₂_same.2 fun m hm => ⟨_, rfl, ih m hm⟩)

theorem IsLegible.isText_toList_compact {v : Json} (h : v.IsLegible) :
    v.IsText v.compact.toList := by
  rw [compact, String.toList_ofList]
  exact h.isText

theorem IsText.outline {v : Json} {s : List Char} (h : v.IsText s) :
    (outline s).ShowsBefore v [] := by
  have hread := h [] endsNumber_nil (3 * s.length + 3) (by omega)
  rwa [List.append_nil] at hread

end AskSql.Json
