import AskSql.Proofs.Json.Reading

namespace AskSql.Json

def Blank (w : List Char) : Prop := ∀ c ∈ w, isSpace c

theorem blank_newLine (level : Nat) : Blank (newLine level) := by
  intro c hc
  rcases List.mem_cons.1 hc with rfl | hc
  · rfl
  · rw [List.eq_of_mem_replicate hc]
    rfl

section

variable {w s : List Char} {v : Json}

theorem Blank.skipSpace_append (h : Blank w) (s : List Char) : skipSpace (w ++ s) = skipSpace s :=
  List.dropWhile_append_of_pos h

theorem Blank.endsNumber_append (h : Blank w) {t : List Char} (ht : EndsNumber t) :
    EndsNumber (w ++ t) := by
  cases w with
  | nil => exact ht
  | cons c w =>
    have hc : isSpace c := h c List.mem_cons_self
    simp only [isSpace, Bool.or_eq_true, decide_eq_true_eq] at hc
    refine endsNumber_cons ?_ (w ++ t)
    rcases hc with ((rfl | rfl) | rfl) | rfl <;> decide

theorem IsText.blank_append (h : v.IsText s) (hw : Blank w) : v.IsText (w ++ s) := by
  intro t ht fuel hfuel
  cases w with
  | nil => exact h t ht fuel hfuel
  | cons c w =>
    rw [List.length_append, List.length_cons] at hfuel
    obtain ⟨fuel, rfl⟩ := Nat.exists_eq_add_of_le' (show 1 ≤ fuel by omega)
    have hspace : skipSpace (c :: w ++ s ++ t) = skipSpace (s ++ t) := by
      rw [List.append_assoc, hw.skipSpace_append]
    rw [← readNode_skipSpace, hspace, readNode_skipSpace]
    exact h t ht (fuel + 1) (by omega)

theorem IsText.append_blank (h : v.IsText s) (hw : Blank w) : v.IsText (s ++ w) := by
  intro t ht fuel hfuel
  rw [List.length_append] at hfuel
  obtain ⟨hshows, left, hleft, hspace⟩ :=
    h (w ++ t) (hw.endsNumber_append ht) fuel (by omega)
  rw [List.append_assoc]
  exact ⟨hshows, left, hleft, hspace.trans (hw.skipSpace_append t)⟩

theorem IsMemberText.append_blank {m : String × Json} (h : IsMemberText m s) (hw : Blank w) :
    IsMemberText m (s ++ w) := by
  obtain ⟨text, hs, htext⟩ := h.split
  refine ⟨text ++ w, ?_, htext.append_blank hw⟩
  rw [IsMemberText.skipSpace_eq hs, quoted_append]

theorem IsMemberText.of_blank {m : String × Json} (hw : Blank w) (h : m.2.IsText s) :
    IsMemberText m (w ++ (quoted m.1 ++ ':' :: s)) := by
  refine ⟨s, ?_, h⟩
  rw [hw.skipSpace_append, quoted_append]
  rfl

end

section

variable {α β : Type} {f : α → List Char}

theorem commas_cons_cons (f : α → List Char) (a b : α) (l : List α) :
    commas f (a :: b :: l) = f a ++ ',' :: commas f (b :: l) := by simp [commas]

theorem commas_map (f : α → List Char) (l : List α) : commas id (l.map f) = commas f l := by
  cases l with
  | nil => rfl
  | cons a l => simp [commas, List.flatMap_map]

theorem exists_commas_append {P : β → List Char → Prop} {w : List Char} {bs : List β}
    {texts : List (List Char)} (h : List.Forall₂ P bs texts) (hne : texts ≠ [])
    (hw : ∀ b s, P b s → P b (s ++ w)) :
    ∃ texts', List.Forall₂ P bs texts' ∧ commas id texts' = commas id texts ++ w := by
  induction h with
  | nil => exact absurd rfl hne
  | @cons b s bs texts hs h ih =>
    cases h with
    | nil => exact ⟨[s ++ w], .cons (hw b s hs) .nil, by simp [commas]⟩
    | @cons b' s' bs texts hs' h =>
      obtain ⟨texts', htexts', heq⟩ := ih (List.cons_ne_nil _ _)
      cases htexts' with
      | @cons _ t' _ texts' ht' htexts' =>
        refine ⟨s :: t' :: texts', .cons hs (.cons ht' htexts'), ?_⟩
        rw [commas_cons_cons, heq, commas_cons_cons]
        simp

end

theorem newLine_prettyItems (level : Nat) (v : Json) (items : List Json) :
    newLine level ++ prettyItems level (v :: items) =
      commas (fun v => newLine level ++ v.prettyChars level) (v :: items) := by
  induction items generalizing v with
  | nil => simp [prettyItems, commas]
  | cons w items ih =>
    rw [prettyItems, commas_cons_cons, ← ih]
    simp

def prettyMember (level : Nat) (m : String × Json) : List Char :=
  newLine level ++ (quoted m.1 ++ ':' :: ' ' :: m.2.prettyChars level)

theorem newLine_prettyMembers (level : Nat) (m : String × Json) (members : List (String × Json)) :
    newLine level ++ prettyMembers level (m :: members) =
      commas (prettyMember level) (m :: members) := by
  induction members generalizing m with
  | nil => simp [prettyMembers, commas, prettyMember]
  | cons n members ih =>
    obtain ⟨k, v⟩ := m
    rw [prettyMembers, commas_cons_cons, ← ih]
    simp [prettyMember]

theorem IsLegible.isText_pretty {v : Json} (h : v.IsLegible) (level : Nat) :
    v.IsText (v.prettyChars level) := by
  induction h generalizing level with
  | null => exact isText_null
  | bool b =>
    have hchars : (Json.bool b).prettyChars level = (Json.bool b).chars := by cases b <;> rfl
    rw [hchars]
    exact isText_bool b
  | num h => exact isText_num h
  | str s => exact isText_str s
  | @arr items _ ih =>
    cases items with
    | nil => exact isText_arr (f := id) .nil
    | cons v items =>
      have htexts : List.Forall₂ IsText (v :: items)
          ((v :: items).map fun v => newLine (level + 1) ++ v.prettyChars (level + 1)) := by
        rw [List.forall₂_map_right_iff, List.forall₂_same]
        exact fun w hw => (ih w hw (level + 1)).blank_append (blank_newLine _)
      obtain ⟨texts, htexts, heq⟩ := exists_commas_append htexts nofun
        fun _ _ hs => hs.append_blank (blank_newLine level)
      have hchars : (Json.arr (v :: items)).prettyChars level = '[' :: commas id texts ++ [']'] := by
        rw [prettyChars, heq, commas_map, ← newLine_prettyItems]
        simp
      rw [hchars]
      exact isText_arr htexts
  | @obj members _ ih =>
    cases members with
    | nil => exact isText_obj (f := id) .nil
    | cons m members =>
      have htexts : List.Forall₂ IsMemberText (m :: members)
          ((m :: members).map (prettyMember (level + 1))) := by
        rw [List.forall₂_map_right_iff, List.forall₂_same]
        intro n hn
        have hblank : Blank [' '] := List.forall_mem_singleton.2 rfl
        exact .of_blank (blank_newLine _) ((ih n hn (level + 1)).blank_append hblank)
      obtain ⟨texts, htexts, heq⟩ := exists_commas_append htexts nofun
        fun _ _ hs => hs.append_blank (blank_newLine level)
      have hchars : (Json.obj (m :: members)).prettyChars level =
          '\x7b' :: commas id texts ++ ['\x7d'] := by
        rw [prettyChars, heq, commas_map, ← newLine_prettyMembers]
        simp
      rw [hchars]
      exact isText_obj htexts

theorem IsLegible.isText_toList_pretty {v : Json} (h : v.IsLegible) : v.IsText v.pretty.toList := by
  rw [pretty, String.toList_ofList]
  exact h.isText_pretty 0

end AskSql.Json
