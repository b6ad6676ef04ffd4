import Mathlib.Tactic.SplitIfs
import AskSql.Json.Lexeme
import AskSql.Json.Printer
import AskSql.Proofs.Runs
import AskSql.Proofs.Unicode

/-!
Printed values are told apart by their texts.

The text of a value without floats shows by itself where it ends, unless a digit follows. So two such
values with one text are equal, and so are the lists and objects made of them.
-/

namespace AskSql.Json

theorem hexValue?_digitChar {k : Nat} (h : k < 16) : hexValue? (Nat.digitChar k) = some k := by
  have hall : ∀ k < 16, hexValue? (Nat.digitChar k) = some k := by decide
  exact hall k h

theorem unicodeEscape_control {c : Char} (h : c.toNat < 32) (rest : List Char) :
    unicodeEscape ('0' :: '0' :: Nat.digitChar (c.toNat / 16) :: Nat.digitChar (c.toNat % 16) ::
      rest) = .ok (c, rest) := by
  have hzero : hexValue? '0' = some 0 := by decide
  have hcode : ((0 * 16 + 0) * 16 + c.toNat / 16) * 16 + c.toNat % 16 = c.toNat := by omega
  have hfour : fourHex ('0' :: '0' :: Nat.digitChar (c.toNat / 16) ::
      Nat.digitChar (c.toNat % 16) :: rest) = .ok (c.toNat, rest) := by
    simp only [fourHex, hzero, hexValue?_digitChar (show c.toNat / 16 < 16 by omega),
      hexValue?_digitChar (show c.toNat % 16 < 16 by omega), hcode]
  have htrailing : isTrailing c.toNat = false := by
    simp only [isTrailing, Bool.and_eq_false_iff, decide_eq_false_iff_not]
    omega
  have hleading : isLeading c.toNat = false := by
    simp only [isLeading, Bool.and_eq_false_iff, decide_eq_false_iff_not]
    omega
  simp [unicodeEscape, hfour, htrailing, hleading, bind, Except.bind]

theorem stringBody_escaped (fuel : Nat) (done : List Char) (c : Char) (rest : List Char) :
    stringBody (fuel + 1) done (escaped c ++ rest) = stringBody fuel (c :: done) rest := by
  unfold escaped
  split_ifs with hquote hslash _ _ _ _ _ hcontrol
  rotate_left 7
  · simp [stringBody, unicodeEscape_control hcontrol]
  · simp [stringBody, hquote, hslash, hcontrol]
  all_goals
    subst c
    simp [stringBody, shortEscape?]

theorem stringBody_flatMap_escaped {fuel : Nat} {cs : List Char} (h : cs.length < fuel)
    (done rest : List Char) :
    stringBody fuel done (cs.flatMap escaped ++ '\x22' :: rest) =
      .ok (done.reverse ++ cs, rest) := by
  induction cs generalizing fuel done with
  | nil =>
    obtain ⟨fuel, rfl⟩ := Nat.exists_eq_succ_of_ne_zero (Nat.ne_of_gt h)
    simp [stringBody]
  | cons c cs ih =>
    obtain ⟨fuel, rfl⟩ := Nat.exists_eq_succ_of_ne_zero (Nat.ne_of_gt (Nat.zero_lt_of_lt h))
    rw [List.flatMap_cons, List.append_assoc, stringBody_escaped, ih (Nat.lt_of_succ_lt_succ h)]
    simp

theorem quoted_append_inj {a b : String} {s t : List Char} (h : quoted a ++ s = quoted b ++ t) :
    a = b ∧ s = t := by
  simp only [quoted, List.cons_append, List.append_assoc, List.cons.injEq, true_and,
    List.nil_append] at h
  -- Both texts are read with fuel for the longer one.
  have hread := stringBody_flatMap_escaped (Nat.lt_succ_of_le (Nat.le_max_left a.toList.length
    b.toList.length)) [] s
  rw [h, stringBody_flatMap_escaped (Nat.lt_succ_of_le (Nat.le_max_right ..))] at hread
  obtain ⟨hchars, hrest⟩ := Prod.mk.inj (Except.ok.inj hread)
  exact ⟨String.toList_inj.1 hchars.symm, hrest.symm⟩

def Stops (s : List Char) : Prop := ∀ c ∈ s.head?, c.isDigit = false

theorem stops_cons {c : Char} (h : c.isDigit = false) (s : List Char) : Stops (c :: s) := by
  rintro _ ⟨⟩
  exact h

theorem toDigits_append_inj {m n : Nat} {s t : List Char} (hs : Stops s) (ht : Stops t)
    (h : Nat.toDigits 10 m ++ s = Nat.toDigits 10 n ++ t) : m = n ∧ s = t := by
  have hdigits := congrArg (List.takeWhile Char.isDigit) h
  rw [Text.takeWhile_append_eq (fun _ => Unicode.isDigit_of_mem_toDigits) hs,
    Text.takeWhile_append_eq (fun _ => Unicode.isDigit_of_mem_toDigits) ht] at hdigits
  rw [hdigits, List.append_cancel_left_eq] at h
  exact ⟨Unicode.toDigits_injective hdigits, h⟩

theorem head?_toDigits (n : Nat) (s : List Char) :
    ∃ c, (Nat.toDigits 10 n ++ s).head? = some c ∧ c.isDigit = true := by
  obtain ⟨c, cs, hn⟩ := List.exists_cons_of_ne_nil (Nat.toDigits_ne_nil (b := 10) (n := n))
  exact ⟨c, by simp [hn], Unicode.isDigit_of_mem_toDigits (n := n) (by simp [hn])⟩

theorem minus_append_ne (m n : Nat) (s t : List Char) :
    '-' :: Nat.toDigits 10 m ++ s ≠ Nat.toDigits 10 n ++ t := by
  intro h
  obtain ⟨c, hhead, hc⟩ := head?_toDigits n t
  rw [← h] at hhead
  cases hhead
  exact absurd hc (by decide)

theorem intText_append_inj {m n : Int} {s t : List Char} (hs : Stops s) (ht : Stops t)
    (h : Number.intText m ++ s = Number.intText n ++ t) : m = n ∧ s = t := by
  unfold Number.intText at h
  split_ifs at h with hm hn hn
  · obtain ⟨habs, hrest⟩ := toDigits_append_inj hs ht (List.cons.inj h).2
    exact ⟨by omega, hrest⟩
  · exact (minus_append_ne _ _ _ _ h).elim
  · exact (minus_append_ne _ _ _ _ h.symm).elim
  · obtain ⟨habs, hrest⟩ := toDigits_append_inj hs ht h
    exact ⟨by omega, hrest⟩

section

variable {α : Type} {f : α → List Char}

def commas (f : α → List Char) : List α → List Char
  | [] => []
  | a :: rest => f a ++ rest.flatMap fun b => ',' :: f b

variable {close : Char} {s t : List Char}

theorem commaTail_append_inj (hcomma : close ≠ ',') (hdigit : close.isDigit = false) {l m : List α}
    (hinj : ∀ a ∈ l, ∀ b ∈ m, ∀ s t, Stops s → Stops t → f a ++ s = f b ++ t → a = b ∧ s = t)
    (h : l.flatMap (fun a => ',' :: f a) ++ close :: s =
      m.flatMap (fun b => ',' :: f b) ++ close :: t) : l = m ∧ s = t := by
  have hstops (l : List α) (s : List Char) :
      Stops (l.flatMap (fun a => ',' :: f a) ++ close :: s) := by
    cases l with
    | nil => exact stops_cons hdigit s
    | cons a l => exact stops_cons (by decide) _
  induction l generalizing m with
  | nil =>
    cases m with
    | nil => simpa using h
    | cons b m => simp [hcomma] at h
  | cons a l ih =>
    cases m with
    | nil => simp [hcomma.symm] at h
    | cons b m =>
      simp only [List.flatMap_cons, List.cons_append, List.append_assoc, List.cons.injEq,
        true_and] at h
      obtain ⟨rfl, htail⟩ := hinj a (by simp) b (by simp) _ _ (hstops l s) (hstops m t) h
      obtain ⟨rfl, rfl⟩ := ih (fun a ha b hb => hinj a (by simp [ha]) b (by simp [hb])) htail
      exact ⟨rfl, rfl⟩

theorem commas_append_inj (hcomma : close ≠ ',') (hdigit : close.isDigit = false) {l m : List α}
    (hopen : ∀ a, (a ∈ l ∨ a ∈ m) → ∀ s, (f a ++ s).head? ≠ some close)
    (hinj : ∀ a ∈ l, ∀ b ∈ m, ∀ s t, Stops s → Stops t → f a ++ s = f b ++ t → a = b ∧ s = t)
    (h : commas f l ++ close :: s = commas f m ++ close :: t) : l = m ∧ s = t := by
  cases l with
  | nil =>
    cases m with
    | nil => simpa [commas] using h
    | cons b m =>
      refine absurd ?_ (hopen b (by simp) (m.flatMap (fun b => ',' :: f b) ++ close :: t))
      rw [← List.append_assoc]
      exact (congrArg List.head? h).symm
  | cons a l =>
    cases m with
    | nil =>
      refine absurd ?_ (hopen a (by simp) (l.flatMap (fun b => ',' :: f b) ++ close :: s))
      rw [← List.append_assoc]
      exact congrArg List.head? h
    | cons b m =>
      exact commaTail_append_inj hcomma hdigit hinj (by simpa [commas] using h)

end

theorem itemChars_eq (items : List Json) : itemChars items = commas chars items := by
  induction items with
  | nil => rfl
  | cons v rest ih =>
    cases rest with
    | nil => simp [itemChars, commas]
    | cons w rest => rw [itemChars, ih, commas, commas, List.flatMap_cons, List.cons_append]

def memberText (m : String × Json) : List Char := quoted m.1 ++ ':' :: m.2.chars

theorem memberChars_eq (members : List (String × Json)) :
    memberChars members = commas memberText members := by
  induction members with
  | nil => rfl
  | cons m rest ih =>
    obtain ⟨k, v⟩ := m
    cases rest with
    | nil => simp [memberChars, commas, memberText]
    | cons n rest =>
      rw [memberChars, ih]
      simp only [commas, memberText, List.flatMap_cons, List.append_assoc, List.cons_append]

theorem memberText_append_inj {m n : String × Json} {s t : List Char}
    (hvalue : m.2.chars ++ s = n.2.chars ++ t → m.2 = n.2 ∧ s = t)
    (h : memberText m ++ s = memberText n ++ t) : m = n ∧ s = t := by
  simp only [memberText, List.append_assoc, List.cons_append] at h
  obtain ⟨hkey, htail⟩ := quoted_append_inj h
  obtain ⟨hval, hrest⟩ := hvalue (List.cons.inj htail).2
  exact ⟨Prod.ext hkey hval, hrest⟩

/-- All its numbers are integers. -/
inductive IsExact : Json → Prop
  | null : IsExact .null
  | bool (b : Bool) : IsExact (.bool b)
  | int (n : Int) : IsExact (.num (.int n))
  | str (s : String) : IsExact (.str s)
  | arr : (∀ v ∈ items, IsExact v) → IsExact (.arr items)
  | obj : (∀ m ∈ members, IsExact m.2) → IsExact (.obj members)

inductive Kind
  | null
  | bool
  | num
  | str
  | arr
  | obj
  deriving DecidableEq

def kind : Json → Kind
  | .null => .null
  | .bool _ => .bool
  | .num _ => .num
  | .str _ => .str
  | .arr _ => .arr
  | .obj _ => .obj

def Kind.ofFirst? (c : Char) : Option Kind :=
  if c = 'n' then some .null
  else if c = 't' ∨ c = 'f' then some .bool
  else if c = '\x22' then some .str
  else if c = '[' then some .arr
  else if c = '\x7b' then some .obj
  else if c = '-' ∨ c.isDigit then some .num
  else none

theorem IsExact.kind_of_first {v : Json} (h : v.IsExact) (s : List Char) :
    (v.chars ++ s).head?.bind Kind.ofFirst? = some v.kind := by
  cases h with
  | bool b => cases b <;> rfl
  | int n =>
    rw [chars, Number.text, Number.intText]
    split_ifs
    · rfl
    · obtain ⟨c, hhead, hc⟩ := head?_toDigits n.natAbs s
      rw [hhead]
      exact Unicode.forall_digit (P := fun c => Kind.ofFirst? c = some .num) (by decide) hc
  | null | str | arr | obj => rfl

theorem IsExact.head?_ne {v : Json} (h : v.IsExact) {c : Char} (hc : Kind.ofFirst? c = none)
    (s : List Char) : (v.chars ++ s).head? ≠ some c := by
  intro hhead
  have hkind := h.kind_of_first s
  rw [hhead, Option.bind_some, hc] at hkind
  cases hkind

theorem IsExact.kind_eq {v w : Json} (hv : v.IsExact) (hw : w.IsExact) {s t : List Char}
    (h : v.chars ++ s = w.chars ++ t) : v.kind = w.kind := by
  have hkind := hv.kind_of_first s
  rw [h, hw.kind_of_first t] at hkind
  exact (Option.some.inj hkind).symm

theorem IsExact.chars_append_inj {v w : Json} (hv : v.IsExact) (hw : w.IsExact) {s t : List Char}
    (hs : Stops s) (ht : Stops t) (h : v.chars ++ s = w.chars ++ t) : v = w ∧ s = t := by
  induction hv generalizing w s t with
  | null =>
    have hkind := IsExact.null.kind_eq hw h
    cases hw with
    | null => exact ⟨rfl, List.append_cancel_left h⟩
    | _ => cases hkind
  | bool b =>
    have hkind := (IsExact.bool b).kind_eq hw h
    cases hw with
    | bool c => cases b <;> cases c <;> simp_all [chars]
    | _ => cases hkind
  | int m =>
    have hkind := (IsExact.int m).kind_eq hw h
    cases hw with
    | int n =>
      obtain ⟨rfl, rfl⟩ := intText_append_inj hs ht h
      exact ⟨rfl, rfl⟩
    | _ => cases hkind
  | str a =>
    have hkind := (IsExact.str a).kind_eq hw h
    cases hw with
    | str b =>
      obtain ⟨rfl, rfl⟩ := quoted_append_inj h
      exact ⟨rfl, rfl⟩
    | _ => cases hkind
  | arr hitems ih =>
    have hkind := (IsExact.arr hitems).kind_eq hw h
    cases hw with
    | arr hitems' =>
      simp only [chars, itemChars_eq, List.cons_append, List.append_assoc, List.nil_append,
        List.cons.injEq, true_and] at h
      obtain ⟨rfl, rfl⟩ := commas_append_inj (by decide) (by decide)
        (fun v hv => (hv.elim (hitems v) (hitems' v)).head?_ne rfl)
        (fun v hv w hw s t hs ht h => ih v hv (hitems' w hw) hs ht h) h
      exact ⟨rfl, rfl⟩
    | _ => cases hkind
  | obj hmembers ih =>
    have hkind := (IsExact.obj hmembers).kind_eq hw h
    cases hw with
    | obj hmembers' =>
      simp only [chars, memberChars_eq, List.cons_append, List.append_assoc, List.nil_append,
        List.cons.injEq, true_and] at h
      obtain ⟨rfl, rfl⟩ := commas_append_inj (by decide) (by decide)
        (fun m _ s => by simp [memberText, quoted])
        (fun m hm n hn s t hs ht h => memberText_append_inj (ih m hm (hmembers' n hn) hs ht) h) h
      exact ⟨rfl, rfl⟩
    | _ => cases hkind

theorem IsExact.compact_inj {v w : Json} (hv : v.IsExact) (hw : w.IsExact)
    (h : v.compact = w.compact) : v = w := by
  have hchars : v.chars ++ [] = w.chars ++ [] := by
    rw [List.append_nil, List.append_nil, String.ofList_injective h]
  exact (hv.chars_append_inj hw (by simp [Stops]) (by simp [Stops]) hchars).1

end AskSql.Json
