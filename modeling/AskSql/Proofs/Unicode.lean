import AskSql.Unicode.Blank
import AskSql.Unicode.Case

namespace AskSql.Unicode

def codes (ranges : List (Nat × Nat)) : List Nat :=
  ranges.flatMap fun r => List.range' r.1 (r.2 + 1 - r.1)

theorem mem_codes_of_inRanges {ranges : List (Nat × Nat)} {n : Nat}
    (h : inRanges ranges n = true) : n ∈ codes ranges := by
  induction ranges with
  | nil => simp [inRanges] at h
  | cons r rest ih =>
    simp only [inRanges] at h
    split at h
    · simp at h
    · simp only [codes, List.flatMap_cons, List.mem_append]
      rcases Bool.or_eq_true _ _ ▸ h with h | h
      · left
        simp only [List.mem_range'_1]
        simp only [decide_eq_true_eq] at h
        omega
      · exact .inr (ih h)

variable {P : Char → Prop} {c : Char}

theorem forall_of_codes {l : List Nat} (h : ∀ n ∈ l, P (Char.ofNat n)) (hc : c.toNat ∈ l) :
    P c := by
  simpa using h c.toNat hc

theorem forall_blank (h : ∀ n ∈ codes blank, P (Char.ofNat n)) (hc : isBlank c = true) : P c :=
  forall_of_codes h (mem_codes_of_inRanges hc)

theorem forall_digit (h : ∀ n ∈ List.range' 48 10, P (Char.ofNat n)) (hc : c.isDigit = true) :
    P c := by
  obtain ⟨hlo, hhi⟩ := Char.isDigit_iff_toNat.1 hc
  exact forall_of_codes h (List.mem_range'_1.2 ⟨hlo, Nat.lt_succ_of_le hhi⟩)

theorem forall_ascii (h : ∀ n ∈ List.range 128, P (Char.ofNat n)) (hc : c.toNat < 128) : P c :=
  forall_of_codes h (List.mem_range.2 hc)

theorem isDigit_of_mem_toDigits {n : Nat} (h : c ∈ Nat.toDigits 10 n) : c.isDigit = true :=
  Nat.isDigit_of_mem_toDigits (by decide) (Nat.le_refl 10) h

theorem toDigits_injective {m n : Nat} (h : Nat.toDigits 10 m = Nat.toDigits 10 n) : m = n := by
  rw [← Nat.ofDigitChars_ten_toDigits (n := m), h, Nat.ofDigitChars_ten_toDigits]

theorem toUpper_eq_iff {k : Char} (hk : k.toUpper = k) (hlower : k.toLower.toUpper = k) :
    c.toUpper = k ↔ c = k ∨ c = k.toLower := by
  constructor
  · rintro rfl
    by_cases hc : 'a'.val ≤ c.val ∧ c.val ≤ 'z'.val
    · have hcode : c.toNat ∈ List.range' 97 26 :=
        List.mem_range'_1.2 ⟨hc.1, Nat.lt_succ_of_le hc.2⟩
      exact .inr (forall_of_codes (P := fun c => c = c.toUpper.toLower) (by decide) hcode)
    · left
      delta Char.toUpper
      rw [dif_neg hc]
  · rintro (rfl | rfl)
    · exact hk
    · exact hlower

theorem exists_image?_of_mapRuns {runs : List Run} {m n : Nat} (h : mapRuns runs n = some m) :
    ∃ r ∈ runs, r.image? n = some m := by
  induction runs with
  | nil => cases h
  | cons r runs ih =>
    rw [mapRuns] at h
    split at h
    · cases h
    · rcases Option.or_eq_some_iff.1 h with himage | ⟨-, hrest⟩
      · exact ⟨r, List.mem_cons_self, himage⟩
      · obtain ⟨r', hr', himage⟩ := ih hrest
        exact ⟨r', List.mem_cons_of_mem _ hr', himage⟩

theorem mem_codes_of_mapRuns_lt {m n : Nat} (h : mapRuns lowerRuns n = some m) (hm : m < 128) :
    n ∈ codes [(0x41, 0x5a), (0x212a, 0x212a)] := by
  have hruns : ∀ r ∈ lowerRuns, r.target < 128 →
      (r.first, r.last) ∈ [(0x41, 0x5a), (0x212a, 0x212a)] := by decide +kernel
  obtain ⟨r, hr, himage⟩ := exists_image?_of_mapRuns h
  rw [Run.image?] at himage
  split at himage <;> rename_i hwithin
  · cases himage
    refine List.mem_flatMap.2 ⟨_, hruns r hr (by omega), ?_⟩
    rw [List.mem_range'_1]
    simp only
    omega
  · cases himage

theorem upper_append (s t : List Char) : upper (s ++ t) = upper s ++ upper t :=
  List.flatMap_append

end AskSql.Unicode
