import Mathlib.Data.List.DropRight
import AskSql.Text.Chars

namespace AskSql.Text

open Unicode

theorem trimEnd_eq_rdropWhile (s : List Char) : trimEnd s = s.rdropWhile isBlank := rfl

theorem exists_trimEnd_append (s : List Char) :
    ∃ after, s = trimEnd s ++ after ∧ ∀ c ∈ after, isBlank c = true :=
  ⟨s.rtakeWhile isBlank, (List.rdropWhile_append_rtakeWhile ..).symm,
    fun _ h => List.mem_rtakeWhile_imp h⟩

theorem exists_append_trimStart (s : List Char) :
    ∃ before, s = before ++ trimStart s ∧ ∀ c ∈ before, isBlank c = true :=
  ⟨s.takeWhile isBlank, List.takeWhile_append_dropWhile.symm,
    fun _ h => List.mem_takeWhile_imp h⟩

theorem trimStart_cons {c : Char} (h : isBlank c = false) (s : List Char) :
    trimStart (c :: s) = c :: s := by simp [trimStart, h]

theorem isBlank_head_trimStart {s rest : List Char} {c : Char} (h : trimStart s = c :: rest) :
    isBlank c = false := by
  have := List.head?_dropWhile_not isBlank s
  rw [trimStart] at h
  simpa [h] using this

theorem trimEnd_isPrefix (s : List Char) : trimEnd s <+: s := List.rdropWhile_prefix ..

theorem isBlank_head_of_prefix_trim {s t rest : List Char} {c : Char} (h : t <+: trim s)
    (ht : t = c :: rest) : isBlank c = false := by
  obtain ⟨more, hmore⟩ := h.trans (trimEnd_isPrefix (trimStart s))
  rw [ht, List.cons_append] at hmore
  exact isBlank_head_trimStart hmore.symm

theorem dropEnd?_eq_some {p s t : List Char} (h : dropEnd? p s = some t) : s = t ++ p := by
  simp only [dropEnd?, dropStart?, Option.map_eq_some_iff] at h
  obtain ⟨u, hu, rfl⟩ := h
  split at hu
  · rename_i hp
    obtain ⟨v, hv⟩ := List.isPrefixOf_iff_prefix.1 hp
    obtain rfl := Option.some.inj hu
    rw [← List.reverse_reverse s, ← hv]
    simp
  · simp at hu

end AskSql.Text
