import AskSql.Proofs.Disguise.Placeholders
import AskSql.Proofs.Sql.Verbatim

/-!
What a hidden text still shows of the tables.

Every identifier that names a table is replaced. Tokens that are not plain identifiers are copied, so
that what names a table in a literal or in a comment stays there.
-/

namespace AskSql

open Sql NameIndex Unicode

section

variable {index : NameIndex} {s : Scope} {before ts : List Token} {t : Token} {l : List Pairing}
  {name text w : List Char}

theorem table?_of_newName? (h : newName? index s before name = none) :
    index.table? name = none := by
  unfold newName? at h
  split at h
  · exact (Option.or_eq_none_iff.1 h).2
  · exact (Option.or_eq_none_iff.1 h).1

theorem exists_renameToken_of_mem (h : t ∈ renameFrom index s before ts) :
    ∃ before' u, t = renameToken index s before' u := by
  induction ts generalizing before with
  | nil => cases h
  | cons u ts ih =>
    rcases List.mem_cons.1 h with rfl | h
    · exact ⟨before, u, rfl⟩
    · exact ih h

theorem target_or_table?_of_name? (ht : t ∈ renameFrom (.ofPairings l) s before ts)
    (hname : t.name? = some name) :
    (∃ p ∈ l, name ∈ p.targets) ∨ (ofPairings l).table? name = none := by
  obtain ⟨before', u, rfl⟩ := exists_renameToken_of_mem ht
  cases hu : u.name? with
  | none =>
    rw [renameToken, hu, hu] at hname
    cases hname
  | some old =>
    rw [renameToken_of_name? hu, Token.name?_rename hu] at hname
    cases hname
    cases hnew : newName? (ofPairings l) s before' old with
    | none => exact .inr (table?_of_newName? hnew)
    | some new => exact .inl (mem_targets_of_newName? hnew)

theorem Sql.VerbatimWord.of_rename (hplain : ∀ p ∈ l, ∀ name ∈ p.targets, IsWord name)
    (h : VerbatimWord ((ofPairings l).rename text) w) : VerbatimWord text w := by
  obtain ⟨t, ht, hv, hw⟩ := h
  rw [tokens_rename hplain] at ht
  obtain ⟨u, hu, halike⟩ := exists_mem_of_forall₂ (alike_renameFrom hplain ..).flip ht
  cases halike with
  | same => exact ⟨t, hu, hv, hw⟩
  | word hword | quoted hword => exact absurd hword (hv _ rfl)

end

namespace Schema

def HasTable (s : Schema) (w : List Char) : Prop := ∃ t ∈ s.tables, lower w = lower t.name.toList

instance (s : Schema) (w : List Char) : Decidable (s.HasTable w) :=
  inferInstanceAs (Decidable (∃ t ∈ s.tables, _))

/-- The words of a text that name tables are placeholders, but for some. -/
def Conceals (s : Schema) (text : String) (spared : List Char → Prop) : Prop :=
  ∀ w ∈ words text.toList, s.HasTable w → String.ofList w ∈ s.disguised.names ∨ spared w

variable {s : Schema}

theorem isWord_of_mem_targets {p : Pairing} (hp : p ∈ s.pairings) {name : List Char}
    (h : name ∈ p.targets) : IsWord name := (isPlaceholder_of_mem_targets hp h).isWord

theorem HasTable.table?_ne_none {w : List Char} (h : s.HasTable w) :
    (ofPairings s.pairings).table? w ≠ none := by
  obtain ⟨t, ht, hlower⟩ := h
  rw [← List.zipIdx_map_fst 0 s.tables] at ht
  obtain ⟨⟨t, i⟩, hi, rfl⟩ := List.mem_map.1 ht
  rw [table?_ofPairings, Ne, Option.map_eq_none_iff, List.find?_eq_none]
  intro hnone
  exact hnone _ (List.mem_map_of_mem hi) (decide_eq_true hlower.symm)

end Schema

namespace Disguise

variable {s : Schema} {text : String} {w : List Char}

theorem verbatimWord_of_hide (h : VerbatimWord ((ofSchema s).hide text).toList w) :
    VerbatimWord text.toList w := by
  rw [hide, Text.onString_toList, ofSchema_eq] at h
  exact h.of_rename fun p hp name hname => Schema.isWord_of_mem_targets hp hname

theorem verbatimWord_of_reveal (hplain : s.PlainNames)
    (h : VerbatimWord ((ofSchema s).reveal text).toList w) : VerbatimWord text.toList w := by
  rw [reveal, Text.onString_toList, ofSchema_eq] at h
  refine h.of_rename fun p hp name hname => ?_
  obtain ⟨q, hq, rfl⟩ := List.mem_map.1 hp
  exact hplain.isWord hq (by simpa using hname)

/-- A hidden text shows the names of tables only where they are no identifiers. -/
theorem conceals_hide (s : Schema) (text : String) :
    s.Conceals ((ofSchema s).hide text) (VerbatimWord text.toList) := by
  intro w hw htable
  obtain ⟨t, ht, hmem⟩ := mem_words_iff.1 hw
  by_cases hv : t.IsVerbatim
  · exact .inr (verbatimWord_of_hide ⟨t, ht, hv, hmem⟩)
  left
  obtain ⟨name, hname, hword⟩ := exists_word_of_not_isVerbatim hv
  obtain ⟨_, after, -, hreads⟩ := exists_source_eq ht
  obtain rfl : w = name := by simpa [hreads.words_of_name? hname hword] using hmem
  -- A plain identifier is its only word, and it has been renamed if a table has its name.
  rw [hide, Text.onString_toList, ofSchema_eq,
    tokens_rename fun p hp name hname => Schema.isWord_of_mem_targets hp hname] at ht
  obtain ⟨p, hp, htarget⟩ | hnone := target_or_table?_of_name? ht hname
  · exact Schema.mem_disguised_names_iff.2 ⟨p, hp, by rwa [String.toList_ofList]⟩
  · exact absurd hnone htable.table?_ne_none

end Disguise

end AskSql
