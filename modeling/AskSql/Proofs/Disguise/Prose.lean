import AskSql.Proofs.Disguise.Hiding
import AskSql.Proofs.Disguise.Kinds

/-!
What a revealed text still shows of placeholders.

A text need not be a statement to be read as one. In prose an apostrophe opens a literal and two hyphens
a comment, and a placeholder that stands there stays. All other tables get their names back, whatever
the names are.
-/

namespace AskSql

open Sql NameIndex Text Unicode

namespace Sql

def isPlainChar (c : Char) : Bool := c.toNat < 128 && isWordChar c

theorem isWordChar_of_lowerChar {c : Char} (h : ∀ d ∈ lowerChar c, isPlainChar d = true) :
    isWordChar c = true := by
  rw [lowerChar] at h
  split at h
  · exact absurd (h '\u0307' (by simp)) (by decide +kernel)
  · have himage := List.forall_mem_singleton.1 h
    rw [imageOf] at himage
    split at himage <;> rename_i m hm
    · rw [isPlainChar, Bool.and_eq_true, decide_eq_true_eq] at himage
      by_cases hvalid : m.isValidChar
      · have hcode : (Char.ofNat m).toNat = m := by
          rw [Char.ofNat, dif_pos hvalid]
          exact UInt32.toNat_ofNatLT ..
        exact forall_of_codes (P := fun c => isWordChar c = true) (by decide +kernel)
          (mem_codes_of_mapRuns_lt hm (hcode ▸ himage.1))
      · rw [Char.ofNat, dif_neg hvalid] at himage
        exact absurd himage.2 (by decide +kernel)
    · exact (Bool.and_eq_true_iff.1 himage).2

theorem forall_isWordChar_of_lowerFrom {before w : List Char}
    (h : ∀ d ∈ lowerFrom before w, isPlainChar d = true) : ∀ c ∈ w, isWordChar c = true := by
  induction w generalizing before with
  | nil => exact fun _ h => nomatch h
  | cons c w ih =>
    rw [lowerFrom] at h
    obtain ⟨hc, hw⟩ := List.forall_mem_append.1 h
    refine List.forall_mem_cons.2 ⟨?_, ih hw⟩
    split at hc
    · -- Either small sigma is beyond ASCII.
      have hsigma := List.forall_mem_singleton.1 hc
      split at hsigma <;> exact absurd hsigma (by decide +kernel)
    · exact isWordChar_of_lowerChar hc

end Sql

theorem IsPlaceholder.isWord_of_lower {w : List Char} (h : IsPlaceholder (lower w)) : IsWord w := by
  refine ⟨?_, forall_isWordChar_of_lowerFrom (h.forall (by decide +kernel) (by decide +kernel))⟩
  rintro rfl
  exact h.isWord.1 rfl

namespace Sql

variable {t u : Token} {ts us : List Token} {s s' : List Char}

theorem Lexed.head?_of_sameKind (h : Lexed ts) (hkinds : List.Forall₂ Token.SameKind ts us)
    (hhead : ∀ c ∈ (source ts).head?, isWordChar c = false) :
    ∀ c ∈ (source us).head?, isWordChar c = false := by
  cases hkinds with
  | nil => exact hhead
  | cons hkind _ =>
    have hne := h.1.source_ne_nil
    -- A bare name starts with a word; all other tokens keep their first character.
    cases hkind with
    | @word v w =>
      obtain ⟨hreads, -⟩ := h
      cases hreads with
      | word hv =>
        obtain ⟨c, v, rfl⟩ := List.exists_cons_of_ne_nil hv.1
        exact absurd (hv.2 c List.mem_cons_self) (by simp [hhead c rfl])
    | quoted => exact hhead
    | @other text =>
      obtain ⟨c, text, rfl⟩ := List.exists_cons_of_ne_nil hne
      exact hhead

theorem Reads.parted_of_sameKind (h : Reads t s) (hkind : t.SameKind u)
    (hhead : (∀ c ∈ s.head?, isWordChar c = false) → ∀ c ∈ s'.head?, isWordChar c = false) :
    Parted isWordChar u.source s' := by
  cases hkind with
  | word =>
    cases h with
    | word _ hs => exact .inr (hhead hs)
  | @quoted q v w =>
    cases h with
    | quoted hq => exact parted_of_getLast? (List.getLast?_concat (l := q :: w)) hq.isWordChar s'
  | other => exact h.parted.imp_right hhead

/-- No word goes on from one token to the next, whatever stands in the place of names. -/
theorem words_source_of_sameKind (h : Lexed ts) (hkinds : List.Forall₂ Token.SameKind ts us) :
    words (source us) = us.flatMap fun u => words u.source := by
  induction hkinds with
  | nil => rfl
  | cons hkind hkinds ih =>
    have hparted := h.1.parted_of_sameKind hkind (h.2.head?_of_sameKind hkinds)
    rw [source_cons, words, runs_append hparted, List.flatMap_cons, ← ih h.2]
    rfl

theorem Token.sameKind_rename (t : Token) (name : List Char) : t.SameKind (t.rename name) := by
  cases t with
  | word => exact .word
  | quoted => exact .quoted
  | other => exact .other

def openings : List (List Char) := [['\x27'], ['\x22'], ['\x60'], ['-', '-'], ['/', '*']]

theorem VerbatimWord.exists_opening {w : List Char} (h : VerbatimWord s w) :
    ∃ mark ∈ openings, mark <:+: s := by
  obtain ⟨t, ht, hv, hw⟩ := h
  obtain ⟨before, after, hs, hreads⟩ := exists_source_eq ht
  have hopens (mark : List Char) (hmark : mark ∈ openings) (hstart : mark <+: t.source) :
      ∃ mark ∈ openings, mark <:+: s :=
    ⟨mark, hmark, hstart.isInfix.trans ⟨before, after, hs.symm⟩⟩
  have hquote {q : Char} (hq : IsIdentifierQuote q) : [q] ∈ openings := by
    rcases hq with rfl | rfl <;> decide
  cases hreads with
  | word hword => exact absurd hword (hv _ rfl)
  | literal => exact hopens ['\x27'] (by decide) ⟨_, rfl⟩
  | quoted hq | unclosed hq => exact hopens _ (hquote hq) ⟨_, rfl⟩
  | line => exact hopens ['-', '-'] (by decide) ⟨_, rfl⟩
  | block => exact hopens ['/', '*'] (by decide) ⟨_, rfl⟩
  | @mark c _ hc =>
    rw [Token.source, words, runs_cons hc.isWordChar] at hw
    cases hw

end Sql

theorem sameKind_renameToken (index : NameIndex) (scope : Scope) (before : List Token) (t : Token) :
    t.SameKind (renameToken index scope before t) := by
  cases hname : t.name? with
  | none =>
    rw [renameToken, hname]
    exact (Token.Refilled.same t).sameKind
  | some name =>
    rw [renameToken_of_name? hname]
    exact t.sameKind_rename _

theorem sameKind_renameFrom (index : NameIndex) (scope : Scope) (before ts : List Token) :
    List.Forall₂ Token.SameKind ts (renameFrom index scope before ts) := by
  rw [← map_snd_placed before ts, List.forall₂_map_left_iff, map_snd_placed]
  exact forall₂_renameFrom fun x _ => sameKind_renameToken index scope x.1 x.2

namespace Schema

def IsTablePlaceholder (s : Schema) (w : List Char) : Prop :=
  ∃ i < s.tables.length, (tablePlaceholder i).toList = lower w

instance (s : Schema) (w : List Char) : Decidable (s.IsTablePlaceholder w) :=
  inferInstanceAs (Decidable (∃ i < s.tables.length, _))

variable {s : Schema} {scope : Scope} {before : List Token} {t : Token} {w name target : List Char}

theorem IsTablePlaceholder.newName?_ne_none (h : s.IsTablePlaceholder w) :
    newName? (back s.pairings) scope before w ≠ none := by
  obtain ⟨i, hi, hw⟩ := h
  have hlower : lower w = lower (tablePlaceholder i).toList :=
    hw.symm.trans (isPlaceholder_table i).lower_eq.symm
  rw [newName?_of_lower_eq hlower, newName?_back_table (List.getElem?_eq_getElem hi)]
  exact Option.some_ne_none _

theorem isPlaceholder_of_newName? (h : newName? (back s.pairings) scope before name = some target) :
    IsPlaceholder (lower name) := by
  obtain ⟨p, hp, known, hknown, hlower⟩ : ∃ p ∈ s.pairings.map Pairing.swap, ∃ known ∈ p.sources,
      lower known = lower name := by
    rcases exists_of_newName? h with ⟨p, hp, hlower, -⟩ | ⟨p, hp, c, hc, hlower, -⟩
    · exact ⟨p, hp, _, List.mem_cons_self, hlower⟩
    · exact ⟨p, hp, _, List.mem_cons_of_mem _ (List.mem_map_of_mem hc), hlower⟩
  obtain ⟨q, hq, rfl⟩ := List.mem_map.1 hp
  have hplaceholder := isPlaceholder_of_mem_targets hq (by simpa using hknown)
  rwa [← hlower, hplaceholder.lower_eq]

theorem renameToken_of_isVerbatim (hv : t.IsVerbatim) :
    renameToken (back s.pairings) scope before t = t := by
  refine renameToken_of_newName?_eq_none fun name hname => Option.eq_none_iff_forall_ne_some.2 ?_
  exact fun target hnew => hv name hname (isPlaceholder_of_newName? hnew).isWord_of_lower

theorem IsTablePlaceholder.of_mem_words_renameToken (h : s.IsTablePlaceholder w) {after : List Char}
    (ht : Reads t after) (hw : w ∈ words (renameToken (back s.pairings) scope before t).source) :
    t.IsVerbatim ∧ w ∈ words t.source ∨ ∃ name ∈ s.names, w ∈ words name.toList := by
  by_cases hv : t.IsVerbatim
  · rw [renameToken_of_isVerbatim hv] at hw
    exact .inl ⟨hv, hw⟩
  right
  obtain ⟨old, hold, hword⟩ := exists_word_of_not_isVerbatim hv
  rw [renameToken_of_name? hold, ht.words_rename hold] at hw
  cases hnew : newName? (back s.pairings) scope before old with
  | none =>
    -- The identifier is its only word, and the placeholder of a table is never left as it is.
    have hwords : words old = [old] := runs_eq_singleton hword.1 hword.2
    rw [hnew, Option.getD_none, hwords, List.mem_singleton] at hw
    exact absurd hnew (hw ▸ h.newName?_ne_none)
  | some target =>
    rw [hnew, Option.getD_some] at hw
    obtain ⟨p, hp, htarget⟩ := mem_targets_of_newName? hnew
    obtain ⟨q, hq, rfl⟩ := List.mem_map.1 hp
    refine ⟨String.ofList target, mem_names_iff.2 ⟨q, hq, ?_⟩, ?_⟩ <;> rw [String.toList_ofList]
    · simpa using htarget
    · exact hw

end Schema

namespace Disguise

variable {s : Schema} {text : String} {w : List Char}

theorem mem_words_reveal_iff : w ∈ words ((ofSchema s).reveal text).toList ↔
    ∃ x ∈ placed [] (tokens text.toList), w ∈ words (renameToken (back s.pairings)
      (scopeOf (back s.pairings) (tokens text.toList)) x.1 x.2).source := by
  rw [toList_reveal, words_source_of_sameKind (lexed_tokens _).1 (sameKind_renameFrom ..),
    renameFrom_eq_map, List.mem_flatMap]
  simp

theorem mem_words_reveal_of_verbatimWord (h : VerbatimWord text.toList w) :
    w ∈ words ((ofSchema s).reveal text).toList := by
  obtain ⟨t, ht, hv, hw⟩ := h
  rw [← map_snd_placed [] (tokens text.toList)] at ht
  obtain ⟨x, hx, rfl⟩ := List.mem_map.1 ht
  exact mem_words_reveal_iff.2 ⟨x, hx, by rwa [Schema.renameToken_of_isVerbatim hv]⟩

/-- The placeholders of tables stay that are no identifiers in the text. All others give way to names. -/
theorem verbatimWord_or_of_mem_words_reveal (hw : s.IsTablePlaceholder w)
    (h : w ∈ words ((ofSchema s).reveal text).toList) :
    VerbatimWord text.toList w ∨ ∃ name ∈ s.names, w ∈ words name.toList := by
  obtain ⟨x, hx, hmem⟩ := mem_words_reveal_iff.1 h
  have ht := mem_of_placed hx
  obtain ⟨_, after, -, hreads⟩ := exists_source_eq ht
  exact (hw.of_mem_words_renameToken hreads hmem).imp_left fun ⟨hv, hverbatim⟩ =>
    ⟨x.2, ht, hv, hverbatim⟩

end Disguise

end AskSql
