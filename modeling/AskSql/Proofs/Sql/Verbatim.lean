import AskSql.Proofs.Limit
import AskSql.Proofs.Sql.Words
import AskSql.Prompt.Basic

namespace AskSql.Sql

open Text Unicode

variable {t : Token} {s b e after tail w : List Char}

/-- A word in a literal, in a comment or in a quoted identifier of more than a word. -/
def VerbatimWord (s w : List Char) : Prop := ∃ t ∈ tokens s, t.IsVerbatim ∧ w ∈ words t.source

theorem VerbatimWord.mem_words (h : VerbatimWord s w) : w ∈ words s := by
  obtain ⟨t, ht, -, hw⟩ := h
  exact mem_words_iff.2 ⟨t, ht, hw⟩

theorem Reads.verbatimWord_iff (h : Reads t after) : VerbatimWord (t.source ++ after) w ↔
    t.IsVerbatim ∧ w ∈ words t.source ∨ VerbatimWord after w := by
  simp [VerbatimWord, tokens_append h]

theorem Reads.eq_nil_of_marks (h : Reads t after) (hv : ¬t.IsVerbatim) {m : List Char}
    (hsource : t.source = b ++ m) (hm : ∀ c ∈ m, IsMark c) : m = [] := by
  rcases List.eq_nil_or_concat' m with rfl | ⟨m, c, rfl⟩
  · rfl
  have hc : IsMark c := hm c (by simp)
  have hlast : t.source.getLast? = some c := by
    rw [hsource, ← List.append_assoc]
    exact List.getLast?_concat
  obtain ⟨name, hname, hword⟩ := exists_word_of_not_isVerbatim hv
  cases h with
  | word =>
    cases hname
    exact absurd (hword.2 c (List.mem_of_getLast? hlast)) (by simp [hc.isWordChar])
  | @quoted q _ _ hq =>
    have hquote := (List.getLast?_concat (l := q :: name)).symm.trans (by cases hname; exact hlast)
    exact absurd (Option.some.inj hquote ▸ hq) hc.not_identifierQuote
  | literal | unclosed | line | block | mark => cases hname

theorem Reads.of_not_isVerbatim (h : Reads t after) (hv : ¬t.IsVerbatim)
    (htail : ∀ c ∈ tail.head?, isWordChar c = false) : Reads t tail := by
  obtain ⟨name, hname, -⟩ := exists_word_of_not_isVerbatim hv
  cases h with
  | word hw => exact .word hw htail
  | quoted hq hbody => exact .quoted hq hbody
  | literal | unclosed | line | block | mark => cases hname

theorem Reads.verbatimWord_of_marks (h : Reads t after) {m : List Char} (hsource : t.source = b ++ m)
    (hm : ∀ c ∈ m, IsMark c) (htail : ∀ c ∈ tail.head?, isWordChar c = false)
    (hw : VerbatimWord (b ++ tail) w) : t.IsVerbatim ∧ w ∈ words t.source ∨ w ∈ words tail := by
  by_cases hv : t.IsVerbatim
  · have hwords : words t.source = words b := by
      rw [hsource, words, runs_append_of_right b fun c hc => (hm c hc).isWordChar, words]
    have hmem := hw.mem_words
    rw [words, runs_append (.inr htail)] at hmem
    exact (List.mem_append.1 hmem).imp_left fun hb => ⟨hv, hwords ▸ hb⟩
  · obtain rfl := h.eq_nil_of_marks hv hsource hm
    rw [List.append_nil] at hsource
    rw [← hsource, (h.of_not_isVerbatim hv htail).verbatimWord_iff] at hw
    exact .inr (hw.resolve_left fun hmem => hv hmem.1).mem_words

theorem VerbatimWord.of_append (he : ∀ c ∈ e, IsMark c)
    (htail : ∀ c ∈ tail.head?, isWordChar c = false) (h : VerbatimWord (b ++ tail) w) :
    VerbatimWord (b ++ e) w ∨ w ∈ words tail := by
  -- Tokens before the end are read alike with either end; of the last one only the words are told.
  induction hn : b.length using Nat.strongRecOn generalizing b with
  | ind n ih =>
    rcases b with _ | ⟨c, rest⟩
    · exact .inr h.mem_words
    obtain ⟨t, after, hsource, hreads⟩ := exists_reads c (rest ++ e)
    rw [← List.cons_append] at hsource
    rw [hsource, hreads.verbatimWord_iff]
    have hlast {m : List Char} (ht : t.source = c :: rest ++ m) (hm : ∀ c ∈ m, IsMark c) :
        (t.IsVerbatim ∧ w ∈ words t.source ∨ VerbatimWord after w) ∨ w ∈ words tail :=
      (hreads.verbatimWord_of_marks ht hm htail h).imp_left .inl
    rcases List.append_eq_append_iff.1 hsource with ⟨m, ht, rfl⟩ | ⟨m, hb, rfl⟩
    · exact hlast ht fun c hc => he c (List.mem_append_left _ hc)
    · rcases m with _ | ⟨d, m⟩
      · exact hlast (m := []) (by simpa using hb.symm) (List.forall_mem_nil _)
      have hlt : (d :: m).length < n := by
        have hpos := List.length_pos_iff.2 hreads.source_ne_nil
        rw [← hn, hb, List.length_append]
        omega
      have hreads' : Reads t (d :: m ++ tail) := hreads.congr rfl
      rw [hb, List.append_assoc, hreads'.verbatimWord_iff] at h
      rcases h with ht | hm
      · exact .inl (.inl ht)
      · exact (ih _ hlt hm rfl).imp_left .inr

theorem mem_tokens_of_trimStart (h : t ∈ tokens (trimStart s)) : t ∈ tokens s := by
  induction s with
  | nil => exact h
  | cons c s ih =>
    cases hc : isBlank c with
    | false => rwa [trimStart_cons hc] at h
    | true =>
      have hreads : Reads (.other [c]) s := by
        refine .mark (isMark_blank hc) ?_ ?_ <;> rintro rfl <;> exact absurd hc (by decide)
      have htokens : tokens (c :: s) = .other [c] :: tokens s := tokens_append hreads
      rw [htokens]
      refine List.mem_cons_of_mem _ (ih ?_)
      rwa [trimStart, List.dropWhile_cons_of_pos hc] at h

theorem isMark_of_blank_or_semicolon {c : Char} (h : isBlank c = true ∨ c = ';') : IsMark c := by
  rcases h with h | rfl
  · exact isMark_blank h
  · exact ⟨by decide +kernel, by decide, by unfold IsIdentifierQuote; decide⟩

theorem VerbatimWord.of_ensureLimit {sql : String} {n : Nat}
    (h : VerbatimWord (ensureLimit sql n).toList w) :
    VerbatimWord sql.toList w ∨ w ∈ words (limitClause n) := by
  cases hmentions : mentions sql "LIMIT" with
  | true =>
    rw [ensureLimit_of_mentions hmentions] at h
    exact .inl h
  | false =>
    have hblank : isWordChar ' ' = false := isWordChar_blank (by decide)
    obtain ⟨e, he, hremoved⟩ := exists_trimStart_eq_bareStatement_append sql.toList
    have hmarks : ∀ c ∈ e, IsMark c := fun c hc => isMark_of_blank_or_semicolon (hremoved c hc)
    have hclause : ∀ c ∈ (' ' :: limitClause n).head?, isWordChar c = false :=
      fun c hc => Option.some.inj hc ▸ hblank
    rw [toList_ensureLimit hmentions] at h
    obtain ⟨t, ht, hv, hw⟩ | hw := h.of_append hmarks hclause
    · exact .inl ⟨t, mem_tokens_of_trimStart (he ▸ ht), hv, hw⟩
    · exact .inr (by rwa [words, runs_cons hblank] at hw)

theorem stripped_trim (s : List Char) : Stripped s (trim s) := by
  obtain ⟨before, hs, -⟩ := exists_append_trimStart s
  obtain ⟨after, hafter, hblank⟩ := exists_trimEnd_append (trimStart s)
  refine ⟨before, after, ?_, fun c hc => isWordChar_blank (hblank c hc)⟩
  calc
    s = before ++ (trimEnd (trimStart s) ++ after) := by rw [← hafter, ← hs]
    _ = before ++ trim s ++ after := (List.append_assoc ..).symm

theorem stripped_dropStart? {p u : List Char} (h : dropStart? p s = some u) : Stripped s u := by
  unfold dropStart? at h
  split at h <;> rename_i hp
  · cases h
    obtain ⟨v, rfl⟩ := List.isPrefixOf_iff_prefix.1 hp
    exact ⟨p, [], by simp, nofun⟩
  · cases h

theorem stripped_dropEnd? {p : List Char} (hp : ∀ c ∈ p, isWordChar c = false) (s : List Char) :
    Stripped s ((dropEnd? p s).getD s) := by
  cases h : dropEnd? p s with
  | none => exact ⟨[], [], by simp, nofun⟩
  | some u => exact ⟨[], p, dropEnd?_eq_some h, hp⟩

theorem stripped_stripFences (raw : String) : Stripped raw.toList (stripFences raw).toList := by
  have hfence : ∀ c ∈ List.replicate 3 '\x60', isWordChar c = false := fun c hc => by
    rw [List.eq_of_mem_replicate hc]
    decide +kernel
  have hstart (a b s : List Char) : Stripped s (((dropStart? a s).or (dropStart? b s)).getD s) := by
    cases h : (dropStart? a s).or (dropStart? b s) with
    | none => exact ⟨[], [], by simp, nofun⟩
    | some u =>
      rcases Option.or_eq_some_iff.1 h with h | ⟨-, h⟩ <;> exact stripped_dropStart? h
  rw [stripFences, String.toList_ofList]
  exact (stripped_trim _).trans <| (hstart ..).trans <| (stripped_dropEnd? hfence _).trans <|
    stripped_trim _

end AskSql.Sql
