import AskSql.Proofs.Runs
import AskSql.Proofs.Sql.Token

namespace AskSql.Sql

open Text

def words (s : List Char) : List (List Char) := runs isWordChar s

variable {t : Token} {ts : List Token} {s body rest w : List Char}

theorem getLast?_of_literalExtent (h : literalExtent (body ++ rest) = body.length) :
    rest = [] ∨ body.getLast? = some '\x27' := by
  induction body using literalExtent.induct with
  | case1 => exact .inl (eq_nil_of_literalExtent h)
  | case2 body ih =>
    rw [List.cons_append, List.cons_append, literalExtent, List.length_cons, List.length_cons] at h
    refine (ih (by omega)).imp_right fun hlast => ?_
    rw [List.getLast?_cons_cons, List.getLast?_cons, hlast, Option.getD_some]
  | case3 body hbody =>
    cases body with
    | nil => exact .inr rfl
    | cons c body =>
      have hc : c ≠ '\x27' := by
        rintro rfl
        exact hbody body rfl rfl
      rw [List.cons_append, literalExtent_quote (by simpa using hc)] at h
      simp at h
  | case4 c body _ hc ih =>
    rw [List.cons_append, literalExtent_cons hc, List.length_cons] at h
    refine (ih (Nat.succ.inj h)).imp_right fun hlast => ?_
    rw [List.getLast?_cons, hlast, Option.getD_some]

theorem getLast?_of_blockExtent (h : blockExtent (body ++ rest) = body.length) :
    rest = [] ∨ body.getLast? = some '/' := by
  induction body with
  | nil => exact .inl (eq_nil_of_blockExtent h)
  | cons c body ih =>
    rw [List.cons_append] at h
    by_cases hclose : c = '*' ∧ (body ++ rest).head? = some '/'
    · obtain ⟨rfl, hslash⟩ := hclose
      obtain ⟨more, hmore⟩ := List.head?_eq_some_iff.1 hslash
      rw [hmore, blockExtent] at h
      obtain ⟨d, rfl⟩ := List.length_eq_one_iff.1 (Nat.succ.inj h.symm)
      exact .inr (congrArg some (Option.some.inj hslash))
    · rw [blockExtent_cons fun hc hs => hclose ⟨hc, hs⟩, List.length_cons] at h
      refine (ih (Nat.succ.inj h)).imp_right fun hlast => ?_
      rw [List.getLast?_cons, hlast, Option.getD_some]

theorem parted_of_getLast? {c : Char} (hlast : s.getLast? = some c) (hc : isWordChar c = false)
    (rest : List Char) : Parted isWordChar s rest := by
  left
  intro d hd
  rw [hlast] at hd
  cases hd
  exact hc

theorem Reads.parted (h : Reads t s) : Parted isWordChar t.source s := by
  cases h with
  | word _ hs => exact .inr hs
  | literal hbody =>
    rcases getLast?_of_literalExtent hbody with rfl | hlast
    · exact .inr nofun
    · exact parted_of_getLast? (c := '\x27') (by simp [Token.source, List.getLast?_cons, hlast])
        (by decide +kernel) s
  | @quoted q body _ hq =>
    exact parted_of_getLast? (List.getLast?_concat (l := q :: body)) hq.isWordChar s
  | unclosed => exact .inr nofun
  | line _ hs =>
    right
    intro c hc
    obtain rfl := hs c hc
    decide +kernel
  | block hbody =>
    rcases getLast?_of_blockExtent hbody with rfl | hlast
    · exact .inr nofun
    · exact parted_of_getLast? (c := '/') (by simp [Token.source, List.getLast?_cons, hlast])
        (by decide +kernel) s
  | @mark c _ hc => exact parted_of_getLast? (c := c) rfl hc.isWordChar s

theorem words_source (h : Lexed ts) : words (source ts) = ts.flatMap fun t => words t.source := by
  induction ts with
  | nil => rfl
  | cons t ts ih =>
    rw [source_cons, words, runs_append h.1.parted, List.flatMap_cons, ← ih h.2]
    rfl

theorem mem_words_iff : w ∈ words s ↔ ∃ t ∈ tokens s, w ∈ words t.source := by
  have hwords := words_source (lexed_tokens s).1
  rw [source_tokens] at hwords
  rw [hwords, List.mem_flatMap]

/-- Literals, comments and marks are verbatim, and quoted identifiers of more than a word. -/
def Token.IsVerbatim (t : Token) : Prop := ∀ name ∈ t.name?, ¬IsWord name

instance (t : Token) : Decidable t.IsVerbatim :=
  inferInstanceAs (Decidable (∀ name ∈ t.name?, ¬IsWord name))

theorem Reads.head?_of_isVerbatim (h : Reads t s) (hv : t.IsVerbatim) :
    ∀ c ∈ t.source.head?, isWordChar c = false := by
  cases h with
  | word hw => exact absurd hw (hv _ rfl)
  | literal | line | block => exact fun c hc => Option.some.inj hc ▸ by decide +kernel
  | quoted hq | unclosed hq => exact fun c hc => Option.some.inj hc ▸ hq.isWordChar
  | mark hc => exact fun c h => Option.some.inj h ▸ hc.isWordChar

theorem exists_word_of_not_isVerbatim (hv : ¬t.IsVerbatim) :
    ∃ name, t.name? = some name ∧ IsWord name := by
  simpa [Token.IsVerbatim] using hv

theorem Reads.words_rename (h : Reads t s) {old : List Char} (hold : t.name? = some old)
    (name : List Char) : words (t.rename name).source = words name := by
  cases h with
  | word => rfl
  | @quoted q _ _ hq =>
    have hquote : isWordChar q = false := hq.isWordChar
    rw [words, Token.rename, Token.source, List.cons_append, runs_cons hquote,
      runs_append_of_right _ (List.forall_mem_singleton.2 hquote), words]
  | literal | unclosed | line | block | mark => cases hold

theorem Reads.words_of_name? (h : Reads t s) (hname : t.name? = some w) (hw : IsWord w) :
    words t.source = [w] := by
  rw [← Token.rename_name hname, h.words_rename hname]
  exact runs_eq_singleton hw.1 hw.2

theorem exists_source_eq (h : t ∈ tokens s) :
    ∃ before after, s = before ++ t.source ++ after ∧ Reads t after := by
  obtain ⟨us, vs, hsplit⟩ := List.append_of_mem h
  have hlexed := (lexed_tokens s).1
  have hsource := source_tokens s
  rw [hsplit] at hlexed hsource
  exact ⟨source us, source vs, by simpa using hsource.symm, hlexed.of_append.1⟩

/-- A text without something at its start and without some characters of no word at its end. -/
def Stripped (s t : List Char) : Prop :=
  ∃ before after, s = before ++ t ++ after ∧ ∀ c ∈ after, isWordChar c = false

theorem Stripped.trans {s t u : List Char} (h : Stripped s t) (h' : Stripped t u) :
    Stripped s u := by
  obtain ⟨b, a, rfl, ha⟩ := h
  obtain ⟨b', a', rfl, ha'⟩ := h'
  refine ⟨b ++ b', a' ++ a, by simp, ?_⟩
  exact List.forall_mem_append.2 ⟨ha', ha⟩

theorem Stripped.mem_words {raw : List Char} (h : Stripped raw s) (ht : t ∈ tokens s)
    (hv : t.IsVerbatim) (hw : w ∈ words t.source) : w ∈ words raw := by
  obtain ⟨b, a, rfl, ha⟩ := h
  obtain ⟨before, after, rfl, hreads⟩ := exists_source_eq ht
  -- Behind the token its own end or what follows stops a word, in front of it its first character.
  have hafter : Parted isWordChar t.source (after ++ a) := by
    rcases hreads.parted with hlast | hhead
    · exact .inl hlast
    · right
      cases after with
      | nil => exact fun c hc => ha c (List.mem_of_head? hc)
      | cons d after => exact hhead
  have hbefore : Parted isWordChar (b ++ before) (t.source ++ (after ++ a)) := by
    right
    obtain ⟨c, more, hc⟩ := List.exists_cons_of_ne_nil hreads.source_ne_nil
    rw [hc]
    intro d hd
    exact hreads.head?_of_isVerbatim hv d (by rw [hc]; exact hd)
  have hassoc : b ++ (before ++ t.source ++ after) ++ a =
      (b ++ before) ++ (t.source ++ (after ++ a)) := by simp
  rw [words, hassoc, runs_append hbefore, runs_append hafter]
  exact List.mem_append_right _ (List.mem_append_left _ hw)

end AskSql.Sql
