import AskSql.Proofs.Sql.Verbatim

/-!
The limit of a statement, as the tokens that it is read as.

Behind literals, quoted identifiers and block comments that are closed the limit is read as words of
the statement, whatever else the statement holds. A line comment at the end of the statement takes
the limit in: nothing ends the comment between the two.
-/

namespace AskSql.Sql

open Text Unicode

def literal (value : List Char) : List Char := '\x27' :: (doubled value ++ ['\x27'])
where
  doubled (value : List Char) : List Char :=
    value.flatMap fun c => if c = '\x27' then ['\x27', '\x27'] else [c]

/-- Everything that a token opens is closed in it; a line comment needs no closing. -/
inductive Token.IsClosed : Token → Prop
  | word (name : List Char) : IsClosed (.word name)
  | quoted (q : Char) (body : List Char) : IsClosed (.quoted q body)
  | literal (value : List Char) : IsClosed (.other (literal value))
  | line (body : List Char) : IsClosed (.other ('-' :: '-' :: body))
  | block (body : List Char) : IsClosed (.other ('/' :: '*' :: (body ++ ['*', '/'])))
  | mark {c : Char} : IsMark c → IsClosed (.other [c])

def Token.IsLineComment (t : Token) : Prop := ∃ body, t = .other ('-' :: '-' :: body)

def EndsInLineComment (s : List Char) : Prop := ∃ t ∈ (tokens s).getLast?, t.IsLineComment

def limitTokens (n : Nat) : List Token :=
  [.word "LIMIT".toList, .other [' '], .word (Nat.toDigits 10 n)]

variable {t : Token} {ts us vs : List Token} {s b e after body rest : List Char}

theorem literalExtent_doubled (value s : List Char) :
    literalExtent (literal.doubled value ++ s) =
      (literal.doubled value).length + literalExtent s := by
  induction value with
  | nil => exact (Nat.zero_add _).symm
  | cons c value ih =>
    rw [literal.doubled] at ih ⊢
    rw [List.flatMap_cons, List.append_assoc, List.length_append]
    by_cases hc : c = '\x27'
    · subst hc
      simp only [if_true, List.cons_append, List.nil_append, literalExtent, ih, List.length_cons,
        List.length_nil]
      omega
    · rw [if_neg hc, List.singleton_append, literalExtent_cons hc, ih, List.length_singleton]
      omega

theorem literalExtent_closed (value : List Char) (h : rest.head? ≠ some '\x27') :
    literalExtent (literal.doubled value ++ ['\x27'] ++ rest) =
      (literal.doubled value ++ ['\x27']).length := by
  rw [List.append_assoc, literalExtent_doubled, List.singleton_append, literalExtent_quote h,
    List.length_append, List.length_singleton]

theorem blockExtent_closed (h : blockExtent (body ++ ['*', '/'] ++ s) = (body ++ ['*', '/']).length)
    (rest : List Char) :
    blockExtent (body ++ ['*', '/'] ++ rest) = (body ++ ['*', '/']).length := by
  induction body with
  | nil => rfl
  | cons c body ih =>
    have hhead (u : List Char) : (body ++ ['*', '/'] ++ u).head? = (body ++ ['*', '/']).head? := by
      cases body <;> rfl
    by_cases hclose : c = '*' ∧ (body ++ ['*', '/']).head? = some '/'
    · obtain ⟨rfl, hslash⟩ := hclose
      obtain ⟨more, hmore⟩ := List.head?_eq_some_iff.1 hslash
      rw [List.cons_append, List.cons_append, hmore, List.cons_append, blockExtent, ← hmore] at h
      simp at h
    · have hopen (u : List Char) : c = '*' → (body ++ ['*', '/'] ++ u).head? ≠ some '/' :=
        fun hc hu => hclose ⟨hc, hhead u ▸ hu⟩
      rw [List.cons_append, List.cons_append, blockExtent_cons (hopen s), List.length_cons] at h
      rw [List.cons_append, List.cons_append, blockExtent_cons (hopen rest), List.length_cons,
        ih (Nat.succ.inj h)]

theorem Token.IsClosed.exists_value (h : Token.IsClosed (.other ('\x27' :: body))) :
    ∃ value, '\x27' :: body = Sql.literal value := by
  generalize ht : Token.other ('\x27' :: body) = t at h
  cases h with
  | literal value => exact ⟨value, Token.other.inj ht⟩
  | mark hc =>
    cases ht
    exact absurd rfl hc.ne_quote
  | word | quoted | line | block => cases ht

theorem Token.IsClosed.not_identifierQuote {q : Char} (h : Token.IsClosed (.other (q :: body))) :
    ¬IsIdentifierQuote q := by
  generalize ht : Token.other (q :: body) = t at h
  cases h with
  | word | quoted => cases ht
  | literal | line | block =>
    cases ht
    unfold IsIdentifierQuote
    decide
  | mark hc =>
    cases ht
    exact hc.not_identifierQuote

theorem Token.IsClosed.exists_block (h : Token.IsClosed (.other ('/' :: '*' :: body))) :
    ∃ inner, body = inner ++ ['*', '/'] := by
  generalize ht : Token.other ('/' :: '*' :: body) = t at h
  cases h with
  | block inner =>
    cases ht
    exact ⟨inner, rfl⟩
  | word | quoted | literal | line | mark => cases ht

theorem Reads.newline_not_mem (h : Reads (.other ('-' :: '-' :: body)) rest) : '\n' ∉ body := by
  generalize ht : Token.other ('-' :: '-' :: body) = t at h
  cases h with
  | line hbody =>
    cases ht
    exact hbody
  | word | literal | quoted | block | mark => cases ht
  | unclosed hq =>
    cases ht
    exact absurd hq (by unfold IsIdentifierQuote; decide)

theorem Reads.of_isClosed (h : Reads t s) (hclosed : t.IsClosed)
    (hrest : ∀ c ∈ rest.head?, c = ' ' ∧ ¬t.IsLineComment) : Reads t rest := by
  have hne {c : Char} (hc : c ≠ ' ') : rest.head? ≠ some c := fun hhead => hc (hrest c hhead).1
  cases h with
  | word hw => exact .word hw fun c hc => (hrest c hc).1 ▸ isWordChar_blank (by decide)
  | @literal body =>
    obtain ⟨value, hvalue⟩ := hclosed.exists_value
    refine .literal ?_
    rw [(List.cons.inj hvalue).2]
    exact literalExtent_closed value (hne (by decide))
  | quoted hq hbody => exact .quoted hq hbody
  | unclosed hq => exact absurd hq hclosed.not_identifierQuote
  | @line body _ hbody => exact .line hbody fun c hc => absurd ⟨body, rfl⟩ (hrest c hc).2
  | block hbody =>
    obtain ⟨inner, rfl⟩ := hclosed.exists_block
    exact .block (blockExtent_closed hbody rest)
  | mark hc => exact .mark hc (fun _ => hne (by decide)) fun _ => hne (by decide)

theorem lexed_line (h : '\n' ∉ body) : Lexed [.other ('-' :: '-' :: body)] :=
  ⟨.line h (by simp [source]), trivial⟩

theorem lexed_lone_word {w : List Char} (h : IsWord w) : Lexed [.word w] :=
  ⟨.word h (by simp [source]), trivial⟩

theorem Lexed.append_congr (h : Lexed (ts ++ us))
    (hopening : opening (source us) = opening (source vs)) (hvs : Lexed vs) :
    Lexed (ts ++ vs) := by
  induction ts with
  | nil => exact hvs
  | cons t ts ih =>
    have hrest : opening (source (ts ++ us)) = opening (source (ts ++ vs)) := by
      rw [source_append, source_append]
      cases source ts with
      | nil => exact hopening
      | cons c s => rfl
    exact ⟨h.1.congr hrest, ih h.2⟩

theorem tokens_append_of_isClosed (hclosed : ∀ t ∈ tokens s, t.IsClosed)
    (hline : ¬EndsInLineComment s) (rest : List Char) :
    tokens (s ++ ' ' :: rest) = tokens s ++ tokens (' ' :: rest) := by
  rcases List.eq_nil_or_concat' (tokens s) with hs | ⟨ts, t, hs⟩
  · rw [← source_tokens s, hs]
    rfl
  have ht : t ∈ tokens s := by simp [hs]
  obtain ⟨_, after, -, hreads⟩ := exists_source_eq ht
  have hcode : ¬t.IsLineComment := fun hcomment => hline ⟨t, by simp [hs], hcomment⟩
  have hreads' : Reads t (' ' :: rest) :=
    hreads.of_isClosed (hclosed t ht) fun c hc => ⟨(Option.some.inj hc).symm, hcode⟩
  have hlexed : Lexed (ts ++ t :: tokens (' ' :: rest)) := by
    refine (hs ▸ (lexed_tokens s).1).append_congr ?_ ⟨?_, (lexed_tokens _).1⟩
    · exact opening_append hreads.source_ne_nil _ _
    · rwa [source_tokens]
  refine tokens_eq_iff.2 ⟨?_, ?_⟩
  · rw [source_append, source_tokens, source_tokens]
  · rwa [hs, List.append_assoc]

/-- A comment at the end takes in what stands behind it in its line. -/
theorem tokens_append_of_line (hs : tokens s = ts ++ [.other ('-' :: '-' :: body)])
    (hrest : '\n' ∉ rest) :
    tokens (s ++ rest) = ts ++ [.other ('-' :: '-' :: (body ++ rest))] := by
  have hlexed : Lexed (ts ++ [.other ('-' :: '-' :: body)]) := hs ▸ (lexed_tokens s).1
  have hline : .other ('-' :: '-' :: body) ∈ tokens s := by simp [hs]
  obtain ⟨_, after, -, hreads⟩ := exists_source_eq hline
  refine tokens_eq_iff.2
    ⟨?_, hlexed.append_congr rfl (lexed_line (List.not_mem_append hreads.newline_not_mem hrest))⟩
  rw [← source_tokens s, hs]
  simp [source, Token.source]

theorem Reads.mark_or_lineComment (h : Reads t after) (hclosed : t.IsClosed) {c : Char}
    (hlast : t.source.getLast? = some c) (hc : isBlank c = true ∨ c = ';') :
    t = .other [c] ∨ t.IsLineComment := by
  have hmark : IsMark c := isMark_of_blank_or_semicolon hc
  cases h with
  | @word w _ hw =>
    have hword := hw.2 c (List.mem_of_getLast? hlast)
    simp [hmark.isWordChar] at hword
  | literal =>
    obtain ⟨value, hvalue⟩ := hclosed.exists_value
    have hquote := List.getLast?_concat (l := '\x27' :: literal.doubled value) (a := '\x27')
    exact absurd (Option.some.inj ((hvalue ▸ hlast).symm.trans hquote)) hmark.ne_quote
  | @quoted q body _ hq =>
    have hquote := List.getLast?_concat (l := q :: body) (a := q)
    exact absurd (Option.some.inj (hquote.symm.trans hlast) ▸ hq) hmark.not_identifierQuote
  | unclosed hq => exact absurd hq hclosed.not_identifierQuote
  | block =>
    obtain ⟨inner, rfl⟩ := hclosed.exists_block
    obtain rfl : '/' = c := by simpa [Token.source, List.getLast?_cons] using hlast
    exact absurd hc (by decide)
  | mark => exact .inl (by simpa [Token.source] using hlast)
  | @line body => exact .inr ⟨body, rfl⟩

theorem isClosed_of_line {m : List Char} (h : '\n' ∉ body) (hsource : '-' :: '-' :: body = b ++ m)
    (hb : b ≠ []) (hm : '-' ∉ m) : ∀ u ∈ tokens b, u.IsClosed := by
  rcases b with _ | ⟨d, _ | ⟨e, b⟩⟩
  · exact absurd rfl hb
  · obtain ⟨-, rfl⟩ := List.cons.inj hsource
    exact absurd List.mem_cons_self hm
  · obtain ⟨rfl, rfl, rfl⟩ : '-' = d ∧ '-' = e ∧ body = b ++ m := by simpa using hsource
    have htokens : tokens ('-' :: '-' :: b) = [.other ('-' :: '-' :: b)] := by
      refine tokens_eq_iff.2 ⟨by simp [source, Token.source], lexed_line ?_⟩
      exact fun hmem => h (List.mem_append_left _ hmem)
    rw [htokens]
    exact List.forall_mem_singleton.2 (.line b)

theorem isClosed_of_cut (h : Reads t after) (hclosed : t.IsClosed) {m : List Char}
    (hsource : t.source = b ++ m) (hb : b ≠ []) (hm : m ≠ [])
    (hremoved : ∀ c ∈ m, isBlank c = true ∨ c = ';') : ∀ u ∈ tokens b, u.IsClosed := by
  have hlast : t.source.getLast? = some (m.getLast hm) := by
    rw [hsource, List.getLast?_append_of_ne_nil _ hm, List.getLast?_eq_some_getLast]
  rcases h.mark_or_lineComment hclosed hlast (hremoved _ (List.getLast_mem hm)) with rfl | ⟨body, rfl⟩
  · -- A mark is too short to be cut.
    have hlength := congrArg List.length hsource
    have := List.length_pos_iff.2 hb
    have := List.length_pos_iff.2 hm
    simp only [Token.source, List.length_append, List.length_singleton] at hlength
    omega
  · exact isClosed_of_line h.newline_not_mem hsource hb fun h => absurd (hremoved '-' h) (by decide)

theorem isClosed_of_append (he : ∀ c ∈ e, isBlank c = true ∨ c = ';')
    (h : ∀ t ∈ tokens (b ++ e), t.IsClosed) : ∀ t ∈ tokens b, t.IsClosed := by
  -- On the length of what is left, token by token; the cut goes through the last one at most.
  induction hn : b.length using Nat.strongRecOn generalizing b with
  | ind n ih =>
    rcases b with _ | ⟨c, rest⟩
    · nofun
    obtain ⟨t, after, hsource, hreads⟩ := exists_reads c (rest ++ e)
    rw [← List.cons_append] at hsource
    rw [hsource, tokens_append hreads, List.forall_mem_cons] at h
    rcases List.append_eq_append_iff.1 hsource with ⟨m, ht, rfl⟩ | ⟨m, hb, rfl⟩
    · rcases eq_or_ne m [] with rfl | hm
      · have hreads' : Reads t [] := hreads.of_isClosed h.1 nofun
        rw [List.append_nil] at ht
        rw [← ht, ← List.append_nil t.source, tokens_append hreads']
        exact List.forall_mem_singleton.2 h.1
      · exact isClosed_of_cut hreads h.1 ht (List.cons_ne_nil _ _) hm
          fun d hd => he d (List.mem_append_left _ hd)
    · have hlt : m.length < n := by
        have hpos := List.length_pos_iff.2 hreads.source_ne_nil
        rw [← hn, hb, List.length_append]
        omega
      have hreads' : Reads t m := by
        cases m with
        | nil => exact hreads.of_isClosed h.1 nofun
        | cons d m => exact hreads.congr rfl
      rw [hb, tokens_append hreads', List.forall_mem_cons]
      exact ⟨h.1, ih _ hlt h.2 rfl⟩

theorem isClosed_bareStatement (h : ∀ t ∈ tokens s, t.IsClosed) :
    ∀ t ∈ tokens (bareStatement s), t.IsClosed := by
  obtain ⟨e, he, hremoved⟩ := exists_trimStart_eq_bareStatement_append s
  exact isClosed_of_append hremoved fun t ht => h t (mem_tokens_of_trimStart (he ▸ ht))

theorem isWord_toDigits (n : Nat) : IsWord (Nat.toDigits 10 n) := by
  refine ⟨Nat.toDigits_ne_nil, fun c hc => ?_⟩
  exact forall_digit (P := fun c => isWordChar c = true) (by decide) (isDigit_of_mem_toDigits hc)

theorem tokens_limitClause (n : Nat) :
    tokens (' ' :: limitClause n) = .other [' '] :: limitTokens n := by
  have hspace : IsMark ' ' := isMark_blank (by decide)
  refine tokens_eq_iff.2 ⟨by simp [source, limitTokens, limitClause, Token.source], ?_⟩
  refine ⟨.mark_of_ne hspace (by decide) (by decide), .word (by decide +kernel) ?_,
    .mark_of_ne hspace (by decide) (by decide), lexed_lone_word (isWord_toDigits n)⟩
  rintro _ ⟨⟩
  exact hspace.isWordChar

theorem newline_not_mem_limitClause (n : Nat) : '\n' ∉ ' ' :: limitClause n := by
  intro h
  have hdigit : '\n' ∉ Nat.toDigits 10 n := fun h => absurd (isDigit_of_mem_toDigits h) (by decide)
  simp [limitClause, hdigit] at h

/-- The limit of a statement takes effect, unless the statement ends in a line comment. -/
theorem limitTokens_isSuffix_iff {sql : String} (h : mentions sql "LIMIT" = false)
    (hclosed : ∀ t ∈ tokens sql.toList, t.IsClosed) (n : Nat) :
    limitTokens n <:+ tokens (ensureLimit sql n).toList ↔
      ¬EndsInLineComment (bareStatement sql.toList) := by
  rw [toList_ensureLimit h]
  constructor
  · rintro ⟨before, hsuffix⟩ ⟨t, ht, body, rfl⟩
    obtain ⟨ts, hts⟩ := List.getLast?_eq_some_iff.1 ht
    rw [tokens_append_of_line hts (newline_not_mem_limitClause n)] at hsuffix
    have hlast := congrArg List.getLast? hsuffix
    simp [limitTokens] at hlast
  · intro hline
    rw [tokens_append_of_isClosed (isClosed_bareStatement hclosed) hline, tokens_limitClause]
    exact ⟨tokens (bareStatement sql.toList) ++ [.other [' ']], by simp⟩

def quotedSigns : String := "SELECT '--' FROM \"-- old\" /* all */;"

theorem limitTokens_isSuffix_quotedSigns :
    mentions quotedSigns "LIMIT" = false ∧ (∀ t ∈ tokens quotedSigns.toList, t.IsClosed) ∧
      limitTokens 100 <:+ tokens (ensureLimit quotedSigns 100).toList := by
  have hmentions : mentions quotedSigns "LIMIT" = false := by decide +kernel
  have htokens : tokens quotedSigns.toList =
      [.word "SELECT".toList, .other [' '], .other (literal "--".toList), .other [' '],
       .word "FROM".toList, .other [' '], .quoted '\x22' "-- old".toList, .other [' '],
       .other "/* all */".toList, .other [';']] := by decide +kernel
  have hlast : (tokens (bareStatement quotedSigns.toList)).getLast? =
      some (.other "/* all */".toList) := by decide +kernel
  have hspace : IsMark ' ' := isMark_blank (by decide)
  have hclosed : ∀ t ∈ tokens quotedSigns.toList, t.IsClosed := by
    simp only [htokens, List.forall_mem_cons]
    exact ⟨.word _, .mark hspace, .literal _, .mark hspace, .word _, .mark hspace, .quoted _ _,
      .mark hspace, .block " all ".toList, .mark (isMark_of_blank_or_semicolon (.inr rfl)), nofun⟩
  refine ⟨hmentions, hclosed, (limitTokens_isSuffix_iff hmentions hclosed 100).2 ?_⟩
  rintro ⟨t, ht, body, rfl⟩
  rw [hlast] at ht
  cases ht

/-- A comment at the end of a statement takes the limit in. -/
theorem not_limitTokens_isSuffix_comment :
    mentions "SELECT 1 -- one" "LIMIT" = false ∧
      (∀ t ∈ tokens "SELECT 1 -- one".toList, t.IsClosed) ∧
      ¬limitTokens 100 <:+ tokens (ensureLimit "SELECT 1 -- one" 100).toList := by
  have htokens : tokens "SELECT 1 -- one".toList =
      [.word "SELECT".toList, .other [' '], .word "1".toList, .other [' '],
       .other "-- one".toList] := by decide +kernel
  have hspace : IsMark ' ' := isMark_blank (by decide)
  refine ⟨by decide +kernel, ?_, by decide +kernel⟩
  simp only [htokens, List.forall_mem_cons]
  exact ⟨.word _, .mark hspace, .word _, .mark hspace, .line " one".toList, nofun⟩

end AskSql.Sql
