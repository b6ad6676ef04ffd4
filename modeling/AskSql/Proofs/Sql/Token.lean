import Mathlib.Data.List.TakeWhile
import AskSql.Proofs.Runs
import AskSql.Proofs.Unicode
import AskSql.Sql.Token

/-!
The tokens of a text, told from the tokens.

A token is read off a text in one of seven ways, and what follows it matters only by its first
character. So tokens can be put in the place of others: a text made of tokens that are each read off
what follows has these tokens.
-/

namespace AskSql.Sql

def IsWord (w : List Char) : Prop := w ≠ [] ∧ ∀ c ∈ w, isWordChar c = true

instance (w : List Char) : Decidable (IsWord w) :=
  haveI : Decidable (∀ c ∈ w, isWordChar c = true) := List.decidableBAll _ w
  inferInstanceAs (Decidable (_ ∧ _))

def IsIdentifierQuote (q : Char) : Prop := q = '\x22' ∨ q = '\x60'

structure IsMark (c : Char) : Prop where
  isWordChar : isWordChar c = false
  ne_quote : c ≠ '\x27'
  not_identifierQuote : ¬IsIdentifierQuote c

/-- The token is read off a text that goes on with the given rest. -/
inductive Reads : Token → List Char → Prop
  | word : IsWord w → (∀ c ∈ rest.head?, isWordChar c = false) → Reads (.word w) rest
  | literal : literalExtent (body ++ rest) = body.length → Reads (.other ('\x27' :: body)) rest
  | quoted : IsIdentifierQuote q → q ∉ body → Reads (.quoted q body) rest
  | unclosed : IsIdentifierQuote q → q ∉ body → Reads (.other (q :: body)) []
  | line : '\n' ∉ body → (∀ c ∈ rest.head?, c = '\n') → Reads (.other ('-' :: '-' :: body)) rest
  | block : blockExtent (body ++ rest) = body.length → Reads (.other ('/' :: '*' :: body)) rest
  | mark : IsMark c → (c = '-' → rest.head? ≠ some '-') → (c = '/' → rest.head? ≠ some '*') →
      Reads (.other [c]) rest

def Lexed : List Token → Prop
  | [] => True
  | t :: ts => Reads t (source ts) ∧ Lexed ts

@[simp] theorem source_cons (t : Token) (ts : List Token) :
    source (t :: ts) = t.source ++ source ts := rfl

@[simp] theorem source_append (ts us : List Token) : source (ts ++ us) = source ts ++ source us :=
  List.flatMap_append

theorem Token.rename_name {t : Token} {name : List Char} (h : t.name? = some name) :
    t.rename name = t := by
  cases t <;> cases h <;> rfl

theorem IsIdentifierQuote.isWordChar {q : Char} (h : IsIdentifierQuote q) :
    isWordChar q = false := by
  rcases h with rfl | rfl <;> decide +kernel

theorem isWordChar_blank {c : Char} (h : Unicode.isBlank c = true) : isWordChar c = false :=
  Unicode.forall_blank (P := fun c => isWordChar c = false) (by decide +kernel) h

theorem isMark_blank {c : Char} (h : Unicode.isBlank c = true) : IsMark c where
  isWordChar := isWordChar_blank h
  ne_quote := Unicode.forall_blank (P := fun c => c ≠ '\x27') (by decide) h
  not_identifierQuote :=
    Unicode.forall_blank (P := fun c => ¬(c = '\x22' ∨ c = '\x60')) (by decide) h

theorem Reads.mark_of_ne {c : Char} {rest : List Char} (h : IsMark c) (hdash : c ≠ '-')
    (hslash : c ≠ '/') : Reads (.other [c]) rest :=
  .mark h (absurd · hdash) (absurd · hslash)

theorem literalExtent_cons {c : Char} (h : c ≠ '\x27') (s : List Char) :
    literalExtent (c :: s) = literalExtent s + 1 := by
  rw [literalExtent, if_neg h]
  exact fun _ hc => absurd hc h

theorem literalExtent_quote {s : List Char} (h : s.head? ≠ some '\x27') :
    literalExtent ('\x27' :: s) = 1 := by
  rw [literalExtent, if_pos rfl]
  rintro rest - rfl
  exact h rfl

theorem literalExtent_le (s : List Char) : literalExtent s ≤ s.length := by
  fun_induction literalExtent s <;> simp_all

theorem eq_nil_of_literalExtent {s : List Char} (h : literalExtent s = 0) : s = [] := by
  fun_cases literalExtent s <;> simp_all [literalExtent]

theorem blockExtent_cons {c : Char} {s : List Char} (h : c = '*' → s.head? ≠ some '/') :
    blockExtent (c :: s) = blockExtent s + 1 := by
  rw [blockExtent]
  rintro rest hc rfl
  exact h hc rfl

theorem blockExtent_le (s : List Char) : blockExtent s ≤ s.length := by
  fun_induction blockExtent s <;> simp_all

theorem eq_nil_of_blockExtent {s : List Char} (h : blockExtent s = 0) : s = [] := by
  fun_cases blockExtent s <;> simp_all [blockExtent]

def opening (s : List Char) : Option Char := s.head?.map fun c => if isWordChar c then 'a' else c

section

variable {s t : List Char}

theorem eq_nil_of_opening_eq (h : opening s = opening t) (hs : s = []) : t = [] := by
  subst hs
  simpa [opening] using h.symm

theorem head?_eq_iff_of_opening_eq (h : opening s = opening t) {c : Char}
    (hc : isWordChar c = false) : s.head? = some c ↔ t.head? = some c := by
  have ha : isWordChar 'a' = true := by decide +kernel
  have hopening (u : List Char) : u.head? = some c ↔ opening u = some c := by
    cases u with
    | nil => rfl
    | cons d u =>
      simp only [opening, List.head?_cons, Option.map_some, Option.some.injEq]
      split <;> rename_i hd
      · exact iff_of_false (fun h => by simp [h, hc] at hd) (fun h => by simp [← h, ha] at hc)
      · exact Iff.rfl
  rw [hopening, hopening, h]

theorem isWordChar_head?_of_opening_eq (h : opening s = opening t)
    (hs : ∀ c ∈ s.head?, isWordChar c = false) : ∀ c ∈ t.head?, isWordChar c = false := by
  intro c hc
  refine Bool.eq_false_iff.2 fun hword => ?_
  cases s with
  | nil =>
    rw [eq_nil_of_opening_eq h rfl] at hc
    cases hc
  | cons d s =>
    have hd := hs d rfl
    rw [(head?_eq_iff_of_opening_eq h hd).1 rfl] at hc
    cases hc
    exact Bool.eq_false_iff.1 hd hword

theorem opening_append (hs : s ≠ []) (u v : List Char) : opening (s ++ u) = opening (s ++ v) := by
  cases s with
  | nil => exact absurd rfl hs
  | cons c s => rfl

theorem literalExtent_congr {body : List Char} (h : opening s = opening t)
    (hbody : literalExtent (body ++ s) = body.length) :
    literalExtent (body ++ t) = body.length := by
  induction body using literalExtent.induct with
  | case1 =>
    rw [eq_nil_of_opening_eq h (eq_nil_of_literalExtent hbody)]
    rfl
  | case2 body ih =>
    rw [List.cons_append, List.cons_append, literalExtent] at hbody ⊢
    simp_all
  | case3 body hbody' =>
    cases body with
    | nil =>
      have hs : s.head? ≠ some '\x27' := fun hs => by
        obtain ⟨s', rfl⟩ := List.head?_eq_some_iff.1 hs
        simp [literalExtent] at hbody
      rw [List.singleton_append, literalExtent_quote]
      · rfl
      · exact fun ht => hs ((head?_eq_iff_of_opening_eq h (by decide +kernel)).2 ht)
    | cons c body =>
      have hc : c ≠ '\x27' := by
        rintro rfl
        exact hbody' body rfl rfl
      rw [List.cons_append, literalExtent_quote (by simpa using hc)] at hbody
      simp at hbody
  | case4 c body _ hc ih =>
    rw [List.cons_append, literalExtent_cons hc] at hbody ⊢
    simp_all

theorem blockExtent_congr {body : List Char} (h : opening s = opening t)
    (hbody : blockExtent (body ++ s) = body.length) : blockExtent (body ++ t) = body.length := by
  induction body with
  | nil =>
    rw [eq_nil_of_opening_eq h (eq_nil_of_blockExtent hbody)]
    rfl
  | cons c body ih =>
    rw [List.cons_append] at hbody ⊢
    by_cases hclose : c = '*' ∧ (body ++ s).head? = some '/'
    · obtain ⟨rfl, hslash⟩ := hclose
      obtain ⟨rest, hrest⟩ := List.head?_eq_some_iff.1 hslash
      rw [hrest, blockExtent] at hbody
      obtain ⟨d, rfl⟩ := List.length_eq_one_iff.1 (Nat.succ.inj hbody.symm)
      obtain rfl : d = '/' := by simpa using hslash
      rfl
    · have hopen : c = '*' → (body ++ t).head? ≠ some '/' := by
        intro hc ht
        refine hclose ⟨hc, ?_⟩
        cases body with
        | nil => exact (head?_eq_iff_of_opening_eq h (by decide +kernel)).2 ht
        | cons d body => exact ht
      rw [blockExtent_cons fun hc hs => hclose ⟨hc, hs⟩, List.length_cons] at hbody
      rw [blockExtent_cons hopen, ih (Nat.succ.inj hbody), List.length_cons]

/-- Of what follows, only the opening counts. -/
theorem Reads.congr {k : Token} (hk : Reads k s) (h : opening s = opening t) : Reads k t := by
  cases hk with
  | word hw hrest => exact .word hw (isWordChar_head?_of_opening_eq h hrest)
  | literal hbody => exact .literal (literalExtent_congr h hbody)
  | quoted hq hbody => exact .quoted hq hbody
  | unclosed hq hbody =>
    rw [eq_nil_of_opening_eq h rfl]
    exact .unclosed hq hbody
  | line hbody hrest =>
    refine .line hbody fun c hc => ?_
    cases s with
    | nil =>
      rw [eq_nil_of_opening_eq h rfl] at hc
      cases hc
    | cons d s =>
      obtain rfl : d = '\n' := hrest d rfl
      rw [(head?_eq_iff_of_opening_eq h (by decide +kernel)).1 rfl] at hc
      cases hc
      rfl
  | block hbody => exact .block (blockExtent_congr h hbody)
  | mark hc hdash hslash =>
    refine .mark hc (fun hd ht => hdash hd ?_) (fun hd ht => hslash hd ?_) <;>
      exact (head?_eq_iff_of_opening_eq h (by decide +kernel)).2 ht

end

theorem exists_reads (c : Char) (rest : List Char) :
    ∃ t after, c :: rest = t.source ++ after ∧ Reads t after := by
  by_cases hword : isWordChar c = true
  · refine ⟨.word ((c :: rest).takeWhile isWordChar), (c :: rest).dropWhile isWordChar,
      List.takeWhile_append_dropWhile.symm, .word ⟨?_, fun d hd => List.mem_takeWhile_imp hd⟩ ?_⟩
    · rw [List.takeWhile_cons_of_pos hword]
      exact List.cons_ne_nil _ _
    · intro d hd
      have hhead := List.head?_dropWhile_not isWordChar (c :: rest)
      rw [hd] at hhead
      simpa using hhead
  by_cases hquote : c = '\x27'
  · subst hquote
    refine ⟨.other ('\x27' :: rest.take (literalExtent rest)), rest.drop (literalExtent rest), ?_,
      .literal ?_⟩
    · rw [Token.source, List.cons_append, List.take_append_drop]
    · rw [List.take_append_drop, List.length_take, Nat.min_eq_left (literalExtent_le rest)]
  by_cases hident : IsIdentifierQuote c
  · by_cases hclose : c ∈ rest
    · obtain ⟨body, after, rfl, hbody⟩ := List.eq_append_cons_of_mem hclose
      exact ⟨.quoted c body, after, by simp [Token.source], .quoted hident hbody⟩
    · exact ⟨.other (c :: rest), [], (List.append_nil _).symm, .unclosed hident hclose⟩
  have hmark : IsMark c := ⟨Bool.eq_false_iff.2 hword, hquote, hident⟩
  by_cases hdash : c = '-' ∧ rest.head? = some '-'
  · obtain ⟨rfl, hhead⟩ := hdash
    obtain ⟨rest, rfl⟩ := List.head?_eq_some_iff.1 hhead
    refine ⟨.other ('-' :: '-' :: rest.takeWhile (· ≠ '\n')), rest.dropWhile (· ≠ '\n'), ?_,
      .line (fun h => ?_) fun d hd => ?_⟩
    · rw [Token.source, List.cons_append, List.cons_append, List.takeWhile_append_dropWhile]
    · simpa using List.mem_takeWhile_imp h
    · have hhead := List.head?_dropWhile_not (· ≠ '\n') rest
      rw [hd] at hhead
      simpa using hhead
  by_cases hslash : c = '/' ∧ rest.head? = some '*'
  · obtain ⟨rfl, hhead⟩ := hslash
    obtain ⟨rest, rfl⟩ := List.head?_eq_some_iff.1 hhead
    refine ⟨.other ('/' :: '*' :: rest.take (blockExtent rest)), rest.drop (blockExtent rest), ?_,
      .block ?_⟩
    · rw [Token.source, List.cons_append, List.cons_append, List.take_append_drop]
    · rw [List.take_append_drop, List.length_take, Nat.min_eq_left (blockExtent_le rest)]
  exact ⟨.other [c], rest, rfl,
    .mark hmark (fun hc hhead => hdash ⟨hc, hhead⟩) fun hc hhead => hslash ⟨hc, hhead⟩⟩

theorem firstToken_of_reads {t : Token} {after rest : List Char} {c : Char} (h : Reads t after)
    (hsource : c :: rest = t.source ++ after) :
    firstToken c rest = (t, t.source.length - 1) := by
  cases h with
  | @word after w hw hafter =>
    obtain ⟨d, w, rfl⟩ := List.exists_cons_of_ne_nil hw.1
    obtain ⟨rfl, rfl⟩ : c = d ∧ rest = w ++ after := by simpa [Token.source] using hsource
    have hword := List.forall_mem_cons.1 hw.2
    simp [firstToken, Token.source, hword.1, Text.takeWhile_append_eq hword.2 hafter]
  | @literal body after hbody =>
    obtain ⟨rfl, rfl⟩ : c = '\x27' ∧ rest = body ++ after := by
      simpa [Token.source] using hsource
    have hword : isWordChar '\x27' = false := by decide +kernel
    simp [firstToken, Token.source, hword, hbody]
  | @quoted q body after hq hbody =>
    obtain ⟨rfl, rfl⟩ : c = q ∧ rest = body ++ q :: after := by
      simpa [Token.source] using hsource
    have hident : c = '\x22' ∨ c = '\x60' := hq
    have hquote : c ≠ '\x27' := by rcases hq with rfl | rfl <;> decide
    have htake : (body ++ c :: after).takeWhile (· ≠ c) = body :=
      Text.takeWhile_append_eq (fun d hd => decide_eq_true fun h => hbody (h ▸ hd)) (by simp)
    rw [firstToken, if_neg (by simp [hq.isWordChar]), if_neg hquote, if_pos hident, htake]
    simp [Token.source]
  | @unclosed q body hq hbody =>
    obtain ⟨rfl, rfl⟩ : c = q ∧ rest = body := by simpa [Token.source] using hsource
    have hident : c = '\x22' ∨ c = '\x60' := hq
    have hquote : c ≠ '\x27' := by rcases hq with rfl | rfl <;> decide
    have htake : rest.takeWhile (· ≠ c) = rest :=
      List.takeWhile_eq_self_iff.2 fun d hd => decide_eq_true fun h => hbody (h ▸ hd)
    rw [firstToken, if_neg (by simp [hq.isWordChar]), if_neg hquote, if_pos hident, htake]
    simp [Token.source]
  | @line body after hbody hafter =>
    obtain ⟨rfl, rfl⟩ : c = '-' ∧ rest = '-' :: (body ++ after) := by
      simpa [Token.source] using hsource
    have hword : isWordChar '-' = false := by decide +kernel
    have htake : (body ++ after).takeWhile (fun d => !decide (d = '\n')) = body :=
      Text.takeWhile_append_eq (fun d hd => by simpa using ne_of_mem_of_not_mem hd hbody)
        fun d hd => by simpa using hafter d hd
    simp [firstToken, lineExtent, Token.source, hword, htake]
  | @block body after hbody =>
    obtain ⟨rfl, rfl⟩ : c = '/' ∧ rest = '*' :: (body ++ after) := by
      simpa [Token.source] using hsource
    have hword : isWordChar '/' = false := by decide +kernel
    simp [firstToken, Token.source, hword, hbody, Nat.add_comm 1]
  | @mark d after hc hdash hslash =>
    obtain ⟨rfl, rfl⟩ : c = d ∧ rest = after := by simpa [Token.source] using hsource
    have hident : ¬(c = '\x22' ∨ c = '\x60') := hc.not_identifierQuote
    rw [firstToken, if_neg (by simp [hc.isWordChar]), if_neg hc.ne_quote, if_neg hident,
      if_neg fun h => hdash h.1 h.2, if_neg fun h => hslash h.1 h.2]
    rfl

theorem Reads.source_ne_nil {t : Token} {after : List Char} (h : Reads t after) :
    t.source ≠ [] := by
  cases h with
  | word hw => exact hw.1
  | literal | quoted | unclosed | line | block | mark => exact List.cons_ne_nil _ _

theorem tokensFrom_eq {m n : Nat} {s : List Char} (hm : s.length ≤ m) (hn : s.length ≤ n) :
    tokensFrom m s = tokensFrom n s := by
  induction m generalizing n s with
  | zero =>
    rw [List.eq_nil_of_length_eq_zero (Nat.le_zero.1 hm)]
    cases n <;> rfl
  | succ m ih =>
    cases s with
    | nil => cases n <;> rfl
    | cons c rest =>
      obtain ⟨n, rfl⟩ := Nat.exists_eq_succ_of_ne_zero (Nat.ne_zero_of_lt hn)
      have hdrop : (rest.drop (firstToken c rest).2).length ≤ rest.length := by simp
      exact congrArg _ (ih (hdrop.trans (Nat.le_of_succ_le_succ hm))
        (hdrop.trans (Nat.le_of_succ_le_succ hn)))

theorem tokens_append {t : Token} {after : List Char} (h : Reads t after) :
    tokens (t.source ++ after) = t :: tokens after := by
  obtain ⟨c, more, hc⟩ := List.exists_cons_of_ne_nil h.source_ne_nil
  have hfirst : firstToken c (more ++ after) = (t, t.source.length - 1) :=
    firstToken_of_reads h (by rw [hc]; rfl)
  have hdrop : (more ++ after).drop (t.source.length - 1) = after := by rw [hc]; exact List.drop_left
  rw [hc, List.cons_append, tokens, List.length_cons, tokensFrom, hfirst]
  simp only [hdrop]
  exact congrArg _ (tokensFrom_eq (by simp) (Nat.le_refl _))

theorem tokens_source {ts : List Token} (h : Lexed ts) : tokens (source ts) = ts := by
  induction ts with
  | nil => rfl
  | cons t ts ih => rw [source_cons, tokens_append h.1, ih h.2]

theorem Lexed.of_append {ts us : List Token} (h : Lexed (ts ++ us)) : Lexed us := by
  induction ts with
  | nil => exact h
  | cons t ts ih => exact ih h.2

theorem lexed_tokens (s : List Char) : Lexed (tokens s) ∧ source (tokens s) = s := by
  -- On the length, for the rest of a text is not a constructor away.
  induction hn : s.length using Nat.strongRecOn generalizing s with
  | ind n ih =>
    cases s with
    | nil => exact ⟨trivial, rfl⟩
    | cons c rest =>
      obtain ⟨t, after, hsource, hreads⟩ := exists_reads c rest
      have hlt : after.length < n := by
        have := List.length_pos_iff.2 hreads.source_ne_nil
        rw [← hn, hsource, List.length_append]
        omega
      obtain ⟨hlexed, hafter⟩ := ih _ hlt after rfl
      rw [hsource, tokens_append hreads, source_cons, hafter]
      exact ⟨⟨hafter.symm ▸ hreads, hlexed⟩, rfl⟩

@[simp] theorem source_tokens (s : List Char) : source (tokens s) = s := (lexed_tokens s).2

/-- The one way to lex a text. -/
theorem tokens_eq_iff {s : List Char} {ts : List Token} :
    tokens s = ts ↔ source ts = s ∧ Lexed ts := by
  constructor
  · rintro rfl
    exact ⟨source_tokens s, (lexed_tokens s).1⟩
  · rintro ⟨rfl, h⟩
    exact tokens_source h

end AskSql.Sql
