import Mathlib.Data.List.Infix
import AskSql.Proofs.Disguise.Renaming
import AskSql.Proofs.Sql.Clause

namespace AskSql

namespace Sql

/-- What the text begins with is never closed in it. Every quote behind the first one of a literal
is doubled. -/
inductive Unclosed : List Char → Prop
  | literal (value : List Char) : Unclosed ('\x27' :: literal.doubled value)
  | quoted : IsIdentifierQuote q → q ∉ body → Unclosed (q :: body)
  | block : ¬['*', '/'] <:+: body → Unclosed ('/' :: '*' :: body)

/-- The text in pieces, each of them of one kind. -/
structure IsSplit (s : List Char) (ts : List Token) : Prop where
  source_eq : source ts = s
  source_ne_nil : ∀ t ∈ ts, t.source ≠ []
  isWordChar : ∀ w, .word w ∈ ts → ∀ c ∈ w, isWordChar c = true
  words_apart : ∀ before v w after, ts ≠ before ++ .word v :: .word w :: after
  quote_not_mem : ∀ q body, .quoted q body ∈ ts → q ∉ body
  to_the_end : ∀ before rest, ts = before ++ rest → Unclosed (source rest) →
    rest = [.other (source rest)]

variable {s body : List Char} {ts us : List Token} {t : Token}

theorem blockExtent_unclosed (h : ¬['*', '/'] <:+: body) : blockExtent body = body.length := by
  induction body with
  | nil => rfl
  | cons c body ih =>
    rw [List.infix_cons_iff, not_or] at h
    have hopen : c = '*' → body.head? ≠ some '/' := by
      rintro rfl hslash
      obtain ⟨rest, rfl⟩ := List.head?_eq_some_iff.1 hslash
      exact h.1 ⟨rest, rfl⟩
    rw [blockExtent_cons hopen, ih h.2, List.length_cons]

theorem Unclosed.reads (h : Unclosed s) : Reads (.other s) [] := by
  cases h with
  | literal value => exact .literal (literalExtent_doubled value [])
  | quoted hq hbody => exact .unclosed hq hbody
  | block hbody => exact .block (by rw [List.append_nil, blockExtent_unclosed hbody])

theorem Unclosed.tokens_eq (h : Unclosed s) : tokens s = [.other s] := by
  refine tokens_eq_iff.2 ⟨?_, h.reads, trivial⟩
  rw [source_cons]
  exact List.append_nil s

theorem Reads.isWord {w rest : List Char} (h : Reads (.word w) rest) : IsWord w := by
  cases h with
  | word hw => exact hw

theorem Reads.quote_not_mem {q : Char} {rest : List Char} (h : Reads (.quoted q body) rest) :
    q ∉ body := by
  cases h with
  | quoted _ hbody => exact hbody

theorem Lexed.words_apart {before after : List Token} {v w : List Char} :
    ¬Lexed (before ++ .word v :: .word w :: after) := by
  intro h
  obtain ⟨hv, hw, -⟩ := h.of_append
  obtain ⟨c, more, rfl⟩ := List.exists_cons_of_ne_nil hw.isWord.1
  cases hv with
  | word _ hstop =>
    have hword := hw.isWord.2 c List.mem_cons_self
    rw [hstop c rfl] at hword
    cases hword

theorem isSplit_tokens (s : List Char) : IsSplit s (tokens s) := by
  have hreads {t : Token} (ht : t ∈ tokens s) : ∃ rest, Reads t rest := by
    obtain ⟨_, rest, -, h⟩ := exists_source_eq ht
    exact ⟨rest, h⟩
  have hlexed := (lexed_tokens s).1
  constructor
  case source_eq => exact source_tokens s
  case source_ne_nil =>
    intro t ht
    obtain ⟨_, h⟩ := hreads ht
    exact h.source_ne_nil
  case isWordChar =>
    intro w hw
    obtain ⟨_, h⟩ := hreads hw
    exact h.isWord.2
  case words_apart =>
    intro before v w after h
    exact Lexed.words_apart (h ▸ hlexed)
  case quote_not_mem =>
    intro q body hq
    obtain ⟨_, h⟩ := hreads hq
    exact h.quote_not_mem
  case to_the_end =>
    intro before rest h hopen
    rw [h] at hlexed
    rw [← tokens_source hlexed.of_append, source_tokens]
    exact hopen.tokens_eq

end Sql

open Sql

theorem newName?_empty (scope : Scope) (before : List Token) (name : List Char) :
    newName? {} scope before name = none := by
  have hcolumn (keys : List (List Char)) : NameIndex.columnAmong? {} keys name = none :=
    List.findSome?_eq_none_iff.2 fun _ _ => rfl
  unfold newName?
  split
  · rfl
  · rw [hcolumn]
    rfl

theorem renameFrom_empty (scope : Scope) (before ts : List Token) :
    renameFrom {} scope before ts = ts := by
  induction ts generalizing before with
  | nil => rfl
  | cons t ts ih =>
    rw [renameFrom_cons, ih, renameToken_of_newName?_eq_none]
    exact fun name _ => newName?_empty scope before name

/-- A text falls into its tokens, and with no names to give it is put together again as it was. -/
theorem isSplit_tokens_and_rename_empty (s : List Char) :
    IsSplit s (tokens s) ∧ NameIndex.rename {} s = s := by
  refine ⟨isSplit_tokens s, ?_⟩
  rw [NameIndex.rename, renameFrom_empty, source_tokens]

end AskSql
