import AskSql.Proofs.Disguise.Placeholders

namespace AskSql

open Sql NameIndex Unicode

section

variable {s : Schema} {t : Table} {p : Nat}

theorem mem_pairings_of_getElem? (ht : s.tables[p]? = some t) :
    (Table.pairing (t, p)).swap ∈ s.pairings.map Pairing.swap :=
  List.mem_map_of_mem (List.mem_map_of_mem (List.mem_zipIdx_iff_getElem?.2 ht))

theorem mem_columns_swap_pairing {c : List Char × List Char} :
    c ∈ (Table.pairing (t, p)).swap.columns ↔
      ∃ j d, t.columns[j]? = some d ∧ c = ((columnPlaceholder j).toList, d.name.toList) := by
  constructor
  · intro hc
    obtain ⟨_, hpair, rfl⟩ := List.mem_map.1 hc
    obtain ⟨⟨d, j⟩, hd, rfl⟩ := List.mem_map.1 hpair
    exact ⟨j, d, List.mem_zipIdx_iff_getElem?.1 hd, rfl⟩
  · rintro ⟨j, d, hd, rfl⟩
    refine List.mem_map.2 ⟨(d.name.toList, (columnPlaceholder j).toList), ?_, rfl⟩
    exact List.mem_map.2 ⟨(d, j), List.mem_zipIdx_iff_getElem?.2 hd, rfl⟩

theorem columnOf?_back (ht : s.tables[p]? = some t) (j : Nat) :
    (back s.pairings).columnOf? (tablePlaceholder p).toList (columnPlaceholder j).toList =
      t.columns[j]?.map (·.name.toList) := by
  have hp := mem_pairings_of_getElem? ht
  have hkey : lower (Table.pairing (t, p)).swap.source = (tablePlaceholder p).toList :=
    (isPlaceholder_table p).lower_eq
  cases hd : t.columns[j]? with
  | some d =>
    rw [← hkey]
    exact s.separated_placeholders.columnOf?_source
      (c := ((columnPlaceholder j).toList, d.name.toList)) hp
      (mem_columns_swap_pairing.2 ⟨j, d, hd, rfl⟩)
  | none =>
    rw [columnOf?_ofPairings, firstColumn?, List.find?_eq_none.2]
    · rfl
    · intro c hc hname
      obtain ⟨q, hunder, hcq⟩ := List.mem_flatMap.1 hc
      obtain ⟨hq, hsource⟩ := List.mem_filter.1 hunder
      rw [← hkey] at hsource
      obtain rfl := s.separated_placeholders.eq_of_lower_eq hq hp (of_decide_eq_true hsource)
      obtain ⟨k, d, hk, rfl⟩ := mem_columns_swap_pairing.1 hcq
      have hname : lower (columnPlaceholder k).toList = lower (columnPlaceholder j).toList :=
        of_decide_eq_true hname
      rw [(isPlaceholder_column k).lower_eq, (isPlaceholder_column j).lower_eq] at hname
      obtain rfl := columnPlaceholder_injective hname
      rw [hd] at hk
      cases hk

theorem newName?_back_table (ht : s.tables[p]? = some t) (scope : Scope) (before : List Token) :
    newName? (back s.pairings) scope before (tablePlaceholder p).toList = some t.name.toList :=
  s.separated_placeholders.newName?_table (p := (Table.pairing (t, p)).swap)
    (mem_pairings_of_getElem? ht)

theorem hasTable_back (ht : s.tables[p]? = some t) :
    (back s.pairings).hasTable (lower (tablePlaceholder p).toList) = true :=
  hasTable_source (p := (Table.pairing (t, p)).swap) (mem_pairings_of_getElem? ht)

theorem source_ne_of_forall {name : List Char} (h : ∀ k, (tablePlaceholder k).toList ≠ lower name) :
    ∀ q ∈ s.pairings.map Pairing.swap, lower q.source ≠ lower name := by
  intro _ hswap
  obtain ⟨q, hq, rfl⟩ := List.mem_map.1 hswap
  obtain ⟨u, k, -, rfl⟩ := Schema.mem_pairings hq
  exact (isPlaceholder_table k).lower_eq.symm ▸ h k

theorem tablePlaceholder_ne_lower_column (j k : Nat) :
    (tablePlaceholder k).toList ≠ lower (columnPlaceholder j).toList := by
  rw [(isPlaceholder_column j).lower_eq]
  exact (columnPlaceholder_ne_table k j).symm

theorem newName?_back_column {before : List Token} (hbefore : qualifier? before = none)
    (scope : Scope) (j : Nat) :
    newName? (back s.pairings) scope before (columnPlaceholder j).toList =
      (back s.pairings).columnAmong? (scope.search (back s.pairings))
        (columnPlaceholder j).toList := by
  rw [newName?, hbefore, Option.bind_none]
  simp only
  rw [table?_eq_none (source_ne_of_forall (tablePlaceholder_ne_lower_column j)), Option.none_or]

def IsOther (w : List Char) : Prop := (lower w).head? ≠ some 't' ∧ (lower w).head? ≠ some 'c'

instance (w : List Char) : Decidable (IsOther w) := inferInstanceAs (Decidable (_ ∧ _))

theorem isOther_clauses : IsOther "SELECT".toList ∧ IsOther "FROM".toList ∧
    IsOther "WHERE".toList ∧ IsOther "IN".toList := by decide +kernel

theorem IsOther.ne_placeholder {w name : List Char} (hw : IsOther w) (h : IsPlaceholder name) :
    name ≠ lower w := by
  obtain ⟨stem, hmem, n, rfl⟩ := h
  intro heq
  rw [IsOther, ← heq] at hw
  rcases List.mem_cons.1 hmem with rfl | hmem
  · exact hw.1 rfl
  · rw [List.mem_singleton.1 hmem] at hw
    exact hw.2 rfl

theorem IsOther.hasTable {w : List Char} (hw : IsOther w) (s : Schema) :
    (back s.pairings).hasTable (lower w) = false :=
  hasTable_eq_false (source_ne_of_forall fun k => hw.ne_placeholder (isPlaceholder_table k))

theorem IsOther.newName? {w : List Char} (hw : IsOther w) (s : Schema) (scope : Scope)
    (before : List Token) : newName? (back s.pairings) scope before w = none := by
  refine newName?_eq_none
    (source_ne_of_forall fun k => hw.ne_placeholder (isPlaceholder_table k)) ?_
  intro _ hswap c hc
  obtain ⟨q, hq, rfl⟩ := List.mem_map.1 hswap
  obtain ⟨u, k, -, rfl⟩ := Schema.mem_pairings hq
  obtain ⟨j, d, -, rfl⟩ := mem_columns_swap_pairing.1 hc
  exact (isPlaceholder_column j).lower_eq.symm ▸ hw.ne_placeholder (isPlaceholder_column j)

end

def Sql.space : Token := .other [' ']

theorem Sql.lexed_word_mark {ts : List Token} {w : List Char} {c : Char} (hw : IsWord w)
    (hmark : IsMark c) (hdash : c ≠ '-') (hslash : c ≠ '/') (h : Lexed ts) :
    Lexed (.word w :: .other [c] :: ts) := by
  refine ⟨.word hw ?_, .mark_of_ne hmark hdash hslash, h⟩
  rintro _ ⟨⟩
  exact hmark.isWordChar

theorem Sql.lexed_space {ts : List Token} {w : List Char} (hw : IsWord w) (h : Lexed ts) :
    Lexed (.word w :: space :: ts) :=
  lexed_word_mark hw (isMark_blank (by decide +kernel)) (by decide) (by decide) h

/-- A question for the values of a column that are among those of a column of another table. -/
def Sql.nested (c t d u : String) : String :=
  "SELECT " ++ c ++ " FROM " ++ t ++ " WHERE " ++ c ++ " IN (SELECT " ++ d ++ " FROM " ++ u ++ ")"

def Sql.nestedTokens (c t d u : List Char) : List Token :=
  [.word "SELECT".toList, space, .word c, space, .word "FROM".toList, space, .word t, space,
   .word "WHERE".toList, space, .word c, space, .word "IN".toList, space,
   .other ['('], .word "SELECT".toList, space, .word d, space, .word "FROM".toList, space, .word u,
   .other [')']]

theorem Sql.source_nestedTokens (c t d u : String) :
    source (nestedTokens c.toList t.toList d.toList u.toList) = (nested c t d u).toList := by
  have hselect : "SELECT ".toList = "SELECT".toList ++ [' '] := by decide
  have hfrom : " FROM ".toList = ' ' :: "FROM".toList ++ [' '] := by decide
  have hwhere : " WHERE ".toList = ' ' :: "WHERE".toList ++ [' '] := by decide
  have hin : " IN (SELECT ".toList = ' ' :: "IN".toList ++ ' ' :: '(' :: "SELECT".toList ++ [' '] :=
    by decide
  have hclose : ")".toList = [')'] := by decide
  unfold nested nestedTokens
  simp only [String.toList_append, hselect, hfrom, hwhere, hin, hclose]
  -- The words are kept as they are, whatever their letters.
  generalize "SELECT".toList = w₁, "FROM".toList = w₂, "WHERE".toList = w₃, "IN".toList = w₄
  simp [source, Token.source, space]

theorem Sql.lexed_nestedTokens {c t d u : List Char} (hc : IsWord c) (ht : IsWord t) (hd : IsWord d)
    (hu : IsWord u) : Lexed (nestedTokens c t d u) := by
  have hselect : IsWord "SELECT".toList := by decide +kernel
  have hfrom : IsWord "FROM".toList := by decide +kernel
  have hopen : IsMark '(' := ⟨by decide +kernel, by decide, by simp [IsIdentifierQuote]⟩
  have hclose : IsMark ')' := ⟨by decide +kernel, by decide, by simp [IsIdentifierQuote]⟩
  have hlast : Lexed [.word u, .other [')']] :=
    lexed_word_mark hu hclose (by decide) (by decide) trivial
  have hinner := lexed_space hselect (lexed_space hd (lexed_space hfrom hlast))
  refine lexed_space hselect (lexed_space hc (lexed_space hfrom (lexed_space ht ?_)))
  refine lexed_space (by decide +kernel) (lexed_space hc (lexed_space (by decide +kernel) ?_))
  exact ⟨.mark hopen nofun nofun, hinner⟩

theorem Sql.tokens_nested {c t d u : String} (hc : IsWord c.toList) (ht : IsWord t.toList)
    (hd : IsWord d.toList) (hu : IsWord u.toList) :
    tokens (nested c t d u).toList = nestedTokens c.toList t.toList d.toList u.toList :=
  tokens_eq_iff.2 ⟨source_nestedTokens c t d u, lexed_nestedTokens hc ht hd hu⟩

namespace Scope

variable {index : NameIndex} {sc : Scope} {w : List Char} {ts : List Token}

theorem collect_other (text : List Char) :
    collect index sc (.other text :: ts) = collect index sc ts := rfl

theorem collect_space : collect index sc (space :: ts) = collect index sc ts := rfl

theorem collect_word (h : index.hasTable (lower w) = false) :
    collect index sc (.word w :: ts) = collect index sc ts := by simp [collect, Token.name?, h]

theorem collect_table (h : index.hasTable (lower w) = true)
    (hdot : ts.head?.any Token.isDot = false) (halias : alias? index ts = none) :
    collect index sc (.word w :: ts) = collect index (sc.mention (lower w)) ts := by
  simp [collect, Token.name?, h, ofTable, hdot, halias]

theorem alias?_of_clauseWord (has : isAs (.word w) = false)
    (hclause : isClauseWord (.word w) = true) : alias? index (space :: .word w :: ts) = none := by
  have hblank : space.isTrivia = true := by decide +kernel
  have hword : (Token.word w).isTrivia = false := rfl
  simp [alias?, hblank, hword, has, Token.name?, hclause]

theorem alias?_closed : alias? index [.other [')']] = none := by
  have hclosed : (Token.other [')']).isTrivia = false := by decide +kernel
  simp [alias?, hclosed, isAs, Token.name?]

end Scope

section

variable {s : Schema} {t u : Table} {p q : Nat}

theorem scopeOf_nestedTokens (ht : s.tables[p]? = some t) (hu : s.tables[q]? = some u) (i j : Nat) :
    scopeOf (back s.pairings) (nestedTokens (columnPlaceholder i).toList
        (tablePlaceholder p).toList (columnPlaceholder j).toList (tablePlaceholder q).toList) =
      (({} : Scope).mention (tablePlaceholder p).toList).mention (tablePlaceholder q).toList := by
  obtain ⟨hselect, hfrom, hwhere, hin⟩ := isOther_clauses
  have hcolumn (j : Nat) : (back s.pairings).hasTable (lower (columnPlaceholder j).toList) = false :=
    hasTable_eq_false (source_ne_of_forall (tablePlaceholder_ne_lower_column j))
  have houter (sc : Scope) (ts : List Token) :
      Scope.collect (back s.pairings) sc
          (.word (tablePlaceholder p).toList :: space :: .word "WHERE".toList :: ts) =
        Scope.collect (back s.pairings) (sc.mention (tablePlaceholder p).toList) ts := by
    have halias : Scope.alias? (back s.pairings) (space :: .word "WHERE".toList :: ts) = none :=
      Scope.alias?_of_clauseWord (by decide) (by decide +kernel)
    rw [Scope.collect_table (hasTable_back ht) rfl halias, (isPlaceholder_table p).lower_eq,
      Scope.collect_space, Scope.collect_word (hwhere.hasTable s)]
  have hinner (sc : Scope) :
      Scope.collect (back s.pairings) sc [.word (tablePlaceholder q).toList, .other [')']] =
        sc.mention (tablePlaceholder q).toList := by
    rw [Scope.collect_table (hasTable_back hu) rfl Scope.alias?_closed,
      (isPlaceholder_table q).lower_eq]
    rfl
  simp only [scopeOf, nestedTokens, Scope.collect_space, Scope.collect_other, houter, hinner,
    Scope.collect_word (hselect.hasTable s), Scope.collect_word (hfrom.hasTable s),
    Scope.collect_word (hin.hasTable s), Scope.collect_word (hcolumn i),
    Scope.collect_word (hcolumn j)]

theorem columnAmong?_mention (index : NameIndex) (k l column : List Char) :
    index.columnAmong? ((({} : Scope).mention k).mention l |>.search index) column =
      (index.columnOf? k column).or (index.columnOf? l column) := by
  by_cases hkl : l = k
  · subst hkl
    cases h : index.columnOf? l column <;> simp [Scope.mention, Scope.search, columnAmong?, h]
  · cases h : index.columnOf? k column <;> simp [Scope.mention, Scope.search, columnAmong?, h, hkl]

theorem renameToken_nested_column (ht : s.tables[p]? = some t) (hu : s.tables[q]? = some u)
    {before : List Token} (hbefore : qualifier? before = none) {j : Nat} {c : Column}
    (hc : (t.columns[j]?).or u.columns[j]? = some c) :
    renameToken (back s.pairings)
        ((({} : Scope).mention (tablePlaceholder p).toList).mention (tablePlaceholder q).toList)
        before (.word (columnPlaceholder j).toList) = .word c.name.toList := by
  rw [renameToken_of_name? rfl, newName?_back_column hbefore, columnAmong?_mention,
    columnOf?_back ht, columnOf?_back hu, ← Option.map_or, hc]
  rfl

theorem renameToken_other {w : List Char} (hw : IsOther w) (s : Schema) (scope : Scope)
    (before : List Token) : renameToken (back s.pairings) scope before (.word w) = .word w := by
  refine renameToken_of_newName?_eq_none fun name hname => ?_
  obtain rfl : w = name := Option.some.inj hname
  exact hw.newName? s scope before

theorem renameToken_table (ht : s.tables[p]? = some t) (scope : Scope) (before : List Token) :
    renameToken (back s.pairings) scope before (.word (tablePlaceholder p).toList) =
      .word t.name.toList := by
  rw [renameToken_of_name? rfl, newName?_back_table ht]
  rfl

/-- In an inner statement a column placeholder is one of the outer table, as far as that has so many
columns. -/
theorem Disguise.reveal_nested (ht : s.tables[p]? = some t) (hu : s.tables[q]? = some u) {i j : Nat}
    {a b : Column} (ha : t.columns[i]? = some a) (hb : u.columns[j]? = some b) :
    (ofSchema s).reveal (nested (columnPlaceholder i) (tablePlaceholder p) (columnPlaceholder j)
      (tablePlaceholder q)) = nested a.name t.name (t.columns[j]?.getD b).name u.name := by
  obtain ⟨hselect, hfrom, hwhere, hin⟩ := isOther_clauses
  have hplain (before : List Token) (t : Token) : qualifier? (space :: t :: before) = none := rfl
  have houter : (t.columns[i]?).or u.columns[i]? = some a := by rw [ha, Option.some_or]
  have hinner : (t.columns[j]?).or u.columns[j]? = some (t.columns[j]?.getD b) := by
    rw [hb]
    cases t.columns[j]? <;> rfl
  rw [← String.toList_inj, reveal, Text.onString_toList, ofSchema_eq, NameIndex.rename,
    tokens_nested (isPlaceholder_column i).isWord (isPlaceholder_table p).isWord
      (isPlaceholder_column j).isWord (isPlaceholder_table q).isWord,
    scopeOf_nestedTokens ht hu, ← source_nestedTokens]
  simp only [nestedTokens, renameFrom_cons, renameToken_other hselect, renameToken_other hfrom,
    renameToken_other hwhere, renameToken_other hin, renameToken_table ht, renameToken_table hu,
    renameToken_nested_column ht hu (hplain _ _) houter,
    renameToken_nested_column ht hu (hplain _ _) hinner]
  rfl

end

theorem Disguise.reveal_nested_archive :
    (ofSchema Rehearsal.archive).reveal
        "SELECT col_1 FROM table_3 WHERE col_1 IN (SELECT col_2 FROM table_2)" =
      "SELECT total FROM orders WHERE total IN (SELECT name FROM users)" :=
  reveal_nested (s := Rehearsal.archive) (p := 2) (q := 1) (i := 0) (j := 1)
    (a := Rehearsal.column "total") (b := Rehearsal.column "name" (some "nobody")) rfl rfl rfl rfl

theorem Disguise.reveal_nested_ne_shop :
    let sql := "SELECT col_1 FROM table_1 WHERE col_1 IN (SELECT col_2 FROM table_2)"
    Rehearsal.shop.PlainNames ∧
      (ofSchema Rehearsal.shop).reveal sql =
        "SELECT id FROM users WHERE id IN (SELECT name FROM orders)" ∧
      (ofSchema Rehearsal.shop).reveal sql ≠
        "SELECT id FROM users WHERE id IN (SELECT total FROM orders)" := by
  decide +kernel

end AskSql
