import AskSql.Proofs.Disguise.Tokenwise

namespace AskSql

open Sql NameIndex Unicode

def Sql.dot : Token := .other ['.']

theorem Sql.lexed_dot {ts : List Token} {w : List Char} (hw : IsWord w) (h : Lexed ts) :
    Lexed (.word w :: dot :: ts) :=
  have hmark : IsMark '.' := ⟨by decide +kernel, by decide, by simp [IsIdentifierQuote]⟩
  lexed_word_mark hw hmark (by decide) (by decide) h

/-- A column of one table together with a column of another, both tables under the alias `a`. -/
def Sql.united (c t d u : String) : String :=
  "SELECT a." ++ c ++ " FROM " ++ t ++ " a UNION SELECT a." ++ d ++ " FROM " ++ u ++ " a"

def Sql.selectTokens (c t : List Char) (rest : List Token) : List Token :=
  .word "SELECT".toList :: space :: .word ['a'] :: dot :: .word c :: space ::
    .word "FROM".toList :: space :: .word t :: space :: .word ['a'] :: rest

def Sql.unitedTokens (c t d u : List Char) : List Token :=
  selectTokens c t (space :: .word "UNION".toList :: space :: selectTokens d u [])

theorem Sql.source_unitedTokens (c t d u : String) :
    source (unitedTokens c.toList t.toList d.toList u.toList) = (united c t d u).toList := by
  have hselect : "SELECT a.".toList = "SELECT".toList ++ [' ', 'a', '.'] := by decide
  have hfrom : " FROM ".toList = ' ' :: "FROM".toList ++ [' '] := by decide
  have hunion : " a UNION SELECT a.".toList =
      ' ' :: 'a' :: ' ' :: "UNION".toList ++ ' ' :: "SELECT".toList ++ [' ', 'a', '.'] := by decide
  have halias : " a".toList = [' ', 'a'] := by decide
  unfold united unitedTokens selectTokens
  simp only [String.toList_append, hselect, hfrom, hunion, halias]
  -- The words are kept as they are, whatever their letters.
  generalize "SELECT".toList = w₁, "FROM".toList = w₂, "UNION".toList = w₃
  simp [source, Token.source, space, dot]

theorem Sql.lexed_selectTokens {c t : List Char} {rest : List Token} (hc : IsWord c) (ht : IsWord t)
    (h : Lexed (.word ['a'] :: rest)) : Lexed (selectTokens c t rest) :=
  lexed_space (by decide +kernel) (lexed_dot (by decide +kernel)
    (lexed_space hc (lexed_space (by decide +kernel) (lexed_space ht h))))

theorem Sql.tokens_united {c t d u : String} (hc : IsWord c.toList) (ht : IsWord t.toList)
    (hd : IsWord d.toList) (hu : IsWord u.toList) :
    tokens (united c t d u).toList = unitedTokens c.toList t.toList d.toList u.toList := by
  have hlast : Lexed [.word ['a']] := ⟨.word (by decide +kernel) nofun, trivial⟩
  have hsecond := lexed_selectTokens hd hu hlast
  refine tokens_eq_iff.2 ⟨source_unitedTokens c t d u, lexed_selectTokens hc ht ?_⟩
  exact lexed_space (by decide +kernel) (lexed_space (by decide +kernel) hsecond)

section

variable {s : Schema} {t u : Table} {p q : Nat}

theorem table?_unitedTokens (hu : s.tables[q]? = some u) (c t d : List Char) :
    let scope := scopeOf (back s.pairings) (unitedTokens c t d (tablePlaceholder q).toList)
    scope.table? (back s.pairings) ['a'] = some (tablePlaceholder q).toList := by
  have hfree : (back s.pairings).hasTable (lower ['a']) = false :=
    IsOther.hasTable (by decide +kernel) s
  have ha : lower ['a'] = ['a'] := by decide +kernel
  rw [ha] at hfree
  have hfollows : Follows (.word ['a']) ([space] ++ [.word ['a']]) := .bare (by decide +kernel)
  have hcalls : Calls (back s.pairings) ['a'] [space, .word ['a']] :=
    ⟨.word ['a'], hfollows, congrArg some ha, by decide, hfree⟩
  have hbound : Scope.bound? (back s.pairings) ['a'] (.word (tablePlaceholder q).toList)
      [space, .word ['a']] = some (tablePlaceholder q).toList :=
    Scope.bound?_eq_some_iff.2 ⟨congrArg some (isPlaceholder_table q).lower_eq,
      (isPlaceholder_table q).lower_eq ▸ hasTable_back hu, hcalls⟩
  have hbehind : Scope.latest? (back s.pairings) ['a'] [space, .word ['a']] = none := by
    simp [Scope.latest?, Scope.bound?, space, Token.name?, ha, hfree]
  have hlast : Scope.latest? (back s.pairings) ['a']
      [.word (tablePlaceholder q).toList, space, .word ['a']] =
        some (tablePlaceholder q).toList := by
    rw [Scope.latest?, hbehind, Option.none_or, hbound]
  have hsplit : unitedTokens c t d (tablePlaceholder q).toList =
      (unitedTokens c t d (tablePlaceholder q).toList).take 22 ++
        [.word (tablePlaceholder q).toList, space, .word ['a']] := rfl
  intro scope
  rw [Scope.table?_scopeOf, ha, hfree, hsplit]
  exact Scope.latest?_append hlast _

theorem renameToken_united_column (hu : s.tables[q]? = some u) {scope : Scope}
    (hscope : scope.table? (back s.pairings) ['a'] = some (tablePlaceholder q).toList)
    (before : List Token) (j : Nat) :
    renameToken (back s.pairings) scope (dot :: .word ['a'] :: before)
        (.word (columnPlaceholder j).toList) =
      .word ((u.columns[j]?.map (·.name)).getD (columnPlaceholder j)).toList := by
  have hbefore : (qualifier? (dot :: .word ['a'] :: before)).bind
      (scope.table? (back s.pairings)) = some (tablePlaceholder q).toList := hscope
  rw [renameToken_of_name? rfl, Schema.newName?_back_of_table? hu hbefore]
  cases u.columns[j]? <;> rfl

/-- In both parts of a union a column under the alias is one of the second table, as far as that has so
many columns; else its placeholder stays. -/
theorem Disguise.reveal_united (ht : s.tables[p]? = some t) (hu : s.tables[q]? = some u) (i : Nat)
    {j : Nat} {b : Column} (hb : u.columns[j]? = some b) :
    (ofSchema s).reveal (united (columnPlaceholder i) (tablePlaceholder p) (columnPlaceholder j)
      (tablePlaceholder q)) =
        united ((u.columns[i]?.map (·.name)).getD (columnPlaceholder i)) t.name b.name u.name := by
  have hscope := table?_unitedTokens hu (columnPlaceholder i).toList (tablePlaceholder p).toList
    (columnPlaceholder j).toList
  obtain ⟨hselect, hfrom, -, -⟩ := isOther_clauses
  have hunion : IsOther "UNION".toList := by decide +kernel
  have halias : IsOther ['a'] := by decide +kernel
  rw [← String.toList_inj, toList_reveal, tokens_united (isPlaceholder_column i).isWord
    (isPlaceholder_table p).isWord (isPlaceholder_column j).isWord (isPlaceholder_table q).isWord,
    ← source_unitedTokens]
  generalize scopeOf _ _ = scope at hscope ⊢
  simp only [unitedTokens, selectTokens, renameFrom_cons, renameToken_other hselect,
    renameToken_other hfrom, renameToken_other hunion, renameToken_other halias,
    renameToken_table ht, renameToken_table hu, renameToken_united_column hu hscope, hb]
  rfl

end

theorem Disguise.reveal_united_archive :
    (ofSchema Rehearsal.archive).reveal
        "SELECT a.col_3 FROM table_1 a UNION SELECT a.col_1 FROM table_3 a" =
      "SELECT a.col_3 FROM Orders a UNION SELECT a.total FROM orders a" :=
  reveal_united (s := Rehearsal.archive) (p := 0) (q := 2) rfl rfl 2 (j := 0)
    (b := Rehearsal.column "total") rfl

theorem Disguise.reveal_united_ne_shop :
    let sql := "SELECT a.col_2 FROM table_1 a UNION SELECT a.col_1 FROM table_2 a"
    Rehearsal.shop.PlainNames ∧ "a" ∉ Rehearsal.shop.names ∧
      (ofSchema Rehearsal.shop).reveal sql =
        "SELECT a.total FROM users a UNION SELECT a.user_id FROM orders a" ∧
      (ofSchema Rehearsal.shop).reveal sql ≠
        "SELECT a.name FROM users a UNION SELECT a.user_id FROM orders a" := by
  decide +kernel

end AskSql
