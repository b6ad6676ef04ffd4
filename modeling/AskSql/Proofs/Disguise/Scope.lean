import AskSql.Disguise.Renaming

/-!
What the aliases of a statement stand for.

An alias stands for the table that it was given to last, whatever was bound to it before.
-/

namespace AskSql

open Sql (Token)

theorem isTrivia_of_isDot {t : Token} (h : t.isDot = true) : t.isTrivia = false := by
  obtain rfl : t = .other ['.'] := of_decide_eq_true h
  decide

theorem isDot_of_name? {t : Token} {name : List Char} (h : t.name? = some name) :
    t.isDot = false := by
  cases t <;> cases h <;> rfl

theorem name?_of_isTrivia {t : Token} (h : t.isTrivia = true) : t.name? = none := by
  cases t <;> first | rfl | cases h

theorem isDot_of_isAs {t : Token} (h : isAs t = true) : t.isDot = false := by
  cases t with
  | word => rfl
  | quoted | other => cases h

theorem isClauseWord_of_isAs {t : Token} (h : isAs t = true) : isClauseWord t = true := by
  cases t with
  | word w =>
    have hw : asciiUpper w = "AS".toList := of_decide_eq_true h
    exact List.any_eq_true.2 ⟨"AS", by decide, decide_eq_true hw.symm⟩
  | quoted | other => cases h

namespace Scope

variable (index : NameIndex) {k : List Char} {t : Token} {ts : List Token}

def candidate? (behind : List Token) : Option Token :=
  match behind.dropWhile Token.isTrivia with
  | [] => none
  | t :: rest => if isAs t then (rest.dropWhile Token.isTrivia).head? else some t

def asAlias? (t : Token) : Option (List Char) :=
  t.name?.bind fun name =>
    if isClauseWord t || index.hasTable (Unicode.lower name) then none else some (Unicode.lower name)

theorem alias?_eq (behind : List Token) :
    alias? index behind = (candidate? behind).bind (asAlias? index) := by
  unfold alias? candidate?
  rcases behind.dropWhile Token.isTrivia with _ | ⟨t, rest⟩
  · rfl
  · simp only
    generalize (if isAs t then (rest.dropWhile Token.isTrivia).head? else some t) = candidate
    rcases candidate with _ | t
    · rfl
    · simp only [Option.bind_some, asAlias?]
      cases t.name? <;> rfl

theorem mem_of_candidate? (h : candidate? ts = some t) : t ∈ ts := by
  unfold candidate? at h
  split at h
  · cases h
  · rename_i u rest hdrop
    have hsub : ∀ v ∈ u :: rest, v ∈ ts := fun v hv =>
      (List.dropWhile_sublist _).subset (hdrop ▸ hv)
    split at h
    · exact hsub t (List.mem_cons_of_mem _
        ((List.dropWhile_sublist _).subset (List.mem_of_head? h)))
    · cases h
      exact hsub t List.mem_cons_self

theorem asAlias?_eq_some (h : asAlias? index t = some k) : ∃ name, t.name? = some name ∧
    isClauseWord t = false ∧ index.hasTable k = false ∧ k = Unicode.lower name := by
  obtain ⟨name, hname, halias⟩ := Option.bind_eq_some_iff.1 h
  split at halias <;> rename_i hfree
  · cases halias
  · cases halias
    simp only [Bool.or_eq_true, not_or, Bool.not_eq_true] at hfree
    exact ⟨name, hname, hfree.1, hfree.2, rfl⟩

def binds (k : List Char) (behind : List Token) : Bool :=
  !behind.head?.any Token.isDot && alias? index behind = some k

/-- The table that is given the alias `k` right here, before the given tokens. -/
def bound? (k : List Char) (t : Token) (behind : List Token) : Option (List Char) :=
  t.name?.bind fun name =>
    if index.hasTable (Unicode.lower name) && binds index k behind then some (Unicode.lower name)
    else none

def latest? (k : List Char) : List Token → Option (List Char)
  | [] => none
  | t :: rest => (latest? k rest).or (bound? index k t rest)

theorem lookup_aliases_ofTable (s : Scope) (key k : List Char) (behind : List Token) :
    (ofTable index s key behind).aliases.lookup k =
      if binds index k behind then some key else s.aliases.lookup k := by
  have hmention : (s.mention key).aliases = s.aliases := by
    unfold mention
    split <;> rfl
  unfold ofTable binds
  simp only
  split <;> rename_i hdot
  · simp [hdot, hmention]
  · rw [Bool.not_eq_true] at hdot
    rw [hdot]
    cases alias? index behind with
    | none => simp [hmention]
    | some given =>
      by_cases hk : given = k
      · subst hk
        simp [bind]
      · have hbeq : (k == given) = false := beq_false_of_ne (Ne.symm hk)
        simp [bind, hk, List.lookup_cons, hbeq, hmention]

theorem lookup_aliases_collect (s : Scope) (k : List Char) (ts : List Token) :
    (collect index s ts).aliases.lookup k = (latest? index k ts).or (s.aliases.lookup k) := by
  induction ts generalizing s with
  | nil => rfl
  | cons t rest ih =>
    rw [latest?, Option.or_assoc, bound?, collect]
    cases t.name? with
    | none => exact ih s
    | some name =>
      cases htable : index.hasTable (Unicode.lower name) with
      | false => simp [ih, htable]
      | true =>
        simp only [if_true, Option.bind_some, ih, lookup_aliases_ofTable, htable, Bool.true_and]
        refine congrArg _ ?_
        split <;> rfl

theorem table?_scopeOf (ts : List Token) (q : List Char) : (scopeOf index ts).table? index q =
    if index.hasTable (Unicode.lower q) then some (Unicode.lower q)
    else latest? index (Unicode.lower q) ts := by
  rw [table?, scopeOf, lookup_aliases_collect]
  simp

theorem latest?_dropWhile (k : List Char) (ts : List Token) :
    latest? index k (ts.dropWhile Token.isTrivia) = latest? index k ts := by
  induction ts with
  | nil => rfl
  | cons t ts ih =>
    cases ht : t.isTrivia with
    | false => rw [List.dropWhile_cons_of_neg (by simp [ht])]
    | true =>
      rw [List.dropWhile_cons_of_pos ht, ih, latest?, bound?, name?_of_isTrivia ht, Option.bind_none,
        Option.or_none]

theorem latest?_of_alias?_as {behind : List Token} {name : List Char}
    (hname : t.name? = some name) (htable : index.hasTable (Unicode.lower name) = true)
    (halias : ((behind.dropWhile Token.isTrivia).head?).bind (asAlias? index) = some k) :
    (latest? index k (t :: behind)).isSome = true := by
  obtain ⟨u, hu, hk⟩ := Option.bind_eq_some_iff.1 halias
  obtain ⟨rest, hdrop⟩ := List.head?_eq_some_iff.1 hu
  obtain ⟨given, hgiven, hclause, -, -⟩ := asAlias?_eq_some index hk
  have hbehind : alias? index behind = some k := by
    have has : isAs u = false := Bool.eq_false_iff.2 fun h => by
      simp [isClauseWord_of_isAs h] at hclause
    rw [alias?_eq, candidate?, hdrop]
    simp [has, hk]
  have hdot : behind.head?.any Token.isDot = false := by
    cases behind with
    | nil => rfl
    | cons d behind =>
      refine Bool.eq_false_iff.2 fun h => ?_
      have hd : d.isDot = true := h
      rw [List.dropWhile_cons_of_neg (by simp [isTrivia_of_isDot hd])] at hdrop
      cases hdrop
      simp [isDot_of_name? hgiven] at hd
  simp [latest?, bound?, binds, hname, htable, hdot, hbehind]

end Scope

end AskSql
