import AskSql.Disguise.Basic

namespace AskSql

open Unicode

theorem lowerCase_eq_iff {a b : String} :
    lowerCase a = lowerCase b ↔ lower a.toList = lower b.toList := by
  rw [← String.toList_inj, lowerCase, lowerCase, Text.onString_toList, Text.onString_toList]

/-- A table under two names, with its columns. -/
structure Pairing where
  source : List Char
  target : List Char
  columns : List (List Char × List Char)

def Pairing.swap (p : Pairing) : Pairing := ⟨p.target, p.source, p.columns.map Prod.swap⟩

namespace NameIndex

variable (index : NameIndex) (key name table source target column : List Char)

theorem entry?_insertTable : NameIndex.entry? (index.insertTable source target) key =
    (index.entry? key).or (if lower source = key then some ⟨key, target, []⟩ else none) := by
  unfold insertTable
  split <;> rename_i hknown
  · split <;> rename_i hkey
    · obtain ⟨e, he⟩ := Option.isSome_iff_exists.1 (hkey ▸ hknown)
      rw [he]
      rfl
    · rw [Option.or_none]
  · unfold entry?
    rw [List.find?_append]
    refine congrArg _ ?_
    by_cases hkey : lower source = key <;> simp [hkey]

theorem entry?_insertColumn : NameIndex.entry? (index.insertColumn table source target) key =
    (index.entry? key).map fun e => if e.key = lower table then e.insertColumn source target else e := by
  have hkey (e : Entry) :
      (if e.key = lower table then e.insertColumn source target else e).key = e.key := by
    split
    · unfold Entry.insertColumn
      split <;> rfl
    · rfl
  unfold entry? insertColumn
  rw [List.find?_map]
  simp only [Function.comp_def, hkey]

@[simp] theorem hasTable_insertTable :
    (index.insertTable source target).hasTable key = (index.hasTable key || lower source = key) := by
  rw [hasTable, entry?_insertTable, Option.isSome_or, hasTable]
  split <;> simp_all

@[simp] theorem hasTable_insertColumn :
    (index.insertColumn table source target).hasTable key = index.hasTable key := by
  rw [hasTable, entry?_insertColumn, Option.isSome_map, hasTable]

theorem table?_insertTable : (index.insertTable source target).table? name =
    (index.table? name).or (if lower source = lower name then some target else none) := by
  rw [table?, entry?_insertTable, Option.map_or, table?]
  split <;> rfl

theorem table?_insertColumn :
    (index.insertColumn table source target).table? name = index.table? name := by
  rw [table?, entry?_insertColumn, Option.map_map, table?]
  congr 1
  funext e
  simp only [Function.comp_apply]
  split
  · unfold Entry.insertColumn
    split <;> rfl
  · rfl

theorem columnOf?_insertTable :
    (index.insertTable source target).columnOf? key column = index.columnOf? key column := by
  rw [columnOf?, entry?_insertTable, columnOf?]
  cases index.entry? key with
  | none => split <;> rfl
  | some e => rfl

theorem columnOf?_insertColumn (h : index.hasTable (lower table) = true) :
    (index.insertColumn table source target).columnOf? key column =
      (index.columnOf? key column).or
        (if lower table = key ∧ lower source = lower column then some target else none) := by
  rw [columnOf?, entry?_insertColumn, columnOf?]
  cases he : index.entry? key with
  | none =>
    have hne : lower table ≠ key := by
      rintro rfl
      simp [hasTable, he] at h
    simp [hne]
  | some e =>
    have hkey : e.key = key := by simpa using List.find?_some he
    by_cases htable : lower table = key
    · simp only [Option.map_some, hkey, htable, if_true, Option.bind_some, Entry.insertColumn,
        true_and]
      split <;> rename_i hknown
      · split <;> rename_i hcolumn
        · obtain ⟨v, hv⟩ := Option.isSome_iff_exists.1 (hcolumn ▸ hknown)
          rw [hv]
          rfl
        · rw [Option.or_none]
      · rw [List.lookup_append]
        refine congrArg _ ?_
        by_cases hcolumn : lower source = lower column
        · simp [hcolumn]
        · have hbeq : (lower column == lower source) = false := beq_false_of_ne (Ne.symm hcolumn)
          simp [hcolumn, hbeq]
    · simp [hkey, htable, Ne.symm htable]

def addColumns (table : List Char) (columns : List (List Char × List Char)) : NameIndex :=
  columns.foldl (fun index c => index.insertColumn table c.1 c.2) index

def addPairing (index : NameIndex) (p : Pairing) : NameIndex :=
  (index.insertTable p.source p.target).addColumns p.source p.columns

def ofPairings (l : List Pairing) : NameIndex := l.foldl addPairing {}

def columnsUnder (l : List Pairing) : List (List Char × List Char) :=
  (l.filter fun p => lower p.source = key).flatMap Pairing.columns

def firstColumn? (column : List Char) (columns : List (List Char × List Char)) :
    Option (List Char) :=
  (columns.find? fun c => lower c.1 = lower column).map Prod.snd

theorem firstColumn?_append (cs ds : List (List Char × List Char)) :
    firstColumn? column (cs ++ ds) = (firstColumn? column cs).or (firstColumn? column ds) := by
  rw [firstColumn?, List.find?_append, Option.map_or]
  rfl

variable {table}

theorem table?_addColumns (columns : List (List Char × List Char)) :
    (index.addColumns table columns).table? name = index.table? name := by
  induction columns generalizing index with
  | nil => rfl
  | cons c cs ih => exact (ih _).trans (index.table?_insertColumn ..)

theorem hasTable_addColumns (columns : List (List Char × List Char)) :
    (index.addColumns table columns).hasTable key = index.hasTable key := by
  induction columns generalizing index with
  | nil => rfl
  | cons c cs ih => exact (ih _).trans (index.hasTable_insertColumn ..)

theorem columnOf?_addColumns (columns : List (List Char × List Char))
    (h : index.hasTable (lower table) = true) :
    (index.addColumns table columns).columnOf? key column = (index.columnOf? key column).or
      (if lower table = key then firstColumn? column columns else none) := by
  induction columns generalizing index with
  | nil => simp [addColumns, firstColumn?]
  | cons c cs ih =>
    have hstep := ih (index.insertColumn table c.1 c.2) (by rw [hasTable_insertColumn, h])
    rw [index.columnOf?_insertColumn key table c.1 c.2 column h, Option.or_assoc] at hstep
    refine hstep.trans (congrArg _ ?_)
    by_cases htable : lower table = key
    · by_cases hc : lower c.1 = lower column <;> simp [htable, hc, firstColumn?]
    · simp [htable]

theorem table?_ofPairings (l : List Pairing) : (ofPairings l).table? name =
    (l.find? fun p => lower p.source = lower name).map Pairing.target := by
  have hfold (index : NameIndex) : (l.foldl addPairing index).table? name =
      (index.table? name).or
        ((l.find? fun p => lower p.source = lower name).map Pairing.target) := by
    induction l generalizing index with
    | nil => simp
    | cons p l ih =>
      rw [List.foldl_cons, ih, addPairing, table?_addColumns, table?_insertTable, Option.or_assoc]
      refine congrArg _ ?_
      by_cases hp : lower p.source = lower name <;> simp [hp]
  exact hfold {}

theorem hasTable_ofPairings (l : List Pairing) :
    (ofPairings l).hasTable key = l.any fun p => lower p.source = key := by
  have hfold (index : NameIndex) : (l.foldl addPairing index).hasTable key =
      (index.hasTable key || l.any fun p => lower p.source = key) := by
    induction l generalizing index with
    | nil => simp
    | cons p l ih =>
      rw [List.foldl_cons, ih, addPairing, hasTable_addColumns, hasTable_insertTable, List.any_cons,
        Bool.or_assoc]
  exact hfold {}

theorem columnOf?_ofPairings (l : List Pairing) :
    (ofPairings l).columnOf? key column = firstColumn? column (columnsUnder key l) := by
  have hfold (index : NameIndex) : (l.foldl addPairing index).columnOf? key column =
      (index.columnOf? key column).or (firstColumn? column (columnsUnder key l)) := by
    induction l generalizing index with
    | nil => simp [columnsUnder, firstColumn?]
    | cons p l ih =>
      rw [List.foldl_cons, ih, addPairing, columnOf?_addColumns _ _ _ _ (by simp),
        columnOf?_insertTable, Option.or_assoc]
      refine congrArg _ ?_
      by_cases hp : lower p.source = key <;> simp [columnsUnder, hp, firstColumn?_append]
  exact hfold {}

end NameIndex

open NameIndex

def Table.pairing (t : Table × Nat) : Pairing where
  source := t.1.name.toList
  target := (tablePlaceholder t.2).toList
  columns := t.1.columns.zipIdx.map fun c => (c.1.name.toList, (columnPlaceholder c.2).toList)

def Schema.pairings (s : Schema) : List Pairing := s.tables.zipIdx.map Table.pairing

namespace Disguise

theorem foldl_addColumn (table placeholder : String) (d : Disguise) (columns : List (Column × Nat)) :
    let names := columns.map fun c => (c.1.name.toList, (columnPlaceholder c.2).toList)
    columns.foldl (addColumn table placeholder) d =
      { placeholders := d.placeholders.addColumns table.toList names
        reals := d.reals.addColumns placeholder.toList (names.map Prod.swap) } := by
  induction columns generalizing d with
  | nil => rfl
  | cons c cs ih => exact ih _

theorem ofSchema_eq (s : Schema) :
    ofSchema s = ⟨ofPairings s.pairings, ofPairings (s.pairings.map Pairing.swap)⟩ := by
  have hfold (l : List (Table × Nat)) (d : Disguise) : l.foldl addTable d =
      { placeholders := (l.map Table.pairing).foldl addPairing d.placeholders
        reals := ((l.map Table.pairing).map Pairing.swap).foldl addPairing d.reals } := by
    induction l generalizing d with
    | nil => rfl
    | cons t l ih =>
      rw [List.foldl_cons, ih, addTable, foldl_addColumn]
      rfl
  exact hfold _ {}

end Disguise

end AskSql
