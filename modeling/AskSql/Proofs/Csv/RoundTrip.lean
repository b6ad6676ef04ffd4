import AskSql.Proofs.Csv.Reader

namespace AskSql.Csv

theorem doubles_quotedAtoms (f : List Char) : Doubles (f.map quotedAtom).flatten f := by
  induction f with
  | nil => exact .nil
  | cons c f ih =>
    rw [List.map_cons, List.flatten_cons, quotedAtom]
    split
    next hc => exact hc ▸ .quote ih
    next hc => exact .other hc ih

theorem isBare_of_needsQuotes_eq_false {c : Char} (h : needsQuotes c = false) : IsBare c := by
  simp only [needsQuotes, Bool.or_eq_false_iff, decide_eq_false_iff_not] at h
  exact ⟨h.1.1.1, h.1.1.2, h.1.2, h.2⟩

theorem isField_fieldAtoms (f : List Char) : IsField (fieldAtoms f).flatten f := by
  rw [fieldAtoms]
  split
  next => simpa using IsField.quoted (doubles_quotedAtoms f)
  next h =>
    rw [Bool.not_eq_true, List.any_eq_false] at h
    have hbare : ∀ c ∈ f, IsBare c := fun c hc =>
      isBare_of_needsQuotes_eq_false (Bool.not_eq_true _ ▸ h c hc)
    simpa [← List.flatMap_def] using IsField.bare hbare

def joinedAtoms (fields : List (List Char)) : List Atom :=
  ((fields.map fieldAtoms).intersperse [[',']]).flatten

theorem joinedAtoms_cons_cons (f g : List Char) (fields : List (List Char)) :
    joinedAtoms (f :: g :: fields) = fieldAtoms f ++ [','] :: joinedAtoms (g :: fields) := by
  simp [joinedAtoms]

theorem isRecord_joinedAtoms (f : List Char) (fields : List (List Char)) :
    IsRecord ((joinedAtoms (f :: fields)).flatten ++ ['\n']) (f :: fields) := by
  induction fields generalizing f with
  | nil => simpa [joinedAtoms] using IsRecord.last (isField_fieldAtoms f)
  | cons g fields ih =>
    rw [joinedAtoms_cons_cons, List.flatten_append, List.flatten_cons, List.append_assoc]
    exact .cons (isField_fieldAtoms f) (ih g)

theorem eq_singleton_of_joinedAtoms_eq_nil {f : List Char} {fields : List (List Char)}
    (h : joinedAtoms (f :: fields) = []) : f :: fields = [[]] := by
  cases fields with
  | nil =>
    have hatoms : fieldAtoms f = [] := by simpa [joinedAtoms] using h
    rw [fieldAtoms] at hatoms
    split at hatoms
    next => cases hatoms
    next => rw [List.map_eq_nil_iff.1 hatoms]
  | cons g fields =>
    rw [joinedAtoms_cons_cons, List.append_eq_nil_iff] at h
    cases h.2

/-- A record that has no fields is written as one empty field. -/
def written {α : Type} [DecidableEq α] (empty : α) (fields : List α) : List α :=
  if fields = [] then [empty] else fields

theorem isRecord_recordAtoms (fields : List (List Char)) :
    IsRecord (recordAtoms fields).flatten (written [] fields) := by
  cases fields with
  | nil => exact IsRecord.last (.quoted .nil)
  | cons f fields =>
    change IsRecord ((if (joinedAtoms (f :: fields)).isEmpty then [[quote, quote]]
      else joinedAtoms (f :: fields)) ++ [['\n']]).flatten (f :: fields)
    split
    next hempty =>
      rw [eq_singleton_of_joinedAtoms_eq_nil (List.isEmpty_iff.1 hempty)]
      exact IsRecord.last (.quoted .nil)
    next => simpa using isRecord_joinedAtoms f fields

theorem isTable_atomsOf (records : List (List (List Char))) :
    IsTable (atomsOf records).flatten (records.map (written [])) := by
  induction records with
  | nil => exact .nil
  | cons r records ih =>
    rw [atomsOf, List.flatMap_cons, List.flatten_append]
    exact .cons (isRecord_recordAtoms r) ih

theorem read?_text_eq (rows : List Row) (columns : List String) :
    read? (text rows columns) = some ((records rows columns).map (written "")) := by
  have hwritten : (fun fields => fields.map String.toList) ∘ written "" =
      written [] ∘ fun fields => fields.map String.toList := by
    funext fields
    cases fields <;> rfl
  rw [read?_eq_some_iff, text, String.toList_ofList, atoms, List.map_map, hwritten, ← List.map_map]
  exact isTable_atomsOf _

/-- The reader accepts what the grammar admits and nothing else, and of a text of rows it gives the
columns, then the cells of each row in the order of the columns. -/
theorem read?_text (rows : List Row) (columns : List String) (h : columns ≠ []) :
    (∀ text table, read? text = some table ↔
      IsTable text.toList (table.map (·.map String.toList))) ∧
      read? (text rows columns) =
        some (columns :: rows.map fun r => columns.map fun c => cellText (r.cell? c)) := by
  refine ⟨fun _ _ => read?_eq_some_iff, (read?_text_eq rows columns).trans (congrArg some ?_)⟩
  simp [records, written, h]

theorem read?_text_quoted :
    let row : Row := ⟨[("name", .str "Smith, \"Jr\"\r\n"), ("note", .null)], by decide⟩
    let columns := ["name", "a,b", "note"]
    columns ≠ [] ∧
      read? (text [row] columns) = some [columns, ["Smith, \"Jr\"\r\n", "", ""]] := by
  intro row columns
  have hcolumns : columns ≠ [] := List.cons_ne_nil _ _
  refine ⟨hcolumns, (read?_text [row] columns hcolumns).2.trans ?_⟩
  rfl

end AskSql.Csv
