import AskSql.Json.Decode

namespace AskSql

theorem insertKey_mem {key : String} {value : α} {l : List (String × α)} {m : String × α}
    (h : m ∈ insertKey key value l) : m.1 = key ∨ m ∈ l := by
  induction l with
  | nil => simp_all [insertKey]
  | cons a rest ih =>
    obtain ⟨k, v⟩ := a
    simp only [insertKey] at h
    split at h
    · simp_all only [List.mem_cons]
      rcases h with rfl | h
      · exact .inl rfl
      · exact .inr h
    · split at h <;> simp_all only [List.mem_cons]
      · rcases h with rfl | h
        · exact .inl rfl
        · exact .inr (.inr h)
      · rcases h with rfl | h
        · exact .inr (.inl rfl)
        · rcases ih h with h | h
          · exact .inl h
          · exact .inr (.inr h)

theorem insertKey_ascending {key : String} {value : α} {l : List (String × α)}
    (h : l.Pairwise (·.1 < ·.1)) : (insertKey key value l).Pairwise (·.1 < ·.1) := by
  induction l with
  | nil => simp [insertKey]
  | cons a rest ih =>
    obtain ⟨k, v⟩ := a
    have hk := List.pairwise_cons.1 h
    simp only [insertKey]
    split
    next hlt =>
      refine List.pairwise_cons.2 ⟨fun m hm => ?_, h⟩
      rcases List.mem_cons.1 hm with rfl | hm
      · exact hlt
      · exact String.lt_trans hlt (hk.1 m hm)
    next hlt =>
      split
      next heq =>
        subst heq
        exact List.pairwise_cons.2 ⟨hk.1, hk.2⟩
      next hne =>
        refine List.pairwise_cons.2 ⟨fun m hm => ?_, ih hk.2⟩
        rcases insertKey_mem hm with h | h
        · rw [h]
          rcases Std.lt_trichotomy k key with h' | h' | h'
          · exact h'
          · exact absurd h'.symm hne
          · exact absurd h' hlt
        · exact hk.1 m h

theorem sortKeys_ascending (l : List (String × α)) : (sortKeys l).Pairwise (·.1 < ·.1) := by
  suffices h : ∀ acc : List (String × α), acc.Pairwise (·.1 < ·.1) →
      (l.foldl (fun sorted m => insertKey m.1 m.2 sorted) acc).Pairwise (·.1 < ·.1) from
    h [] .nil
  induction l with
  | nil => exact fun _ h => h
  | cons a rest ih => exact fun acc h => ih _ (insertKey_ascending h)

structure Row where
  cells : List (String × Json)
  ascending : cells.Pairwise (·.1 < ·.1)

namespace Row

def empty : Row := ⟨[], .nil⟩

instance : Inhabited Row := ⟨empty⟩

/-- Of several cells under one name the last counts. -/
def ofList (cells : List (String × Json)) : Row := ⟨sortKeys cells, sortKeys_ascending cells⟩

def cell? (r : Row) (column : String) : Option Json := r.cells.lookup column

def mapNames (f : String → String) (r : Row) : Row := ofList (r.cells.map fun c => (f c.1, c.2))

def toJson (r : Row) : Json := .obj r.cells

def reader : Json.Reader Row := fun levels n => (Json.Reader.members levels n).map ofList

end Row

structure QueryOutput where
  rows : List Row := []
  columns : List String := []

def Row.listToJson (rows : List Row) : Json := .arr (rows.map Row.toJson)

def QueryOutput.toJson (o : QueryOutput) : Json :=
  .obj [("rows", Row.listToJson o.rows), ("columns", .strings o.columns)]

def QueryOutput.reader : Json.Reader QueryOutput :=
  Json.record "struct QueryOutput" <|
    QueryOutput.mk <$> Json.required "rows" (.list Row.reader) <*>
      Json.required "columns" (.list .string)

end AskSql
