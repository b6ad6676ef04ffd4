import Mathlib.Data.Finset.Max
import Mathlib.Data.String.Basic
import AskSql.Proofs.Pipeline.Provenance

namespace AskSql

section

variable {α : Type} (l : List (String × α)) (k : String)

theorem lookup_cons_ite (m : String × α) :
    (m :: l).lookup k = if k = m.1 then some m.2 else l.lookup k := by
  rw [List.lookup_cons]
  by_cases h : k = m.1
  · simp [h]
  · rw [if_neg h, beq_false_of_ne h]

theorem lookup_insertKey (key : String) (value : α) :
    (insertKey key value l).lookup k = if k = key then some value else l.lookup k := by
  induction l with
  | nil => exact lookup_cons_ite ..
  | cons m l ih =>
    obtain ⟨key', value'⟩ := m
    unfold insertKey
    split
    · exact lookup_cons_ite ..
    · split <;> rename_i hkey
      · subst hkey
        rw [lookup_cons_ite, lookup_cons_ite]
        split <;> rfl
      · rw [lookup_cons_ite, lookup_cons_ite, ih]
        by_cases h : k = key
        · subst h
          simp [hkey]
        · simp [h]

theorem lookup_sortKeys : (sortKeys l).lookup k = l.reverse.lookup k := by
  have hfold (done : List (String × α)) :
      (l.foldl (fun sorted m => insertKey m.1 m.2 sorted) done).lookup k =
        (l.reverse.lookup k).or (done.lookup k) := by
    induction l generalizing done with
    | nil => rfl
    | cons m l ih =>
      rw [List.foldl_cons, ih, lookup_insertKey, List.reverse_cons, List.lookup_append,
        Option.or_assoc, lookup_cons_ite]
      split <;> rfl
  rw [sortKeys, hfold, List.lookup_nil, Option.or_none]

end

namespace Row

def names (r : Row) : List String := r.cells.map Prod.fst

def HasColumns (r : Row) (columns : List String) : Prop := ∀ column, column ∈ r.names ↔ column ∈ columns

/-- In the sample a column has the cell of the last column, by name, that is shown like it. -/
def ShownAs (columns : List String) (shown : String → String) (r sample : Row) : Prop :=
  ∀ column ∈ columns, ∃ last ∈ columns, shown last = shown column ∧
    (∀ other ∈ columns, shown other = shown column → other ≤ last) ∧
    sample.cell? (shown column) = r.cell? last

variable {r : Row} {columns : List String}

theorem cell?_mapNames {f : String → String} {last : String} (hlast : last ∈ r.names)
    (hgreatest : ∀ other ∈ r.names, f other = f last → other ≤ last) :
    (r.mapNames f).cell? (f last) = r.cell? last := by
  obtain ⟨⟨name, value⟩, hmem, rfl⟩ := List.mem_map.1 hlast
  obtain ⟨before, after, hcells⟩ := List.append_of_mem hmem
  have hascending := r.ascending
  rw [hcells, List.pairwise_append, List.pairwise_cons] at hascending
  obtain ⟨-, ⟨hafter, -⟩, hbefore⟩ := hascending
  have hcell : r.cell? name = some value := by
    rw [cell?, hcells, List.lookup_append, List.lookup_eq_none_iff.2 fun m hm => ?_]
    · simp
    · simpa using (hbefore m hm _ List.mem_cons_self).ne'
  -- The cells behind the last one of its kind are shown under other names.
  have hother : ((after.map fun m => (f m.1, m.2)).reverse).lookup (f name) = none := by
    refine List.lookup_eq_none_iff.2 fun m hm => ?_
    obtain ⟨n, hn, rfl⟩ := List.mem_map.1 (List.mem_reverse.1 hm)
    have hname : n.1 ∈ r.names := List.mem_map_of_mem (by simp [hcells, hn])
    simpa using fun heq => (hgreatest _ hname heq.symm).not_gt (hafter n hn)
  rw [hcell, cell?, mapNames, ofList, lookup_sortKeys, hcells, List.map_append, List.map_cons,
    List.reverse_append, List.reverse_cons, List.append_assoc, List.lookup_append, hother]
  simp

theorem HasColumns.shownAs_hideRow (h : r.HasColumns columns) (shown : String → String) :
    r.ShownAs columns shown (View.hideRow columns (columns.map shown) r) := by
  let f := fun column => ((columns.zip (columns.map shown)).reverse.lookup column).getD column
  have hf : ∀ column ∈ columns, f column = shown column := by
    intro column hcolumn
    have hlookup := List.lookup_graph shown (List.mem_reverse.2 hcolumn)
    rw [List.map_reverse, List.map_prod_left_eq_zip] at hlookup
    exact congrArg (Option.getD · column) hlookup
  intro column hcolumn
  obtain ⟨last, hlast, hgreatest⟩ := Finset.exists_max_image
    (columns.filter fun other => shown other = shown column).toFinset id ⟨column, by simp [hcolumn]⟩
  simp only [List.mem_toFinset, List.mem_filter, decide_eq_true_eq, id_eq, and_imp] at hlast hgreatest
  refine ⟨last, hlast.1, hlast.2, hgreatest, ?_⟩
  rw [← hlast.2, ← hf last hlast.1]
  refine cell?_mapNames ((h last).2 hlast.1) fun other hother heq => ?_
  have hother := (h other).1 hother
  have heq : f other = f last := heq
  exact hgreatest other hother (by rw [← hf other hother, heq, hf last hlast.1, hlast.2])

end Row

namespace Exchange

def task? : Exchange → Option SummaryTask
  | .summarize t _ => some t
  | _ => none

def output? : Exchange → Option QueryOutput
  | .execute _ (.finished ⟨.ok output, _⟩) => some output
  | _ => none

end Exchange

namespace Pipeline

variable {μ δ η : Type} (p : Pipeline μ δ η) (r : Request) (o : Occasion) (d : Desk μ δ η)

def told : List SummaryTask := (p.exchanges r o d).filterMap Exchange.task?

def found : List QueryOutput := (p.exchanges r o d).filterMap Exchange.output?

variable {p r o d}

/-- Of a disguised request the sample has the rows that were found, and of the columns that are shown
alike it has the cells of the last one. -/
theorem shownAs_of_mem_told (hanonymize : r.anonymize = true) (hopen : r.privacy = false)
    {task : SummaryTask} (h : task ∈ p.told r o d) :
    ∃ output ∈ p.found r o d, ∃ shown, task.columns = output.columns.map shown ∧
      List.Forall₂ (fun row sample => row.HasColumns output.columns →
        row.ShownAs output.columns shown sample) output.rows task.rows := by
  obtain ⟨x, hx, htask⟩ := List.mem_filterMap.1 h
  obtain ⟨reply, rfl⟩ : ∃ reply, x = .summarize task reply := by
    cases x <;> cases htask
    exact ⟨_, rfl⟩
  obtain ⟨y, q, c, hexecute, rfl, -⟩ := exists_summarized hx
  have hview := View.ofRequest_of_anonymize hanonymize
  refine ⟨y.output, List.mem_filterMap.2 ⟨_, hexecute, rfl⟩, _, by rw [hview]; rfl, ?_⟩
  simp only [View.summaryTask, hopen, hview, View.hideRows, View.hideColumns, Disguise.hideColumns]
  exact List.forall₂_map_right_iff.2 (List.forall₂_same.2 fun row _ hrow => hrow.shownAs_hideRow _)

theorem shownAs_of_mem_told_sold :
    ∃ task ∈ (Rehearsal.pipeline {}).told Rehearsal.shopping Rehearsal.occasion Rehearsal.sold,
      task.columns = ["col_2", "col_2"] ∧
      ∃ output ∈ (Rehearsal.pipeline {}).found Rehearsal.shopping Rehearsal.occasion Rehearsal.sold,
        ∃ shown, task.columns = output.columns.map shown ∧
          List.Forall₂ (fun row sample => row.HasColumns output.columns →
            row.ShownAs output.columns shown sample) output.rows task.rows := by
  obtain ⟨task, htask, hcolumns⟩ : ∃ task ∈ (Rehearsal.pipeline {}).told Rehearsal.shopping
      Rehearsal.occasion Rehearsal.sold, task.columns = ["col_2", "col_2"] := by decide +kernel
  exact ⟨task, htask, hcolumns, shownAs_of_mem_told rfl rfl htask⟩

/-- The name is lost behind the total. -/
theorem not_shown_sold :
    ∃ task ∈ (Rehearsal.pipeline {}).told Rehearsal.shopping Rehearsal.occasion Rehearsal.sold,
      ∃ output ∈ (Rehearsal.pipeline {}).found Rehearsal.shopping Rehearsal.occasion Rehearsal.sold,
        output.columns = ["name", "total"] ∧ task.columns = ["col_2", "col_2"] ∧
        output.rows.length = 1 ∧ task.rows.length = 1 ∧
        ∀ row ∈ output.rows, ∀ sample ∈ task.rows,
          row.HasColumns output.columns ∧ sample.cell? "col_2" ≠ row.cell? "name" := by
  have hcells : ∃ task ∈ (Rehearsal.pipeline {}).told Rehearsal.shopping Rehearsal.occasion
        Rehearsal.sold,
      ∃ output ∈ (Rehearsal.pipeline {}).found Rehearsal.shopping Rehearsal.occasion Rehearsal.sold,
        output.columns = ["name", "total"] ∧ task.columns = ["col_2", "col_2"] ∧
        output.rows.length = 1 ∧ task.rows.length = 1 ∧
        ∀ row ∈ output.rows, ∀ sample ∈ task.rows, row.names = output.columns ∧
          (sample.cell? "col_2").bind Json.str? ≠ (row.cell? "name").bind Json.str? := by
    decide +kernel
  obtain ⟨task, htask, output, houtput, hcolumns, hshown, hrows, hsample, hcells⟩ := hcells
  refine ⟨task, htask, output, houtput, hcolumns, hshown, hrows, hsample, fun row hrow sample hs => ?_⟩
  obtain ⟨hnames, hne⟩ := hcells row hrow sample hs
  exact ⟨fun column => by rw [hnames], fun heq => hne (congrArg (Option.bind · Json.str?) heq)⟩

end Pipeline

end AskSql
