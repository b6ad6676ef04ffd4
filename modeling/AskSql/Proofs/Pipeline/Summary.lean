import AskSql.Proofs.Disguise.Prose
import AskSql.Proofs.Disguise.ResultColumns
import AskSql.Proofs.Pipeline.Sample

namespace AskSql

open Sql

namespace Exchange

def summarized? : Exchange → Option (SummaryTask × String)
  | .summarize t (.finished ⟨.ok answer, _⟩) => some (t, answer)
  | _ => none

end Exchange

theorem Sql.IsWord.trim_ne_nil {w : List Char} (h : IsWord w) : Text.trim w ≠ [] := by
  intro hnil
  have hwords : words (Text.trim w) = [w] :=
    (Text.runs_trim isWordChar_blank w).trans (Text.runs_eq_singleton h.1 h.2)
  rw [hnil] at hwords
  cases hwords

namespace Pipeline

variable {μ δ η : Type} (p : Pipeline μ δ η) (r : Request) (o : Occasion) (d : Desk μ δ η)

def summarized : List (SummaryTask × String) := (p.exchanges r o d).filterMap Exchange.summarized?

variable {p r o d} {x : SummaryTask × String}

theorem exists_of_mem_summarized (hanonymize : r.anonymize = true) (h : x ∈ p.summarized r o d) :
    ∃ output ∈ p.found r o d,
      (∃ scope, x.1.columns =
        output.columns.map ((Disguise.ofSchema r.schema).hideColumn scope)) ∧
      (p.run r o d).1.success = true ∧ (Text.trim x.2.toList ≠ [] →
        (p.run r o d).1.summary = some ((Disguise.ofSchema r.schema).reveal x.2)) := by
  obtain ⟨y, hy, hx⟩ := List.mem_filterMap.1 h
  obtain ⟨c, rfl⟩ : ∃ c, y = .summarize x.1 (.finished ⟨.ok x.2, c⟩) := by
    unfold Exchange.summarized? at hx
    split at hx <;> cases hx
    exact ⟨_, rfl⟩
  obtain ⟨z, q, c, hexecute, htask, hresponse⟩ := exists_summarized hy
  have hview := View.ofRequest_of_anonymize hanonymize
  refine ⟨z.output, List.mem_filterMap.2 ⟨_, hexecute, rfl⟩,
    ⟨scopeOf (Disguise.ofSchema r.schema).placeholders (tokens z.sql.toList), ?_⟩, ?_,
    fun hanswer => ?_⟩
  · rw [htask, hview]
    rfl
  · rw [hresponse _ rfl]
    rfl
  · rw [hresponse _ rfl, hview, View.summary, if_neg (by simpa using hanswer)]
    rfl

/-- A summary that is nothing but the placeholder of a result column comes back as what stands at its
place in the first table that has so many columns, whichever table the result column is of. -/
theorem summary_of_lone_placeholder (hanonymize : r.anonymize = true)
    (h : x ∈ p.summarized r o d) :
    ∃ output ∈ p.found r o d, ∀ (i : Nat) (column : String), output.columns[i]? = some column →
      r.schema.HasColumn column → x.1.columns[i]? = some x.2 →
      ∃ t ∈ r.schema.tables, ∃ j c first, t.columns[j]? = some c ∧
        lowerCase c.name = lowerCase column ∧ x.2 = columnPlaceholder j ∧
        r.schema.columnAt? j = some first ∧
        (p.run r o d).1.success = true ∧ (p.run r o d).1.summary = some first.name := by
  obtain ⟨output, houtput, ⟨scope, hcolumns⟩, hsuccess, hsummary⟩ :=
    exists_of_mem_summarized hanonymize h
  refine ⟨output, houtput, fun i column hcolumn hknown hanswer => ?_⟩
  obtain ⟨t, ht, j, c, hc, hname, hshown⟩ := Disguise.exists_of_hideColumn hknown scope
  have hplaceholder : x.2 = columnPlaceholder j := by
    rw [hcolumns, List.getElem?_map, hcolumn, Option.map_some, hshown] at hanswer
    exact (Option.some.inj hanswer).symm
  obtain ⟨first, hfirst⟩ := Option.ne_none_iff_exists'.1 (Schema.columnAt?_ne_none ht hc)
  refine ⟨t, ht, j, c, first, hc, hname, hplaceholder, hfirst, hsuccess, ?_⟩
  rw [hplaceholder] at hsummary
  rw [hsummary (isPlaceholder_column j).isWord.trim_ne_nil,
    Disguise.reveal_columnPlaceholder hfirst]

theorem summary_of_lone_placeholder_totals :
    ∃ x ∈ (Rehearsal.pipeline {}).summarized Rehearsal.shopping Rehearsal.occasion Rehearsal.totals,
      x.1.columns = ["col_2"] ∧ x.2 = "col_2" ∧
      ∃ t ∈ Rehearsal.shop.tables, ∃ j c first, t.columns[j]? = some c ∧
        lowerCase c.name = lowerCase "total" ∧ x.2 = columnPlaceholder j ∧
        Rehearsal.shop.columnAt? j = some first ∧
        ((Rehearsal.pipeline {}).run Rehearsal.shopping Rehearsal.occasion
          Rehearsal.totals).1.success = true ∧
        ((Rehearsal.pipeline {}).run Rehearsal.shopping Rehearsal.occasion
          Rehearsal.totals).1.summary = some first.name := by
  obtain ⟨x, hx, hshown, hanswer⟩ : ∃ x ∈ (Rehearsal.pipeline {}).summarized Rehearsal.shopping
      Rehearsal.occasion Rehearsal.totals, x.1.columns = ["col_2"] ∧ x.2 = "col_2" := by
    decide +kernel
  have hcolumns : ∀ output ∈ (Rehearsal.pipeline {}).found Rehearsal.shopping Rehearsal.occasion
      Rehearsal.totals, output.columns = ["total"] := by decide +kernel
  obtain ⟨output, houtput, hsummary⟩ := summary_of_lone_placeholder rfl hx
  have hcolumn : output.columns[0]? = some "total" := by
    rw [hcolumns output houtput]
    rfl
  have hplaceholder : x.1.columns[0]? = some x.2 := by
    rw [hshown, hanswer]
    rfl
  exact ⟨x, hx, hshown, hanswer, hsummary 0 "total" hcolumn (by decide +kernel) hplaceholder⟩

/-- The totals of the orders come back as the names of the users. -/
theorem summary_ne_totals :
    Rehearsal.shop.PlainNames ∧ (Rehearsal.shop.tables.map fun t => lowerCase t.name).Nodup ∧
      (∀ t ∈ Rehearsal.shop.tables, (t.columnNames.map lowerCase).Nodup) ∧
      Rehearsal.shop.HasColumn "total" ∧
      ∃ x ∈ (Rehearsal.pipeline {}).summarized Rehearsal.shopping Rehearsal.occasion Rehearsal.totals,
        (∃ output ∈ (Rehearsal.pipeline {}).found Rehearsal.shopping Rehearsal.occasion
          Rehearsal.totals, output.columns = ["total"]) ∧
        x.1.columns = [x.2] ∧
        ((Rehearsal.pipeline {}).run Rehearsal.shopping Rehearsal.occasion
          Rehearsal.totals).1.success = true ∧
        ((Rehearsal.pipeline {}).run Rehearsal.shopping Rehearsal.occasion
          Rehearsal.totals).1.summary ≠ some "total" := by
  decide +kernel

/-- The placeholder of a table that is left in a summary stands in the answer where it is no identifier,
which takes a quote or what opens a comment; or it is a word of a name. All words of the answer that are
no identifiers are kept. -/
theorem tablePlaceholders_of_mem_summarized (hanonymize : r.anonymize = true)
    (h : x ∈ p.summarized r o d) (hanswer : trimmed x.2 ≠ "") :
    (p.run r o d).1.success = true ∧ ∃ summary, (p.run r o d).1.summary = some summary ∧
      (∀ w, VerbatimWord x.2.toList w → w ∈ words summary.toList) ∧
      ∀ w ∈ words summary.toList, r.schema.IsTablePlaceholder w →
        (VerbatimWord x.2.toList w ∧ ∃ mark ∈ openings, mark <:+: x.2.toList) ∨
          ∃ name ∈ r.schema.names, w ∈ words name.toList := by
  obtain ⟨_, -, -, hsuccess, hsummary⟩ := exists_of_mem_summarized hanonymize h
  have htrim : Text.trim x.2.toList ≠ [] := fun hnil => hanswer (by
    rw [trimmed, Text.onString, hnil])
  refine ⟨hsuccess, _, hsummary htrim, fun w => Disguise.mem_words_reveal_of_verbatimWord, ?_⟩
  intro w hw hplaceholder
  exact (Disguise.verbatimWord_or_of_mem_words_reveal hplaceholder hw).imp_left fun hverbatim =>
    ⟨hverbatim, hverbatim.exists_opening⟩

theorem tablePlaceholders_of_mem_summarized_apology :
    ∃ x ∈ (Rehearsal.pipeline {}).summarized Rehearsal.shopping Rehearsal.occasion Rehearsal.apology,
      trimmed x.2 ≠ "" ∧
      ((Rehearsal.pipeline {}).run Rehearsal.shopping Rehearsal.occasion
        Rehearsal.apology).1.success = true ∧
      ∃ summary, ((Rehearsal.pipeline {}).run Rehearsal.shopping Rehearsal.occasion
          Rehearsal.apology).1.summary = some summary ∧
        (∀ w, VerbatimWord x.2.toList w → w ∈ words summary.toList) ∧
        ∀ w ∈ words summary.toList, Rehearsal.shop.IsTablePlaceholder w →
          (VerbatimWord x.2.toList w ∧ ∃ mark ∈ openings, mark <:+: x.2.toList) ∨
            ∃ name ∈ Rehearsal.shop.names, w ∈ words name.toList := by
  obtain ⟨x, hx, hanswer⟩ : ∃ x ∈ (Rehearsal.pipeline {}).summarized Rehearsal.shopping
      Rehearsal.occasion Rehearsal.apology, trimmed x.2 ≠ "" := by
    decide +kernel
  exact ⟨x, hx, hanswer, tablePlaceholders_of_mem_summarized rfl hx hanswer⟩

/-- Behind the apostrophe a placeholder stays. -/
theorem tablePlaceholder_mem_apology :
    (∀ name ∈ Rehearsal.shop.names, name ∉ Rehearsal.shop.disguised.names) ∧
      ∃ x ∈ (Rehearsal.pipeline {}).summarized Rehearsal.shopping Rehearsal.occasion
        Rehearsal.apology,
        trimmed x.2 ≠ "" ∧
        ((Rehearsal.pipeline {}).run Rehearsal.shopping Rehearsal.occasion
          Rehearsal.apology).1.success = true ∧
        ∃ summary ∈ ((Rehearsal.pipeline {}).run Rehearsal.shopping Rehearsal.occasion
            Rehearsal.apology).1.summary,
          summary = "users is empty; there aren't any rows in table_2." ∧
          "table_2".toList ∈ words summary.toList ∧
          Rehearsal.shop.IsTablePlaceholder "table_2".toList := by
  decide +kernel

end Pipeline

end AskSql
