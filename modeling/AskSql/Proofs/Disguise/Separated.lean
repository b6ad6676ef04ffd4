import Mathlib.Data.List.Nodup
import AskSql.Proofs.Disguise.Renaming

namespace AskSql

open Sql NameIndex Unicode

structure Separated (l : List Pairing) : Prop where
  tables : (l.map fun p => lower p.source).Nodup
  columns : ∀ p ∈ l, (p.columns.map fun c => lower c.1).Nodup
  apart : ∀ p ∈ l, ∀ q ∈ l, ∀ c ∈ q.columns, lower c.1 ≠ lower p.source

section

variable {l : List Pairing} {p q : Pairing} {c : List Char × List Char} {name key : List Char}
  {s : Scope} {before : List Token}

theorem find?_eq_some_of_unique {α : Type} {P : α → Bool} {a : α} {xs : List α} (ha : a ∈ xs)
    (hP : P a = true) (h : ∀ b ∈ xs, P b = true → b = a) : xs.find? P = some a := by
  obtain ⟨b, hb⟩ := Option.isSome_iff_exists.1 (List.find?_isSome.2 ⟨a, ha, hP⟩)
  rw [hb, h b (List.mem_of_find?_eq_some hb) (List.find?_some hb)]

theorem NameIndex.table?_eq_none (h : ∀ p ∈ l, lower p.source ≠ lower name) :
    (ofPairings l).table? name = none := by
  rw [table?_ofPairings, List.find?_eq_none.2 fun p hp => by simpa using h p hp, Option.map_none]

theorem NameIndex.hasTable_eq_false (h : ∀ p ∈ l, lower p.source ≠ lower name) :
    (ofPairings l).hasTable (lower name) = false := by
  rw [hasTable_ofPairings]
  exact List.any_eq_false.2 fun p hp => by simpa using h p hp

theorem NameIndex.hasTable_source (hp : p ∈ l) :
    (ofPairings l).hasTable (lower p.source) = true := by
  rw [hasTable_ofPairings]
  exact List.any_eq_true.2 ⟨p, hp, decide_eq_true rfl⟩

theorem NameIndex.columnOf?_eq_none (h : ∀ p ∈ l, ∀ c ∈ p.columns, lower c.1 ≠ lower name) :
    (ofPairings l).columnOf? key name = none := by
  rw [columnOf?_ofPairings, firstColumn?, List.find?_eq_none.2, Option.map_none]
  intro c hc
  obtain ⟨p, hp, hcolumn⟩ := List.mem_flatMap.1 hc
  simpa using h p (List.mem_filter.1 hp).1 c hcolumn

theorem newName?_eq_none (htable : ∀ p ∈ l, lower p.source ≠ lower name)
    (hcolumn : ∀ p ∈ l, ∀ c ∈ p.columns, lower c.1 ≠ lower name) :
    newName? (ofPairings l) s before name = none := by
  unfold newName?
  split
  · rw [columnOf?_eq_none hcolumn, table?_eq_none htable, Option.or_none]
  · rw [table?_eq_none htable, Option.none_or]
    exact List.findSome?_eq_none_iff.2 fun key _ => columnOf?_eq_none hcolumn

namespace Separated

variable (h : Separated l)

include h

theorem eq_of_lower_eq (hp : p ∈ l) (hq : q ∈ l) (heq : lower p.source = lower q.source) : p = q :=
  List.inj_on_of_nodup_map h.tables hp hq heq

theorem table?_source (hp : p ∈ l) : (ofPairings l).table? p.source = some p.target := by
  rw [table?_ofPairings, find?_eq_some_of_unique hp (decide_eq_true rfl), Option.map_some]
  exact fun q hq hsource => h.eq_of_lower_eq hq hp (of_decide_eq_true hsource)

theorem columnOf?_source (hp : p ∈ l) (hc : c ∈ p.columns) :
    (ofPairings l).columnOf? (lower p.source) c.1 = some c.2 := by
  have hunder : c ∈ columnsUnder (lower p.source) l :=
    List.mem_flatMap.2 ⟨p, List.mem_filter.2 ⟨hp, decide_eq_true rfl⟩, hc⟩
  rw [columnOf?_ofPairings, firstColumn?, find?_eq_some_of_unique hunder (decide_eq_true rfl),
    Option.map_some]
  intro d hd hname
  obtain ⟨q, hunder, hdq⟩ := List.mem_flatMap.1 hd
  obtain ⟨hq, hsource⟩ := List.mem_filter.1 hunder
  obtain rfl := h.eq_of_lower_eq hq hp (of_decide_eq_true hsource)
  exact List.inj_on_of_nodup_map (h.columns q hq) hdq hc (of_decide_eq_true hname)

theorem newName?_table (hp : p ∈ l) :
    newName? (ofPairings l) s before p.source = some p.target := by
  unfold newName?
  split
  · rw [columnOf?_eq_none fun q hq c hc => h.apart p hp q hq c hc, h.table?_source hp,
      Option.none_or]
  · rw [h.table?_source hp, Option.some_or]

theorem newName?_column (hp : p ∈ l) (hc : c ∈ p.columns)
    (hbefore : (qualifier? before).bind (s.table? (ofPairings l)) = some (lower p.source)) :
    newName? (ofPairings l) s before c.1 = some c.2 := by
  unfold newName?
  rw [hbefore]
  simp only
  rw [h.columnOf?_source hp hc, Option.some_or]

theorem hasTable_column (hp : p ∈ l) (hc : c ∈ p.columns) :
    (ofPairings l).hasTable (lower c.1) = false :=
  hasTable_eq_false fun q hq => (h.apart q hq p hp c hc).symm

end Separated

end

end AskSql
