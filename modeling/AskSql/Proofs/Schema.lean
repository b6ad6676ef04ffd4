import Mathlib.Data.List.Basic
import AskSql.Proofs.Json.Unambiguous
import AskSql.Schema

namespace AskSql

open Json

theorem Json.str_injective : Function.Injective Json.str := fun _ _ => Json.str.inj

theorem Json.strings_injective : Function.Injective Json.strings := by
  intro l m h
  exact Json.str_injective.list_map (Json.arr.inj h)

theorem Json.nat_injective : Function.Injective Json.nat := by
  intro m n h
  exact Int.ofNat.inj (Number.int.inj (Json.num.inj h))

theorem Json.key_of_mem_whenSome {α : Type} {key : String} {f : α → Json} {x : Option α}
    {m : String × Json} (h : m ∈ whenSome key f x) : m.1 = key := by
  cases x with
  | none => cases h
  | some a => exact congrArg Prod.fst (List.mem_singleton.1 h)

theorem Json.whenSome_append_inj {α : Type} {key : String} {f : α → Json}
    (hf : Function.Injective f) {x y : Option α} {s t : List (String × Json)}
    (hs : ∀ m ∈ s, m.1 ≠ key) (ht : ∀ m ∈ t, m.1 ≠ key)
    (h : whenSome key f x ++ s = whenSome key f y ++ t) : x = y ∧ s = t := by
  cases x with
  | none =>
    cases y with
    | none => exact ⟨rfl, h⟩
    | some b =>
      obtain rfl : s = (key, f b) :: t := h
      exact absurd rfl (hs _ List.mem_cons_self)
  | some a =>
    cases y with
    | none =>
      obtain rfl : t = (key, f a) :: s := h.symm
      exact absurd rfl (ht _ List.mem_cons_self)
    | some b =>
      obtain ⟨hmember, hrest⟩ := List.cons.inj h
      exact ⟨congrArg some (hf (Prod.mk.inj hmember).2), hrest⟩

theorem Json.whenSome_inj {α : Type} {key : String} {f : α → Json} (hf : Function.Injective f)
    {x y : Option α} (h : whenSome key f x = whenSome key f y) : x = y := by
  have h : whenSome key f x ++ [] = whenSome key f y ++ [] := congrArg (· ++ []) h
  exact (whenSome_append_inj hf (by simp) (by simp) h).1

theorem Column.toJson_injective : Function.Injective Column.toJson := by
  rintro ⟨name, dataType, nullable, isPrimaryKey, defaultValue⟩ d h
  simp only [toJson, Json.obj.injEq, List.cons_append, List.nil_append, List.cons.injEq,
    Prod.mk.injEq, Json.str.injEq, Json.bool.injEq, true_and] at h
  obtain ⟨rfl, rfl, rfl, rfl, hdefault⟩ := h
  rw [Json.whenSome_inj Json.str_injective hdefault]

theorem ForeignKey.toJson_injective : Function.Injective ForeignKey.toJson := by
  rintro ⟨column, table, target⟩ k h
  simp only [toJson, Json.obj.injEq, List.cons.injEq, Prod.mk.injEq, Json.str.injEq, true_and,
    and_true] at h
  obtain ⟨rfl, rfl, rfl⟩ := h
  rfl

theorem Table.toJson_injective : Function.Injective Table.toJson := by
  rintro ⟨name, columns, primaryKey, foreignKeys, rowCount⟩ t h
  simp only [toJson, Json.obj.injEq, List.cons_append, List.nil_append, List.append_assoc,
    List.cons.injEq, Prod.mk.injEq, Json.str.injEq, Json.arr.injEq, true_and] at h
  obtain ⟨rfl, hcolumns, h⟩ := h
  have hcount {x : Option Nat} : ∀ m ∈ Json.whenSome "rowCount" .nat x, m.1 = "rowCount" :=
    fun _ => Json.key_of_mem_whenSome
  have hkeys {x : Option (List ForeignKey)} {y : Option Nat} :
      ∀ m ∈ Json.whenSome "foreignKeys" (fun ks => .arr (ks.map ForeignKey.toJson)) x ++
        Json.whenSome "rowCount" .nat y, m.1 = "foreignKeys" ∨ m.1 = "rowCount" := fun m hm =>
    (List.mem_append.1 hm).imp Json.key_of_mem_whenSome (hcount m)
  obtain ⟨hprimary, h⟩ := Json.whenSome_append_inj Json.strings_injective
    (fun m hm => by rcases hkeys m hm with h | h <;> simp [h])
    (fun m hm => by rcases hkeys m hm with h | h <;> simp [h]) h
  obtain ⟨hforeign, h⟩ := Json.whenSome_append_inj
    (fun ks ls h => ForeignKey.toJson_injective.list_map (Json.arr.inj h))
    (fun m hm => by simp [hcount m hm]) (fun m hm => by simp [hcount m hm]) h
  rw [Column.toJson_injective.list_map hcolumns, hprimary, hforeign,
    Json.whenSome_inj Json.nat_injective h]

theorem Schema.toJson_injective : Function.Injective Schema.toJson := by
  rintro ⟨tables⟩ s h
  simp only [toJson, Json.obj.injEq, List.cons.injEq, Prod.mk.injEq, Json.arr.injEq, true_and,
    and_true] at h
  rw [Table.toJson_injective.list_map h]

theorem Json.isExact_nat (n : Nat) : (Json.nat n).IsExact := .int n

theorem Json.isExact_strings (l : List String) : (Json.strings l).IsExact := by
  apply IsExact.arr
  intro v hv
  obtain ⟨s, -, rfl⟩ := List.mem_map.1 hv
  exact .str s

theorem Json.isExact_arr_map {α : Type} {f : α → Json} (hf : ∀ a, (f a).IsExact) (l : List α) :
    (Json.arr (l.map f)).IsExact := by
  apply IsExact.arr
  intro v hv
  obtain ⟨a, -, rfl⟩ := List.mem_map.1 hv
  exact hf a

theorem Json.isExact_whenSome {α : Type} {key : String} {f : α → Json} (hf : ∀ a, (f a).IsExact)
    {x : Option α} : ∀ m ∈ whenSome key f x, m.2.IsExact := by
  intro m hm
  cases x with
  | none => cases hm
  | some a =>
    obtain rfl := List.mem_singleton.1 hm
    exact hf a

theorem Column.isExact_toJson (c : Column) : c.toJson.IsExact := by
  apply IsExact.obj
  simp only [List.forall_mem_append, List.forall_mem_cons]
  exact ⟨⟨.str _, .str _, .bool _, .bool _, nofun⟩, Json.isExact_whenSome .str⟩

theorem ForeignKey.isExact_toJson (k : ForeignKey) : k.toJson.IsExact := by
  apply IsExact.obj
  simp only [List.forall_mem_cons]
  exact ⟨.str _, .str _, .str _, nofun⟩

theorem Table.isExact_toJson (t : Table) : t.toJson.IsExact := by
  apply IsExact.obj
  simp only [List.forall_mem_append, List.forall_mem_cons]
  refine ⟨⟨⟨⟨.str _, Json.isExact_arr_map Column.isExact_toJson _, nofun⟩, ?_⟩, ?_⟩, ?_⟩
  · exact Json.isExact_whenSome Json.isExact_strings
  · exact Json.isExact_whenSome (Json.isExact_arr_map ForeignKey.isExact_toJson)
  · exact Json.isExact_whenSome Json.isExact_nat

theorem Schema.isExact_toJson (s : Schema) : s.toJson.IsExact := by
  apply IsExact.obj
  simp only [List.forall_mem_cons]
  exact ⟨Json.isExact_arr_map Table.isExact_toJson _, nofun⟩

theorem Schema.fingerprint_injective : Function.Injective Schema.fingerprint := by
  intro s t h
  exact Schema.toJson_injective (s.isExact_toJson.compact_inj t.isExact_toJson h)

end AskSql
