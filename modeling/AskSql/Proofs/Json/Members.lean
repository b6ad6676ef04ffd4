import Mathlib.Data.List.Nodup
import AskSql.Database.Row
import AskSql.Proofs.Json.Record

/-!
What values in memory are read as.

Nothing is wrong with a value in memory but that it may be of another type. So a reader of one can be
turned around: it gives `a` for this value and for no other. For a record this means that each field
is looked up under its name.
-/

namespace AskSql.Json

variable {levels : Nat} {v : Json}

theorem Reader.string_ofJson {s : String} :
    Reader.string levels (.ofJson v) = .ok s ↔ v = .str s := by
  cases v with
  | str t => exact ⟨fun h => congrArg _ (Except.ok.inj h), fun h => congrArg _ (Json.str.inj h)⟩
  | _ => exact ⟨nofun, nofun⟩

theorem Reader.bool_ofJson {b : Bool} : Reader.bool levels (.ofJson v) = .ok b ↔ v = .bool b := by
  cases v with
  | bool c => exact ⟨fun h => congrArg _ (Except.ok.inj h), fun h => congrArg _ (Json.bool.inj h)⟩
  | _ => exact ⟨nofun, nofun⟩

theorem Reader.bounds_of_integer {low high n : Int} {expected : String} {node : Node}
    (h : Reader.integer low high expected levels node = .ok n) : low ≤ n ∧ n ≤ high := by
  unfold Reader.integer at h
  split at h
  · split at h
    · rename_i hbounds
      exact Except.ok.inj h ▸ hbounds
    · cases h
  · cases h

theorem Reader.integer_ofJson {low high n : Int} {expected : String} :
    Reader.integer low high expected levels (.ofJson v) = .ok n ↔
      v = .int n ∧ low ≤ n ∧ n ≤ high := by
  refine ⟨fun h => ⟨?_, Reader.bounds_of_integer h⟩, ?_⟩
  · cases v with
    | num m =>
      cases m with
      | int m =>
        change (if low ≤ m ∧ m ≤ high then Except.ok m else .error _) = .ok n at h
        split at h
        · exact congrArg Json.int (Except.ok.inj h)
        · cases h
      | float x => cases h
    | _ => cases h
  · rintro ⟨rfl, hbounds⟩
    exact if_pos hbounds

theorem Reader.int64_ofJson {n : Int} :
    Reader.int64 levels (.ofJson v) = .ok n ↔ v = .int n ∧ Width.isSigned 64 n := by
  rw [Reader.int64, Reader.integer_ofJson, Width.isSigned, Bool.and_eq_true, decide_eq_true_eq,
    decide_eq_true_eq, Int.le_sub_one_iff]

theorem map_eq_ok {ε α β : Type} {x : Except ε α} {f : α → β} {b : β} :
    x.map f = .ok b ↔ ∃ a, x = .ok a ∧ f a = b := by
  cases x <;> simp [Except.map]

theorem Reader.word_ofJson {n : Nat} {expected : String} :
    Reader.word expected levels (.ofJson v) = .ok n ↔ v = .nat n ∧ Width.isWord 64 n := by
  rw [Reader.word, map_eq_ok, Width.isWord, decide_eq_true_eq]
  simp only [Reader.integer_ofJson]
  constructor
  · rintro ⟨m, ⟨rfl, hlow, hhigh⟩, rfl⟩
    refine ⟨?_, by omega⟩
    rw [Json.nat, Int.toNat_of_nonneg hlow]
    rfl
  · rintro ⟨rfl, hn⟩
    exact ⟨n, ⟨rfl, by omega, by omega⟩, rfl⟩

theorem Reader.option_ofJson {α : Type} {read : Reader α} {f : α → Json} {P : α → Prop}
    {x : Option α} (hread : ∀ a, read levels (.ofJson v) = .ok a ↔ v = f a ∧ P a)
    (hf : ∀ a, f a ≠ .null) :
    Reader.option read levels (.ofJson v) = .ok x ↔ v = .opt f x ∧ ∀ a ∈ x, P a := by
  by_cases hv : v = .null
  · subst hv
    cases x with
    | none => exact ⟨fun _ => ⟨rfl, nofun⟩, fun _ => rfl⟩
    | some a => exact ⟨nofun, fun h => absurd h.1.symm (hf a)⟩
  · have hvalue : Reader.option read levels (.ofJson v) = (read levels (.ofJson v)).map some := by
      cases v with
      | null => exact absurd rfl hv
      | _ => rfl
    rw [hvalue, map_eq_ok]
    cases x <;> simp [hread, Json.opt, hv]

section

variable {α β : Type} {x : Fields α} {position : Nat} {source : Source}

theorem build_map_eq_ok {f : α → β} {b : β} :
    (f <$> x).build levels position source = .ok b ↔
      ∃ a, x.build levels position source = .ok a ∧ f a = b :=
  map_eq_ok

theorem build_seq_eq_ok {f : Fields (α → β)} {b : β} :
    (f <*> x).build levels position source = .ok b ↔
      ∃ g, f.build levels position source = .ok g ∧
        ∃ a, x.build levels (position + f.names.length) source = .ok a ∧ g a = b := by
  change (Fields.seq f x).build levels position source = .ok b ↔ _
  simp only [Fields.seq]
  cases f.build levels position source <;>
    cases x.build levels (position + f.names.length) source <;> simp [eq_comm]

/-- Members in memory are found by their keys alone. -/
theorem find?_ofMembers (key : String) (ms : List (String × Json)) :
    (Node.ofMembers ms).find? (labelled [key]) =
      (ms.lookup key).map fun v => (⟨.ok key, []⟩, .ofJson v) := by
  induction ms with
  | nil => rfl
  | cons m ms ih =>
    obtain ⟨k, v⟩ := m
    have hlabel : labelled [key] (⟨.ok k, []⟩, Node.ofJson v) = (key == k) := by
      simp [labelled, eq_comm, Bool.beq_eq_decide_eq]
    rw [Node.ofMembers, List.find?_cons, hlabel, List.lookup_cons]
    cases hkey : key == k with
    | true =>
      rw [eq_of_beq hkey]
      rfl
    | false => exact ih

variable {read : Reader α} {key : String} {ms : List (String × Json)} {stop : Stop} {a : α}

theorem build_field_eq_ok {absent : Absent α} :
    (field [key] read absent).build levels position (.object (Node.ofMembers ms) stop) = .ok a ↔
      match ms.lookup key with
      | some v => read levels (.ofJson v) = .ok a
      | none => absent.inObject = some a := by
  have hfind := find?_ofMembers key ms
  cases hlookup : ms.lookup key with
  | none =>
    rw [hlookup, Option.map_none] at hfind
    simp only [field, hfind]
    split
    · contradiction
    · cases absent.inObject <;> simp
  | some v =>
    rw [hlookup, Option.map_some] at hfind
    obtain ⟨i, hindex⟩ := exists_findIdx?_eq_some hfind
    simp only [field, hindex, hfind]
    cases read levels (.ofJson v) <;> simp [Except.mapError]

theorem build_required_eq_ok :
    (required key read).build levels position (.object (Node.ofMembers ms) stop) = .ok a ↔
      ∃ v, ms.lookup key = some v ∧ read levels (.ofJson v) = .ok a := by
  rw [required, build_field_eq_ok]
  cases ms.lookup key <;> simp [Absent.never]

theorem build_defaulted_eq_ok {a₀ : α} {v₀ : Json} (h : read levels (.ofJson v₀) = .ok a₀) :
    (defaulted key read a₀).build levels position (.object (Node.ofMembers ms) stop) = .ok a ↔
      read levels (.ofJson ((ms.lookup key).getD v₀)) = .ok a := by
  rw [defaulted, build_field_eq_ok]
  cases ms.lookup key with
  | none => simp [Absent.default, h]
  | some v => rfl

end

section

variable {α : Type} {title : String} {x : Fields α} {ms : List (String × Json)} {a : α}

theorem once_of_nodup {keys : List String} (hkeys : keys.Nodup) (names : List String) :
    Once (names.map fun name => [name]) keys := by
  rw [Once, List.forall_mem_map]
  intro name _
  have hcontains : [name].contains = (· == name) := by
    funext key
    rw [List.contains_cons, List.contains_nil, Bool.or_false]
  rw [hcontains]
  exact List.nodup_iff_count_le_one.1 hkeys name

theorem read?_record (names : List String) (hnames : x.names = names.map fun name => [name])
    (hkeys : (ms.map Prod.fst).Nodup) :
    read? (record title x) (.obj ms) = some a ↔
      x.build (maxLevels - 1) 0 (.object (Node.ofMembers ms) (.closed [])) = .ok a := by
  have hfault : (Source.object (Node.ofMembers ms) (.closed [])).fault? x.names = none := by
    rw [hnames, Source.fault?,
      memberFault?_eq_none (Node.shows_ofMembers ms) (once_of_nodup hkeys names)]
    rfl
  have hread : record title x maxLevels (.ofJson (.obj ms)) =
      x.finish (maxLevels - 1) (.object (Node.ofMembers ms) (.closed [])) := rfl
  rw [read?, hread, Fields.finish, hfault]
  cases x.build (maxLevels - 1) 0 (.object (Node.ofMembers ms) (.closed [])) <;>
    simp [Except.toOption]

end

theorem parts_of_any {n : Node} (h : Reader.any levels n = .ok v) :
    match v with
    | .arr vs => ∃ levels' ns, Reader.anyItems levels' ns = .ok vs
    | .obj ms => ∃ ms', ms = sortKeys ms'
    | _ => True := by
  cases n with
  | arr start ns stop =>
    cases levels with
    | zero => cases h
    | succ levels =>
      obtain ⟨vs, hvs, h⟩ := bind_eq_ok.1 h
      obtain ⟨_, -, h⟩ := bind_eq_ok.1 h
      obtain rfl := Except.ok.inj h
      exact ⟨levels, ns, hvs⟩
  | obj start ks stop =>
    cases levels with
    | zero => cases h
    | succ levels =>
      obtain ⟨ms, -, h⟩ := bind_eq_ok.1 h
      obtain ⟨_, -, h⟩ := bind_eq_ok.1 h
      obtain rfl := Except.ok.inj h
      exact ⟨ms, rfl⟩
  | num n left => cases n <;> cases h; trivial
  | str s left => cases s <;> cases h; trivial
  | null | bool | broken => cases h <;> trivial

theorem exists_of_mem_anyItems {ns : List Node} {vs : List Json}
    (h : Reader.anyItems levels ns = .ok vs) (hv : v ∈ vs) : ∃ n, Reader.any levels n = .ok v := by
  induction ns generalizing vs with
  | nil =>
    obtain rfl := Except.ok.inj h
    cases hv
  | cons n ns ih =>
    obtain ⟨w, hw, h⟩ := bind_eq_ok.1 h
    obtain ⟨ws, hws, h⟩ := bind_eq_ok.1 h
    obtain rfl := Except.ok.inj h
    rcases List.mem_cons.1 hv with rfl | hv
    · exact ⟨n, hw⟩
    · exact ih hws hv

theorem nodup_keys_of_parse {s : List Char} {vs : List Json} {ms : List (String × Json)}
    (h : parse s = .ok (.arr vs)) (hms : Json.obj ms ∈ vs) : (ms.map Prod.fst).Nodup := by
  obtain ⟨v, hv, hend⟩ := bind_eq_ok.1 h
  have harr : v = .arr vs := by
    split at hend
    · exact Except.ok.inj hend
    · cases hend
  rw [harr] at hv
  obtain ⟨levels, ns, hns⟩ := parts_of_any hv
  obtain ⟨n, hn⟩ := exists_of_mem_anyItems hns hms
  obtain ⟨ms', rfl⟩ := parts_of_any hn
  exact (List.pairwise_map.2 (sortKeys_ascending ms')).imp String.ne_of_lt

end AskSql.Json
