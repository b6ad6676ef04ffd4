import Mathlib.Data.List.Basic
import AskSql.Csv

/-!
Comma-separated values are read back.

What a text of records looks like is said by a grammar, whoever has written it: fields are parted by
commas, a line feed ends each record, and a field in quotes has each of its own quotes twice. The
reader goes through a text once, character by character. It accepts what the grammar admits and
nothing else, and what is written here is among that.
-/

namespace AskSql.Csv

structure IsBare (c : Char) : Prop where
  comma : c ≠ ','
  quote : c ≠ quote
  carriageReturn : c ≠ '\r'
  lineFeed : c ≠ '\n'

inductive Doubles : List Char → List Char → Prop
  | nil : Doubles [] []
  | quote : Doubles t s → Doubles (quote :: quote :: t) (quote :: s)
  | other : c ≠ quote → Doubles t s → Doubles (c :: t) (c :: s)

inductive IsField : List Char → List Char → Prop
  | bare : (∀ c ∈ s, IsBare c) → IsField s s
  | quoted : Doubles t s → IsField (quote :: t ++ [quote]) s

/-- A record is never without a field. -/
inductive IsRecord : List Char → List (List Char) → Prop
  | last : IsField t f → IsRecord (t ++ ['\n']) [f]
  | cons : IsField t f → IsRecord s fs → IsRecord (t ++ ',' :: s) (f :: fs)

inductive IsTable : List Char → List (List (List Char)) → Prop
  | nil : IsTable [] []
  | cons : IsRecord t r → IsTable s rs → IsTable (t ++ s) (r :: rs)

theorem Doubles.append {t s t' s' : List Char} (h : Doubles t s) (h' : Doubles t' s') :
    Doubles (t ++ t') (s ++ s') := by
  induction h with
  | nil => exact h'
  | quote _ ih => exact .quote ih
  | other hc _ ih => exact .other hc ih

theorem IsTable.snoc {t s : List Char} {rs : List (List (List Char))} {r : List (List Char)}
    (h : IsTable t rs) (hr : IsRecord s r) : IsTable (t ++ s) (rs ++ [r]) := by
  induction h with
  | nil => simpa using IsTable.cons hr .nil
  | cons h _ ih =>
    rw [List.append_assoc]
    exact .cons h ih

inductive Place
  | record
  | field
  | bare
  | quoted
  | closing
  deriving DecidableEq

structure Reading where
  place : Place := .record
  field : List Char := []
  fields : List (List Char) := []
  records : List (List (List Char)) := []

namespace Reading

def push (r : Reading) (place : Place) (c : Char) : Reading :=
  { r with place, field := c :: r.field }

def endField (r : Reading) : Reading :=
  { r with place := .field, field := [], fields := r.field.reverse :: r.fields }

def endRecord (r : Reading) : Reading :=
  { records := (r.field.reverse :: r.fields).reverse :: r.records }

/-- A carriage return, like a quote, stands in quoted fields only. -/
def step (r : Reading) (c : Char) : Option Reading :=
  if r.place = .quoted then
    some (if c = quote then { r with place := .closing } else r.push .quoted c)
  else if c = ',' then some r.endField
  else if c = '\n' then some r.endRecord
  else if c = quote then
    match r.place with
    | .record | .field => some { r with place := .quoted }
    | .closing => some (r.push .quoted quote)
    | _ => none
  else if c = '\r' ∨ r.place = .closing then none
  else some (r.push .bare c)

def end? (r : Reading) : Option (List (List (List Char))) :=
  if r.place = .record then some r.records.reverse else none

end Reading

def readRecords? (text : List Char) : Option (List (List (List Char))) :=
  (text.foldlM Reading.step {}).bind Reading.end?

def read? (text : String) : Option (List (List String)) :=
  (readRecords? text.toList).map fun records => records.map (·.map String.ofList)

namespace Reading

inductive Reads (r : Reading) : Char → Reading → Prop
  | quoted : r.place = .quoted → c ≠ quote → Reads r c (r.push .quoted c)
  | close : r.place = .quoted → Reads r quote { r with place := .closing }
  | comma : r.place ≠ .quoted → Reads r ',' r.endField
  | lineFeed : r.place ≠ .quoted → Reads r '\n' r.endRecord
  | record : r.place = .record → Reads r quote { r with place := .quoted }
  | field : r.place = .field → Reads r quote { r with place := .quoted }
  | again : r.place = .closing → Reads r quote (r.push .quoted quote)
  | bare : r.place ≠ .quoted → r.place ≠ .closing → IsBare c → Reads r c (r.push .bare c)

variable {r r' : Reading} {c : Char}

theorem Reads.step_eq (h : r.Reads c r') : r.step c = some r' := by
  cases h with
  | quoted hplace hc => rw [step, if_pos hplace, if_neg hc]
  | close hplace => rw [step, if_pos hplace, if_pos rfl]
  | comma hplace => rw [step, if_neg hplace, if_pos rfl]
  | lineFeed hplace => rw [step, if_neg hplace, if_neg (by decide), if_pos rfl]
  | record hplace | field hplace | again hplace => rw [step, hplace]; rfl
  | bare hquoted hclosing hc =>
    rw [step, if_neg hquoted, if_neg hc.comma, if_neg hc.lineFeed, if_neg hc.quote,
      if_neg (not_or.2 ⟨hc.carriageReturn, hclosing⟩)]

theorem reads_of_step_eq (h : r.step c = some r') : r.Reads c r' := by
  unfold step at h
  split at h
  next hquoted =>
    obtain rfl := Option.some.inj h
    split
    next hc => exact hc ▸ .close hquoted
    next hc => exact .quoted hquoted hc
  next hquoted =>
    split at h
    next hc => exact Option.some.inj h ▸ hc ▸ .comma hquoted
    next hcomma =>
    split at h
    next hc => exact Option.some.inj h ▸ hc ▸ .lineFeed hquoted
    next hlineFeed =>
    split at h
    next hc =>
      subst hc
      split at h
      next hplace => exact Option.some.inj h ▸ .record hplace
      next hplace => exact Option.some.inj h ▸ .field hplace
      next hplace => exact Option.some.inj h ▸ .again hplace
      next => cases h
    next hquote =>
    split at h
    next => cases h
    next hother =>
      rw [not_or] at hother
      exact Option.some.inj h ▸ .bare hquoted hother.2 ⟨hcomma, hquote, hother.1, hlineFeed⟩

theorem Reads.foldlM_cons (h : r.Reads c r') (s : List Char) :
    (c :: s).foldlM step r = s.foldlM step r' := by
  rw [List.foldlM_cons, h.step_eq]
  rfl

theorem foldlM_append (h : s.foldlM step r = some r') (t : List Char) :
    (s ++ t).foldlM step r = t.foldlM step r' := by
  rw [List.foldlM_append, h]
  rfl

end Reading

section

variable {r : Reading} {t f : List Char} {fs : List (List Char)} {rs : List (List (List Char))}

open Reading

theorem foldlM_bare (hf : ∀ c ∈ f, IsBare c) (hquoted : r.place ≠ .quoted)
    (hclosing : r.place ≠ .closing) :
    ∃ place, place ≠ .quoted ∧
      f.foldlM step r = some { r with place, field := f.reverse ++ r.field } := by
  induction f generalizing r with
  | nil => exact ⟨r.place, hquoted, rfl⟩
  | cons c f ih =>
    rw [List.forall_mem_cons] at hf
    obtain ⟨place, hplace, hfold⟩ := ih (r := r.push .bare c) hf.2 nofun nofun
    refine ⟨place, hplace, ?_⟩
    rw [(Reads.bare hquoted hclosing hf.1).foldlM_cons, hfold]
    simp [push]

theorem Doubles.foldlM_step (h : Doubles t f) (hr : r.place = .quoted) :
    t.foldlM step r = some { r with field := f.reverse ++ r.field } := by
  induction h generalizing r with
  | nil => rfl
  | quote _ ih =>
    rw [(Reads.close hr).foldlM_cons, (Reads.again rfl).foldlM_cons, ih rfl]
    simp [push, hr]
  | other hc _ ih =>
    rw [(Reads.quoted hr hc).foldlM_cons, ih rfl]
    simp [push, hr]

structure Reading.IsFresh (r : Reading) : Prop where
  place : r.place = .record ∨ r.place = .field
  field : r.field = []

theorem IsField.foldlM_step (h : IsField t f) (hr : r.IsFresh) :
    ∃ place, place ≠ .quoted ∧ t.foldlM step r = some { r with place, field := f.reverse } := by
  cases h with
  | bare hf =>
    have hquoted : r.place ≠ .quoted := by rcases hr.place with h | h <;> simp [h]
    have hclosing : r.place ≠ .closing := by rcases hr.place with h | h <;> simp [h]
    obtain ⟨place, hplace, hfold⟩ := foldlM_bare hf hquoted hclosing
    rw [hr.field, List.append_nil] at hfold
    exact ⟨place, hplace, hfold⟩
  | @quoted t _ hf =>
    refine ⟨.closing, nofun, ?_⟩
    have hquote : r.Reads quote { r with place := .quoted } := hr.place.elim .record .field
    rw [List.cons_append, hquote.foldlM_cons, foldlM_append (hf.foldlM_step rfl),
      (Reads.close rfl).foldlM_cons, hr.field, List.append_nil]
    rfl

theorem IsRecord.foldlM_step (h : IsRecord t fs) (hr : r.IsFresh) :
    t.foldlM step r = some { records := (r.fields.reverse ++ fs) :: r.records } := by
  induction h generalizing r with
  | last hf =>
    obtain ⟨place, hplace, hfold⟩ := hf.foldlM_step hr
    rw [foldlM_append hfold, (Reads.lineFeed hplace).foldlM_cons]
    simp [endRecord]
  | cons hf _ ih =>
    obtain ⟨place, hplace, hfold⟩ := hf.foldlM_step hr
    rw [foldlM_append hfold, (Reads.comma hplace).foldlM_cons, ih ⟨.inr rfl, rfl⟩]
    simp [endField]

theorem IsTable.foldlM_step (h : IsTable t rs) (done : List (List (List Char))) :
    t.foldlM step { records := done } = some { records := rs.reverse ++ done } := by
  induction h generalizing done with
  | nil => rfl
  | cons hr _ ih =>
    rw [foldlM_append (hr.foldlM_step ⟨.inl rfl, rfl⟩), ih]
    simp

theorem IsTable.readRecords?_eq (h : IsTable t rs) : readRecords? t = some rs := by
  rw [readRecords?, h.foldlM_step []]
  simp [end?]

end

inductive IsBegun : List Char → List (List Char) → Prop
  | nil : IsBegun [] []
  | snoc : IsBegun s fs → IsField t f → IsBegun (s ++ (t ++ [','])) (f :: fs)

inductive IsOpen : Place → List Char → List Char → Prop
  | record : IsOpen .record [] []
  | field : IsOpen .field [] []
  | bare : (∀ c ∈ s, IsBare c) → IsOpen .bare s s
  | quoted : Doubles t s → IsOpen .quoted (quote :: t) s
  | closing : Doubles t s → IsOpen .closing (quote :: t ++ [quote]) s

structure Reading.Covers (r : Reading) (text : List Char) : Prop where
  split : ∃ s t u, text = s ++ (t ++ u) ∧ IsTable s r.records.reverse ∧ IsBegun t r.fields ∧
    IsOpen r.place u r.field.reverse
  fields_eq_nil : r.place = .record → r.fields = []

section

variable {r r' : Reading} {c : Char} {s t u f text : List Char} {fs gs : List (List Char)}
  {rs : List (List (List Char))} {place : Place}

theorem IsBegun.append (h : IsBegun s fs) (ht : IsRecord t gs) :
    IsRecord (s ++ t) (fs.reverse ++ gs) := by
  induction h generalizing t gs with
  | nil => exact ht
  | snoc _ hf ih => simpa using ih (.cons hf ht)

theorem IsOpen.isField (h : IsOpen place t f) (hplace : place ≠ .quoted) : IsField t f := by
  cases h with
  | record | field => exact .bare nofun
  | bare hs => exact .bare hs
  | quoted => exact absurd rfl hplace
  | closing hs => exact .quoted hs

theorem IsOpen.snoc_bare (h : IsOpen place t f) (hquoted : place ≠ .quoted)
    (hclosing : place ≠ .closing) (hc : IsBare c) : IsOpen .bare (t ++ [c]) (f ++ [c]) := by
  cases h with
  | record | field => exact .bare (List.forall_mem_singleton.2 hc)
  | bare hs => exact .bare (List.forall_mem_append.2 ⟨hs, List.forall_mem_singleton.2 hc⟩)
  | quoted => exact absurd rfl hquoted
  | closing => exact absurd rfl hclosing

namespace Reading.Covers

theorem endField (h : r.Covers text) (hr : r.place ≠ .quoted) :
    r.endField.Covers (text ++ [',']) := by
  obtain ⟨⟨s, t, u, rfl, hs, ht, hu⟩, -⟩ := h
  exact ⟨⟨s, t ++ (u ++ [',']), [], by simp, hs, .snoc ht (hu.isField hr), .field⟩, nofun⟩

theorem endRecord (h : r.Covers text) (hr : r.place ≠ .quoted) :
    r.endRecord.Covers (text ++ ['\n']) := by
  obtain ⟨⟨s, t, u, rfl, hs, ht, hu⟩, -⟩ := h
  have hrecord := ht.append (.last (hu.isField hr))
  refine ⟨⟨s ++ (t ++ (u ++ ['\n'])), [], [], by simp, ?_, .nil, .record⟩, fun _ => rfl⟩
  simpa [Reading.endRecord] using hs.snoc hrecord

theorem extend (h : r.Covers text) {field : List Char} (hplace : place ≠ .record)
    (hopen : ∀ u, IsOpen r.place u r.field.reverse → IsOpen place (u ++ [c]) field.reverse) :
    Covers { r with place, field } (text ++ [c]) := by
  obtain ⟨⟨s, t, u, rfl, hs, ht, hu⟩, -⟩ := h
  exact ⟨⟨s, t, u ++ [c], by simp, hs, ht, hopen u hu⟩, fun h => absurd h hplace⟩

theorem step (h : r.Covers text) (hr : r.Reads c r') : r'.Covers (text ++ [c]) := by
  cases hr with
  | comma hplace => exact h.endField hplace
  | lineFeed hplace => exact h.endRecord hplace
  | quoted hplace hc =>
    refine h.extend nofun fun u hu => ?_
    rw [hplace] at hu
    cases hu with
    | quoted hs =>
      rw [List.reverse_cons]
      exact .quoted (hs.append (.other hc .nil))
  | close hplace =>
    refine h.extend nofun fun u hu => ?_
    rw [hplace] at hu
    cases hu with
    | quoted hs => exact .closing hs
  | record hplace | field hplace =>
    refine h.extend nofun fun u hu => ?_
    rw [hplace] at hu
    generalize r.field.reverse = f at hu ⊢
    cases hu
    exact .quoted .nil
  | again hplace =>
    refine h.extend nofun fun u hu => ?_
    rw [hplace] at hu
    cases hu with
    | closing hs =>
      rw [List.reverse_cons]
      simpa using IsOpen.quoted (hs.append (.quote .nil))
  | bare hquoted hclosing hc =>
    refine h.extend nofun fun u hu => ?_
    rw [List.reverse_cons]
    exact hu.snoc_bare hquoted hclosing hc

theorem foldlM (h : r.Covers text) (hr : s.foldlM Reading.step r = some r') :
    r'.Covers (text ++ s) := by
  induction s generalizing r text with
  | nil =>
    obtain rfl := Option.some.inj hr
    rwa [List.append_nil]
  | cons c s ih =>
    rw [List.foldlM_cons, Option.bind_eq_bind, Option.bind_eq_some_iff] at hr
    obtain ⟨r₁, hstep, hr⟩ := hr
    have hrest := ih (h.step (reads_of_step_eq hstep)) hr
    rwa [List.append_assoc] at hrest

end Reading.Covers

theorem isTable_of_readRecords? (h : readRecords? text = some rs) : IsTable text rs := by
  obtain ⟨r, hfold, hend⟩ := Option.bind_eq_some_iff.1 h
  have hstart : Reading.Covers {} [] := ⟨⟨[], [], [], rfl, .nil, .nil, .record⟩, fun _ => rfl⟩
  obtain ⟨⟨s, t, u, htext, hs, ht, hu⟩, hfields⟩ := hstart.foldlM hfold
  unfold Reading.end? at hend
  split at hend
  next hplace =>
    obtain rfl := Option.some.inj hend
    rw [hfields hplace] at ht
    rw [hplace] at hu
    generalize r.field.reverse = f at hu
    cases ht
    cases hu
    rw [List.nil_append, List.nil_append, List.append_nil] at htext
    exact htext ▸ hs
  next => cases hend

theorem readRecords?_eq_some_iff : readRecords? text = some rs ↔ IsTable text rs :=
  ⟨isTable_of_readRecords?, IsTable.readRecords?_eq⟩

end

/-- The reader finds in a text what the grammar says of it. -/
theorem read?_eq_some_iff {text : String} {table : List (List String)} :
    read? text = some table ↔ IsTable text.toList (table.map (·.map String.toList)) := by
  rw [← readRecords?_eq_some_iff, read?, Option.map_eq_some_iff]
  constructor
  · rintro ⟨records, hrecords, rfl⟩
    simpa [Function.comp_def] using hrecords
  · intro h
    exact ⟨_, h, by simp [Function.comp_def]⟩

end AskSql.Csv
