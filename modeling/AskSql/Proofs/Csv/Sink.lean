import AskSql.Digest.Bytes
import AskSql.Proofs.Csv.RoundTrip

/-!
A text is written as a whole, or an error says that it is not.

The bytes of the text go into buffers, and the buffers one after another into a sink. A buffer that is
refused ends the writing, so what the sink has accepted by then is the bytes of those before it.
-/

namespace AskSql.Csv

/-- The buffers hold the bytes in their order. All but the last are full, up to a byte that is left
where a pair of quotes did not fit. -/
structure IsBuffered (bytes : List UInt8) (buffers : List (List UInt8)) : Prop where
  flatten_eq : buffers.flatten = bytes
  length_le : ∀ b ∈ buffers, b.length ≤ capacity
  le_length : ∀ b ∈ buffers.dropLast, capacity ≤ b.length + 1

section

variable {size filled : Nat} {held : List UInt8} {ps : List (List UInt8)}

theorem flatten_fillings (size filled : Nat) (held : List UInt8) (ps : List (List UInt8)) :
    (fillings size held filled ps).flatten = held.reverse ++ ps.flatten := by
  induction ps generalizing held filled with
  | nil => simp [fillings]
  | cons p ps ih =>
    rw [fillings]
    split
    next => simp [ih]
    next => simp [ih]

theorem fillings_ne_nil (size filled : Nat) (held : List UInt8) (ps : List (List UInt8)) :
    fillings size held filled ps ≠ [] := by
  induction ps generalizing held filled with
  | nil => exact List.cons_ne_nil _ _
  | cons p ps ih =>
    rw [fillings]
    split
    next => exact ih _ _
    next => exact List.cons_ne_nil _ _

theorem length_le_of_mem_fillings (hps : ∀ p ∈ ps, p.length ≤ size) (hheld : held.length = filled)
    (hfilled : filled ≤ size) : ∀ b ∈ fillings size held filled ps, b.length ≤ size := by
  induction ps generalizing held filled with
  | nil =>
    refine List.forall_mem_singleton.2 ?_
    rwa [List.length_reverse, hheld]
  | cons p ps ih =>
    rw [List.forall_mem_cons] at hps
    rw [fillings]
    split
    next hle =>
      refine ih hps.2 ?_ hle
      rw [List.length_append, List.length_reverse, hheld, Nat.add_comm]
    next =>
      refine List.forall_mem_cons.2 ⟨?_, ih hps.2 (List.length_reverse ..) hps.1⟩
      rwa [List.length_reverse, hheld]

theorem lt_length_of_mem_fillings {most : Nat} (hps : ∀ p ∈ ps, p.length ≤ most)
    (hheld : held.length = filled) :
    ∀ b ∈ (fillings size held filled ps).dropLast, size < b.length + most := by
  induction ps generalizing held filled with
  | nil => exact nofun
  | cons p ps ih =>
    rw [List.forall_mem_cons] at hps
    rw [fillings]
    split
    next =>
      refine ih hps.2 ?_
      rw [List.length_append, List.length_reverse, hheld, Nat.add_comm]
    next hlt =>
      rw [List.dropLast_cons_of_ne_nil (fillings_ne_nil size _ _ ps)]
      refine List.forall_mem_cons.2 ⟨?_, ih hps.2 (List.length_reverse ..)⟩
      rw [List.length_reverse, hheld]
      have hp := hps.1
      omega

end

theorem flatten_pieces (a : Atom) : (pieces a).flatten = a.flatMap String.utf8EncodeChar := by
  unfold pieces
  split
  next c => simp [← List.flatMap_def]
  next => simp

theorem flatten_flatMap_pieces (as : List Atom) :
    (as.flatMap pieces).flatten = as.flatten.flatMap String.utf8EncodeChar := by
  induction as with
  | nil => rfl
  | cons a as ih => simp [flatten_pieces, ih]

def IsAtom (a : Atom) : Prop := a.length = 1 ∨ a = [quote, quote]

theorem IsAtom.length_le {a : Atom} (h : IsAtom a) : ∀ p ∈ pieces a, p.length ≤ 2 := by
  rcases h with h | rfl
  · obtain ⟨c, rfl⟩ := List.length_eq_one_iff.1 h
    intro p hp
    obtain ⟨b, -, rfl⟩ := List.mem_map.1 hp
    exact Nat.le_succ 1
  · decide

theorem isAtom_quotedAtom (c : Char) : IsAtom (quotedAtom c) := by
  unfold quotedAtom
  split
  next => exact .inr rfl
  next => exact .inl rfl

theorem isAtom_of_mem_fieldAtoms (f : List Char) : ∀ a ∈ fieldAtoms f, IsAtom a := by
  unfold fieldAtoms
  split
  next =>
    simp only [List.cons_append, List.forall_mem_cons, List.forall_mem_append, List.forall_mem_map]
    exact ⟨.inl rfl, fun c _ => isAtom_quotedAtom c, .inl rfl, nofun⟩
  next => exact List.forall_mem_map.2 fun c _ => .inl rfl

theorem isAtom_of_mem_joinedAtoms (fields : List (List Char)) :
    ∀ a ∈ joinedAtoms fields, IsAtom a := by
  match fields with
  | [] => exact nofun
  | [f] => simpa [joinedAtoms] using isAtom_of_mem_fieldAtoms f
  | f :: g :: fields =>
    rw [joinedAtoms_cons_cons, List.forall_mem_append, List.forall_mem_cons]
    exact ⟨isAtom_of_mem_fieldAtoms f, .inl rfl, isAtom_of_mem_joinedAtoms (g :: fields)⟩

theorem isAtom_of_mem_recordAtoms (fields : List (List Char)) :
    ∀ a ∈ recordAtoms fields, IsAtom a := by
  refine List.forall_mem_append.2 ⟨?_, List.forall_mem_singleton.2 (.inl rfl)⟩
  split
  next => exact List.forall_mem_singleton.2 (.inr rfl)
  next => exact isAtom_of_mem_joinedAtoms fields

def buffers (rows : List Row) (columns : List String) : List (List UInt8) :=
  fillings capacity [] 0 ((atoms rows columns).flatMap pieces)

theorem isBuffered_buffers (rows : List Row) (columns : List String) :
    IsBuffered (Bytes.ofText (text rows columns)) (buffers rows columns) := by
  have hpieces : ∀ p ∈ (atoms rows columns).flatMap pieces, p.length ≤ 2 := by
    intro p hp
    obtain ⟨a, ha, hp⟩ := List.mem_flatMap.1 hp
    obtain ⟨r, -, ha⟩ := List.mem_flatMap.1 ha
    exact (isAtom_of_mem_recordAtoms r a ha).length_le p hp
  refine ⟨?_, ?_, fun b hb => ?_⟩
  · rw [buffers, flatten_fillings, flatten_flatMap_pieces, Bytes.ofText, text,
      String.toByteArray_ofList, List.utf8Encode, List.toList_data_toByteArray]
    rfl
  · have hcapacity : 2 ≤ capacity := by decide
    exact length_le_of_mem_fillings (fun p hp => Nat.le_trans (hpieces p hp) hcapacity) rfl
      (Nat.zero_le _)
  · have hlt := lt_length_of_mem_fillings hpieces rfl b hb
    omega

/-- What becomes of buffers that are poured into a sink. A refusal of the last one comes when
everything has been written and the buffer is emptied. -/
inductive Pours (s : Sink) (buffers : List (List UInt8)) : Except QueryError Unit × Sink → Prop
  | accepted : s.accepted.length + buffers.flatten.length ≤ s.room →
      Pours s buffers (.ok (), { s with accepted := s.accepted ++ buffers.flatten })
  | refused : buffers = done ++ b :: rest →
      s.accepted.length + done.flatten.length ≤ s.room →
      s.room < s.accepted.length + done.flatten.length + b.length →
      Pours s buffers (.error (if rest = [] then .file refusal else .csv refusal),
        { s with accepted := s.accepted ++ done.flatten })

section

variable {s : Sink} {b : List UInt8} {buffers : List (List UInt8)}
  {outcome : Except QueryError Unit × Sink}

theorem Pours.cons (h : Pours { s with accepted := s.accepted ++ b } buffers outcome) :
    Pours s (b :: buffers) outcome := by
  cases h with
  | accepted hroom =>
    rw [List.append_assoc, ← List.flatten_cons]
    refine .accepted ?_
    rw [List.length_append] at hroom
    rwa [List.flatten_cons, List.length_append, ← Nat.add_assoc]
  | @refused done c rest heq hle hlt =>
    have hlength : (s.accepted ++ b).length + done.flatten.length =
        s.accepted.length + (b :: done).flatten.length := by simp [Nat.add_assoc]
    rw [hlength] at hle hlt
    rw [List.append_assoc, ← List.flatten_cons]
    exact .refused (congrArg (b :: ·) heq) hle hlt

theorem pours_pour (s : Sink) (h : buffers ≠ []) (hs : s.accepted.length ≤ s.room) :
    Pours s buffers (pour s buffers) := by
  induction buffers generalizing s with
  | nil => exact absurd rfl h
  | cons b rest ih =>
    by_cases hb : s.accepted.length + b.length ≤ s.room
    · have haccept : s.accept? b = some { s with accepted := s.accepted ++ b } := if_pos hb
      have hroom : (s.accepted ++ b).length ≤ s.room := by rwa [List.length_append]
      cases rest with
      | nil =>
        have hempty : Pours { s with accepted := s.accepted ++ b } []
            (.ok (), { s with accepted := s.accepted ++ b ++ [] }) := .accepted hroom
        rw [List.append_nil] at hempty
        simpa only [pour, haccept] using hempty.cons
      | cons c rest =>
        simpa only [pour, haccept] using (ih { s with accepted := s.accepted ++ b } nofun hroom).cons
    · have haccept : s.accept? b = none := if_neg hb
      have hrefused : Pours s (b :: rest)
          (.error (if rest = [] then .file refusal else .csv refusal), s) := by
        have hsplit : b :: rest = [] ++ b :: rest := rfl
        simpa using Pours.refused hsplit hs (Nat.lt_of_not_le hb)
      cases rest with
      | nil => simpa [pour, haccept] using hrefused
      | cons c rest => simpa [pour, haccept] using hrefused

variable {room : Nat}

theorem Pours.eq_ok_iff (h : Pours { room } buffers outcome) :
    outcome.1 = .ok () ↔ buffers.flatten.length ≤ room := by
  cases h with
  | accepted hroom =>
    rw [List.length_nil, Nat.zero_add] at hroom
    exact iff_of_true rfl hroom
  | refused heq hle hlt =>
    refine iff_of_false nofun ?_
    rw [List.length_nil, Nat.zero_add] at hlt
    rw [heq, List.flatten_append, List.flatten_cons, List.length_append, List.length_append]
    dsimp only at hlt
    omega

theorem Pours.accepted_eq (h : Pours { room } buffers outcome) (hok : outcome.1 = .ok ()) :
    outcome.2.accepted = buffers.flatten := by
  cases h with
  | accepted => rfl
  | refused => cases hok

theorem Pours.exists_split (h : Pours { room } buffers outcome) (hfails : outcome.1 ≠ .ok ()) :
    ∃ done b rest, buffers = done ++ b :: rest ∧ outcome.2.accepted = done.flatten ∧
      outcome.2.accepted.length ≤ room ∧ room < (done ++ [b]).flatten.length ∧
      outcome.1 = .error (if rest = [] then .file refusal else .csv refusal) := by
  cases h with
  | accepted => exact absurd rfl hfails
  | @refused done b rest heq hle hlt =>
    rw [List.length_nil, Nat.zero_add] at hle hlt
    refine ⟨done, b, rest, heq, rfl, hle, ?_, rfl⟩
    simpa [List.flatten_append] using hlt

end

/-- The complete text is read back as the columns and the cells of the rows. It is accepted as a whole
or not called written: a refused buffer is then one of those that are written together with the records,
or the last one, and the error tells which. -/
theorem write_outcome (rows : List Row) (columns : List String) (room : Nat) :
    let complete := Bytes.ofText (text rows columns)
    let result := (write { room } rows columns).1
    let accepted := (write { room } rows columns).2.accepted
    read? (text rows columns) = some ((columns :: rows.map fun r => columns.map fun c =>
        cellText (r.cell? c)).map fun fields => if fields = [] then [""] else fields) ∧
      IsBuffered complete (buffers rows columns) ∧
      (result = .ok () ↔ complete.length ≤ room) ∧
      (result = .ok () → accepted = complete) ∧
      (result ≠ .ok () → accepted <+: complete ∧ accepted ≠ complete ∧ accepted.length ≤ room ∧
        ∃ done b rest, buffers rows columns = done ++ b :: rest ∧ accepted = done.flatten ∧
          room < (done ++ [b]).flatten.length ∧
          result = .error (if rest = [] then .file refusal else .csv refusal)) := by
  intro complete result accepted
  have hbuffered : IsBuffered complete (buffers rows columns) := isBuffered_buffers rows columns
  have hpours : Pours { room } (buffers rows columns) (write { room } rows columns) :=
    pours_pour { room } (fillings_ne_nil _ _ _ _) (Nat.zero_le _)
  have hok : result = .ok () ↔ complete.length ≤ room := hbuffered.flatten_eq ▸ hpours.eq_ok_iff
  refine ⟨read?_text_eq rows columns, hbuffered, hok, ?_, fun hfails => ?_⟩
  · exact fun h => (hpours.accepted_eq h).trans hbuffered.flatten_eq
  obtain ⟨done, b, rest, hsplit, haccepted, hle, hlt, herror⟩ := hpours.exists_split hfails
  have hcomplete : accepted ++ (b ++ rest.flatten) = complete := by
    rw [← hbuffered.flatten_eq, hsplit, List.flatten_append, List.flatten_cons, ← haccepted]
  refine ⟨⟨_, hcomplete⟩, fun h => hfails (hok.2 ?_), hle, done, b, rest, hsplit, haccepted, hlt,
    herror⟩
  exact h ▸ hle

theorem write_outcome_quoted :
    let row : Row := ⟨[("name", .str "Smith, \"Jr\""), ("note", .null)], by decide⟩
    let columns := ["name", "note"]
    let complete := "name,note\n\"Smith, \"\"Jr\"\"\",\n"
    text [row] columns = complete ∧
      (write { room := 27 } [row] columns).1 = .ok () ∧
      (write { room := 27 } [row] columns).2.accepted = Bytes.ofText complete ∧
      (write { room := 26 } [row] columns).1 = .error (.file refusal) ∧
      (write { room := 26 } [row] columns).2.accepted = [] := by
  intro row columns complete
  have htext : text [row] columns = complete := by decide +kernel
  have hlength : (Bytes.ofText complete).length = 27 := by decide +kernel
  have hbuffers : buffers [row] columns = [Bytes.ofText complete] := by decide +kernel
  obtain ⟨-, -, hok, hcomplete, -⟩ := write_outcome [row] columns 27
  obtain ⟨-, -, hfails, -, hrefused⟩ := write_outcome [row] columns 26
  rw [htext, hlength] at hok hfails
  rw [htext] at hcomplete
  have hwritten := hok.2 (Nat.le_refl 27)
  obtain ⟨-, -, -, done, b, rest, hsplit, haccepted, -, herror⟩ := hrefused (mt hfails.1 (by decide))
  rw [hbuffers, List.singleton_eq_append_iff] at hsplit
  rcases hsplit with ⟨rfl, hrest⟩ | ⟨-, hnil⟩
  · obtain ⟨-, rfl⟩ := List.cons.inj hrest
    exact ⟨htext, hwritten, hcomplete hwritten, herror, haccepted⟩
  · cases hnil

end AskSql.Csv
