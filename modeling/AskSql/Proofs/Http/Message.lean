import Mathlib.Data.List.Infix
import AskSql.Digest.Bytes
import AskSql.Http.Message
import AskSql.Proofs.Json.Numeral

/-!
Requests, told from the stream of bytes alone.

The head ends at the first blank line of the stream, and the body is as long as the head announces.
Where the stream is cut into chunks is seen only by a head that passes the limit.
-/

namespace AskSql.Http

structure IsHead (head behind stream : List UInt8) : Prop where
  eq : stream = head ++ blankLine ++ behind
  first : ∀ before, before ++ blankLine <+: stream → head.length ≤ before.length

/-- The blank line comes within the limit, if it comes at all. -/
def HeadFits (stream : List UInt8) : Prop :=
  ∀ head behind, IsHead head behind stream → head.length + blankLine.length ≤ maxHeadBytes

structure IsCut (stream : List UInt8) (chunks : Chunks) : Prop where
  flatten_eq : chunks.flatten = stream
  ne_nil : ∀ c ∈ chunks, c ≠ []
  length_le : ∀ c ∈ chunks, c.length ≤ chunkBytes

def NamesLength (l value : List Char) : Prop := header? l = some ("content-length".toList, value)

/-- The header lines announce a body of so many bytes: the last that names a length decides, and
without one there is no body. -/
inductive Announces : List (List Char) → Nat → Prop
  | absent : (∀ l ∈ headers, ∀ value, ¬NamesLength l value) → Announces headers 0
  | last : headers = before ++ l :: after → NamesLength l value →
      (∀ l ∈ after, ∀ value, ¬NamesLength l value) → Decimal.natural? value = some n →
      Announces headers n

def headerLines (head : List UInt8) : List (List Char) :=
  (lines (Utf8.lossy head)).drop 1

variable {stream head behind buffer s t : List UInt8} {chunks : Chunks} {n : Nat}

theorem IsHead.append (h : IsHead head behind s) (t : List UInt8) :
    IsHead head (behind ++ t) (s ++ t) where
  eq := by rw [h.eq, List.append_assoc _ behind]
  first := by
    intro before hbefore
    by_contra hlt
    have hs : (before ++ blankLine).length ≤ s.length := by
      rw [h.eq, List.length_append, List.length_append, List.length_append]
      omega
    exact hlt (h.first before
      (List.prefix_of_prefix_length_le hbefore (List.prefix_append s t) hs))

theorem IsHead.unique {head' behind' : List UInt8} (h : IsHead head behind s)
    (h' : IsHead head' behind' s) : head = head' ∧ behind = behind' := by
  have hlength : head.length = head'.length := by
    apply Nat.le_antisymm
    · exact h.first head' ⟨behind', h'.eq.symm⟩
    · exact h'.first head ⟨behind, h.eq.symm⟩
  have heq := h.eq.symm.trans h'.eq
  rw [List.append_assoc, List.append_assoc] at heq
  obtain ⟨rfl, hrest⟩ := List.append_inj heq hlength
  exact ⟨rfl, List.append_cancel_left hrest⟩

theorem IsHead.cons {b : UInt8} (h : IsHead head behind s) (hb : ¬blankLine <+: b :: s) :
    IsHead (b :: head) behind (b :: s) where
  eq := congrArg (b :: ·) h.eq
  first := by
    intro before hbefore
    cases before with
    | nil => exact absurd hbefore hb
    | cons c before =>
      obtain ⟨-, hrest⟩ := List.cons_prefix_cons.1 hbefore
      exact Nat.succ_le_succ (h.first before hrest)

theorem isHead_of_splitHead? (h : splitHead? s = some (head, behind)) : IsHead head behind s := by
  induction s generalizing head with
  | nil => cases h
  | cons b rest ih =>
    rw [splitHead?] at h
    split at h
    next hblank =>
      obtain ⟨rfl, rfl⟩ := Prod.mk.inj (Option.some.inj h)
      obtain ⟨more, hmore⟩ := List.isPrefixOf_iff_prefix.1 hblank
      refine ⟨?_, fun before _ => Nat.zero_le _⟩
      rw [← hmore]
      rfl
    next hblank =>
      obtain ⟨⟨head', behind'⟩, hrest, heq⟩ := Option.map_eq_some_iff.1 h
      obtain ⟨rfl, rfl⟩ := Prod.mk.inj heq
      exact (ih hrest).cons (mt List.isPrefixOf_iff_prefix.2 hblank)

theorem splitHead?_eq_none_iff : splitHead? s = none ↔ ¬blankLine <:+: s := by
  induction s with
  | nil => exact iff_of_true rfl (by decide)
  | cons b rest ih =>
    rw [splitHead?, List.infix_cons_iff, not_or]
    split
    next hblank => simp [List.isPrefixOf_iff_prefix.1 hblank]
    next hblank => simp [mt List.isPrefixOf_iff_prefix.2 hblank, ih]

theorem splitHead?_eq_some_iff : splitHead? s = some (head, behind) ↔ IsHead head behind s := by
  refine ⟨isHead_of_splitHead?, fun h => ?_⟩
  cases hsplit : splitHead? s with
  | none => exact absurd ⟨head, behind, h.eq.symm⟩ (splitHead?_eq_none_iff.1 hsplit)
  | some parts =>
    obtain ⟨rfl, rfl⟩ := (isHead_of_splitHead? hsplit).unique h
    rfl

theorem IsHead.length_lt (h : IsHead head behind (s ++ t)) (hs : splitHead? s = none) :
    s.length < head.length + blankLine.length := by
  by_contra hle
  rw [← List.length_append, Nat.not_lt] at hle
  have hprefix : head ++ blankLine <+: s :=
    List.prefix_of_prefix_length_le ⟨behind, h.eq.symm⟩ (List.prefix_append s t) hle
  exact splitHead?_eq_none_iff.1 hs ((List.suffix_append head blankLine).isInfix.trans
    hprefix.isInfix)

theorem headFits_of_length_le (h : s.length ≤ maxHeadBytes) : HeadFits s := by
  intro head behind hhead
  apply Nat.le_trans _ h
  rw [hhead.eq, List.length_append, List.length_append]
  exact Nat.le_add_right ..

section

variable {headers : List (List Char)} {value : List Char}

def namedLength? (headers : List (List Char)) : Option (List Char) :=
  (headers.filterMap header?).reverse.lookup "content-length".toList

theorem namedLength?_eq_none_iff :
    namedLength? headers = none ↔ ∀ l ∈ headers, ∀ value, ¬NamesLength l value := by
  rw [namedLength?, List.lookup_eq_none_iff]
  constructor
  · intro h l hl value hvalue
    have hmem := List.mem_filterMap.2 ⟨l, hl, hvalue⟩
    simpa using h _ (List.mem_reverse.2 hmem)
  · rintro h ⟨name, value⟩ hmem
    obtain ⟨l, hl, hvalue⟩ := List.mem_filterMap.1 (List.mem_reverse.1 hmem)
    refine bne_iff_ne.2 ?_
    rintro rfl
    exact h l hl value hvalue

theorem namedLength?_append (before after : List (List Char)) :
    namedLength? (before ++ after) = (namedLength? after).or (namedLength? before) := by
  rw [namedLength?, List.filterMap_append, List.reverse_append, List.lookup_append]
  rfl

theorem namedLength?_singleton {l : List Char} :
    namedLength? [l] = some value ↔ NamesLength l value := by
  unfold namedLength? NamesLength
  cases hl : header? l with
  | none => simp [hl]
  | some line =>
    obtain ⟨name, v⟩ := line
    rw [List.filterMap_cons_some hl, List.filterMap_nil, List.reverse_singleton, List.lookup_cons,
      List.lookup_nil]
    by_cases hname : name = "content-length".toList
    · rw [hname, beq_self_eq_true]
      simp
    · rw [beq_false_of_ne (Ne.symm hname)]
      exact iff_of_false nofun fun h => hname (congrArg Prod.fst (Option.some.inj h))

theorem namedLength?_eq_some_iff : namedLength? headers = some value ↔
    ∃ before l after, headers = before ++ l :: after ∧ NamesLength l value ∧
      ∀ l ∈ after, ∀ value, ¬NamesLength l value := by
  constructor
  · intro h
    induction headers using List.reverseRecOn with
    | nil => cases h
    | append_singleton headers l ih =>
      rw [namedLength?_append, Option.or_eq_some_iff] at h
      rcases h with hl | ⟨hl, hrest⟩
      · exact ⟨headers, l, [], rfl, namedLength?_singleton.1 hl, nofun⟩
      · obtain ⟨before, l', after, rfl, hvalue, hafter⟩ := ih hrest
        refine ⟨before, l', after ++ [l], by simp, hvalue, ?_⟩
        exact List.forall_mem_append.2 ⟨hafter, namedLength?_eq_none_iff.1 hl⟩
  · rintro ⟨before, l, after, rfl, hvalue, hafter⟩
    rw [List.append_cons, namedLength?_append, namedLength?_eq_none_iff.2 hafter, Option.none_or,
      namedLength?_append, namedLength?_singleton.2 hvalue, Option.some_or]

theorem lengthOf_eq_ok_iff :
    lengthOf headers = .ok n ↔ Announces headers n ∧ Width.isWord 64 n = true := by
  rw [lengthOf, ← namedLength?]
  constructor
  · intro h
    split at h
    next hnone =>
      cases h
      exact ⟨.absent (namedLength?_eq_none_iff.1 hnone), by decide⟩
    next value hsome =>
      obtain ⟨before, l, after, heq, hl, hafter⟩ := namedLength?_eq_some_iff.1 hsome
      split at h
      next m hvalue =>
        split at h
        next hword =>
          cases h
          exact ⟨.last heq hl hafter hvalue, hword⟩
        next => cases h
      next => cases h
  · rintro ⟨hannounces, hword⟩
    cases hannounces with
    | absent hnone => rw [namedLength?_eq_none_iff.2 hnone]
    | last heq hl hafter hvalue =>
      rw [namedLength?_eq_some_iff.2 ⟨_, _, _, heq, hl, hafter⟩]
      simp only [hvalue, hword, if_true]

end

theorem Head.announces_length {h : Head} (hbytes : Head.ofBytes head = .ok h) :
    Announces (headerLines head) h.length := by
  unfold Head.ofBytes at hbytes
  simp only at hbytes
  split at hbytes
  next method target _ _ =>
    obtain ⟨length, hlength, hbytes⟩ := Json.bind_eq_ok.1 hbytes
    split at hbytes
    next => cases hbytes
    next =>
      cases hbytes
      exact (lengthOf_eq_ok_iff.1 hlength).1
  next => cases hbytes

def ofUnended {α : Type} (stream : List UInt8) : Except Refusal (Option α) :=
  if maxHeadBytes < stream.length then .error .headTooLarge
  else if stream.isEmpty then .ok none
  else .error .incomplete

def Message.ofStream (stream : List UInt8) : Except Refusal (Option Message) :=
  match splitHead? stream with
  | none => ofUnended stream
  | some (head, behind) => do
    let h ← Head.ofBytes head
    if h.length ≤ behind.length then
      .ok (some { method := h.method, path := h.path, body := behind.take h.length })
    else .error .incompleteBody

theorem readHead_of_splitHead? (h : splitHead? buffer = some (head, behind)) :
    readHead buffer chunks = .ok (some (head, behind, chunks)) := by
  rw [readHead.eq_def, h]

theorem readHead_cons {c : List UInt8} (h : splitHead? buffer = none) (hc : c ≠ [])
    (hfits : buffer.length ≤ maxHeadBytes) :
    readHead buffer (c :: chunks) = readHead (buffer ++ c) chunks := by
  obtain ⟨b, c, rfl⟩ := List.exists_cons_of_ne_nil hc
  rw [readHead.eq_def, h]
  simp only [if_neg (Nat.not_lt.2 hfits)]

theorem exists_readHead (hnil : ∀ c ∈ chunks, c ≠ [])
    (h : IsHead head behind (buffer ++ chunks.flatten))
    (hfits : head.length + blankLine.length ≤ maxHeadBytes) :
    ∃ held rest, readHead buffer chunks = .ok (some (head, held, rest)) ∧
      held ++ rest.flatten = behind ∧ ∀ c ∈ rest, c ≠ [] := by
  induction chunks generalizing buffer with
  | nil =>
    rw [List.flatten_nil, List.append_nil] at h
    exact ⟨behind, [], readHead_of_splitHead? (splitHead?_eq_some_iff.2 h), by simp, hnil⟩
  | cons c chunks ih =>
    cases hsplit : splitHead? buffer with
    | some parts =>
      obtain ⟨head', behind'⟩ := parts
      obtain ⟨rfl, rfl⟩ := ((isHead_of_splitHead? hsplit).append _).unique h
      exact ⟨behind', c :: chunks, readHead_of_splitHead? hsplit, rfl, hnil⟩
    | none =>
      have hc := List.forall_mem_cons.1 hnil
      have hlt := h.length_lt hsplit
      rw [readHead_cons hsplit hc.1 (by omega)]
      rw [List.flatten_cons, ← List.append_assoc] at h
      exact ih hc.2 h

theorem readHead_eq_ofUnended (hnil : ∀ c ∈ chunks, c ≠ [])
    (h : ¬blankLine <:+: buffer ++ chunks.flatten) :
    readHead buffer chunks = ofUnended (buffer ++ chunks.flatten) := by
  induction chunks generalizing buffer with
  | nil =>
    rw [List.flatten_nil, List.append_nil] at h ⊢
    rw [readHead.eq_def, splitHead?_eq_none_iff.2 h]
    rfl
  | cons c chunks ih =>
    have hc := List.forall_mem_cons.1 hnil
    have hsplit : splitHead? buffer = none := by
      refine splitHead?_eq_none_iff.2 fun hinfix => h ?_
      exact hinfix.trans (List.prefix_append _ _).isInfix
    by_cases hfits : buffer.length ≤ maxHeadBytes
    · rw [List.flatten_cons, ← List.append_assoc] at h ⊢
      rw [readHead_cons hsplit hc.1 hfits, ih hc.2 h]
    · have hlong : maxHeadBytes < (buffer ++ (c :: chunks).flatten).length := by
        rw [List.length_append]
        omega
      rw [readHead.eq_def, hsplit, ofUnended, if_pos hlong]
      simp only [if_pos (Nat.lt_of_not_le hfits)]

theorem readBody_eq (hnil : ∀ c ∈ chunks, c ≠ []) : readBody n buffer chunks =
    if n ≤ (buffer ++ chunks.flatten).length then .ok ((buffer ++ chunks.flatten).take n)
    else .error .incompleteBody := by
  induction chunks generalizing buffer with
  | nil => rw [readBody.eq_def, List.flatten_nil, List.append_nil]
  | cons c chunks ih =>
    obtain ⟨hc, hrest⟩ := List.forall_mem_cons.1 hnil
    rw [readBody.eq_def]
    split
    next hle =>
      have hlong : n ≤ (buffer ++ (c :: chunks).flatten).length := by
        rw [List.length_append]
        omega
      rw [if_pos hlong, List.take_append_of_le_length hle]
    next =>
      obtain ⟨b, c, rfl⟩ := List.exists_cons_of_ne_nil hc
      rw [List.flatten_cons, ← List.append_assoc]
      exact ih hrest

theorem read_eq_ofStream (hnil : ∀ c ∈ chunks, c ≠ []) (hfits : HeadFits chunks.flatten) :
    read chunks = Message.ofStream chunks.flatten := by
  unfold read Message.ofStream
  cases hsplit : splitHead? chunks.flatten with
  | none =>
    rw [readHead_eq_ofUnended hnil (splitHead?_eq_none_iff.1 hsplit), List.nil_append]
    unfold ofUnended
    split
    · rfl
    · split <;> rfl
  | some parts =>
    obtain ⟨head, behind⟩ := parts
    have hhead : IsHead head behind ([] ++ chunks.flatten) := isHead_of_splitHead? hsplit
    obtain ⟨held, rest, hread, rfl, hrest⟩ :=
      exists_readHead hnil hhead (hfits head behind hhead)
    simp only [hread, readBody_eq hrest, bind, Except.bind]
    cases Head.ofBytes head with
    | error e => rfl
    | ok h =>
      by_cases hlength : h.length ≤ (held ++ rest.flatten).length
      · simp only [if_pos hlength]
      · simp only [if_neg hlength]

theorem Message.exists_of_ofStream {m : Message} (h : Message.ofStream stream = .ok (some m)) :
    ∃ head behind n, IsHead head behind stream ∧ Announces (headerLines head) n ∧
      m.body <+: behind ∧ m.body.length = n := by
  unfold Message.ofStream at h
  split at h
  next =>
    unfold ofUnended at h
    split at h
    · cases h
    · split at h <;> cases h
  next head behind hsplit =>
    obtain ⟨g, hhead, h⟩ := Json.bind_eq_ok.1 h
    split at h
    next hlength =>
      cases h
      refine ⟨head, behind, g.length, isHead_of_splitHead? hsplit, Head.announces_length hhead,
        List.take_prefix _ _, ?_⟩
      exact List.length_take_of_le hlength
    next => cases h

/-- Two cuts of one stream give the same result, and the body of a request is as long as announced. -/
theorem read_eq_and_body {chunks chunks' : Chunks} (hfits : HeadFits stream)
    (h : IsCut stream chunks) (h' : IsCut stream chunks') :
    read chunks = read chunks' ∧
      ∀ m, read chunks = .ok (some m) → ∃ head behind n, IsHead head behind stream ∧
        Announces (headerLines head) n ∧ m.body <+: behind ∧ m.body.length = n := by
  have hread : read chunks = Message.ofStream stream := by
    rw [read_eq_ofStream h.ne_nil (h.flatten_eq.symm ▸ hfits), h.flatten_eq]
  have hread' : read chunks' = Message.ofStream stream := by
    rw [read_eq_ofStream h'.ne_nil (h'.flatten_eq.symm ▸ hfits), h'.flatten_eq]
  refine ⟨hread.trans hread'.symm, fun m hm => ?_⟩
  exact Message.exists_of_ofStream (hread.symm.trans hm)

def posted : List UInt8 :=
  Bytes.ofText "POST /api/query/ HTTP/1.1\r\nContent-Length: 2\r\n\r\nhi!!"

theorem read_eq_and_body_posted :
    let inBlankLine : Chunks := [posted.take 46, posted.drop 46]
    let atBody : Chunks := [posted.take 10, (posted.drop 10).take 38, posted.drop 48]
    HeadFits posted ∧ IsCut posted inBlankLine ∧ IsCut posted atBody ∧
      read inBlankLine = read atBody ∧
      ∃ m head behind, read inBlankLine = .ok (some m) ∧ IsHead head behind posted ∧
        Announces (headerLines head) 2 ∧ m.body <+: behind ∧ m.body.length = 2 := by
  intro inBlankLine atBody
  have hfits : HeadFits posted := headFits_of_length_le (by decide +kernel)
  have hcut : IsCut posted inBlankLine :=
    ⟨by decide +kernel, by decide +kernel, by decide +kernel⟩
  have hcut' : IsCut posted atBody :=
    ⟨by decide +kernel, by decide +kernel, by decide +kernel⟩
  have hread : read inBlankLine =
      .ok (some { method := "POST", path := "/api/query", body := Bytes.ofText "hi" }) := by
    decide +kernel
  obtain ⟨heq, hbody⟩ := read_eq_and_body hfits hcut hcut'
  obtain ⟨head, behind, n, hhead, hannounces, hprefix, hlength⟩ := hbody _ hread
  have hn : n = 2 := hlength.symm.trans (by decide +kernel)
  exact ⟨hfits, hcut, hcut', heq, _, head, behind, hread, hhead, hn ▸ hannounces, hprefix,
    hn ▸ hlength⟩

end AskSql.Http
