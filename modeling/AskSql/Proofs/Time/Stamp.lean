import Mathlib.Tactic.SplitIfs
import AskSql.Proofs.Runs
import AskSql.Proofs.Time.Calendar
import AskSql.Proofs.Unicode
import AskSql.Time.Stamp

namespace AskSql.Stamp

open Time

theorem isDigit_of_mem_padded {width n : Nat} {c : Char} (h : c ∈ padded width n) :
    c.isDigit = true := by
  rcases List.mem_append.1 h with h | h
  · rw [List.eq_of_mem_replicate h]
    rfl
  · exact Unicode.isDigit_of_mem_toDigits h

theorem length_padded {width n : Nat} (hwidth : 0 < width) (h : n < 10 ^ width) :
    (padded width n).length = width := by
  have hlength := (Nat.length_toDigits_le_iff (by decide) hwidth).2 h
  simp only [padded, List.length_append, List.length_replicate]
  omega

theorem padded_ne_nil (width n : Nat) : padded width n ≠ [] :=
  List.append_ne_nil_of_right_ne_nil _ Nat.toDigits_ne_nil

theorem number_padded (width n : Nat) : number (padded width n) = n := by
  have hzeros (k : Nat) : Nat.ofDigitChars 10 (List.replicate k '0') 0 = 0 := by
    induction k with
    | zero => rfl
    | succ k ih =>
      rw [List.replicate_succ, Nat.ofDigitChars_cons]
      exact ih
  rw [number, padded, Nat.ofDigitChars_append, hzeros, Nat.ofDigitChars_ten_toDigits]

section

variable {α β : Type} {p : Scan α} {f : α → Scan β} {s t : List Char} {a : α}

theorem run_bind (h : p.run s = some (a, t)) : (p >>= f).run s = (f a).run t := by
  rw [StateT.run_bind, h]
  rfl

theorem run_blanks {c : Char} (h : Unicode.isBlank c = false) (s : List Char) :
    blanks.run (c :: s) = some ((), c :: s) := by
  change some ((), Text.trimStart (c :: s)) = _
  rw [Text.trimStart_cons h]

theorem run_char {accepts : Char → Bool} {c : Char} (h : accepts c = true) (s : List Char) :
    (char accepts).run (c :: s) = some (c, s) := by simp [char, h]

theorem run_separator {c : Char} (h : Unicode.isBlank c = false) (s : List Char) :
    (separator c).run (c :: s) = some ((), s) := by
  rw [separator, run_bind (run_blanks h s), run_bind (run_char (by simp) s)]
  rfl

theorem run_digits {most : Nat} {ds t : List Char} (hne : ds ≠ [])
    (hdigits : ∀ c ∈ ds, c.isDigit = true) (hmost : ds.length ≤ most)
    (ht : ds.length = most ∨ ∀ c ∈ t.head?, c.isDigit = false) :
    (digits most).run (ds ++ t) = some (ds, t) := by
  have htake : ((ds ++ t).take most).takeWhile Char.isDigit = ds := by
    rw [List.take_append, List.take_of_length_le hmost]
    refine Text.takeWhile_append_eq hdigits fun c hc => ?_
    rcases ht with ht | ht
    · simp [ht] at hc
    · cases t with
      | nil => simp at hc
      | cons d t =>
        cases hk : most - ds.length with
        | zero => simp [hk] at hc
        | succ k =>
          rw [hk] at hc
          exact ht c hc
  rw [digits, run_bind (a := ds ++ t) rfl]
  dsimp only
  rw [htake]
  simp [hne]

theorem run_blanks_padded (width n : Nat) (t : List Char) :
    blanks.run (padded width n ++ t) = some ((), padded width n ++ t) := by
  obtain ⟨c, ds, hds⟩ := List.exists_cons_of_ne_nil (padded_ne_nil width n)
  have hdigit : c.isDigit = true := isDigit_of_mem_padded (hds ▸ List.mem_cons_self)
  have hblank : Unicode.isBlank c = false :=
    Unicode.forall_digit (P := fun c => Unicode.isBlank c = false) (by decide) hdigit
  rw [hds, List.cons_append]
  exact run_blanks hblank _

theorem run_digits_padded {width n : Nat} (hwidth : 0 < width) (h : n < 10 ^ width)
    (t : List Char) : (digits width).run (padded width n ++ t) = some (padded width n, t) := by
  have hlength := length_padded hwidth h
  exact run_digits (padded_ne_nil width n) (fun _ => isDigit_of_mem_padded) (Nat.le_of_eq hlength)
    (.inl hlength)

theorem run_small {least greatest n : Nat} (hleast : least ≤ n) (hgreatest : n ≤ greatest)
    (h : n < 10 ^ 2) (t : List Char) :
    (small least greatest).run (padded 2 n ++ t) = some (n, t) := by
  rw [small, run_bind (run_blanks_padded 2 n t), run_bind (run_digits_padded (by decide) h t),
    number_padded, if_pos ⟨hleast, hgreatest⟩]
  rfl

theorem padded_append_ne {width n : Nat} {c : Char} (hc : c.isDigit = false) (s t : List Char) :
    padded width n ++ s ≠ c :: t := by
  intro h
  obtain ⟨d, ds, hds⟩ := List.exists_cons_of_ne_nil (padded_ne_nil width n)
  have hdigit : d.isDigit = true := isDigit_of_mem_padded (hds ▸ List.mem_cons_self)
  rw [hds, List.cons_append] at h
  rw [(List.cons.inj h).1, hc] at hdigit
  cases hdigit

theorem run_year (y : Int) {c : Char} (hc : c.isDigit = false) (t : List Char) :
    year.run (yearText y ++ c :: t) = some (y, c :: t) := by
  have hrun : digitRun.run (padded 4 y.natAbs ++ c :: t) = some (padded 4 y.natAbs, c :: t) := by
    rw [digitRun, run_bind (a := padded 4 y.natAbs ++ c :: t) rfl]
    refine run_digits (padded_ne_nil _ _) (fun _ => isDigit_of_mem_padded) (by simp) (.inr ?_)
    rintro _ ⟨⟩
    exact hc
  unfold yearText
  split_ifs with hfour hneg
  · rw [year, run_bind (run_blanks_padded ..), run_bind (a := padded 4 y.natAbs ++ c :: t) rfl]
    -- No sign stands in front of a year of four digits.
    split
    · rename_i h
      exact absurd h (padded_append_ne (by decide) _ _)
    · rename_i h
      exact absurd h (padded_append_ne (by decide) _ _)
    · rw [run_bind (run_digits_padded (by decide) (by omega) _), number_padded,
        Int.natAbs_of_nonneg hfour.1]
      rfl
  · rw [List.cons_append, year, run_bind (run_blanks (by decide) _)]
    simp [hrun, number_padded, abs_of_neg hneg]
  · rw [List.cons_append, year, run_bind (run_blanks (by decide) _)]
    simp [hrun, number_padded, Int.not_lt.1 hneg]

theorem run_date {d : Date} (hvalid : d.isValid = true) (hlow : minYear ≤ d.year)
    (hhigh : d.year ≤ maxYear) (t : List Char) : date.run (dateText d ++ t) = some (d, t) := by
  have hbounds := hvalid
  simp only [Date.isValid, Bool.and_eq_true, decide_eq_true_eq] at hbounds
  obtain ⟨⟨hmonth, hday⟩, hlength⟩ := hbounds
  have hday' : d.day ≤ 31 := Nat.le_trans hlength (Date.daysIn_le d.year d.month)
  have htext : dateText d ++ t =
      yearText d.year ++ '-' :: (padded 2 d.month ++ '-' :: (padded 2 d.day ++ t)) := by
    simp [dateText]
  rw [htext, date, run_bind (run_year d.year (by decide) _), run_bind (run_separator (by decide) _),
    run_bind (run_small hmonth.1 hmonth.2 (by omega) _), run_bind (run_separator (by decide) _),
    run_bind (run_small hday hday' (by omega) _), if_pos ⟨hlow, hhigh, hvalid⟩]
  rfl

theorem run_fraction {n : Nat} (h : n < nanosPerSecond) {c : Char} (hc : c.isDigit = false)
    (hpoint : c ≠ '.') (t : List Char) :
    fraction.run (fractionText n ++ c :: t) = some (n, c :: t) := by
  have hrun {width m : Nat} (hwidth : 0 < width) (hnine : width ≤ 9) (hm : m < 10 ^ width) :
      fraction.run ('.' :: (padded width m ++ c :: t)) = some (m * 10 ^ (9 - width), c :: t) := by
    have hlength := length_padded hwidth hm
    have hdigits : (digits 9).run (padded width m ++ c :: t) = some (padded width m, c :: t) := by
      refine run_digits (padded_ne_nil _ _) (fun _ => isDigit_of_mem_padded) (by omega) (.inr ?_)
      rintro _ ⟨⟩
      exact hc
    simp [fraction, hdigits, hc, number_padded, hlength]
  unfold nanosPerSecond at h
  unfold fractionText
  split_ifs with hzero hmilli hmicro
  · simp [fraction, hpoint, hzero]
  · rw [List.cons_append, hrun (by decide) (by decide) (by omega)]
    change some (n / 1000000 * 1000000, _) = _
    rw [Nat.div_mul_cancel (Nat.dvd_of_mod_eq_zero hmilli)]
  · rw [List.cons_append, hrun (by decide) (by decide) (by omega)]
    change some (n / 1000 * 1000, _) = _
    rw [Nat.div_mul_cancel (Nat.dvd_of_mod_eq_zero hmicro)]
  · rw [List.cons_append, hrun (by decide) (by decide) (by omega)]
    change some (n * 1, _) = _
    rw [Nat.mul_one]

theorem secondOfMinute (i : Instant) :
    i.secondOfDay % 60 + (if i.isLeap then 1 else 0) ≤ 60 ∧
      min (i.secondOfDay % 60 + if i.isLeap then 1 else 0) 59 = i.secondOfDay % 60 ∧
      i.nanos % nanosPerSecond + (if i.secondOfDay % 60 + (if i.isLeap then 1 else 0) = 60 then
        nanosPerSecond else 0) = i.nanos := by
  have hnanos := i.nanos_lt
  have hlast : nanosPerSecond ≤ i.nanos → i.secondOfDay % 60 = 59 := fun h => by
    have := i.leap h
    unfold Instant.secondOfDay secondsPerDay
    omega
  have hleap : i.isLeap = true ↔ nanosPerSecond ≤ i.nanos := decide_eq_true_iff
  unfold nanosPerSecond at *
  split <;> rename_i h <;> rw [hleap] at h
  · have := hlast h
    rw [if_pos (by omega)]
    omega
  · rw [if_neg (by omega)]
    omega

theorem run_time (i : Instant) {c : Char} (hc : c.isDigit = false) (hpoint : c ≠ '.')
    (t : List Char) :
    time.run (timeText i ++ c :: t) = some ((i.secondOfDay, i.nanos), c :: t) := by
  have hday : i.secondOfDay < 86400 := by
    unfold Instant.secondOfDay secondsPerDay
    omega
  obtain ⟨hsecond, hmin, hnanos⟩ := secondOfMinute i
  have htext : timeText i ++ c :: t = padded 2 (i.secondOfDay / 3600) ++
      ':' :: (padded 2 (i.secondOfDay / 60 % 60) ++
        ':' :: (padded 2 (i.secondOfDay % 60 + if i.isLeap then 1 else 0) ++
          (fractionText (i.nanos % nanosPerSecond) ++ c :: t))) := by
    simp [timeText]
  rw [htext, time, run_bind (run_small (Nat.zero_le _) (by omega) (by omega) _),
    run_bind (run_separator (by decide) _),
    run_bind (run_small (Nat.zero_le _) (by omega) (by omega) _),
    run_bind (run_separator (by decide) _),
    run_bind (run_small (Nat.zero_le _) hsecond (by omega) _),
    run_bind (run_fraction (Nat.mod_lt _ (by decide)) hc hpoint t), hmin, hnanos]
  have hclock : i.secondOfDay / 3600 * 3600 + i.secondOfDay / 60 % 60 * 60 + i.secondOfDay % 60 =
      i.secondOfDay := by omega
  rw [hclock]
  rfl

theorem run_offset : offset.run ['Z'] = some (0, []) := by
  rw [offset, run_bind (run_blanks (by decide) _)]
  simp [run_char]

theorem instant_run (i : Instant) : instant.run (chars i) = some (i, []) := by
  have htext : chars i = dateText i.date ++ 'T' :: (timeText i ++ ['Z']) := by simp [chars]
  have hvalid : i.date.isValid = true := Date.isValid_ofDays i.days
  obtain ⟨hlow, hhigh⟩ := i.year_date
  have hsecond : i.date.toDays * secondsPerDay + i.secondOfDay - 0 = i.seconds := by
    rw [Instant.date, Date.toDays_ofDays]
    unfold Instant.days Instant.secondOfDay secondsPerDay
    omega
  have hmake : Instant.make? i.seconds i.nanos = some i :=
    dif_pos ⟨i.inRange, i.nanos_lt, i.leap⟩
  rw [htext, instant, run_bind (run_date hvalid hlow hhigh _), run_bind (run_char (by decide) _),
    run_bind (run_time i (by decide) (by decide) []), run_bind run_offset,
    run_bind (a := ()) (t := []) rfl, hsecond, hmake]
  rfl

end

end AskSql.Stamp

namespace AskSql

theorem Instant.ofText?_text (i : Instant) : Instant.ofText? i.text = some i := by
  rw [ofText?, text, String.toList_ofList, Stamp.read?, Stamp.instant_run]

end AskSql
