import Mathlib.Data.Int.Init
import Mathlib.Tactic.IntervalCases
import Mathlib.Tactic.SplitIfs
import AskSql.Time.Instant

namespace AskSql

namespace Date

theorem marchYear_bounds (day : Int) :
    marchDay (marchYear day) ≤ day ∧ day < marchDay (marchYear day + 1) := by
  unfold marchYear marchDay
  dsimp only
  split_ifs <;> omega

def daysInYear (year : Int) : Nat := if isLeap year then 366 else 365

theorem daysInYear_bounds (year : Int) : 365 ≤ daysInYear year ∧ daysInYear year ≤ 366 := by
  unfold daysInYear
  split <;> decide

theorem marchDay_succ (year : Int) :
    marchDay (year + 1) = marchDay year + daysInYear (year + 1) := by
  have hleap : isLeap (year + 1) = true ↔
      (year + 1) % 4 = 0 ∧ ((year + 1) % 100 ≠ 0 ∨ (year + 1) % 400 = 0) := by simp [isLeap]
  unfold marchDay daysInYear
  split <;> rename_i h <;> rw [hleap] at h <;> omega

theorem marchDay_mono {x y : Int} (h : x ≤ y) : marchDay x ≤ marchDay y := by
  induction y, h using Int.leInduction with
  | base => exact Int.le_refl _
  | succ y _ ih =>
    rw [marchDay_succ]
    omega

/-- The year of a day from its first of March on, the days and the months since then. -/
theorem exists_ofDays_eq (days : Int) : ∃ (year : Int) (rest m : Nat),
    days + epochDay = marchDay year + rest ∧ rest < daysInYear (year + 1) ∧ m ≤ 11 ∧
      153 * m ≤ 5 * rest + 2 ∧ 5 * rest + 2 < 153 * (m + 1) ∧
      ofDays days = ⟨if m < 10 then year else year + 1, if m < 10 then m + 3 else m - 9,
        rest - monthDay m + 1⟩ := by
  obtain ⟨hlow, hhigh⟩ := marchYear_bounds (days + epochDay)
  rw [marchDay_succ] at hhigh
  have hyear := daysInYear_bounds (marchYear (days + epochDay) + 1)
  refine ⟨_, _, _, ?_, ?_, ?_, ?_, ?_, rfl⟩ <;> omega

theorem toDays_ofDays (days : Int) : (ofDays days).toDays = days := by
  obtain ⟨year, rest, m, hday, -, hm, hlow, -, hdate⟩ := exists_ofDays_eq days
  have hmonth : monthDay m ≤ rest := by
    unfold monthDay
    omega
  rw [hdate]
  unfold toDays
  by_cases hlate : m < 10
  · have hearly : ¬m + 3 ≤ 2 := by omega
    simp only [if_pos hlate, if_neg hearly, Nat.add_sub_cancel]
    omega
  · have hearly : m - 9 ≤ 2 := by omega
    have hback : m - 9 + 9 = m := by omega
    simp only [if_neg hlate, if_pos hearly, Int.add_sub_cancel, hback]
    omega

theorem daysIn_le (year : Int) (month : Nat) : daysIn year month ≤ 31 := by
  unfold daysIn
  split_ifs <;> decide

theorem isValid_ofDays (days : Int) : (ofDays days).isValid = true := by
  obtain ⟨year, rest, m, -, hrest, hm, -, hhigh, hdate⟩ := exists_ofDays_eq days
  -- Of the twelve months only the last one of the year from March depends on the year.
  have hlength : rest - monthDay m + 1 ≤
      daysIn (if m < 10 then year else year + 1) (if m < 10 then m + 3 else m - 9) := by
    unfold daysInYear at hrest
    interval_cases m <;> simp [monthDay, daysIn] <;> split_ifs at hrest ⊢ <;> omega
  rw [hdate]
  simp only [isValid, Bool.and_eq_true, decide_eq_true_eq]
  refine ⟨⟨⟨?_, ?_⟩, Nat.le_add_left ..⟩, hlength⟩ <;> split <;> omega

theorem year_ofDays_bounds {first last days : Int} (hfirst : toDays ⟨first, 1, 1⟩ ≤ days)
    (hlast : days ≤ toDays ⟨last, 12, 31⟩) :
    first ≤ (ofDays days).year ∧ (ofDays days).year ≤ last := by
  obtain ⟨year, rest, m, hday, hrest, -, hlow, hhigh, hdate⟩ := exists_ofDays_eq days
  have hstart : toDays ⟨first, 1, 1⟩ = marchDay (first - 1) + 306 - epochDay := by
    simp [toDays, monthDay]
  have hend : toDays ⟨last, 12, 31⟩ = marchDay last + 305 - epochDay := by
    simp [toDays, monthDay]
    omega
  rw [hdate]
  dsimp only
  constructor
  · by_contra hyear
    split at hyear
    · have := marchDay_mono (show year ≤ first - 1 by omega)
      omega
    · have := marchDay_mono (show year + 1 ≤ first - 1 by omega)
      have := marchDay_succ year
      omega
  · by_contra hyear
    split at hyear
    · have := marchDay_mono (show last + 1 ≤ year by omega)
      have := marchDay_succ last
      have := daysInYear_bounds (last + 1)
      omega
    · have := marchDay_mono (show last ≤ year by omega)
      omega

end Date

open Time

theorem Instant.year_date (i : Instant) : minYear ≤ i.date.year ∧ i.date.year ≤ maxYear := by
  obtain ⟨hlow, hhigh⟩ := i.inRange
  unfold firstSecond secondsPerDay at hlow
  unfold lastSecond secondsPerDay at hhigh
  unfold date days secondsPerDay
  apply Date.year_ofDays_bounds <;> omega

end AskSql
