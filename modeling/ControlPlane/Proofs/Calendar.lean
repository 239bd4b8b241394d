/-
Days and dates.

`Date.ofDayNumber` estimates the year from the mean length of a year, and corrects it.
The estimate is off by at most one (`yearOf_spec`), so the corrected year is the one
whose days contain the day. From there on month and day are a walk through the lengths
of the months (`monthAndDay_spec`). The result is a day that there is, and its number
is the number one started from (`dayNumber_ofDayNumber`).
-/
import ControlPlane.Time.Calendar

set_option autoImplicit false

namespace ControlPlane

namespace Date

/-! ## Years -/

/-- The length of a year. -/
def yearLength (year : Int) : Nat := if isLeap year then 366 else 365

/-- Every fourth year is a leap year, but of the full centuries every fourth one. -/
theorem isLeap_iff (year : Int) :
    isLeap year = true ↔ year % 4 = 0 ∧ (year % 100 ≠ 0 ∨ year % 400 = 0) := by
  simp [isLeap]

/-- The days before a year are those of the years before it, and their leap days. -/
theorem daysBeforeYear_eq (year : Int) :
    daysBeforeYear year =
      365 * (year - 1) + (year - 1) / 4 - (year - 1) / 100 + (year - 1) / 400 := rfl

/-- The next year begins after all days of the year. -/
theorem daysBeforeYear_succ (year : Int) :
    daysBeforeYear (year + 1) = daysBeforeYear year + yearLength year := by
  rw [daysBeforeYear_eq, daysBeforeYear_eq]
  unfold yearLength
  by_cases h : isLeap year = true
  · rw [if_pos h]
    rw [isLeap_iff] at h
    omega
  · rw [if_neg h]
    rw [isLeap_iff] at h
    omega

/-- The estimate of the year is off by at most one. -/
theorem estimate_spec (n : Int) :
    daysBeforeYear (n * 400 / 146097) ≤ n ∧ n < daysBeforeYear (n * 400 / 146097 + 3) := by
  rw [daysBeforeYear_eq, daysBeforeYear_eq]
  omega

/-- A day lies in its year. -/
theorem yearOf_spec (n : Int) :
    daysBeforeYear (yearOf n) ≤ n ∧ n < daysBeforeYear (yearOf n + 1) := by
  obtain ⟨hlow, hhigh⟩ := estimate_spec n
  unfold yearOf
  simp only
  -- the guess is one too late, one too early, or right
  by_cases hbefore : n < daysBeforeYear (n * 400 / 146097 + 1)
  · rw [if_pos hbefore, Int.add_sub_cancel]
    exact ⟨hlow, hbefore⟩
  · rw [if_neg hbefore]
    by_cases hafter : daysBeforeYear (n * 400 / 146097 + 1 + 1) ≤ n
    · rw [if_pos hafter]
      refine ⟨hafter, ?_⟩
      have hthree : n * 400 / 146097 + 1 + 1 + 1 = n * 400 / 146097 + 3 := by omega
      rw [hthree]
      exact hhigh
    · rw [if_neg hafter]
      exact ⟨Int.not_lt.1 hbefore, Int.not_le.1 hafter⟩

/-! ## Months -/

/-- The months make up the year. -/
theorem total_monthLengths (year : Int) :
    Integer.total (monthLengths (isLeap year)) = yearLength year := by
  unfold yearLength
  cases isLeap year with
  | true => rfl
  | false => rfl

/-- The walk through the months ends in the month in which the day lies. -/
theorem monthAndDay_spec {lengths : List Nat} {n : Nat} (hn : n < Integer.total lengths)
    (month : Nat) :
    ∃ i d, monthAndDay lengths month n = (month + i, d + 1) ∧ i < lengths.length ∧
      d < (lengths[i]?).getD 0 ∧ Integer.total (lengths.take i) + d = n := by
  -- on the months that are left; each month passed takes its days off the number
  induction lengths generalizing n month with
  | nil => exact absurd hn (Nat.not_lt_zero n)
  | cons length rest ih =>
      rw [monthAndDay]
      by_cases hlt : n < length
      · rw [if_pos hlt]
        exact ⟨0, n, rfl, Nat.succ_pos _, hlt, Nat.zero_add n⟩
      · rw [if_neg hlt]
        have hrest : n - length < Integer.total rest := by
          rw [Integer.total] at hn
          omega
        obtain ⟨i, d, hwalk, hi, hd, htotal⟩ := ih hrest (month + 1)
        refine ⟨i + 1, d, ?_, Nat.succ_lt_succ hi, hd, ?_⟩
        · rw [hwalk]
          congr 1
          omega
        · rw [List.take_succ_cons, Integer.total]
          omega

/-! ## Dates -/

/-- The day of the year, counted from zero. -/
def dayOfYear (n : Int) : Nat := (n - daysBeforeYear (yearOf n)).toNat

/-- A day of the year lies within the year. -/
theorem dayOfYear_lt (n : Int) : dayOfYear n < yearLength (yearOf n) := by
  obtain ⟨hlow, hhigh⟩ := yearOf_spec n
  rw [daysBeforeYear_succ] at hhigh
  unfold dayOfYear
  omega

/-- The parts of the date of a day. -/
theorem ofDayNumber_spec (n : Int) :
    ∃ i d, ofDayNumber n = ⟨yearOf (n + epoch), i + 1, d + 1⟩ ∧ i < 12 ∧
      d < monthLength (yearOf (n + epoch)) (i + 1) ∧
      daysBeforeMonth (yearOf (n + epoch)) (i + 1) + d = dayOfYear (n + epoch) := by
  have hday := dayOfYear_lt (n + epoch)
  rw [← total_monthLengths] at hday
  obtain ⟨i, d, hwalk, hi, hd, htotal⟩ := monthAndDay_spec hday 1
  refine ⟨i, d, ?_, ?_, hd, htotal⟩
  · unfold ofDayNumber
    unfold dayOfYear at hwalk
    simp only [hwalk]
    congr 1
    omega
  · have hlength : (monthLengths (isLeap (yearOf (n + epoch)))).length = 12 := by
      cases isLeap (yearOf (n + epoch)) with
      | true => rfl
      | false => rfl
    omega

/-- No month has more than 31 days. -/
theorem monthLength_le (year : Int) (month : Nat) : monthLength year month ≤ 31 := by
  unfold monthLength
  split
  · omega
  · next m =>
      have hall : ∀ leap : Bool, ∀ length ∈ monthLengths leap, length ≤ 31 := by decide
      cases hget : (monthLengths (isLeap year))[m]? with
      | none => exact Nat.zero_le _
      | some length => exact hall _ length (List.mem_of_getElem? hget)

/-- The date of a day is a day that there is. -/
theorem ofDayNumber_isValid (n : Int) : (ofDayNumber n).isValid = true := by
  obtain ⟨i, d, hdate, _, hd, _⟩ := ofDayNumber_spec n
  rw [hdate, isValid]
  simp only [Bool.and_eq_true, decide_eq_true_eq]
  exact ⟨Nat.le_add_left 1 d, hd⟩

/-- The date of a day has a month that there is. -/
theorem ofDayNumber_month (n : Int) :
    1 ≤ (ofDayNumber n).month ∧ (ofDayNumber n).month ≤ 12 := by
  obtain ⟨i, d, hdate, hi, _, _⟩ := ofDayNumber_spec n
  rw [hdate]
  exact ⟨Nat.le_add_left 1 i, hi⟩

/-- The date of a day has a day that a month can have. -/
theorem ofDayNumber_day (n : Int) : 1 ≤ (ofDayNumber n).day ∧ (ofDayNumber n).day ≤ 31 := by
  obtain ⟨i, d, hdate, _, hd, _⟩ := ofDayNumber_spec n
  have hle := monthLength_le (yearOf (n + epoch)) (i + 1)
  rw [hdate]
  exact ⟨Nat.le_add_left 1 d, Nat.le_trans hd hle⟩

/-- **Days and dates.** The date of a day number has that day number. -/
theorem dayNumber_ofDayNumber (n : Int) : (ofDayNumber n).dayNumber = n := by
  obtain ⟨i, d, hdate, _, _, htotal⟩ := ofDayNumber_spec n
  obtain ⟨hlow, _⟩ := yearOf_spec (n + epoch)
  have hyear : (dayOfYear (n + epoch) : Int) =
      n + epoch - daysBeforeYear (yearOf (n + epoch)) := by
    unfold dayOfYear
    omega
  rw [hdate]
  unfold dayNumber
  simp only
  rw [← htotal] at hyear
  push_cast at hyear ⊢
  omega

end Date

end ControlPlane
