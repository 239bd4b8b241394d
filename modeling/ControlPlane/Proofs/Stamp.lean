/-
Stored times are read back.

The store writes a time with six digits of fraction and reads it in the strict form.
A time of a year with four digits is read back as it was, up to the digits after the
sixth (`read_storedText`). A year before 0 or after 9999 is written with a sign, and the
strict form has no sign: such a time can be written and not be read.
-/
import ControlPlane.Proofs.Calendar
import ControlPlane.Proofs.Digits

set_option autoImplicit false

namespace ControlPlane

namespace Instant

variable {t : Instant}

/-- A time whose year has four digits, and that lies in a second or in a leap second at
the end of a minute. -/
structure Legible (t : Instant) : Prop where
  /-- The year has four digits. -/
  year : 0 ≤ t.date.year ∧ t.date.year ≤ 9999
  /-- The fraction is that of a second, or of a leap second. -/
  nano : t.nano < nanosPerSecond ∨ (t.nano < 2 * nanosPerSecond ∧ t.second % 60 = 59)

instance (t : Instant) : Decidable t.Legible :=
  decidable_of_iff
    ((0 ≤ t.date.year ∧ t.date.year ≤ 9999) ∧
      (t.nano < nanosPerSecond ∨ (t.nano < 2 * nanosPerSecond ∧ t.second % 60 = 59)))
    ⟨fun h => ⟨h.1, h.2⟩, fun h => ⟨h.year, h.nano⟩⟩

/-- A time without the digits after the sixth. -/
def micros (t : Instant) : Instant := ⟨t.second, t.nano / 1000 * 1000⟩

/-- The second of the minute; 60 is a leap second. -/
def secondOfMinute (t : Instant) : Nat := t.secondOfDay % 60 + t.nano / nanosPerSecond

theorem secondOfDay_lt (t : Instant) : t.secondOfDay < 86400 := by
  unfold secondOfDay secondsPerDay
  omega

theorem Legible.secondOfMinute_le (h : t.Legible) : t.secondOfMinute ≤ 60 := by
  have hnano := h.nano
  unfold secondOfMinute secondOfDay secondsPerDay
  unfold nanosPerSecond at hnano ⊢
  omega

/-- A leap second is the second number 60, and nothing else is. -/
theorem Legible.secondOfMinute_eq_iff (h : t.Legible) :
    t.secondOfMinute = 60 ↔ nanosPerSecond ≤ t.nano := by
  have hnano := h.nano
  unfold secondOfMinute secondOfDay secondsPerDay
  unfold nanosPerSecond at hnano ⊢
  omega

/-- The characters of a stored time, part by part. -/
theorem storedText_toList (h : t.Legible) :
    t.storedText.toList =
      Integer.padded 4 t.date.year.toNat ++ ('-' :: (Integer.padded 2 t.date.month ++
        ('-' :: (Integer.padded 2 t.date.day ++ ('T' ::
          (Integer.padded 2 (t.secondOfDay / 3600) ++ (':' ::
            (Integer.padded 2 (t.secondOfDay / 60 % 60) ++ (':' ::
              (Integer.padded 2 t.secondOfMinute ++ ('.' ::
                (Integer.padded 6 (t.fraction / 1000) ++ ['Z'])))))))))))) := by
  have hyear : Date.yearChars t.date.year = Integer.padded 4 t.date.year.toNat := by
    rw [Date.yearChars, if_pos h.year]
  unfold storedText charsWith clockChars Date.chars
  rw [hyear, String.toList_ofList]
  simp only [List.append_assoc, List.cons_append]
  rfl

end Instant

namespace Stamp

variable {t : Instant}

/-- The six digits of a fraction are read back as nanoseconds. -/
theorem fraction_padded {n : Nat} (hn : n < Integer.tenTo 6) :
    fraction ('.' :: (Integer.padded 6 n ++ ['Z'])) = .ok (n * 1000, ['Z']) := by
  have hlength := Integer.length_padded (by decide) hn
  have hdigits : ∀ c ∈ Integer.padded 6 n, c.isDigit = true :=
    fun c hc => Integer.isDigit_of_mem_padded hc
  -- the digits stop at the letter
  have htake := takeDigits_stop hdigits (rfl : 'Z'.isDigit = false) [] 2
  rw [hlength] at htake
  have hnumber : number 1 (some 9) (Integer.padded 6 n ++ ['Z']) = .ok (n, ['Z']) := by
    have hbytes := length_le_byteCount (Integer.padded 6 n ++ ['Z'])
    rw [List.length_append, hlength] at hbytes
    unfold number
    rw [if_neg (by omega), htake]
    simp only [hlength, Integer.valueOf_padded]
    rfl
  have hfront : (Integer.padded 6 n ++ ['Z']).take 6 = Integer.padded 6 n :=
    List.take_left' hlength
  unfold fraction
  simp only [hnumber, bind, Except.bind, List.length_append, hlength, List.length_singleton,
    Nat.add_sub_cancel, hfront, Integer.valueOf_padded]
  rfl

/-- The parts of a stored time are read back. -/
theorem strictParts_storedText (h : t.Legible) :
    strictParts t.storedText.toList =
      .ok (⟨t.date, t.secondOfDay / 3600, t.secondOfDay / 60 % 60, t.secondOfMinute,
        t.fraction / 1000 * 1000, 0⟩, []) := by
  have hday := t.secondOfDay_lt
  obtain ⟨hmonth, hmonth'⟩ := Date.ofDayNumber_month t.dayNumber
  obtain ⟨hdate, hdate'⟩ := Date.ofDayNumber_day t.dayNumber
  have hyear := h.year
  have hsecond := h.secondOfMinute_le
  have hfraction : t.fraction / 1000 < Integer.tenTo 6 := by
    change t.nano % 1000000000 / 1000 < 1000000
    omega
  have htwo : Integer.tenTo 2 = 100 := rfl
  have hfour : Integer.tenTo 4 = 10000 := rfl
  -- each part is read whatever follows it, so the readings go one after the other
  have hyearRead : ∀ rest, number 4 (some 4) (Integer.padded 4 t.date.year.toNat ++ rest) =
      .ok (t.date.year.toNat, rest) := number_padded (by decide) (by omega)
  have hmonthRead : ∀ rest, bounded 2 2 1 12 (Integer.padded 2 t.date.month ++ rest) =
      .ok (t.date.month, rest) :=
    bounded_padded (by decide) (Nat.lt_of_le_of_lt hmonth' (by decide)) hmonth hmonth'
  have hdateRead : ∀ rest, bounded 2 2 1 31 (Integer.padded 2 t.date.day ++ rest) =
      .ok (t.date.day, rest) :=
    bounded_padded (by decide) (Nat.lt_of_le_of_lt hdate' (by decide)) hdate hdate'
  have hhourRead : ∀ rest, bounded 2 2 0 23 (Integer.padded 2 (t.secondOfDay / 3600) ++ rest) =
      .ok (t.secondOfDay / 3600, rest) :=
    bounded_padded (by decide) (by omega) (Nat.zero_le _) (by omega)
  have hminuteRead : ∀ rest,
      bounded 2 2 0 59 (Integer.padded 2 (t.secondOfDay / 60 % 60) ++ rest) =
        .ok (t.secondOfDay / 60 % 60, rest) :=
    bounded_padded (by decide) (by omega) (Nat.zero_le _) (by omega)
  have hsecondRead : ∀ rest, bounded 2 2 0 60 (Integer.padded 2 t.secondOfMinute ++ rest) =
      .ok (t.secondOfMinute, rest) :=
    bounded_padded (by decide) (by omega) (Nat.zero_le _) hsecond
  have hzone : offset (expect ':') ['Z'] = .ok (0, []) := rfl
  have hyearValue : ((t.date.year.toNat : Nat) : Int) = t.date.year := Int.toNat_of_nonneg hyear.1
  rw [Instant.storedText_toList h]
  unfold strictParts
  simp only [hyearRead, hmonthRead, hdateRead, hhourRead, hminuteRead, hsecondRead,
    fraction_padded hfraction, hzone, expect, separator, bind, Except.bind, if_true, true_or,
    hyearValue]
  rfl

/-- The seconds of a day and a time of day make up the time. -/
theorem second_eq (t : Instant) :
    t.second = t.second / 86400 * Instant.secondsPerDay + (t.secondOfDay / 3600 : Nat) * 3600 +
      (t.secondOfDay / 60 % 60 : Nat) * 60 + (t.secondOfDay % 60 : Nat) := by
  unfold Instant.secondOfDay Instant.secondsPerDay
  omega

/-- The parts of a time stand for the time, without the digits after the sixth. -/
theorem instant?_parts (h : t.Legible) :
    Parts.instant? ⟨t.date, t.secondOfDay / 3600, t.secondOfDay / 60 % 60, t.secondOfMinute,
        t.fraction / 1000 * 1000, 0⟩ = .ok t.micros := by
  have hyear := h.year
  have hvalid : t.date.isValid = true := Date.ofDayNumber_isValid t.dayNumber
  have hnumber : t.date.dayNumber = t.second / 86400 := Date.dayNumber_ofDayNumber _
  have hrange : ¬ (t.date.year < Date.firstYear ∨ Date.lastYear < t.date.year ∨
      (!t.date.isValid) = true) := by
    rw [hvalid]
    unfold Date.firstYear Date.lastYear
    simp only [Bool.not_true, Bool.false_eq_true, or_false]
    omega
  have hoffset : ¬ ((0 : Int) ≤ -86400 ∨ (86400 : Int) ≤ 0) := by decide
  have hsecond := second_eq t
  have hnano := h.nano
  have hleap := h.secondOfMinute_eq_iff
  unfold Parts.instant?
  rw [if_neg hrange, if_neg hoffset]
  simp only [hnumber]
  by_cases hsixty : t.secondOfMinute = 60
  · -- a leap second: it is counted as the second before it, and a second more of nanoseconds
    have hnanos := hleap.1 hsixty
    have hone : t.nano / Instant.nanosPerSecond = 1 := by
      unfold Instant.nanosPerSecond at hnano hnanos ⊢
      omega
    have hlast : t.secondOfDay % 60 = 59 := by
      unfold Instant.secondOfMinute at hsixty
      omega
    have hfraction : t.fraction / 1000 * 1000 + Instant.nanosPerSecond = t.nano / 1000 * 1000 := by
      unfold Instant.fraction
      unfold Instant.nanosPerSecond at hnano hnanos ⊢
      omega
    rw [hlast] at hsecond
    rw [if_pos hsixty, if_pos hsixty, hfraction, Int.sub_zero]
    unfold Instant.micros
    congr 2
    exact hsecond.symm
  · have hnanos : t.nano < Instant.nanosPerSecond := by
      rcases Nat.lt_or_ge t.nano Instant.nanosPerSecond with hlt | hge
      · exact hlt
      · exact absurd (hleap.2 hge) hsixty
    have hsame : t.secondOfMinute = t.secondOfDay % 60 := by
      unfold Instant.secondOfMinute
      rw [Nat.div_eq_of_lt hnanos, Nat.add_zero]
    have hfraction : t.fraction = t.nano := Nat.mod_eq_of_lt hnanos
    rw [if_neg hsixty, if_neg hsixty, hfraction, hsame, Int.sub_zero]
    unfold Instant.micros
    congr 2
    exact hsecond.symm

/-- **Stored times are read back**, without the digits after the sixth. -/
theorem read_storedText (h : t.Legible) : read t.storedText = .ok t.micros := by
  unfold read readChars
  rw [strictParts_storedText h]
  simp only [bind, Except.bind, List.isEmpty_nil, if_true]
  exact instant?_parts h

end Stamp

end ControlPlane
