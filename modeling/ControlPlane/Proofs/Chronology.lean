/-
Texts in the order of time.

Queries compare times as texts. The parts of a stored time have fixed widths and stand in
the order of their weight, so of two texts the one that is smaller as a word is smaller as
a number in the first part in which they differ (`padded_append_lt_iff`). The date comes
first, and dates are ordered as their days are (`Date.precedes_iff`). Hence texts of legible
times are ordered as the times are, up to the digits after the sixth (`storedText_lt_iff`).

A year that has not four digits is written with a sign, and a sign stands before all digits.
Such a text is before every legible one: right for a year before 0, wrong for a year after
9999 (`storedText_lt_iff_of_year_le`, `not_storedText_lt`).
-/
import ControlPlane.Proofs.Stamp
import Mathlib.Data.List.Basic

set_option autoImplicit false

namespace ControlPlane

/-! ## Digits -/

namespace Integer

/-- A digit is one of ten characters in a row. -/
theorem digit_bounds {c : Char} (hc : c.isDigit = true) : 48 ≤ c.toNat ∧ c.toNat ≤ 57 := by
  simpa [Char.isDigit, Char.le_def, UInt32.le_iff_toNat_le] using hc

/-- What is smaller before the same number of digits are added is smaller after it. -/
theorem ofDigitChars_lt {ds es : List Char} (hlength : ds.length = es.length)
    (hds : ∀ c ∈ ds, c.isDigit = true) (hes : ∀ c ∈ es, c.isDigit = true) {m n : Nat}
    (h : m < n) : Nat.ofDigitChars 10 ds m < Nat.ofDigitChars 10 es n := by
  induction ds generalizing es m n with
  | nil =>
      rw [List.eq_nil_of_length_eq_zero hlength.symm]
      exact h
  | cons d ds ih =>
      cases es with
      | nil => cases hlength
      | cons e es =>
          obtain ⟨hd, hd'⟩ := digit_bounds (hds d List.mem_cons_self)
          obtain ⟨he, -⟩ := digit_bounds (hes e List.mem_cons_self)
          rw [Nat.ofDigitChars_cons, Nat.ofDigitChars_cons]
          refine ih (Nat.succ.inj hlength) (fun c hc => hds c (List.mem_cons_of_mem d hc))
            (fun c hc => hes c (List.mem_cons_of_mem e hc)) ?_
          have hzero : '0'.toNat = 48 := rfl
          omega

/-- Equally many digits are ordered as their values are; what follows them decides only if
the values are the same. -/
theorem digits_append_lt_iff {ds es : List Char} (hlength : ds.length = es.length)
    (hds : ∀ c ∈ ds, c.isDigit = true) (hes : ∀ c ∈ es, c.isDigit = true) (n : Nat)
    (x y : List Char) :
    ds ++ x < es ++ y ↔
      Nat.ofDigitChars 10 ds n < Nat.ofDigitChars 10 es n ∨
        (Nat.ofDigitChars 10 ds n = Nat.ofDigitChars 10 es n ∧ x < y) := by
  -- on the digits; the first ones decide unless they are the same
  induction ds generalizing es n with
  | nil =>
      rw [List.eq_nil_of_length_eq_zero hlength.symm]
      simp
  | cons d ds ih =>
      cases es with
      | nil => cases hlength
      | cons e es =>
          have hlength' : ds.length = es.length := Nat.succ.inj hlength
          have hds' : ∀ c ∈ ds, c.isDigit = true := fun c hc => hds c (List.mem_cons_of_mem d hc)
          have hes' : ∀ c ∈ es, c.isDigit = true := fun c hc => hes c (List.mem_cons_of_mem e hc)
          obtain ⟨hd, -⟩ := digit_bounds (hds d List.mem_cons_self)
          obtain ⟨he, -⟩ := digit_bounds (hes e List.mem_cons_self)
          have hzero : '0'.toNat = 48 := rfl
          have hlt : d < e ↔ d.toNat < e.toNat := by
            rw [Char.lt_def, UInt32.lt_iff_toNat_lt]
            rfl
          rw [List.cons_append, List.cons_append, List.cons_lt_cons_iff, Nat.ofDigitChars_cons,
            Nat.ofDigitChars_cons]
          rcases Nat.lt_trichotomy d.toNat e.toNat with hbelow | hsame | habove
          · have hvalues := ofDigitChars_lt hlength' hds' hes'
              (m := 10 * n + (d.toNat - '0'.toNat)) (n := 10 * n + (e.toNat - '0'.toNat)) (by omega)
            exact iff_of_true (Or.inl (hlt.2 hbelow)) (Or.inl hvalues)
          · have heq : d = e := Char.toNat_inj.1 hsame
            subst heq
            simp only [Char.lt_irrefl, false_or, true_and]
            exact ih hlength' hds' hes' _
          · have hvalues := ofDigitChars_lt hlength'.symm hes' hds'
              (m := 10 * n + (e.toNat - '0'.toNat)) (n := 10 * n + (d.toNat - '0'.toNat)) (by omega)
            refine iff_of_false ?_ (by omega)
            rintro (hless | ⟨heq, -⟩)
            · have := hlt.1 hless
              omega
            · rw [heq] at habove
              exact Nat.lt_irrefl _ habove

/-- Numbers of a fixed width are ordered as words as they are as numbers. -/
theorem padded_append_lt_iff {w m n : Nat} (hw : 0 < w) (hm : m < tenTo w)
    (hn : n < tenTo w) (x y : List Char) :
    padded w m ++ x < padded w n ++ y ↔ m < n ∨ (m = n ∧ x < y) := by
  have hvalue : ∀ k, Nat.ofDigitChars 10 (padded w k) 0 = k := valueOf_padded w
  have hlength : (padded w m).length = (padded w n).length := by
    rw [length_padded hw hm, length_padded hw hn]
  rw [digits_append_lt_iff hlength (fun _ => isDigit_of_mem_padded)
    (fun _ => isDigit_of_mem_padded) 0, hvalue, hvalue]

end Integer

/-! ## Dates -/

namespace Date

/-- The first part in which two dates differ is smaller in the first of them. -/
def Precedes (a b : Date) : Prop :=
  a.year < b.year ∨
    (a.year = b.year ∧ (a.month < b.month ∨ (a.month = b.month ∧ a.day < b.day)))

theorem ext {a b : Date} (hyear : a.year = b.year) (hmonth : a.month = b.month)
    (hday : a.day = b.day) : a = b := by
  cases a
  cases b
  cases hyear
  cases hmonth
  cases hday
  rfl

/-- The days of some first months, and of the month after them, are among the days of more
months. -/
theorem total_take_le (lengths : List Nat) {i j : Nat} (hij : i < j) :
    Integer.total (lengths.take i) + (lengths[i]?).getD 0 ≤ Integer.total (lengths.take j) := by
  induction lengths generalizing i j with
  | nil => simp [Integer.total]
  | cons length rest ih =>
      obtain ⟨k, rfl⟩ : ∃ k, j = k + 1 := ⟨j - 1, by omega⟩
      cases i with
      | zero =>
          simp only [List.take_succ_cons, List.take_zero, Integer.total,
            List.getElem?_cons_zero, Option.getD_some]
          omega
      | succ i =>
          have hrest := ih (Nat.lt_of_succ_lt_succ hij)
          simp only [List.take_succ_cons, Integer.total, List.getElem?_cons_succ]
          omega

/-- A day of an earlier month of the same year is earlier. -/
theorem daysBeforeMonth_add_le {year : Int} {month later day : Nat} (h : month < later)
    (hday : 1 ≤ day ∧ day ≤ monthLength year month) :
    daysBeforeMonth year month + day ≤ daysBeforeMonth year later := by
  cases month with
  | zero =>
      have hnone : monthLength year 0 = 0 := rfl
      omega
  | succ m =>
      have hbefore : m < later - 1 := by omega
      have htotal := total_take_le (monthLengths (isLeap year)) hbefore
      have hlength : monthLength year (m + 1) = ((monthLengths (isLeap year))[m]?).getD 0 := rfl
      unfold daysBeforeMonth
      rw [Nat.add_sub_cancel]
      omega

/-- A day lies within its year. -/
theorem daysBeforeMonth_add_le_yearLength {year : Int} {month day : Nat}
    (hday : 1 ≤ day ∧ day ≤ monthLength year month) :
    daysBeforeMonth year month + day ≤ yearLength year := by
  have hwhole : daysBeforeMonth year (month + 13) = yearLength year := by
    rw [← total_monthLengths, daysBeforeMonth]
    refine congrArg Integer.total (List.take_of_length_le ?_)
    have hlength : (monthLengths (isLeap year)).length = 12 := by
      cases isLeap year with
      | true => rfl
      | false => rfl
    omega
  rw [← hwhole]
  exact daysBeforeMonth_add_le (by omega) hday

/-- An earlier date is an earlier day. -/
theorem Precedes.dayNumber_lt {a b : Date} (h : a.Precedes b) (ha : a.isValid = true)
    (hb : b.isValid = true) : a.dayNumber < b.dayNumber := by
  simp only [isValid, Bool.and_eq_true, decide_eq_true_eq] at ha hb
  have hyear := daysBeforeMonth_add_le_yearLength ha
  unfold dayNumber
  rcases h with hless | ⟨hsame, hless | ⟨hsame', hless⟩⟩
  · have hyears : daysBeforeYear (a.year + 1) ≤ daysBeforeYear b.year := by
      rw [daysBeforeYear_eq, daysBeforeYear_eq]
      omega
    rw [daysBeforeYear_succ] at hyears
    omega
  · have hmonths := daysBeforeMonth_add_le hless ha
    rw [hsame] at hmonths ⊢
    omega
  · rw [hsame, hsame']
    omega

/-- Days with the same date are the same day. -/
theorem ofDayNumber_inj {m n : Int} (h : ofDayNumber m = ofDayNumber n) : m = n := by
  rw [← dayNumber_ofDayNumber m, h, dayNumber_ofDayNumber]

/-- **Dates are ordered as days are.** -/
theorem precedes_iff (m n : Int) : (ofDayNumber m).Precedes (ofDayNumber n) ↔ m < n := by
  have hforward : ∀ m n, (ofDayNumber m).Precedes (ofDayNumber n) → m < n := by
    intro m n h
    have hlt := h.dayNumber_lt (ofDayNumber_isValid m) (ofDayNumber_isValid n)
    rwa [dayNumber_ofDayNumber, dayNumber_ofDayNumber] at hlt
  refine ⟨hforward m n, ?_⟩
  intro hlt
  -- were it neither before nor after, the two dates would be the same
  by_contra hnot
  have hback : ¬ (ofDayNumber n).Precedes (ofDayNumber m) := fun h => by
    have := hforward n m h
    omega
  unfold Precedes at hnot hback
  have hsame : ofDayNumber m = ofDayNumber n := by
    have hyear : (ofDayNumber m).year = (ofDayNumber n).year := by omega
    have hmonth : (ofDayNumber m).month = (ofDayNumber n).month := by omega
    have hday : (ofDayNumber m).day = (ofDayNumber n).day := by omega
    exact Date.ext hyear hmonth hday
  have := ofDayNumber_inj hsame
  omega

/-- A day that there is is the date of its day number. -/
theorem ofDayNumber_dayNumber {d : Date} (h : d.isValid = true) : ofDayNumber d.dayNumber = d := by
  have hvalid := ofDayNumber_isValid d.dayNumber
  have hsame := dayNumber_ofDayNumber d.dayNumber
  -- neither of the two is before the other
  have hbefore : ¬ (ofDayNumber d.dayNumber).Precedes d := fun hp => by
    have := hp.dayNumber_lt hvalid h
    omega
  have hafter : ¬ d.Precedes (ofDayNumber d.dayNumber) := fun hp => by
    have := hp.dayNumber_lt h hvalid
    omega
  unfold Precedes at hbefore hafter
  exact Date.ext (by omega) (by omega) (by omega)

/-- Something that comes after the parts of a date decides on one and the same day only. -/
theorem parts_lt_iff (m n : Int) (later : Prop) :
    ((ofDayNumber m).year < (ofDayNumber n).year ∨
      ((ofDayNumber m).year = (ofDayNumber n).year ∧
        ((ofDayNumber m).month < (ofDayNumber n).month ∨
          ((ofDayNumber m).month = (ofDayNumber n).month ∧
            ((ofDayNumber m).day < (ofDayNumber n).day ∨
              ((ofDayNumber m).day = (ofDayNumber n).day ∧ later)))))) ↔
      m < n ∨ (m = n ∧ later) := by
  have hdays := precedes_iff m n
  unfold Precedes at hdays
  constructor
  · rintro (hyear | ⟨hyear, hmonth | ⟨hmonth, hday | ⟨hday, hlater⟩⟩⟩)
    · exact Or.inl (hdays.1 (Or.inl hyear))
    · exact Or.inl (hdays.1 (Or.inr ⟨hyear, Or.inl hmonth⟩))
    · exact Or.inl (hdays.1 (Or.inr ⟨hyear, Or.inr ⟨hmonth, hday⟩⟩))
    · exact Or.inr ⟨ofDayNumber_inj (Date.ext hyear hmonth hday), hlater⟩
  · rintro (hlt | ⟨rfl, hlater⟩)
    · rcases hdays.2 hlt with hyear | ⟨hyear, hmonth | ⟨hmonth, hday⟩⟩
      · exact Or.inl hyear
      · exact Or.inr ⟨hyear, Or.inl hmonth⟩
      · exact Or.inr ⟨hyear, Or.inr ⟨hmonth, Or.inl hday⟩⟩
    · exact Or.inr ⟨rfl, Or.inr ⟨rfl, Or.inr ⟨rfl, hlater⟩⟩⟩

end Date

/-! ## Times -/

namespace Instant

variable {t u : Instant}

/-- Times are compared by their seconds, and then by the fraction. -/
theorem before_iff (t u : Instant) :
    t.before u = true ↔ t.second < u.second ∨ (t.second = u.second ∧ t.nano < u.nano) := by
  simp only [before, Bool.or_eq_true, Bool.and_eq_true, decide_eq_true_eq]

/-- One time is no earlier than another. -/
theorem before_eq_false_iff (t u : Instant) :
    t.before u = false ↔ u.second < t.second ∨ (u.second = t.second ∧ u.nano ≤ t.nano) := by
  rw [Bool.eq_false_iff, ne_eq, before_iff]
  omega

/-- Times without the digits after the sixth are compared by seconds and microseconds. -/
theorem before_micros_iff (t u : Instant) :
    t.micros.before u.micros = true ↔
      t.second < u.second ∨ (t.second = u.second ∧ t.nano / 1000 < u.nano / 1000) := by
  rw [before_iff, micros, micros]
  simp only
  omega

/-- The same character in front changes nothing. -/
theorem cons_lt_cons_self (c : Char) (x y : List Char) : c :: x < c :: y ↔ x < y := by
  rw [List.cons_lt_cons_iff]
  simp only [Char.lt_irrefl, false_or, true_and]

/-- The parts of the time of day are ordered as the seconds of the day and the fraction
are; a leap second comes between the second 59 and the next minute. -/
theorem clock_lt_iff (ht : t.Legible) (hu : u.Legible) :
    (t.secondOfDay / 3600 < u.secondOfDay / 3600 ∨
      (t.secondOfDay / 3600 = u.secondOfDay / 3600 ∧
        (t.secondOfDay / 60 % 60 < u.secondOfDay / 60 % 60 ∨
          (t.secondOfDay / 60 % 60 = u.secondOfDay / 60 % 60 ∧
            (t.secondOfMinute < u.secondOfMinute ∨
              (t.secondOfMinute = u.secondOfMinute ∧
                t.fraction / 1000 < u.fraction / 1000)))))) ↔
      t.secondOfDay < u.secondOfDay ∨
        (t.secondOfDay = u.secondOfDay ∧ t.nano / 1000 < u.nano / 1000) := by
  have hminute : ∀ v : Instant, v.Legible →
      v.nano < nanosPerSecond ∨ (v.nano < 2 * nanosPerSecond ∧ v.secondOfDay % 60 = 59) := by
    intro v hv
    have hnano := hv.nano
    unfold secondOfDay secondsPerDay
    omega
  have htnano := hminute t ht
  have hunano := hminute u hu
  unfold secondOfMinute fraction
  unfold nanosPerSecond at htnano hunano ⊢
  generalize t.secondOfDay = a at *
  generalize u.secondOfDay = b at *
  generalize t.nano = m at *
  generalize u.nano = n at *
  clear ht hu hminute
  omega

/-- **Text order is time order.** Stored texts of legible times are ordered as the times are,
up to the digits after the sixth. -/
theorem storedText_lt_iff (ht : t.Legible) (hu : u.Legible) :
    t.storedText < u.storedText ↔ t.micros.before u.micros = true := by
  have htwo : Integer.tenTo 2 = 100 := rfl
  have hyear : ∀ x y, Integer.padded 4 t.date.year.toNat ++ x <
      Integer.padded 4 u.date.year.toNat ++ y ↔
        t.date.year < u.date.year ∨ (t.date.year = u.date.year ∧ x < y) := by
    intro x y
    have hfour : Integer.tenTo 4 = 10000 := rfl
    have htyear := ht.year
    have huyear := hu.year
    have hlt : t.date.year.toNat < u.date.year.toNat ↔ t.date.year < u.date.year := by omega
    have heq : t.date.year.toNat = u.date.year.toNat ↔ t.date.year = u.date.year := by omega
    rw [Integer.padded_append_lt_iff (by decide) (by omega) (by omega), hlt, heq]
  have hmonth := Integer.padded_append_lt_iff (w := 2) (by decide)
    (Nat.lt_of_le_of_lt (Date.ofDayNumber_month t.dayNumber).2 (by decide))
    (Nat.lt_of_le_of_lt (Date.ofDayNumber_month u.dayNumber).2 (by decide))
  have hday := Integer.padded_append_lt_iff (w := 2) (by decide)
    (Nat.lt_of_le_of_lt (Date.ofDayNumber_day t.dayNumber).2 (by decide))
    (Nat.lt_of_le_of_lt (Date.ofDayNumber_day u.dayNumber).2 (by decide))
  have htday := t.secondOfDay_lt
  have huday := u.secondOfDay_lt
  have hhour := Integer.padded_append_lt_iff (w := 2) (m := t.secondOfDay / 3600)
    (n := u.secondOfDay / 3600) (by decide) (by omega) (by omega)
  have hminute := Integer.padded_append_lt_iff (w := 2) (m := t.secondOfDay / 60 % 60)
    (n := u.secondOfDay / 60 % 60) (by decide) (by omega) (by omega)
  have hsecond := Integer.padded_append_lt_iff (w := 2) (by decide)
    (Nat.lt_of_le_of_lt ht.secondOfMinute_le (by decide))
    (Nat.lt_of_le_of_lt hu.secondOfMinute_le (by decide))
  have hfraction : ∀ v : Instant, v.fraction / 1000 < Integer.tenTo 6 := by
    intro v
    change v.nano % 1000000000 / 1000 < 1000000
    omega
  have hmicros := Integer.padded_append_lt_iff (by decide) (hfraction t) (hfraction u)
  rw [String.lt_iff, storedText_toList ht, storedText_toList hu]
  unfold date at hyear ⊢
  simp only [cons_lt_cons_self, hyear, hmonth, hday, hhour, hminute, hsecond, hmicros,
    List.lt_irrefl, and_false, or_false, clock_lt_iff ht hu, Date.parts_lt_iff]
  rw [before_micros_iff]
  unfold dayNumber secondOfDay secondsPerDay
  omega

/-! ## Years with a sign -/

/-- A time that the calendar has: its year lies within the bounds, and its fraction is that of
a second or of a leap second at the end of a minute. -/
structure Possible (t : Instant) : Prop where
  /-- The year is one of the calendar. -/
  year : Date.firstYear ≤ t.date.year ∧ t.date.year ≤ Date.lastYear
  /-- The fraction is that of a second, or of a leap second. -/
  nano : t.nano < nanosPerSecond ∨ (t.nano < 2 * nanosPerSecond ∧ t.second % 60 = 59)

/-- A time that can be read is one of the calendar. -/
theorem Legible.possible (h : t.Legible) : t.Possible := by
  have hyear := h.year
  refine ⟨?_, h.nano⟩
  unfold Date.firstYear Date.lastYear
  omega

/-- A time of the calendar can be read if its year has four digits. -/
theorem Possible.legible (h : t.Possible) (hyear : 0 ≤ t.date.year ∧ t.date.year ≤ 9999) :
    t.Legible := ⟨hyear, h.nano⟩

/-- A day lies in the year of its date. -/
theorem dayNumber_bounds (t : Instant) :
    Date.daysBeforeYear t.date.year ≤ t.dayNumber + Date.epoch ∧
      t.dayNumber + Date.epoch < Date.daysBeforeYear (t.date.year + 1) := by
  obtain ⟨i, d, hdate, -⟩ := Date.ofDayNumber_spec t.dayNumber
  have hyear : t.date.year = Date.yearOf (t.dayNumber + Date.epoch) := congrArg Date.year hdate
  rw [hyear]
  exact Date.yearOf_spec _

/-- Of two times the one in the earlier year is earlier. -/
theorem second_lt_of_year_lt (h : t.date.year < u.date.year) : t.second < u.second := by
  have hdays := (Date.precedes_iff t.dayNumber u.dayNumber).1 (Or.inl h)
  unfold dayNumber secondsPerDay at hdays
  omega

/-- The text of a legible time begins with a digit. -/
theorem Legible.storedText_head (h : t.Legible) :
    ∃ c rest, t.storedText.toList = c :: rest ∧ c.isDigit = true := by
  have hyear := h.year
  have hlength : (Integer.padded 4 t.date.year.toNat).length = 4 :=
    Integer.length_padded (by decide) (by
      have hfour : Integer.tenTo 4 = 10000 := rfl
      omega)
  rw [storedText_toList h]
  have hall : ∀ c ∈ Integer.padded 4 t.date.year.toNat, c.isDigit = true :=
    fun _ hc => Integer.isDigit_of_mem_padded hc
  cases hdigits : Integer.padded 4 t.date.year.toNat with
  | nil =>
      rw [hdigits] at hlength
      cases hlength
  | cons c rest =>
      rw [hdigits] at hall
      exact ⟨c, _, rfl, hall c List.mem_cons_self⟩

/-- The text of a time whose year has not four digits begins with a sign. -/
theorem storedText_sign (h : ¬ (0 ≤ t.date.year ∧ t.date.year ≤ 9999)) :
    ∃ c rest, t.storedText.toList = c :: rest ∧ (c = '-' ∨ c = '+') := by
  unfold storedText charsWith Date.chars Date.yearChars
  rw [String.toList_ofList, if_neg h]
  split
  · exact ⟨'-', _, rfl, Or.inl rfl⟩
  · exact ⟨'+', _, rfl, Or.inr rfl⟩

/-- A text that begins with a sign is before the texts of all legible times. -/
theorem not_storedText_lt (ht : t.Legible) (hu : ¬ (0 ≤ u.date.year ∧ u.date.year ≤ 9999)) :
    ¬ t.storedText < u.storedText := by
  obtain ⟨c, x, hc, hdigit⟩ := ht.storedText_head
  obtain ⟨d, y, hd, hsign⟩ := storedText_sign hu
  have hbound := Integer.digit_bounds hdigit
  have hvalue : c.toNat < d.toNat ∨ c = d → False := by
    rintro (hlt | rfl)
    · rcases hsign with rfl | rfl
      · have hminus : '-'.toNat = 45 := rfl
        omega
      · have hplus : '+'.toNat = 43 := rfl
        omega
    · rcases hsign with rfl | rfl <;> cases hdigit
  rw [String.lt_iff, hc, hd, List.cons_lt_cons_iff, Char.lt_def, UInt32.lt_iff_toNat_lt]
  exact fun h => hvalue (h.imp_right And.left)

/-- Up to the year 9999 texts are compared with the text of a legible time as the times are. -/
theorem storedText_lt_iff_of_year_le (ht : t.Legible) (hu : u.Possible)
    (hyear : u.date.year ≤ 9999) :
    t.storedText < u.storedText ↔ t.micros.before u.micros = true := by
  by_cases hpast : u.date.year < 0
  · have htyear := ht.year
    have hlater := second_lt_of_year_lt (t := u) (u := t) (by omega)
    refine iff_of_false (not_storedText_lt ht (by omega)) ?_
    rw [before_micros_iff]
    omega
  · exact storedText_lt_iff ht (hu.legible ⟨by omega, hyear⟩)

/-- A possible time is before another if its text can be read and is before the other's. -/
theorem before_of_storedText_lt (ht : t.Legible) (hu : u.Possible)
    (hlt : t.storedText < u.storedText) : t.micros.before u.micros = true := by
  by_cases hyear : 0 ≤ u.date.year ∧ u.date.year ≤ 9999
  · exact (storedText_lt_iff ht (hu.legible hyear)).1 hlt
  · exact absurd hlt (not_storedText_lt ht hyear)

end Instant

/-! ## Reading -/

namespace Stamp

variable {t : Instant}

/-- A stored time can be read only if its year has four digits. -/
theorem legible_of_read (ht : t.Possible) {v : Instant} (h : read t.storedText = .ok v) :
    t.Legible := by
  by_cases hyear : 0 ≤ t.date.year ∧ t.date.year ≤ 9999
  · exact ht.legible hyear
  · -- the strict form begins with four digits, and there is a sign
    obtain ⟨c, rest, hc, hsign⟩ := Instant.storedText_sign hyear
    have hstop : c.isDigit = false := by
      rcases hsign with rfl | rfl <;> rfl
    have hnumber : ∃ flaw, number 4 (some 4) (c :: rest) = .error flaw := by
      unfold number
      rw [takeDigits_cons_stop hstop]
      split
      · exact ⟨_, rfl⟩
      · exact ⟨_, rfl⟩
    obtain ⟨flaw, hflaw⟩ := hnumber
    rw [read, readChars, hc, strictParts, hflaw] at h
    cases h

/-- Whether a stored time is before another one, to the microsecond in which times are
stored. -/
def isBefore (raw : String) (t : Instant) : Bool :=
  match read raw with
  | .ok u => u.before t.micros
  | .error _ => false

/-- What is before a time is before every time that is no earlier. -/
theorem isBefore_of_isBefore {raw : String} {u : Instant} (h : isBefore raw t = true)
    (hle : u.before t = false) : isBefore raw u = true := by
  unfold isBefore at h ⊢
  cases hread : read raw with
  | error flaw =>
      rw [hread] at h
      cases h
  | ok v =>
      rw [hread] at h
      simp only [Instant.before_iff, Instant.before_eq_false_iff, Instant.micros] at h hle ⊢
      omega

/-- A stored time is before another one if it is so to the microsecond. -/
theorem isBefore_storedText {u : Instant} (ht : t.Legible) :
    isBefore t.storedText u = t.micros.before u.micros := by
  rw [isBefore, read_storedText ht]

end Stamp

end ControlPlane
