/-
The order of stored times.

The store compares times by comparing their texts, and reads a time back from its text. Both are
right for every time whose year has four digits: the text stands for the time without the digits
after the sixth (`read_storedText`), texts are ordered as these times are (`storedText_lt_iff`),
and their first ten characters are the date (`dayText_storedText`). Here the three are put
together (`Instant.storedText_faithful`).

The digits that are cut off can make two times equal, and never turn them around: a time whose
text is before the text of a cutoff is before the cutoff itself, with all its digits. So the
queries for stale messages and actions answer nothing that is younger than it may be
(`Store.Dated.staleMessages_before`, `Store.Dated.staleActions_before`).
-/
import ControlPlane.Proofs.Allowance
import ControlPlane.Proofs.Daily

set_option autoImplicit false

namespace ControlPlane

namespace Instant

variable {t u : Instant}

/-! ## Cutting off digits -/

/-- Cutting off digits makes no time later. -/
theorem before_of_before_micros (h : t.before u.micros = true) : t.before u = true := by
  rw [before_iff] at h ⊢
  unfold micros at h
  simp only at h
  omega

/-- Times that are apart with six digits are in the same order with all of them. -/
theorem before_of_micros_before_micros (h : t.micros.before u.micros = true) :
    t.before u = true := by
  rw [before_micros_iff] at h
  rw [before_iff]
  omega

/-- Two times have the same text exactly if they differ in nothing but what is cut off. -/
theorem storedText_inj (ht : t.Legible) (hu : u.Legible) :
    t.storedText = u.storedText ↔ t.micros = u.micros := by
  constructor
  · intro htext
    have hread := Stamp.read_storedText ht
    rw [htext, Stamp.read_storedText hu] at hread
    exact (Except.ok.inj hread).symm
  · intro hmicros
    -- texts that are not the same are one before the other
    have hnot : ∀ {v w : Instant}, v.Legible → w.Legible → v.micros = w.micros →
        ¬ v.storedText < w.storedText := by
      intro v w hv hw hsame hlt
      rw [storedText_lt_iff hv hw, hsame, before_iff] at hlt
      omega
    exact String.le_antisymm (String.not_lt.1 (hnot hu ht hmicros.symm))
      (String.not_lt.1 (hnot ht hu hmicros))

/-- The date of a time is the day of the calendar in which it lies. -/
theorem date_spec (t : Instant) :
    t.date.isValid = true ∧ t.date.dayNumber * secondsPerDay ≤ t.second ∧
      t.second < (t.date.dayNumber + 1) * secondsPerDay := by
  have hday : t.date.dayNumber = t.dayNumber := Date.dayNumber_ofDayNumber _
  refine ⟨Date.ofDayNumber_isValid _, ?_⟩
  rw [hday]
  unfold dayNumber secondsPerDay
  omega

/-- **Stored times are faithful.** For times whose years have four digits, texts are ordered as
the times without the digits after the sixth are, and two texts are the same exactly if these
times are. A text begins with the date, the valid one whose day holds the time; as a column it
is read back as the time without the digits after the sixth. And a text that is before the text
of a cutoff belongs to a time that is before the cutoff with all its digits, whether the time is
taken as it was or as it was stored. -/
theorem storedText_faithful (ht : t.Legible) (hu : u.Legible) :
    (t.storedText < u.storedText ↔ t.micros.before u.micros = true) ∧
      (t.storedText = u.storedText ↔ t.micros = u.micros) ∧
      (Store.dayText t.storedText = t.date.text ∧
        Stamp.readDate? (Store.dayText t.storedText) = some t.date ∧ t.date.isValid = true ∧
        t.date.dayNumber * secondsPerDay ≤ t.second ∧
        t.second < (t.date.dayNumber + 1) * secondsPerDay) ∧
      (∀ column, Row.time column t.storedText = .ok t.micros) ∧
      (t.storedText < u.storedText → t.before u = true ∧ t.micros.before u = true) := by
  have hday : Store.dayText t.storedText = t.date.text := Stamp.dayText_storedText ht
  refine ⟨storedText_lt_iff ht hu, storedText_inj ht hu, ⟨hday, ?_, t.date_spec⟩, ?_, ?_⟩
  · rw [hday]
    exact Stamp.readDate?_text ht.year
  · intro column
    rw [Row.time, Stamp.read_storedText ht]
  · intro hlt
    have hmicros := (storedText_lt_iff ht hu).1 hlt
    exact ⟨before_of_micros_before_micros hmicros, before_of_before_micros hmicros⟩

end Instant

namespace Sample

/-- Half a second into the leap second at the end of 2016, and some digits too many. -/
def leapSecond : Instant := ⟨1483228799, 1500000123⟩

/-- The first nanosecond of 2017. -/
def yearTurn : Instant := ⟨1483228800, 1⟩

end Sample

/-- The leap second at the end of a year is stored as a time before the next year. -/
theorem Instant.storedText_faithful_leap :
    (Sample.leapSecond.Legible ∧ Sample.yearTurn.Legible) ∧
      Sample.leapSecond.storedText = "2016-12-31T23:59:60.500000Z" ∧
      Sample.yearTurn.storedText = "2017-01-01T00:00:00.000000Z" ∧
      Sample.leapSecond.storedText < Sample.yearTurn.storedText ∧
      Store.dayText Sample.leapSecond.storedText = "2016-12-31" ∧
      (∀ column, Row.time column Sample.leapSecond.storedText = .ok ⟨1483228799, 1500000000⟩) ∧
      Sample.leapSecond.before Sample.yearTurn = true := by
  have hleap : Sample.leapSecond.Legible := by decide +kernel
  have hyear : Sample.yearTurn.Legible := by decide +kernel
  obtain ⟨horder, -, ⟨hday, -⟩, hread, hbefore⟩ := Instant.storedText_faithful hleap hyear
  have hlt := horder.2 (by decide +kernel)
  refine ⟨⟨hleap, hyear⟩, by decide +kernel, by decide +kernel, hlt, ?_, hread, (hbefore hlt).1⟩
  rw [hday]
  decide +kernel

/-! ## What is stale -/

namespace Stamp

/-- Of a text that the store wrote for any time of the calendar: if it can be read and is before
the text of a cutoff, then its time is before the cutoff. -/
theorem before_of_lt {raw : String} {cutoff t : Instant} (hraw : IsWritten raw)
    (hcutoff : cutoff.Possible) (hread : read raw = .ok t) (hlt : raw < cutoff.storedText) :
    t.before cutoff = true := by
  have hbefore := isBefore_of_lt hraw hcutoff hread hlt
  rw [isBefore, hread] at hbefore
  exact Instant.before_of_before_micros hbefore

end Stamp

namespace Store

variable {s : Store} {cutoff : Instant}

/-- **Nothing young is stale.** Every message that is answered as stale was created before the
cutoff with all its digits. -/
theorem Dated.staleMessages_before (hs : s.Dated) (hcutoff : cutoff.Possible)
    {values : List Message} (h : s.staleMessages cutoff = .ok values) :
    ∀ v ∈ values, v.createdAt.before cutoff = true := by
  intro v hv
  obtain ⟨m, hm, hread⟩ := exists_of_forall₂ (forall₂_of_readAll (answer_ok h)) hv
  obtain ⟨hmem, hstale⟩ := List.mem_filter.1 hm
  exact Stamp.before_of_lt (hs.messages m hmem) hcutoff (read_createdAt hread)
    (of_decide_eq_true (Bool.and_eq_true_iff.1 hstale).1)

/-- The same goes for actions, and for the time when they were handed out, if they were. -/
theorem Dated.staleActions_before (hs : s.Dated) (hcutoff : cutoff.Possible)
    {values : List Action} (h : s.staleActions cutoff = .ok values) :
    ∀ v ∈ values, (v.startedAt.getD v.createdAt).before cutoff = true := by
  intro v hv
  obtain ⟨a, ha, hread⟩ := exists_of_forall₂ (forall₂_of_readAll (answer_ok h)) hv
  obtain ⟨hmem, hstale⟩ := List.mem_filter.1 ha
  exact Stamp.before_of_lt (hs.clockStart hmem) hcutoff (read_clockStart hread)
    (of_decide_eq_true (Bool.and_eq_true_iff.1 hstale).2)

end Store

end ControlPlane
