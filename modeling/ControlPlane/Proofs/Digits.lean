/-
Numbers of a fixed width.

A part of a stored time is a number that is filled up with zeros (`Integer.padded`). If
the number is small enough the width is exact, and the reader, which takes as many
digits as the part has, takes those digits and no more and gets the number back
(`number_padded`, `bounded_padded`).
-/
import ControlPlane.Time.Stamp

set_option autoImplicit false

namespace ControlPlane

namespace Integer

/-- A number that fits is written with as many digits as it is wide. -/
theorem length_padded {width n : Nat} (hwidth : 0 < width) (hn : n < tenTo width) :
    (padded width n).length = width := by
  have hdigits : (digits n).length ≤ width :=
    (Nat.length_toDigits_le_iff (by decide) hwidth).2 hn
  unfold padded
  rw [List.length_append, List.length_replicate]
  omega

/-- A padded number is written in digits. -/
theorem isDigit_of_mem_padded {width n : Nat} {c : Char} (hc : c ∈ padded width n) :
    c.isDigit = true := by
  rcases List.mem_append.1 hc with hzero | hdigit
  · rw [List.eq_of_mem_replicate hzero]
    rfl
  · exact Nat.isDigit_of_mem_toDigits (by decide) (by decide) hdigit

/-- The digits of a number are worth the number. -/
theorem valueOf_padded (width n : Nat) : Stamp.valueOf (padded width n) = n := by
  have hvalue : Stamp.valueOf (padded width n) = Nat.ofDigitChars 10 (padded width n) 0 := rfl
  rw [hvalue]
  unfold padded
  rw [Nat.ofDigitChars_append, Nat.ofDigitChars_replicate_zero, Nat.mul_zero]
  exact Nat.ofDigitChars_ten_toDigits

end Integer

namespace Stamp

/-! ## Taking digits -/

/-- A digit is taken as long as there may be more. -/
theorem takeDigits_cons {limit : Nat} {c : Char} (hc : c.isDigit = true) (cs : List Char) :
    takeDigits (some (limit + 1)) (c :: cs) =
      (c :: (takeDigits (some limit) cs).1, (takeDigits (some limit) cs).2) := by
  rw [takeDigits, if_pos hc]
  · rfl
  · intro h
    cases h

/-- Digits end where there is none. -/
theorem takeDigits_cons_stop {limit : Nat} {c : Char} (hc : c.isDigit = false)
    (cs : List Char) : takeDigits (some (limit + 1)) (c :: cs) = ([], c :: cs) := by
  rw [takeDigits, hc]
  · rfl
  · intro h
    cases h

/-- No more digits are taken than there may be. -/
theorem takeDigits_full {ds : List Char} (hds : ∀ c ∈ ds, c.isDigit = true) (rest : List Char) :
    takeDigits (some ds.length) (ds ++ rest) = (ds, rest) := by
  induction ds with
  | nil =>
      cases rest with
      | nil => rfl
      | cons c cs => rfl
  | cons d ds ih =>
      have htail := ih fun c hc => hds c (List.mem_cons_of_mem d hc)
      rw [List.length_cons, List.cons_append, takeDigits_cons (hds d List.mem_cons_self), htail]

/-- Digits are taken up to the first character that is none. -/
theorem takeDigits_stop {ds : List Char} (hds : ∀ c ∈ ds, c.isDigit = true) {c : Char}
    (hc : c.isDigit = false) (rest : List Char) (more : Nat) :
    takeDigits (some (ds.length + more + 1)) (ds ++ c :: rest) = (ds, c :: rest) := by
  induction ds with
  | nil => exact takeDigits_cons_stop hc rest
  | cons d ds ih =>
      have htail := ih fun c hc => hds c (List.mem_cons_of_mem d hc)
      have hlimit : (d :: ds).length + more + 1 = ds.length + more + 1 + 1 := by
        rw [List.length_cons]
        omega
      rw [hlimit, List.cons_append, takeDigits_cons (hds d List.mem_cons_self), htail]

/-- A text has as many bytes as characters, or more. -/
theorem length_le_byteCount (cs : List Char) : cs.length ≤ byteCount cs := by
  induction cs with
  | nil => exact Nat.zero_le _
  | cons c cs ih =>
      have hc : 0 < c.utf8Size := Char.utf8Size_pos c
      unfold byteCount at ih ⊢
      rw [List.length_cons, List.map_cons, Integer.total]
      omega

/-! ## Reading numbers -/

/-- A number of a fixed width is read back, and the rest is left, also where fewer digits would
do. -/
theorem number_padded_of_le {least width n : Nat} (hleast : least ≤ width) (hwidth : 0 < width)
    (hn : n < Integer.tenTo width) (rest : List Char) :
    number least (some width) (Integer.padded width n ++ rest) = .ok (n, rest) := by
  have hlength := Integer.length_padded hwidth hn
  have hbytes := length_le_byteCount (Integer.padded width n ++ rest)
  rw [List.length_append, hlength] at hbytes
  have hdigits : ∀ c ∈ Integer.padded width n, c.isDigit = true :=
    fun c hc => Integer.isDigit_of_mem_padded hc
  have htake := takeDigits_full hdigits rest
  rw [hlength] at htake
  unfold number
  rw [if_neg (by omega), htake]
  simp only [hlength, Nat.not_lt.2 hleast, if_false, Integer.valueOf_padded]

/-- A padded number is read back, whatever stands behind it. -/
theorem number_padded {width n : Nat} (hwidth : 0 < width) (hn : n < Integer.tenTo width)
    (rest : List Char) :
    number width (some width) (Integer.padded width n ++ rest) = .ok (n, rest) :=
  number_padded_of_le (Nat.le_refl width) hwidth hn rest

/-- A padded number within its bounds is read back, also where fewer digits would do. -/
theorem bounded_padded_of_le {fewest width n least greatest : Nat} (hfewest : fewest ≤ width)
    (hwidth : 0 < width) (hn : n < Integer.tenTo width) (hleast : least ≤ n)
    (hgreatest : n ≤ greatest) (rest : List Char) :
    bounded fewest width least greatest (Integer.padded width n ++ rest) = .ok (n, rest) := by
  unfold bounded
  rw [number_padded_of_le hfewest hwidth hn]
  simp only [bind, Except.bind]
  rw [if_neg (by omega)]

/-- A padded number within its bounds is read back. -/
theorem bounded_padded {width n least greatest : Nat} (hwidth : 0 < width)
    (hn : n < Integer.tenTo width) (hleast : least ≤ n) (hgreatest : n ≤ greatest)
    (rest : List Char) :
    bounded width width least greatest (Integer.padded width n ++ rest) = .ok (n, rest) :=
  bounded_padded_of_le (Nat.le_refl width) hwidth hn hleast hgreatest rest

end Stamp

end ControlPlane
