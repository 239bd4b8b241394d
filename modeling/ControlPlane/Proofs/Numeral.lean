/-
Numbers are read back.

Two readers meet the decimal digits of whole numbers: the one of JSON texts, which collects digits
in a word, and the one of identifiers, which keeps to a range at every digit. For both the number
so far grows with the digits (`le_ofDigitChars`), so one that fits at the end has fitted all along.

What the reader of JSON texts makes of a number does not depend on what follows, as long as that
cannot continue a number (`number?_append`). It is therefore enough to know what it makes of the
number alone (`JsonNumber.ReadsBack`); of a whole number of 64 bits it makes that number
(`readsBack_int`).
-/
import ControlPlane.Json.Printer
import ControlPlane.Json.Reader
import ControlPlane.Proofs.Blank
import Mathlib.Data.List.TakeWhile
import Mathlib.Tactic.Ring

set_option autoImplicit false

namespace ControlPlane

namespace Integer

/-! ## Digits -/

/-- A number is written in digits. -/
theorem isDigit_of_mem_digits {n : Nat} {c : Char} (hc : c ∈ digits n) : c.isDigit = true :=
  Nat.isDigit_of_mem_toDigits (by decide) (by decide) hc

/-- The digits of a number say the number. -/
theorem ofDigitChars_digits (n : Nat) : Nat.ofDigitChars 10 (digits n) 0 = n :=
  Nat.ofDigitChars_ten_toDigits

/-- The number so far is at most what it becomes with more digits. -/
theorem le_ofDigitChars (ds : List Char) (n : Nat) : n ≤ Nat.ofDigitChars 10 ds n := by
  induction ds generalizing n with
  | nil => exact Nat.le_refl n
  | cons d ds ih =>
      rw [Nat.ofDigitChars_cons]
      have hstep := ih (10 * n + (d.toNat - '0'.toNat))
      omega

/-- The digits of a number other than zero do not begin with a zero. -/
theorem head_digits {n : Nat} (hn : 0 < n) : ∃ c cs, digits n = c :: cs ∧ c ≠ '0' := by
  induction n using Nat.strongRecOn with
  | ind n ih =>
      unfold digits
      rw [Nat.toDigits_eq_if (by decide)]
      split
      · next hsmall =>
          refine ⟨Nat.digitChar n, [], rfl, fun hzero => ?_⟩
          have hchar := Nat.toNat_digitChar_of_lt_ten hsmall
          rw [hzero] at hchar
          have hzero' : '0'.toNat = 48 := rfl
          omega
      · next hlarge =>
          obtain ⟨c, cs, hcs, hc⟩ := ih (n / 10) (by omega) (by omega)
          unfold digits at hcs
          exact ⟨c, cs ++ [Nat.digitChar (n % 10)], by rw [hcs, List.cons_append], hc⟩

/-! ## Digits within a range -/

/-- A digit is read as what it is worth. -/
theorem digit?_of_isDigit {c : Char} (hc : c.isDigit = true) :
    digit? c = some (c.toNat - '0'.toNat) := by
  obtain ⟨hleast, hgreatest⟩ := Bool.and_eq_true_iff.1 hc
  rw [digit?, if_pos ⟨of_decide_eq_true hleast, of_decide_eq_true hgreatest⟩]

/-- Digits are read if the number that they make, with its sign, fits the range, and all numbers
closer to zero do. -/
theorem readDigits_ok (r : WordRange) (sign : Int) {ds : List Char}
    (hds : ∀ c ∈ ds, c.isDigit = true) (n : Nat)
    (hr : ∀ k ≤ Nat.ofDigitChars 10 ds n, r.least ≤ sign * k ∧ sign * k ≤ r.greatest) :
    readDigits r sign (sign * n) ds = .ok (sign * Nat.ofDigitChars 10 ds n) := by
  induction ds generalizing n with
  | nil => rfl
  | cons d ds ih =>
      have hnext : 10 * (sign * n) + sign * (d.toNat - '0'.toNat : Nat) =
          sign * (10 * n + (d.toNat - '0'.toNat) : Nat) := by
        push_cast
        ring
      rw [Nat.ofDigitChars_cons] at hr ⊢
      have hfits := hr _ (le_ofDigitChars ds _)
      rw [readDigits, digit?_of_isDigit (hds d List.mem_cons_self)]
      simp only
      rw [hnext, if_neg (by omega), if_neg (by omega)]
      exact ih (fun c hc => hds c (List.mem_cons_of_mem d hc)) _ hr

/-- Digits alone are read from left to right. -/
theorem read_digits (r : WordRange) (n : Nat) :
    read r (digits n) = readDigits r 1 0 (digits n) := by
  obtain ⟨c, cs, hcs⟩ := List.exists_cons_of_ne_nil (Nat.toDigits_ne_nil (n := n) (b := 10))
  have hdigit : c.isDigit = true :=
    isDigit_of_mem_digits (n := n) (by rw [digits, hcs]; exact List.mem_cons_self)
  have hplus : c ≠ '+' := by
    rintro rfl
    cases hdigit
  have hminus : c ≠ '-' := by
    rintro rfl
    cases hdigit
  unfold digits
  rw [hcs]
  unfold read
  split
  · next heq => cases heq
  · next heq => exact absurd (List.cons.inj heq).1 hplus
  · next heq => exact absurd (List.cons.inj heq).1 hminus
  · next heq => exact absurd (List.cons.inj heq).1 hplus
  · next heq => exact absurd (List.cons.inj heq).1 hminus
  · rfl

/-- A sign stands before digits. -/
theorem read_signed (r : WordRange) (n : Nat) :
    read r ('+' :: digits n) = readDigits r 1 0 (digits n) ∧
      (r.least < 0 → read r ('-' :: digits n) = readDigits r (-1) 0 (digits n)) := by
  obtain ⟨c, cs, hcs⟩ := List.exists_cons_of_ne_nil (Nat.toDigits_ne_nil (n := n) (b := 10))
  unfold digits
  rw [hcs]
  exact ⟨rfl, fun hleast => by rw [read, if_pos hleast]; exact fun h => by cases h⟩

/-- The digits of a 64-bit number are read back, also with a plus sign in front. -/
theorem readSigned64?_digits {n : Nat} (hn : (n : Int) ≤ 9223372036854775807) :
    readSigned64? (digits n) = some (n : Int) ∧
      readSigned64? ('+' :: digits n) = some (n : Int) := by
  have hread : readDigits .signed64 1 0 (digits n) = .ok n := by
    have hall := readDigits_ok .signed64 1 (fun c hc => isDigit_of_mem_digits (n := n) hc) 0 (by
        rw [ofDigitChars_digits]
        intro k hk
        unfold WordRange.signed64
        simp only
        omega)
    rwa [ofDigitChars_digits, one_mul, one_mul] at hall
  unfold readSigned64?
  rw [read_digits, (read_signed .signed64 n).1, hread]
  exact ⟨rfl, rfl⟩

/-- A 64-bit number is read back. -/
theorem readSigned64?_chars {n : Int} (hn : WordRange.signed64.holds n = true) :
    readSigned64? (chars n) = some n := by
  obtain ⟨hleast, hgreatest⟩ := Bool.and_eq_true_iff.1 hn
  cases n with
  | ofNat k => exact (readSigned64?_digits (of_decide_eq_true hgreatest)).1
  | negSucc k =>
      have hrange : -9223372036854775808 ≤ Int.negSucc k := of_decide_eq_true hleast
      have hread : readDigits .signed64 (-1) 0 (digits (k + 1)) = .ok (Int.negSucc k) := by
        have hall := readDigits_ok .signed64 (-1)
          (fun c hc => isDigit_of_mem_digits (n := k + 1) hc) 0 (by
            rw [ofDigitChars_digits]
            intro j hj
            unfold WordRange.signed64
            simp only
            omega)
        rw [ofDigitChars_digits] at hall
        rw [show Int.negSucc k = -1 * ((k + 1 : Nat) : Int) by omega]
        exact hall
      unfold readSigned64? chars
      rw [(read_signed .signed64 (k + 1)).2 (by decide), hread]

/-- A number is written without blanks. -/
theorem isBlank_of_mem_chars {n : Int} {c : Char} (hc : c ∈ chars n) : Text.isBlank c = false := by
  cases n with
  | ofNat k => exact Text.isBlank_of_isDigit (isDigit_of_mem_digits hc)
  | negSucc k =>
      rcases List.mem_cons.1 hc with rfl | hc
      · rfl
      · exact Text.isBlank_of_isDigit (isDigit_of_mem_digits hc)

end Integer

namespace Reader

/-! ## What may follow a number -/

/-- The characters do not continue a number. -/
def Stops (rest : List Char) : Prop :=
  ∀ c ∈ rest.head?, isDigit c = false ∧ c ≠ '.' ∧ isExponentMark c = false

/-- At the end of the text a number stops. -/
theorem stops_nil : Stops [] := by
  intro c hc
  cases hc

/-- So it does at a character that no number has. -/
theorem stops_cons {c : Char} (hc : isDigit c = false ∧ c ≠ '.' ∧ isExponentMark c = false)
    (rest : List Char) : Stops (c :: rest) := by
  intro d hd
  cases hd
  exact hc

/-- Where numbers stop, what follows adds no digit. -/
theorem takeDigits_append {rest : List Char} (hrest : Stops rest) (cs : List Char) :
    takeDigits (cs ++ rest) = ((takeDigits cs).1, (takeDigits cs).2 ++ rest) := by
  unfold takeDigits
  induction cs with
  | nil =>
      cases rest with
      | nil => rfl
      | cons c rest =>
          have hc := (hrest c rfl).1
          simp [hc]
  | cons c cs ih =>
      obtain ⟨htake, hdrop⟩ := Prod.mk.inj ih
      by_cases hc : isDigit c = true
      · simp [hc, htake, hdrop]
      · simp [hc]

/-! ## Numbers do not depend on what follows -/

/-- The digits of an exponent whose sign has been read. -/
def exponentDigits? (negative : Bool) (cs : List Char) : Option (Int × List Char) :=
  match takeDigits cs with
  | ([], _) => none
  | (ds, rest) =>
    let n : Int := digitsValue ds
    some (if negative then -n else n, rest)

/-- An exponent without a sign is read as its digits. -/
theorem exponent?_bare {c : Char} (hplus : c ≠ '+') (hminus : c ≠ '-') (cs : List Char) :
    exponent? (c :: cs) = exponentDigits? false (c :: cs) := by
  unfold exponent?
  split
  next negative rest h =>
    split at h
    · next heq => exact absurd (List.cons.inj heq).1 hplus
    · next heq => exact absurd (List.cons.inj heq).1 hminus
    · obtain ⟨rfl, rfl⟩ := Prod.mk.inj h
      rfl

variable {rest : List Char}

/-- What follows an exponent's digits, where numbers stop, is left as it is. -/
theorem exponentDigits?_append (hrest : Stops rest) (negative : Bool) {cs r : List Char} {e : Int}
    (h : exponentDigits? negative cs = some (e, r)) :
    exponentDigits? negative (cs ++ rest) = some (e, r ++ rest) := by
  unfold exponentDigits? at h ⊢
  rw [takeDigits_append hrest]
  cases htake : takeDigits cs with
  | mk ds left =>
      rw [htake] at h
      cases ds with
      | nil => cases h
      | cons d ds =>
          obtain ⟨rfl, rfl⟩ := Prod.mk.inj (Option.some.inj h)
          rfl

/-- What follows an exponent is left as it is. -/
theorem exponent?_append (hrest : Stops rest) {cs r : List Char} {e : Int}
    (h : exponent? cs = some (e, r)) : exponent? (cs ++ rest) = some (e, r ++ rest) := by
  cases cs with
  | nil => cases h
  | cons c cs =>
      rw [List.cons_append]
      by_cases hplus : c = '+'
      · subst hplus
        exact exponentDigits?_append hrest false h
      · by_cases hminus : c = '-'
        · subst hminus
          exact exponentDigits?_append hrest true h
        · rw [exponent?_bare hplus hminus] at h ⊢
          exact exponentDigits?_append hrest false h

/-- What follows a number with its exponent is left as it is. -/
theorem withExponent?_append (hrest : Stops rest) {negative : Bool} {m : Mantissa}
    {cs r : List Char} {n : Option JsonNumber} (h : withExponent? negative m cs = some (n, r)) :
    withExponent? negative m (cs ++ rest) = some (n, r ++ rest) := by
  cases cs with
  | nil =>
      obtain ⟨rfl, rfl⟩ := Prod.mk.inj (Option.some.inj h)
      cases rest with
      | nil => rfl
      | cons c rest =>
          rw [List.nil_append, withExponent?, (hrest c rfl).2.2, if_neg Bool.false_ne_true]
  | cons c cs =>
      rw [List.cons_append]
      rw [withExponent?] at h ⊢
      by_cases hmark : isExponentMark c = true
      · rw [if_pos hmark] at h ⊢
        cases hexp : exponent? cs with
        | none =>
            rw [hexp] at h
            cases h
        | some found =>
            obtain ⟨e, left⟩ := found
            rw [hexp] at h
            obtain ⟨rfl, rfl⟩ := Prod.mk.inj (Option.some.inj h)
            rw [exponent?_append hrest hexp]
      · rw [if_neg hmark] at h ⊢
        obtain ⟨rfl, rfl⟩ := Prod.mk.inj (Option.some.inj h)
        rfl

/-- What follows the digits before the point. -/
def afterWhole? (negative : Bool) (m : Mantissa) :
    List Char → Option (Option JsonNumber × List Char)
  | '.' :: rest =>
    match takeDigits rest with
    | ([], _) => none
    | (fs, rest) => withExponent? negative (fractionDigits m fs) rest
  | c :: rest =>
    if isExponentMark c then withExponent? negative m (c :: rest)
    else some (wholeOf? negative m, c :: rest)
  | [] => some (wholeOf? negative m, [])

/-- A number whose digits begin with no superfluous zero is read digit by digit. -/
theorem magnitude?_eq {negative : Bool} {cs ds left : List Char}
    (htake : takeDigits cs = (ds, left)) (hsome : ds ≠ [])
    (hzero : ∀ d tail, ds ≠ '0' :: d :: tail) :
    magnitude? negative cs = afterWhole? negative (wholeDigits ⟨0, 0, false⟩ ds) left := by
  unfold magnitude?
  rw [htake]
  split
  · next heq => exact absurd (Prod.mk.inj heq).1 hsome
  · next heq => exact absurd (Prod.mk.inj heq).1 (hzero _ _)
  · next heq =>
      obtain ⟨rfl, rfl⟩ := Prod.mk.inj heq
      rfl

/-- A number that is read has digits, and no superfluous zero before them. -/
theorem magnitude?_shape {negative : Bool} {cs : List Char}
    {found : Option JsonNumber × List Char} (h : magnitude? negative cs = some found) :
    ∃ ds left, takeDigits cs = (ds, left) ∧ ds ≠ [] ∧ ∀ d tail, ds ≠ '0' :: d :: tail := by
  unfold magnitude? at h
  split at h
  · cases h
  · cases h
  · next ds left hsome hzero htake =>
      exact ⟨ds, left, htake, hsome, hzero⟩

/-- What follows the rest of a number after its whole part is left as it is. -/
theorem afterWhole?_append (hrest : Stops rest) {negative : Bool} {m : Mantissa}
    {left r : List Char} {n : Option JsonNumber} (h : afterWhole? negative m left = some (n, r)) :
    afterWhole? negative m (left ++ rest) = some (n, r ++ rest) := by
  cases left with
  | nil =>
      obtain ⟨rfl, rfl⟩ := Prod.mk.inj (Option.some.inj h)
      cases rest with
      | nil => rfl
      | cons c rest =>
          obtain ⟨-, hpoint, hmark⟩ := hrest c rfl
          rw [List.nil_append, afterWhole?, hmark, if_neg Bool.false_ne_true]
          exact hpoint
  | cons c left =>
      rw [List.cons_append]
      by_cases hpoint : c = '.'
      · subst hpoint
        rw [afterWhole?] at h ⊢
        rw [takeDigits_append hrest]
        cases htake : takeDigits left with
        | mk fs tail =>
            rw [htake] at h
            cases fs with
            | nil => cases h
            | cons f fs => exact withExponent?_append hrest h
      · rw [afterWhole?] at h ⊢
        · by_cases hmark : isExponentMark c = true
          · rw [if_pos hmark] at h ⊢
            exact withExponent?_append hrest h
          · rw [if_neg hmark] at h ⊢
            obtain ⟨rfl, rfl⟩ := Prod.mk.inj (Option.some.inj h)
            rfl
        · exact hpoint
        · exact hpoint

/-- What follows a number without its sign is left as it is. -/
theorem magnitude?_append (hrest : Stops rest) {negative : Bool} {cs r : List Char}
    {n : Option JsonNumber} (h : magnitude? negative cs = some (n, r)) :
    magnitude? negative (cs ++ rest) = some (n, r ++ rest) := by
  obtain ⟨ds, left, htake, hsome, hzero⟩ := magnitude?_shape h
  have happend : takeDigits (cs ++ rest) = (ds, left ++ rest) := by
    rw [takeDigits_append hrest, htake]
  rw [magnitude?_eq htake hsome hzero] at h
  rw [magnitude?_eq happend hsome hzero]
  exact afterWhole?_append hrest h

/-- What is made of a number is the same whatever follows it. -/
theorem number?_append (hrest : Stops rest) {cs r : List Char} {n : Option JsonNumber}
    (h : number? cs = some (n, r)) : number? (cs ++ rest) = some (n, r ++ rest) := by
  cases cs with
  | nil => cases h
  | cons c cs =>
      rw [List.cons_append]
      by_cases hminus : c = '-'
      · subst hminus
        exact magnitude?_append hrest h
      · rw [number?] at h ⊢
        · exact magnitude?_append hrest h
        · exact fun _ heq => hminus (List.cons.inj heq).1
        · exact fun _ heq => hminus (List.cons.inj heq).1

/-! ## Whole numbers -/

/-- Digits are collected in the word as long as they fit. -/
theorem wholeDigits_eq {ds : List Char} {n : Nat} (hfits : Nat.ofDigitChars 10 ds n ≤ wordMax) :
    wholeDigits ⟨n, 0, false⟩ ds = ⟨Nat.ofDigitChars 10 ds n, 0, false⟩ := by
  induction ds generalizing n with
  | nil => rfl
  | cons d ds ih =>
      rw [Nat.ofDigitChars_cons] at hfits ⊢
      have hle := Integer.le_ofDigitChars ds (10 * n + (d.toNat - '0'.toNat))
      have hword : ¬ (false = true ∨ wordMax < 10 * n + digitValue d) := by
        unfold digitValue
        rintro (h | h)
        · cases h
        · exact absurd (Nat.lt_of_lt_of_le h hle) (Nat.not_lt.2 hfits)
      rw [wholeDigits, if_neg hword]
      exact ih hfits

/-- The digits of a number are taken to the last. -/
theorem takeDigits_digits (n : Nat) : takeDigits (Integer.digits n) = (Integer.digits n, []) := by
  have hall : ∀ c ∈ Integer.digits n, isDigit c = true :=
    fun c hc => Integer.isDigit_of_mem_digits hc
  unfold takeDigits
  rw [List.takeWhile_eq_self_iff.2 hall, List.dropWhile_eq_nil_iff.2 hall]

/-- The digits of a word are read as the number that they say. -/
theorem magnitude?_digits {n : Nat} (hn : n ≤ wordMax) (negative : Bool) :
    magnitude? negative (Integer.digits n) = some (wholeOf? negative ⟨n, 0, false⟩, []) := by
  have hzero : ∀ d tail, Integer.digits n ≠ '0' :: d :: tail := by
    intro d tail heq
    rcases Nat.eq_zero_or_pos n with rfl | hpos
    · cases heq
    · obtain ⟨c, cs, hcs, hc⟩ := Integer.head_digits hpos
      rw [hcs] at heq
      exact hc (List.cons.inj heq).1
  have hvalue := Integer.ofDigitChars_digits n
  have hwhole : wholeDigits ⟨0, 0, false⟩ (Integer.digits n) = ⟨n, 0, false⟩ := by
    rw [wholeDigits_eq (by rwa [hvalue]), hvalue]
  rw [magnitude?_eq (takeDigits_digits n) Nat.toDigits_ne_nil hzero, hwhole, afterWhole?]

/-- A number begins with a minus sign or a digit. -/
theorem number?_head {cs : List Char} {found : Option JsonNumber × List Char}
    (h : number? cs = some found) : ∃ c tail, cs = c :: tail ∧ (c = '-' ∨ isDigit c = true) := by
  cases cs with
  | nil => cases h
  | cons c cs =>
      refine ⟨c, cs, rfl, ?_⟩
      by_cases hminus : c = '-'
      · exact Or.inl hminus
      · rw [number?] at h
        · obtain ⟨ds, left, htake, hsome, -⟩ := magnitude?_shape h
          by_contra hneither
          have hdigit : isDigit c = false := Bool.eq_false_iff.2 fun hc => hneither (Or.inr hc)
          refine hsome ?_
          rw [← (Prod.mk.inj htake).1, List.takeWhile_cons_of_neg (by rw [hdigit]; decide)]
        · exact fun _ heq => hminus (List.cons.inj heq).1

end Reader

namespace JsonNumber

/-- The number is read back where it stands alone. -/
def ReadsBack (n : JsonNumber) : Prop := Reader.number? n.chars = some (some n, [])

/-- A whole number of 64 bits, signed or unsigned, is read back. -/
theorem readsBack_int {n : Int} (hleast : -9223372036854775808 ≤ n)
    (hgreatest : n ≤ 18446744073709551615) : (JsonNumber.int n).ReadsBack := by
  have hmax : Reader.wordMax = 18446744073709551615 := rfl
  unfold ReadsBack chars
  cases n with
  | ofNat n =>
      have hhead : ∀ cs, Integer.digits n ≠ '-' :: cs := by
        intro cs hcs
        have hdigit := Integer.isDigit_of_mem_digits (n := n) (hcs ▸ List.mem_cons_self)
        cases hdigit
      have hn : n ≤ Reader.wordMax := Int.ofNat_le.1 hgreatest
      unfold Integer.chars
      rw [Reader.number?, Reader.magnitude?_digits hn, Reader.wholeOf?]
      · rfl
      · exact hhead
  | negSucc n =>
      have hlarge : ¬ (n + 1 = 0 ∨ 9223372036854775808 < n + 1) := by omega
      unfold Integer.chars
      rw [Reader.number?, Reader.magnitude?_digits (by omega), Reader.wholeOf?,
        if_neg Bool.false_ne_true, if_pos rfl, if_neg hlarge]
      rfl

/-- A signed word of 64 bits reads back. -/
theorem readsBack_signed64 {n : Int} (hn : WordRange.signed64.holds n = true) :
    (JsonNumber.int n).ReadsBack := by
  obtain ⟨hleast, hgreatest⟩ := Bool.and_eq_true_iff.1 hn
  have hleast' : -9223372036854775808 ≤ n := of_decide_eq_true hleast
  have hgreatest' : n ≤ 9223372036854775807 := of_decide_eq_true hgreatest
  exact readsBack_int hleast' (by omega)

end JsonNumber

end ControlPlane
