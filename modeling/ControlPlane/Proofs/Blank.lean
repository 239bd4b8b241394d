/-
What is left after trimming.

Trimming and the question whether a text is blank are two ways to look at the same characters:
nothing is left exactly of a blank text (`trim_isEmpty`), and what is left is not blank. Blanks
around characters that are none are cut away, and nothing else (`trimChars_surrounded`).
-/
import ControlPlane.Text.Blank
import Mathlib.Data.List.TakeWhile

set_option autoImplicit false

namespace ControlPlane

namespace Text

/-- No digit is blank. -/
theorem isBlank_of_isDigit {c : Char} (hc : c.isDigit = true) : isBlank c = false := by
  obtain ⟨hleast, hgreatest⟩ := Bool.and_eq_true_iff.1 hc
  have hleast' : 48 ≤ c.toNat := UInt32.le_iff_toNat_le.1 (of_decide_eq_true hleast)
  have hgreatest' : c.toNat ≤ 57 := UInt32.le_iff_toNat_le.1 (of_decide_eq_true hgreatest)
  simp only [isBlank, Bool.or_eq_false_iff, Bool.and_eq_false_iff, decide_eq_false_iff_not,
    beq_eq_false_iff_ne]
  omega

/-- Nothing is left of a text in the end exactly if it is blank. -/
theorem trimEnd_eq_nil_iff (cs : List Char) : trimEnd cs = [] ↔ cs.all isBlank = true := by
  induction cs with
  | nil => simp only [trimEnd, List.all_nil]
  | cons c rest ih =>
      rw [List.all_cons, Bool.and_eq_true, ← ih, trimEnd]
      cases hrest : trimEnd rest with
      | nil => by_cases hc : isBlank c = true <;> simp [hc]
      | cons d ds => simp

/-- To cut off blanks in front does not make a text blank, or not blank. -/
theorem all_isBlank_trimStart (cs : List Char) :
    (trimStart cs).all isBlank = cs.all isBlank := by
  unfold trimStart
  induction cs with
  | nil => rfl
  | cons c rest ih =>
      by_cases hc : isBlank c = true
      · rw [List.dropWhile_cons_of_pos hc, List.all_cons, hc, Bool.true_and, ih]
      · rw [List.dropWhile_cons_of_neg hc]

/-- Nor does it to cut them off at the end. -/
theorem all_isBlank_trimEnd (cs : List Char) : (trimEnd cs).all isBlank = cs.all isBlank := by
  induction cs with
  | nil => rfl
  | cons c rest ih =>
      rw [List.all_cons, ← ih, trimEnd]
      cases trimEnd rest with
      | nil => by_cases hc : isBlank c = true <;> simp [hc]
      | cons d ds => rw [List.all_cons]

@[simp] theorem isBlankText_trim (s : String) : isBlankText (trim s) = isBlankText s := by
  unfold isBlankText trim trimChars
  rw [String.toList_ofList, all_isBlank_trimEnd, all_isBlank_trimStart]

/-- What is left of a text is empty exactly if the text is blank. -/
theorem trim_isEmpty (s : String) : (trim s).isEmpty = isBlankText s := by
  have hnil : trimChars s.toList = [] ↔ isBlankText s = true := by
    unfold trimChars isBlankText
    rw [trimEnd_eq_nil_iff, all_isBlank_trimStart]
  rw [Bool.eq_iff_iff, ← hnil, String.isEmpty_iff, trim]
  constructor
  · intro h
    have hlist := congrArg String.toList h
    rwa [String.toList_ofList] at hlist
  · intro h
    rw [h]

/-- What is left after trimming is there unless the text is blank. -/
theorem nonBlank?_eq (s : String) :
    nonBlank? s = if isBlankText s = true then none else some (trim s) := by
  simp only [nonBlank?, trim_isEmpty]

/-- A text that passes as not blank is not blank. -/
theorem not_isBlankText_of_nonBlank? {s t : String} (h : nonBlank? s = some t) :
    isBlankText t = false := by
  rw [nonBlank?_eq] at h
  split at h
  · cases h
  · next hblank =>
      rw [← Option.some.inj h, isBlankText_trim]
      exact Bool.eq_false_iff.2 hblank

/-- What passes as not blank are exactly trimmed texts that are not empty. -/
theorem nonBlank?_eq_some_iff {s t : String} : nonBlank? s = some t ↔ trim s = t ∧ t ≠ "" := by
  have hempty : (trim s).isEmpty = true ↔ trim s = "" := String.isEmpty_iff
  simp only [nonBlank?, hempty]
  constructor
  · intro h
    split at h
    · cases h
    · rename_i hpresent
      obtain rfl := Option.some.inj h
      exact ⟨rfl, hpresent⟩
  · rintro ⟨rfl, hpresent⟩
    rw [if_neg hpresent]

/-! ## Blanks around a word -/

/-- Blanks behind a text without blanks are cut off, and nothing else. -/
theorem trimEnd_append {body back : List Char} (hbody : ∀ c ∈ body, isBlank c = false)
    (hback : ∀ c ∈ back, isBlank c = true) : trimEnd (body ++ back) = body := by
  induction body with
  | nil => exact (trimEnd_eq_nil_iff back).2 (List.all_eq_true.2 hback)
  | cons c body ih =>
      have hrest := ih fun d hd => hbody d (List.mem_cons_of_mem c hd)
      rw [List.cons_append, trimEnd, hrest]
      cases body with
      | nil => simp [hbody c List.mem_cons_self]
      | cons d body => rfl

/-- Only behind the last character that is no blank is something cut away. -/
theorem trimEnd_last (front : List Char) {c : Char} (hc : isBlank c = false) (back : List Char) :
    trimEnd (front ++ c :: back) = front ++ c :: trimEnd back := by
  induction front with
  | nil =>
      rw [List.nil_append, List.nil_append, trimEnd]
      cases trimEnd back with
      | nil => rw [hc]; rfl
      | cons d ds => rfl
  | cons e front ih =>
      rw [List.cons_append, trimEnd, ih]
      cases front with
      | nil => rfl
      | cons d front => rfl

/-- There is nothing to be cut away twice. -/
theorem trimEnd_idempotent (cs : List Char) : trimEnd (trimEnd cs) = trimEnd cs := by
  induction cs with
  | nil => rfl
  | cons c cs ih =>
      rw [trimEnd]
      cases hcs : trimEnd cs with
      | nil => by_cases hc : isBlank c = true <;> simp [hc, trimEnd]
      | cons d ds =>
          rw [hcs] at ih
          simp only [trimEnd] at ih ⊢
          rw [ih]

/-- A text that begins with no blank is cut off at the end only. -/
theorem trimStart_trimEnd_of_not_blank {c : Char} (hc : isBlank c = false) (cs : List Char) :
    trimStart (trimEnd (c :: cs)) = trimEnd (c :: cs) := by
  have hhead : ¬ isBlank c = true := Bool.eq_false_iff.1 hc
  have hcons : ∃ ds, trimEnd (c :: cs) = c :: ds := by
    rw [trimEnd]
    cases trimEnd cs with
    | nil => exact ⟨[], if_neg hhead⟩
    | cons d ds => exact ⟨d :: ds, rfl⟩
  obtain ⟨ds, hds⟩ := hcons
  rw [hds, trimStart, List.dropWhile_cons_of_neg hhead]

/-- Nothing is left to be cut away of what was trimmed. -/
@[simp] theorem trim_trim (s : String) : trim (trim s) = trim s := by
  have hchars : trimChars (trimChars s.toList) = trimChars s.toList := by
    unfold trimChars
    cases hstart : trimStart s.toList with
    | nil => rfl
    | cons c cs =>
        have hc : isBlank c = false := by
          have hhead := List.head?_dropWhile_not isBlank s.toList
          unfold trimStart at hstart
          rw [hstart] at hhead
          simpa using hhead
        rw [trimStart_trimEnd_of_not_blank hc, trimEnd_idempotent]
  rw [trim, trim, String.toList_ofList, hchars]

/-- Of a word with blanks around it the word is left. -/
theorem trimChars_surrounded {front body back : List Char} (hfront : ∀ c ∈ front, isBlank c = true)
    (hbody : ∀ c ∈ body, isBlank c = false) (hback : ∀ c ∈ back, isBlank c = true) :
    trimChars (front ++ body ++ back) = body := by
  have hstart : trimStart (front ++ (body ++ back)) = trimStart (body ++ back) := by
    unfold trimStart
    exact List.dropWhile_append_of_pos hfront
  rw [trimChars, List.append_assoc, hstart]
  cases body with
  | nil =>
      rw [trimEnd_eq_nil_iff, all_isBlank_trimStart]
      exact List.all_eq_true.2 hback
  | cons c body =>
      have hc : ¬ isBlank c = true := Bool.eq_false_iff.1 (hbody c List.mem_cons_self)
      rw [trimStart, List.cons_append, List.dropWhile_cons_of_neg hc, ← List.cons_append,
        trimEnd_append hbody hback]

end Text

end ControlPlane
