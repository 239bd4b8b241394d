/-
Where a token ends.

A quoted text ends with its closing quote, and what follows makes no difference
(`quotedText?_local`). A number has no such end, it goes on as long as it can. But what was taken
for a number is the same number where it stands alone (`number?_cut`), and so it is in front of
anything that cannot continue it.
-/
import ControlPlane.Proofs.Numeral
import ControlPlane.Proofs.Quotation

set_option autoImplicit false

namespace ControlPlane

namespace Reader

/-! ## Quoted texts -/

theorem textPieces?_step (piece : List Char) {x : TextPiece}
    (hpiece : ∀ tail, textPieces? (piece ++ tail) =
      (textPieces? tail).map fun (ps, r) => (x :: ps, r))
    {rest r : List Char} {ps : List TextPiece}
    (h : ((textPieces? rest).map fun (ps, r) => (x :: ps, r)) = some (ps, r))
    (ih : ∀ {ps}, textPieces? rest = some (ps, r) →
      ∃ used, rest = used ++ r ∧ ∀ q, textPieces? (used ++ q) = some (ps, q)) :
    ∃ used, piece ++ rest = used ++ r ∧ ∀ q, textPieces? (used ++ q) = some (ps, q) := by
  obtain ⟨⟨ps', r'⟩, hrest, heq⟩ := Option.map_eq_some_iff.1 h
  obtain ⟨rfl, rfl⟩ := Prod.mk.inj heq
  obtain ⟨used, rfl, hread⟩ := ih hrest
  refine ⟨piece ++ used, (List.append_assoc ..).symm, fun q => ?_⟩
  rw [List.append_assoc, hpiece, hread, Option.map_some]

/-- What is read up to the closing quote is read there whatever follows. -/
theorem textPieces?_local {cs r : List Char} {ps : List TextPiece}
    (h : textPieces? cs = some (ps, r)) :
    ∃ used, cs = used ++ r ∧ ∀ q, textPieces? (used ++ q) = some (ps, q) := by
  -- the cases are those of the reader; where it goes on, it has taken one piece
  fun_induction textPieces? cs generalizing ps with
  | case1 => cases h
  | case2 rest =>
      obtain ⟨rfl, rfl⟩ := Prod.mk.inj (Option.some.inj h)
      exact ⟨['"'], rfl, fun q => by rw [List.singleton_append, textPieces?]⟩
  | case3 a b c d rest n hunit ih =>
      refine textPieces?_step ['\\', 'u', a, b, c, d] (fun tail => ?_) h ih
      simp only [List.cons_append, List.nil_append, textPieces?, hunit]
  | case4 => cases h
  | case5 e rest _ c he ih =>
      -- a short escape is not the beginning of a code unit
      have hu : e ≠ 'u' := by
        rintro rfl
        cases he
      exact textPieces?_step ['\\', e] (textPieces?_short hu he) h ih
  | case6 => cases h
  | case7 => cases h
  | case8 c rest hquote _ _ hplain ih =>
      obtain ⟨hslash, hc⟩ := not_or.1 hplain
      exact textPieces?_step [c] (textPieces?_plain hquote hslash hc) h ih

theorem quotedText?_local {cs r : List Char} {s : Option String}
    (h : quotedText? cs = some (s, r)) :
    ∃ used, cs = used ++ r ∧ ∀ q, quotedText? (used ++ q) = some (s, q) := by
  obtain ⟨⟨ps, r'⟩, hpieces, heq⟩ := Option.map_eq_some_iff.1 h
  obtain ⟨rfl, rfl⟩ := Prod.mk.inj heq
  obtain ⟨used, hused, hread⟩ := textPieces?_local hpieces
  exact ⟨used, hused, fun q => by rw [quotedText?, hread, Option.map_some]⟩

/-- A quoted text is the same whatever follows. -/
theorem quotedText?_append {cs : List Char} {s : Option String} (h : quotedText? cs = some (s, []))
    (q : List Char) : quotedText? (cs ++ q) = some (s, q) := by
  obtain ⟨used, rfl, hread⟩ := quotedText?_local h
  rw [List.append_nil, hread]

/-! ## Numbers -/

/-- No digit follows. -/
def Ends (cs : List Char) : Prop := ∀ c ∈ cs.head?, isDigit c = false

theorem ends_nil : Ends [] := by
  intro c hc
  cases hc

theorem Ends.of_append {used r : List Char} (h : Ends (used ++ r)) : Ends used := by
  cases used with
  | nil => exact ends_nil
  | cons c used => exact h

theorem takeDigits_spec {cs ds left : List Char} (h : takeDigits cs = (ds, left)) :
    cs = ds ++ left ∧ Ends left ∧ ∀ tail, Ends tail → takeDigits (ds ++ tail) = (ds, tail) := by
  obtain ⟨rfl, rfl⟩ := Prod.mk.inj h
  have hds : ∀ c ∈ cs.takeWhile isDigit, isDigit c = true := fun c hc => List.mem_takeWhile_imp hc
  refine ⟨List.takeWhile_append_dropWhile.symm, ?_, ?_⟩
  · intro c hc
    have hnot := List.head?_dropWhile_not isDigit cs
    rw [Option.mem_def.1 hc] at hnot
    exact hnot
  · intro tail htail
    unfold takeDigits
    rw [List.takeWhile_append_of_pos hds, List.dropWhile_append_of_pos hds]
    cases tail with
    | nil => simp
    | cons c tail => simp [htail c rfl]

/-- What was taken for an exponent is one where it stands alone. -/
theorem exponentDigits?_cut {negative : Bool} {cs r : List Char} {e : Int}
    (h : exponentDigits? negative cs = some (e, r)) :
    ∃ used, cs = used ++ r ∧ exponentDigits? negative used = some (e, []) := by
  unfold exponentDigits? at h ⊢
  cases htake : takeDigits cs with
  | mk ds left =>
      obtain ⟨hcs, -, hread⟩ := takeDigits_spec htake
      rw [htake] at h
      cases ds with
      | nil => cases h
      | cons d ds =>
          obtain ⟨rfl, rfl⟩ := Prod.mk.inj (Option.some.inj h)
          have halone := hread [] ends_nil
          rw [List.append_nil] at halone
          exact ⟨d :: ds, hcs, by rw [halone]⟩

theorem exponent?_cut {cs r : List Char} {e : Int} (h : exponent? cs = some (e, r)) :
    ∃ used, cs = used ++ r ∧ exponent? used = some (e, []) := by
  cases cs with
  | nil => cases h
  | cons c cs =>
      by_cases hplus : c = '+'
      · subst hplus
        have hdigits : exponentDigits? false cs = some (e, r) := h
        obtain ⟨used, rfl, hread⟩ := exponentDigits?_cut hdigits
        exact ⟨'+' :: used, rfl, hread⟩
      · by_cases hminus : c = '-'
        · subst hminus
          have hdigits : exponentDigits? true cs = some (e, r) := h
          obtain ⟨used, rfl, hread⟩ := exponentDigits?_cut hdigits
          exact ⟨'-' :: used, rfl, hread⟩
        · rw [exponent?_bare hplus hminus] at h
          obtain ⟨used, hused, hread⟩ := exponentDigits?_cut h
          -- there is a digit, so it is the one in front
          cases used with
          | nil => cases hread
          | cons d used =>
              obtain ⟨rfl, rfl⟩ := List.cons.inj hused
              exact ⟨c :: used, rfl, by rw [exponent?_bare hplus hminus, hread]⟩

theorem withExponent?_marked {negative : Bool} {m : Mantissa} {c : Char} {cs r : List Char}
    {n : Option JsonNumber} (hmark : isExponentMark c = true)
    (h : withExponent? negative m (c :: cs) = some (n, r)) :
    ∃ used, cs = used ++ r ∧ withExponent? negative m (c :: used) = some (n, []) := by
  rw [withExponent?, if_pos hmark] at h
  cases hexp : exponent? cs with
  | none =>
      rw [hexp] at h
      cases h
  | some found =>
      obtain ⟨e, left⟩ := found
      rw [hexp] at h
      obtain ⟨rfl, rfl⟩ := Prod.mk.inj (Option.some.inj h)
      obtain ⟨used, rfl, hread⟩ := exponent?_cut hexp
      exact ⟨used, rfl, by rw [withExponent?, if_pos hmark, hread]⟩

theorem withExponent?_cut {negative : Bool} {m : Mantissa} {cs r : List Char}
    {n : Option JsonNumber} (h : withExponent? negative m cs = some (n, r)) :
    ∃ used, cs = used ++ r ∧ withExponent? negative m used = some (n, []) := by
  cases cs with
  | nil =>
      obtain ⟨rfl, rfl⟩ := Prod.mk.inj (Option.some.inj h)
      exact ⟨[], rfl, rfl⟩
  | cons c cs =>
      by_cases hmark : isExponentMark c = true
      · obtain ⟨used, rfl, hread⟩ := withExponent?_marked hmark h
        exact ⟨c :: used, rfl, hread⟩
      · rw [withExponent?, if_neg hmark] at h
        obtain ⟨rfl, rfl⟩ := Prod.mk.inj (Option.some.inj h)
        exact ⟨[], rfl, rfl⟩

theorem afterWhole?_cut {negative : Bool} {m : Mantissa} {cs r : List Char}
    {n : Option JsonNumber} (h : afterWhole? negative m cs = some (n, r)) :
    ∃ used, cs = used ++ r ∧ afterWhole? negative m used = some (n, []) := by
  cases cs with
  | nil =>
      obtain ⟨rfl, rfl⟩ := Prod.mk.inj (Option.some.inj h)
      exact ⟨[], rfl, rfl⟩
  | cons c cs =>
      by_cases hpoint : c = '.'
      · subst hpoint
        rw [afterWhole?] at h
        cases htake : takeDigits cs with
        | mk fs left =>
            obtain ⟨hcs, hends, hread⟩ := takeDigits_spec htake
            rw [htake] at h
            cases fs with
            | nil => cases h
            | cons f fs =>
                -- of what follows the digits of the fraction the exponent is left
                obtain ⟨used, rfl, hexponent⟩ := withExponent?_cut h
                refine ⟨'.' :: ((f :: fs) ++ used), ?_, ?_⟩
                · simp only [hcs, List.cons_append, List.append_assoc]
                · rw [afterWhole?, hread used hends.of_append]
                  exact hexponent
      · rw [afterWhole?] at h
        · by_cases hmark : isExponentMark c = true
          · rw [if_pos hmark] at h
            obtain ⟨used, rfl, hread⟩ := withExponent?_marked hmark h
            refine ⟨c :: used, rfl, ?_⟩
            rw [afterWhole?, if_pos hmark, hread]
            exact hpoint
          · rw [if_neg hmark] at h
            obtain ⟨rfl, rfl⟩ := Prod.mk.inj (Option.some.inj h)
            exact ⟨[], rfl, rfl⟩
        · exact hpoint

theorem magnitude?_cut {negative : Bool} {cs r : List Char} {n : Option JsonNumber}
    (h : magnitude? negative cs = some (n, r)) :
    ∃ used, cs = used ++ r ∧ magnitude? negative used = some (n, []) := by
  obtain ⟨ds, left, htake, hsome, hzero⟩ := magnitude?_shape h
  rw [magnitude?_eq htake hsome hzero] at h
  obtain ⟨hcs, hends, hread⟩ := takeDigits_spec htake
  obtain ⟨used, rfl, hafter⟩ := afterWhole?_cut h
  -- what is used behind the digits begins with no digit, so the same digits are taken
  refine ⟨ds ++ used, by rw [hcs, List.append_assoc], ?_⟩
  rw [magnitude?_eq (hread used hends.of_append) hsome hzero, hafter]

/-- What was taken for a number is a number where it stands alone. -/
theorem number?_cut {cs r : List Char} {n : Option JsonNumber} (h : number? cs = some (n, r)) :
    ∃ used, cs = used ++ r ∧ number? used = some (n, []) := by
  cases cs with
  | nil => cases h
  | cons c cs =>
      by_cases hminus : c = '-'
      · subst hminus
        have hmagnitude : magnitude? true cs = some (n, r) := h
        obtain ⟨used, rfl, hread⟩ := magnitude?_cut hmagnitude
        exact ⟨'-' :: used, rfl, hread⟩
      · have hhead : ∀ {tail : List Char}, number? (c :: tail) = magnitude? false (c :: tail) := by
          intro tail
          rw [number?]
          exact fun _ heq => hminus (List.cons.inj heq).1
        rw [hhead] at h
        obtain ⟨used, hused, hread⟩ := magnitude?_cut h
        -- there is a digit in a number, so what is used begins where the text does
        cases used with
        | nil => cases hread
        | cons d used =>
            obtain ⟨rfl, rfl⟩ := List.cons.inj hused
            exact ⟨c :: used, rfl, by rw [hhead, hread]⟩

end Reader

end ControlPlane
