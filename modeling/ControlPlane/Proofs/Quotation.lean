/-
Quoted texts are read back.

Between the quotes of a JSON text most characters stand for themselves; quotes, backslashes and
control characters are escaped. The reader makes pieces of that, one for each character
(`textPieces?_escapeChar`), and puts the pieces together again. A control character that has no
short escape comes back as a code unit, which is no half of a surrogate pair, so that all pieces
are characters (`join?_piece`). What follows the closing quote is left as it is.
-/
import ControlPlane.Json.Printer
import ControlPlane.Json.Reader
import Mathlib.Tactic.SplitIfs

set_option autoImplicit false

namespace ControlPlane

namespace Reader

/-- The characters that are escaped by their number. -/
def isNumbered (c : Char) : Bool :=
  decide (c.toNat < 32) && !(c == '\n' || c == '\r' || c == '\t' || c.toNat == 8 || c.toNat == 12)

/-- What the reader makes of a character that was written between quotes. -/
def piece (c : Char) : TextPiece :=
  if isNumbered c = true then .unit c.toNat else .char c

/-! ## One character -/

/-- The number of a control character in hexadecimal is read back. -/
theorem unit?_hexChar {n : Nat} (hn : n < 32) :
    unit? '0' '0' (Json.hexChar (n / 16)) (Json.hexChar (n % 16)) = some n := by
  revert n
  decide

/-- A plain character in quotes stands for itself. -/
theorem textPieces?_plain {c : Char} (hquote : c ≠ '"') (hslash : c ≠ '\\') (hc : ¬ c.toNat < 32)
    (rest : List Char) :
    textPieces? (c :: rest) = (textPieces? rest).map fun (ps, r) => (.char c :: ps, r) := by
  rw [textPieces?]
  · exact if_neg fun h => h.elim hslash hc
  · exact hquote
  · intro a b c' d rest' h
    exact absurd h hslash
  · intro e rest' h
    exact absurd h hslash

/-- A short escape stands for its character. -/
theorem textPieces?_short {e c : Char} (hu : e ≠ 'u') (he : shortEscape? e = some c)
    (rest : List Char) :
    textPieces? ('\\' :: e :: rest) =
      (textPieces? rest).map fun (ps, r) => (.char c :: ps, r) := by
  rw [textPieces?, he]
  intro a b c' d rest' h
  exact absurd h hu

/-- A control character is read from its number. -/
theorem textPieces?_unit {n : Nat} (hn : n < 32) (rest : List Char) :
    textPieces? ('\\' :: 'u' :: '0' :: '0' :: Json.hexChar (n / 16) :: Json.hexChar (n % 16) ::
        rest) =
      (textPieces? rest).map fun (ps, r) => (.unit n :: ps, r) := by
  rw [textPieces?, unit?_hexChar hn]

/-- The reader makes one piece of what is written for a character. -/
theorem textPieces?_escapeChar (c : Char) (rest : List Char) :
    textPieces? (Json.escapeChar c ++ rest) =
      (textPieces? rest).map fun (ps, r) => (piece c :: ps, r) := by
  have hofNat : ∀ n : Nat, c.toNat = n → c = Char.ofNat n := by
    intro n hn
    rw [← hn, Char.ofNat_toNat]
  unfold Json.escapeChar
  split_ifs with hquote hslash hn hr ht hb hf hsmall
  · subst hquote
    exact textPieces?_short (by decide) (by decide) rest
  · subst hslash
    exact textPieces?_short (by decide) (by decide) rest
  · subst hn
    exact textPieces?_short (by decide) (by decide) rest
  · subst hr
    exact textPieces?_short (by decide) (by decide) rest
  · subst ht
    exact textPieces?_short (by decide) (by decide) rest
  · rw [hofNat 8 hb]
    exact textPieces?_short (by decide) (by decide) rest
  · rw [hofNat 12 hf]
    exact textPieces?_short (by decide) (by decide) rest
  · have hnumbered : isNumbered c = true := by
      simp [isNumbered, hsmall, hn, hr, ht, hb, hf]
    rw [piece, if_pos hnumbered]
    exact textPieces?_unit hsmall rest
  · have hnumbered : isNumbered c ≠ true := by
      simp [isNumbered, hsmall]
    rw [piece, if_neg hnumbered]
    exact textPieces?_plain hquote hslash hsmall rest

/-- A control character is no half of a surrogate pair. -/
theorem join?_unit {n : Nat} (hn : n < 32) (ps : List TextPiece) :
    TextPiece.join? (.unit n :: ps) = (TextPiece.join? ps).map (Char.ofNat n :: ·) := by
  -- the halves of pairs have numbers from 0xD800 on
  have htrail : TextPiece.isTrail n = false := by
    unfold TextPiece.isTrail
    rw [decide_eq_false (by omega), Bool.false_and]
  have hlead : TextPiece.isLead n = false := by
    unfold TextPiece.isLead
    rw [decide_eq_false (by omega), Bool.false_and]
  cases ps with
  | nil => simp [TextPiece.join?, htrail, hlead]
  | cons p rest => cases p <;> simp [TextPiece.join?, htrail, hlead]

/-- The pieces of a text are its characters. -/
theorem join?_piece (cs : List Char) : TextPiece.join? (cs.map piece) = some cs := by
  induction cs with
  | nil => rfl
  | cons c rest ih =>
      rw [List.map_cons, piece]
      split
      · next h =>
          have hsmall : c.toNat < 32 := by
            unfold isNumbered at h
            exact of_decide_eq_true (Bool.and_eq_true_iff.1 h).1
          rw [join?_unit hsmall, ih, Option.map_some, Char.ofNat_toNat]
      · rw [TextPiece.join?, ih, Option.map_some]

/-! ## A whole text -/

/-- An escaped text is read piece by piece, up to the quote. -/
theorem textPieces?_escaped (cs rest : List Char) :
    textPieces? (cs.flatMap Json.escapeChar ++ '"' :: rest) = some (cs.map piece, rest) := by
  induction cs with
  | nil => rfl
  | cons c tail ih =>
      rw [List.flatMap_cons, List.append_assoc, textPieces?_escapeChar, ih, Option.map_some,
        List.map_cons]

/-- A text that was written between quotes is read back, whatever follows. -/
theorem quotedText?_escaped (s : String) (rest : List Char) :
    quotedText? (s.toList.flatMap Json.escapeChar ++ '"' :: rest) = some (some s, rest) := by
  rw [quotedText?, textPieces?_escaped, Option.map_some]
  dsimp only
  rw [join?_piece, Option.map_some, String.ofList_toList]

end Reader

end ControlPlane
