/-
Bytes and characters.

A text is stored as the bytes of its characters, one to four for each. A cut after some bytes
falls between two characters exactly where no byte follows that continues a character
(`isBoundary_iff`), and only there the bytes before it are a text of their own (`slice?`).

A search that goes from the last byte to the first, and passes over the places where it cannot
cut, never cuts a character, and it finds what a search by characters finds
(`searchBytes?_eq`).
-/
import ControlPlane.Decision.Answer
import Mathlib.Data.List.Induction

set_option autoImplicit false

namespace ControlPlane

namespace Text

/-! ## Bytes -/

/-- The bytes of a text. -/
def bytes (cs : List Char) : List UInt8 := cs.flatMap String.utf8EncodeChar

/-- Whether a byte continues a character. -/
def isContinuation (b : UInt8) : Bool := 0x80 ≤ b.toNat && b.toNat < 0xC0

/-- Whether a cut after a number of bytes falls between characters. -/
def isBoundary (bs : List UInt8) (n : Nat) : Bool :=
  match bs[n]? with
  | some b => !isContinuation b
  | none => n == bs.length

/-- The characters that the first bytes of a text stand for; none, if the last of them would be
cut. -/
def slice? : List Char → Nat → Option (List Char)
  | _, 0 => some []
  | [], _ + 1 => none
  | c :: cs, n + 1 =>
    if c.utf8Size ≤ n + 1 then (slice? cs (n + 1 - c.utf8Size)).map (c :: ·) else none

/-- The bytes of a text are those of its first character and those of the rest. -/
theorem bytes_cons (c : Char) (cs : List Char) :
    bytes (c :: cs) = String.utf8EncodeChar c ++ bytes cs := List.flatMap_cons

/-- The first byte of a character continues none, and the others do. -/
theorem utf8EncodeChar_shape (c : Char) :
    ∃ b tail, String.utf8EncodeChar c = b :: tail ∧ isContinuation b = false ∧
      ∀ x ∈ tail, isContinuation x = true := by
  have hcontinues : ∀ n : Nat, isContinuation (UInt8.ofNat (n % 64 + 128)) = true := by
    intro n
    simp only [isContinuation, UInt8.toNat_ofNat', Bool.and_eq_true, decide_eq_true_eq]
    omega
  have hbegins : ∀ n : Nat, n < 0x80 ∨ 0xC0 ≤ n → n < 256 →
      isContinuation (UInt8.ofNat n) = false := by
    intro n hn hbyte
    simp only [isContinuation, UInt8.toNat_ofNat', Bool.and_eq_false_iff, decide_eq_false_iff_not]
    omega
  rw [String.utf8EncodeChar.eq_1]
  split
  · exact ⟨_, _, rfl, hbegins _ (by omega) (by omega), List.forall_mem_nil _⟩
  · split
    · refine ⟨_, _, rfl, hbegins _ (by omega) (by omega), ?_⟩
      exact List.forall_mem_singleton.2 (hcontinues _)
    · split
      · refine ⟨_, _, rfl, hbegins _ (by omega) (by omega), ?_⟩
        exact List.forall_mem_cons.2 ⟨hcontinues _, List.forall_mem_singleton.2 (hcontinues _)⟩
      · refine ⟨_, _, rfl, hbegins _ (by omega) (by omega), ?_⟩
        exact List.forall_mem_cons.2 ⟨hcontinues _,
          List.forall_mem_cons.2 ⟨hcontinues _, List.forall_mem_singleton.2 (hcontinues _)⟩⟩

/-! ## Cuts -/

/-- Where characters begin does not depend on what stands in front. -/
theorem isBoundary_append (front bs : List UInt8) (n : Nat) :
    isBoundary (front ++ bs) (front.length + n) = isBoundary bs n := by
  unfold isBoundary
  rw [List.getElem?_append_right (Nat.le_add_right _ _), Nat.add_sub_cancel_left]
  split
  · rfl
  · rw [List.length_append, Bool.eq_iff_iff, beq_iff_eq, beq_iff_eq]
    omega

/-- The bytes before a cut are a text exactly where the cut falls between characters. -/
theorem isBoundary_iff (cs : List Char) (n : Nat) :
    isBoundary (bytes cs) n = true ↔ (slice? cs n).isSome = true := by
  induction cs generalizing n with
  | nil =>
      cases n with
      | zero => simp [isBoundary, bytes, slice?]
      | succ n => simp [isBoundary, bytes, slice?]
  | cons c cs ih =>
      obtain ⟨b, tail, hencode, hb, htail⟩ := utf8EncodeChar_shape c
      have hsize : c.utf8Size = tail.length + 1 := by
        rw [← String.length_utf8EncodeChar, hencode, List.length_cons]
      rw [bytes_cons, hencode]
      cases n with
      | zero => simp [isBoundary, slice?, hb]
      | succ n =>
          rw [slice?, hsize]
          by_cases hcut : tail.length + 1 ≤ n + 1
          · -- the cut is behind the first character
            have hlength : n + 1 = (b :: tail).length + (n + 1 - (tail.length + 1)) := by
              rw [List.length_cons]
              omega
            have hsame := isBoundary_append (b :: tail) (bytes cs) (n + 1 - (tail.length + 1))
            rw [← hlength] at hsame
            rw [if_pos hcut, Option.isSome_map, ← ih, hsame]
          · have hn : n < tail.length := by omega
            have hbyte : (b :: tail ++ bytes cs)[n + 1]? = some tail[n] := by
              rw [List.cons_append, List.getElem?_cons_succ, List.getElem?_append_left hn,
                List.getElem?_eq_getElem hn]
            rw [if_neg hcut, isBoundary, hbyte]
            simp [htail tail[n] (List.getElem_mem hn)]

/-- The whole text is a slice of itself. -/
theorem slice?_length (cs : List Char) : slice? cs (bytes cs).length = some cs := by
  induction cs with
  | nil => rfl
  | cons c cs ih =>
      rw [bytes_cons, List.length_append, String.length_utf8EncodeChar]
      have hsize := Char.utf8Size_pos c
      obtain ⟨n, hn⟩ : ∃ n, c.utf8Size + (bytes cs).length = n + 1 :=
        ⟨c.utf8Size + (bytes cs).length - 1, by omega⟩
      rw [hn, slice?, if_pos (by omega), ← hn, Nat.add_sub_cancel_left, ih, Option.map_some]

/-- A cut within the first part of a text does not see the rest. -/
theorem slice?_append (cs : List Char) (more : List Char) {n : Nat} (hn : n ≤ (bytes cs).length) :
    slice? (cs ++ more) n = slice? cs n := by
  induction cs generalizing n with
  | nil =>
      obtain rfl := Nat.le_zero.1 hn
      rw [slice?.eq_1, slice?.eq_1]
  | cons c cs ih =>
      cases n with
      | zero => rw [slice?.eq_1, slice?.eq_1]
      | succ n =>
          rw [bytes_cons, List.length_append, String.length_utf8EncodeChar] at hn
          rw [List.cons_append, slice?, slice?, ih (by omega)]

/-- To cut inside of a character fails. -/
theorem slice?_within (cs : List Char) {c : Char} {n : Nat} (hn : (bytes cs).length < n)
    (hlast : n < (bytes cs).length + c.utf8Size) : slice? (cs ++ [c]) n = none := by
  induction cs generalizing n with
  | nil =>
      obtain ⟨n, rfl⟩ : ∃ k, n = k + 1 := ⟨n - 1, by omega⟩
      have hbytes : (bytes []).length = 0 := rfl
      rw [List.nil_append, slice?, if_neg (by omega)]
  | cons d cs ih =>
      rw [bytes_cons, List.length_append, String.length_utf8EncodeChar] at hn hlast
      obtain ⟨n, rfl⟩ : ∃ k, n = k + 1 := ⟨n - 1, by omega⟩
      rw [List.cons_append, slice?, if_pos (by omega), ih (by omega) (by omega), Option.map_none]

end Text

namespace Answer

open Text

/-! ## The search by bytes -/

/-- Gives up bytes at the end until what is left is JSON, and passes over the places where a
character would be cut. If it were to cut one, there would be no result at all. -/
def searchBytes? (cs : List Char) : Nat → Option (Option (List Char))
  | 0 => some none
  | n + 1 =>
    if isBoundary (bytes cs) (n + 1) then
      match slice? cs (n + 1) with
      | some d => if isJson d then some (some d) else searchBytes? cs n
      | none => none
    else searchBytes? cs n

/-- To search within a text does not depend on what stands behind it. -/
theorem searchBytes?_append (cs more : List Char) {n : Nat} (hn : n ≤ (bytes cs).length) :
    searchBytes? (cs ++ more) n = searchBytes? cs n := by
  induction n with
  | zero => rfl
  | succ n ih =>
      have hboundary : isBoundary (bytes (cs ++ more)) (n + 1) = isBoundary (bytes cs) (n + 1) := by
        rw [Bool.eq_iff_iff, isBoundary_iff, isBoundary_iff, slice?_append cs more hn]
      rw [searchBytes?, searchBytes?, hboundary, slice?_append cs more hn,
        ih (Nat.le_of_succ_le hn)]

/-- Within the last character there is nothing to be found. -/
theorem searchBytes?_within (cs : List Char) {c : Char} {k : Nat} (hk : k < c.utf8Size) :
    searchBytes? (cs ++ [c]) ((bytes cs).length + k) = searchBytes? cs (bytes cs).length := by
  induction k with
  | zero => exact searchBytes?_append cs [c] (Nat.le_refl _)
  | succ k ih =>
      have hcut : isBoundary (bytes (cs ++ [c])) ((bytes cs).length + (k + 1)) = false := by
        rw [Bool.eq_false_iff, ne_eq, isBoundary_iff, slice?_within cs (by omega) (by omega)]
        decide
      rw [← Nat.add_assoc] at hcut ⊢
      rw [searchBytes?, hcut, if_neg Bool.false_ne_true, ih (by omega)]

/-- **No character is cut.** The search by bytes has a result, and it is the one of the search by
characters. -/
theorem searchBytes?_eq (cs : List Char) :
    searchBytes? cs (bytes cs).length = some (shrink? cs.reverse) := by
  induction cs using List.reverseRecOn with
  | nil => rfl
  | append_singleton cs c ih =>
      have hsize := Char.utf8Size_pos c
      have hlength : (bytes (cs ++ [c])).length = (bytes cs).length + (c.utf8Size - 1) + 1 := by
        rw [bytes, List.flatMap_append, List.flatMap_singleton, List.length_append,
          String.length_utf8EncodeChar, ← bytes]
        omega
      have hwhole := slice?_length (cs ++ [c])
      have hboundary : isBoundary (bytes (cs ++ [c])) (bytes (cs ++ [c])).length = true := by
        rw [isBoundary_iff, hwhole]
        rfl
      -- the whole text comes first; then nothing is found before the last character
      rw [hlength] at hwhole hboundary ⊢
      rw [searchBytes?, hboundary, if_pos rfl, hwhole, List.reverse_append, List.reverse_singleton,
        List.singleton_append, shrink?, List.reverse_cons, List.reverse_reverse]
      dsimp only
      split
      · rfl
      · rw [searchBytes?_within cs (by omega), ih]

end Answer

end ControlPlane
