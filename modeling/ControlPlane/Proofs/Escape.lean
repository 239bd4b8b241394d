/-
Escapes in a query value.

A query value is read one byte after the other (`bytesFrom?`): a plus sign is a space, a percent
sign takes the two bytes behind it along, which a parser of numbers gets to see, and any other byte
is itself. Those two bytes may be cut out only where no character is cut, so that the bytes come out
the same if whole characters are read (`bytesFrom?_eq`), and what is read is what a grammar of
escapes says (`queryBytes?_iff`).

The parser of numbers lets a sign through that is no digit. So a value is read as its escapes say
exactly if no percent sign is directly followed by a plus sign (`decodeQuery?_iff`); where one is, a
value may be read whose escape has only one digit (`decodeQuery?_signed`).
-/
import ControlPlane.Proofs.Boundary
import ControlPlane.Proofs.Bytes

set_option autoImplicit false

namespace ControlPlane

namespace Text

/-! ## Digits -/

/-- The hexadecimal digit of a value, in lower or in upper case. -/
def Hex (n : Nat) (c : Char) : Prop :=
  "0123456789abcdef".toList[n]? = some c ∨ "0123456789ABCDEF".toList[n]? = some c

instance (n : Nat) (c : Char) : Decidable (Hex n c) := inferInstanceAs (Decidable (_ ∨ _))

/-- A hexadecimal digit has one of sixteen values. -/
theorem Hex.lt {n : Nat} {c : Char} (h : Hex n c) : n < 16 := by
  rcases h with h | h
  · exact (List.getElem?_eq_some_iff.1 h).1
  · exact (List.getElem?_eq_some_iff.1 h).1

/-- Hexadecimal digits are single bytes. -/
theorem hexValue?_lt {c : Char} {n : Nat} (h : hexValue? c = some n) : c.toNat < 128 := by
  have hle : ∀ d : Char, d.toNat < 128 → c ≤ d → c.toNat < 128 :=
    fun d hd hc => Nat.lt_of_le_of_lt hc hd
  unfold hexValue? at h
  split at h
  next hc => exact hle '9' (by decide) hc.2
  next =>
    split at h
    next hc => exact hle 'f' (by decide) hc.2
    next =>
      split at h
      next hc => exact hle 'F' (by decide) hc.2
      next => cases h

/-- A character is read as a value if it is the digit of that value. -/
theorem hexValue?_eq_some_iff {c : Char} {n : Nat} : hexValue? c = some n ↔ Hex n c := by
  constructor
  · intro h
    have hdigits : ∀ k < 128, ∀ n ∈ hexValue? (Char.ofNat k), Hex n (Char.ofNat k) := by
      decide +kernel
    have hc := hdigits c.toNat (hexValue?_lt h)
    rw [Char.ofNat_toNat] at hc
    exact hc n h
  · have hvalues : ∀ p ∈ "0123456789abcdef".toList.zipIdx ++ "0123456789ABCDEF".toList.zipIdx,
        hexValue? p.1 = some p.2 := by
      decide +kernel
    rintro (hlower | hupper)
    · exact hvalues (c, n) (List.mem_append_left _ (List.mem_zipIdx_iff_getElem?.2 hlower))
    · exact hvalues (c, n) (List.mem_append_right _ (List.mem_zipIdx_iff_getElem?.2 hupper))

/-- What is no digit differs from every digit. -/
theorem Hex.ne {n : Nat} {c d : Char} (h : Hex n c) (hd : hexValue? d = none) : c ≠ d := by
  rintro rfl
  rw [hexValue?_eq_some_iff.2 h] at hd
  cases hd

/-! ## What is spelled -/

/-- The bytes that a query value spells. Where `signs` holds, a percent sign, a plus sign and one
digit pass for an escape. -/
inductive Escaped (signs : Prop) : List Char → List UInt8 → Prop
  | nil : Escaped signs [] []
  /-- A plus sign is a space. -/
  | space {cs : List Char} {bs : List UInt8} (h : Escaped signs cs bs) :
      Escaped signs ('+' :: cs) (32 :: bs)
  /-- A percent sign and two digits are a byte. -/
  | escape {a b : Char} {x y : Nat} {cs : List Char} {bs : List UInt8} (ha : Hex x a)
      (hb : Hex y b) (h : Escaped signs cs bs) :
      Escaped signs ('%' :: a :: b :: cs) ((16 * x + y).toUInt8 :: bs)
  /-- What the parser of numbers lets through, too. -/
  | signed {b : Char} {y : Nat} {cs : List Char} {bs : List UInt8} (hsigns : signs)
      (hb : Hex y b) (h : Escaped signs cs bs) :
      Escaped signs ('%' :: '+' :: b :: cs) (y.toUInt8 :: bs)
  /-- Any other character is itself. -/
  | plain {c : Char} {cs : List Char} {bs : List UInt8} (hplus : c ≠ '+') (hpercent : c ≠ '%')
      (h : Escaped signs cs bs) : Escaped signs (c :: cs) (String.utf8EncodeChar c ++ bs)

/-- Two characters are a byte if they are two digits, or a plus sign and one. -/
theorem queryByte?_eq_some_iff {a b : Char} {byte : UInt8} :
    queryByte? a b = some byte ↔
      ∃ x y, (Hex x a ∨ a = '+' ∧ x = 0) ∧ Hex y b ∧ (16 * x + y).toUInt8 = byte := by
  simp only [← hexValue?_eq_some_iff]
  unfold queryByte?
  by_cases ha : a = '+'
  · have hno : hexValue? '+' = none := by decide
    subst ha
    cases hexValue? b <;> simp [hno]
  · simp only [ha, false_and, or_false]
    cases hexValue? a <;> cases hexValue? b <;> simp

/-- The bytes of a query value are what it spells. -/
theorem queryBytes?_iff {cs : List Char} {bs : List UInt8} :
    queryBytes? cs = some bs ↔ Escaped True cs bs := by
  constructor
  · intro h
    induction cs using queryBytes?.induct generalizing bs with
    | case1 =>
        obtain rfl := Option.some.inj h
        exact .nil
    | case2 rest ih =>
        rw [queryBytes?.eq_2, Option.map_eq_some_iff] at h
        obtain ⟨more, hmore, rfl⟩ := h
        exact .space (ih hmore)
    | case3 a b rest byte hbyte ih =>
        rw [queryBytes?.eq_3, hbyte] at h
        obtain ⟨more, hmore, rfl⟩ := Option.map_eq_some_iff.1 h
        obtain ⟨x, y, ha | ⟨rfl, rfl⟩, hb, rfl⟩ := queryByte?_eq_some_iff.1 hbyte
        · exact .escape ha hb (ih hmore)
        · rw [Nat.mul_zero, Nat.zero_add]
          exact .signed trivial hb (ih hmore)
    | case4 a b rest hbyte =>
        rw [queryBytes?.eq_3, hbyte] at h
        cases h
    | case5 tail htail =>
        rw [queryBytes?.eq_4 tail htail] at h
        cases h
    | case6 c rest hplus hescape hpercent ih =>
        rw [queryBytes?.eq_5 c rest hplus hescape hpercent, Option.map_eq_some_iff] at h
        obtain ⟨more, hmore, rfl⟩ := h
        rw [charBytes_eq]
        exact .plain hplus hpercent (ih hmore)
  · intro h
    induction h with
    | nil => rfl
    | space h ih => rw [queryBytes?.eq_2, ih, Option.map_some]
    | escape ha hb h ih =>
        rw [queryBytes?.eq_3, queryByte?_eq_some_iff.2 ⟨_, _, Or.inl ha, hb, rfl⟩, ih]
        rfl
    | signed hsigns hb h ih =>
        rw [queryBytes?.eq_3, queryByte?_eq_some_iff.2 ⟨0, _, Or.inr ⟨rfl, rfl⟩, hb, rfl⟩, ih,
          Nat.mul_zero, Nat.zero_add]
        rfl
    | @plain c cs bs hplus hpercent h ih =>
        rw [queryBytes?.eq_5 c cs hplus (fun _ _ _ hc => absurd hc hpercent) hpercent, ih,
          charBytes_eq, Option.map_some]

/-- What is spelled without signs is spelled with them as well. -/
theorem Escaped.mono {signs : Prop} {cs : List Char} {bs : List UInt8} (h : Escaped False cs bs) :
    Escaped signs cs bs := by
  induction h with
  | nil => exact .nil
  | space h ih => exact .space ih
  | escape ha hb h ih => exact .escape ha hb ih
  | signed hsigns => exact hsigns.elim
  | plain hplus hpercent h ih => exact .plain hplus hpercent ih

/-- Where no percent sign stands right before a plus sign, no sign is taken for a digit. -/
theorem Escaped.unsigned {signs : Prop} {cs : List Char} {bs : List UInt8}
    (h : Escaped signs cs bs) (hfree : ¬ ['%', '+'] <:+: cs) : Escaped False cs bs := by
  induction h with
  | nil => exact .nil
  | space h ih => exact .space (ih fun hin => hfree (List.infix_cons hin))
  | @escape a b x y cs bs ha hb h ih =>
      have hrest : cs <:+: '%' :: a :: b :: cs := ⟨['%', a, b], [], by simp⟩
      exact .escape ha hb (ih fun hin => hfree (hin.trans hrest))
  | @signed b y cs bs hsigns hb h ih => exact absurd ⟨[], b :: cs, rfl⟩ hfree
  | plain hplus hpercent h ih =>
      exact .plain hplus hpercent (ih fun hin => hfree (List.infix_cons hin))

/-- Escapes of two digits leave no percent sign right before a plus sign. -/
theorem Escaped.free {cs : List Char} {bs : List UInt8} (h : Escaped False cs bs) :
    ¬ ['%', '+'] <:+: cs := by
  induction h with
  | nil => simp
  | space h ih => simpa [List.infix_cons_iff] using ih
  | escape ha hb h ih =>
      have hplus : ∀ {n : Nat} {c : Char}, Hex n c → '+' ≠ c := fun h => (h.ne (by decide)).symm
      have hpercent : ∀ {n : Nat} {c : Char}, Hex n c → '%' ≠ c := fun h => (h.ne (by decide)).symm
      simp [List.infix_cons_iff, ih, hplus ha, hpercent ha, hpercent hb]
  | signed hsigns => exact hsigns.elim
  | plain hplus hpercent h ih => simp [List.infix_cons_iff, ih, hpercent.symm]

/-! ## Reading by bytes -/

/-- The byte that hexadecimal digits stand for, with a plus sign in front or without. -/
def radix? (cs : List Char) : Option UInt8 :=
  let digits := match cs with
    | '+' :: rest => rest
    | _ => cs
  if digits.isEmpty then none
  else
    let value := digits.foldlM (fun n c => (hexValue? c).bind fun d =>
      if 16 * n + d < 256 then some (16 * n + d) else none) 0
    value.map Nat.toUInt8

/-- The characters between two places that are counted in bytes; none, if one would be cut. -/
def cut? (cs : List Char) (i j : Nat) : Option (List Char) :=
  (slice? cs i).bind fun front => slice? (cs.drop front.length) (j - i)

/-- The bytes of a query value from a place on. -/
def bytesFrom? (cs : List Char) (i : Nat) : Option (List UInt8) :=
  if h : i < (bytes cs).length then
    if (bytes cs)[i] = 43 then (bytesFrom? cs (i + 1)).map (32 :: ·)
    else if (bytes cs)[i] = 37 then
      match (cut? cs (i + 1) (i + 3)).bind radix? with
      | some byte => (bytesFrom? cs (i + 3)).map (byte :: ·)
      | none => none
    else (bytesFrom? cs (i + 1)).map ((bytes cs)[i] :: ·)
  else some []
termination_by (bytes cs).length - i

/-- The bytes of two texts in a row follow one another. -/
theorem bytes_append (front rest : List Char) : bytes (front ++ rest) = bytes front ++ bytes rest :=
  List.flatMap_append

/-- A slice of some bytes is what the text begins with, if it has as many bytes. -/
theorem slice?_eq_some_iff {cs d : List Char} {n : Nat} :
    slice? cs n = some d ↔ ∃ rest, cs = d ++ rest ∧ (bytes d).length = n := by
  constructor
  · intro h
    induction cs, n using slice?.induct generalizing d with
    | case1 cs =>
        rw [slice?.eq_1] at h
        obtain rfl := Option.some.inj h
        exact ⟨cs, rfl, rfl⟩
    | case2 n =>
        rw [slice?.eq_2] at h
        cases h
    | case3 c cs n hsize ih =>
        rw [slice?, if_pos hsize, Option.map_eq_some_iff] at h
        obtain ⟨d, hd, rfl⟩ := h
        obtain ⟨rest, rfl, hlength⟩ := ih hd
        refine ⟨rest, rfl, ?_⟩
        rw [bytes_cons, List.length_append, String.length_utf8EncodeChar, hlength]
        omega
    | case4 c cs n hsize =>
        rw [slice?, if_neg hsize] at h
        cases h
  · rintro ⟨rest, rfl, rfl⟩
    rw [slice?_append d rest (Nat.le_refl _), slice?_length]

/-- Behind a whole number of characters the cut is that of the rest. -/
theorem cut?_append (front rest : List Char) (n : Nat) :
    cut? (front ++ rest) (bytes front).length ((bytes front).length + n) = slice? rest n := by
  rw [cut?, slice?_eq_some_iff.2 ⟨rest, rfl, rfl⟩, Option.bind_some, List.drop_left,
    Nat.add_sub_cancel_left]

theorem utf8Size_eq_one {c : Char} {n : Nat} (h : hexValue? c = some n) : c.utf8Size = 1 := by
  rw [Char.utf8Size_eq_one_iff]
  exact Nat.le_of_lt_succ (hexValue?_lt h)

/-- Two characters are read as digits of a number, with or without a sign. -/
theorem radix?_pair (a b : Char) : radix? [a, b] = queryByte? a b := by
  by_cases ha : a = '+'
  · subst ha
    cases hb : hexValue? b with
    | none => simp [radix?, queryByte?, hb]
    | some y =>
        have hy := (hexValue?_eq_some_iff.1 hb).lt
        have hfits : y < 256 := by omega
        simp [radix?, queryByte?, hb, hfits]
  · cases hx : hexValue? a with
    | none => simp [radix?, queryByte?, ha, hx]
    | some x =>
        cases hy : hexValue? b with
        | none => simp [radix?, queryByte?, ha, hx, hy]
        | some y =>
            have hxlt := (hexValue?_eq_some_iff.1 hx).lt
            have hylt := (hexValue?_eq_some_iff.1 hy).lt
            have hfirst : x < 256 := by omega
            have hfits : 16 * x + y < 256 := by omega
            simp [radix?, queryByte?, ha, hx, hy, hfirst, hfits]

/-- What stands for a byte are two characters of one byte each. -/
theorem utf8Size_of_queryByte? {a b : Char} {byte : UInt8} (h : queryByte? a b = some byte) :
    a.utf8Size = 1 ∧ b.utf8Size = 1 := by
  obtain ⟨x, y, hx, hy, -⟩ := queryByte?_eq_some_iff.1 h
  refine ⟨?_, utf8Size_eq_one (hexValue?_eq_some_iff.2 hy)⟩
  rcases hx with hx | ⟨rfl, -⟩
  · exact utf8Size_eq_one (hexValue?_eq_some_iff.2 hx)
  · rfl

/-- The two bytes that the parser of numbers gets to see are two characters, or no number. -/
theorem radix?_slice?_iff {tail : List Char} {byte : UInt8} :
    (slice? tail 2).bind radix? = some byte ↔
      ∃ a b rest, tail = a :: b :: rest ∧ queryByte? a b = some byte := by
  rw [Option.bind_eq_some_iff]
  constructor
  · rintro ⟨d, hd, hbyte⟩
    obtain ⟨rest, rfl, hlength⟩ := slice?_eq_some_iff.1 hd
    match d with
    | [] => cases hlength
    | [c] =>
        -- a character of two bytes is no digit
        rw [bytes, List.flatMap_singleton, String.length_utf8EncodeChar] at hlength
        have hplus : c ≠ '+' := by
          rintro rfl
          cases hlength
        have hvalue : hexValue? c = none := by
          refine Option.eq_none_iff_forall_ne_some.2 fun n hn => ?_
          rw [utf8Size_eq_one hn] at hlength
          cases hlength
        simp [radix?, hplus, hvalue] at hbyte
    | [a, b] => exact ⟨a, b, rest, rfl, by rw [← radix?_pair, hbyte]⟩
    | a :: b :: c :: more =>
        simp only [bytes_cons, List.length_append, String.length_utf8EncodeChar] at hlength
        have ha := Char.utf8Size_pos a
        have hb := Char.utf8Size_pos b
        have hc := Char.utf8Size_pos c
        omega
  · rintro ⟨a, b, rest, rfl, hbyte⟩
    obtain ⟨ha, hb⟩ := utf8Size_of_queryByte? hbyte
    refine ⟨[a, b], slice?_eq_some_iff.2 ⟨rest, rfl, ?_⟩, by rw [radix?_pair, hbyte]⟩
    rw [bytes_cons, bytes, List.flatMap_singleton, List.length_append,
      String.length_utf8EncodeChar, String.length_utf8EncodeChar, ha, hb]

/-- A byte below 128 in a character is that character. -/
theorem toNat_of_mem_utf8EncodeChar {c : Char} {x : UInt8} (hx : x ∈ String.utf8EncodeChar c)
    (hlt : x.toNat < 128) : c.toNat = x.toNat := by
  rw [String.utf8EncodeChar.eq_1] at hx
  have hval : c.val.toNat = c.toNat := rfl
  split at hx
  · rw [List.mem_singleton] at hx
    rw [hx, UInt8.toNat_ofNat']
    omega
  · -- every byte of a longer character is at least 128
    exfalso
    split at hx
    · simp only [List.mem_cons, List.not_mem_nil, or_false] at hx
      rcases hx with rfl | rfl <;> rw [UInt8.toNat_ofNat'] at hlt <;> omega
    · split at hx
      · simp only [List.mem_cons, List.not_mem_nil, or_false] at hx
        rcases hx with rfl | rfl | rfl <;> rw [UInt8.toNat_ofNat'] at hlt <;> omega
      · simp only [List.mem_cons, List.not_mem_nil, or_false] at hx
        rcases hx with rfl | rfl | rfl | rfl <;> rw [UInt8.toNat_ofNat'] at hlt <;> omega

/-- A run of bytes that are neither signs nor escapes stands for itself. -/
theorem bytesFrom?_run {cs : List Char} {front run back : List UInt8}
    (hcs : bytes cs = front ++ run ++ back) (hrun : ∀ x ∈ run, x ≠ 43 ∧ x ≠ 37) :
    bytesFrom? cs front.length = (bytesFrom? cs (front.length + run.length)).map (run ++ ·) := by
  induction run generalizing front with
  | nil => simp
  | cons x run ih =>
      have hlt : front.length < (bytes cs).length := by
        rw [hcs]
        simp
      have hget : (bytes cs)[front.length] = x := by simp [hcs]
      obtain ⟨hx, hrun⟩ := List.forall_mem_cons.1 hrun
      have hnext := @ih (front ++ [x]) (by simpa using hcs) hrun
      rw [bytesFrom?, dif_pos hlt, hget, if_neg hx.1, if_neg hx.2]
      rw [List.length_append, List.length_singleton] at hnext
      rw [hnext, Option.map_map, List.length_cons, Nat.add_assoc, Nat.add_comm 1]
      rfl

section Steps

variable (front tail : List Char)

/-- The byte at a place between two characters is the first one of the next. -/
theorem bytes_at {c : Char} {b : UInt8} {more : List UInt8}
    (hc : String.utf8EncodeChar c = b :: more) :
    ∃ h : (bytes front).length < (bytes (front ++ c :: tail)).length,
      (bytes (front ++ c :: tail))[(bytes front).length] = b := by
  have hbytes : bytes (front ++ c :: tail) = bytes front ++ b :: (more ++ bytes tail) := by
    rw [bytes_append, bytes_cons, hc, List.cons_append]
  simp [hbytes]

/-- A plus sign stands for a blank. -/
theorem bytesFrom?_space :
    bytesFrom? (front ++ '+' :: tail) (bytes front).length =
      (bytesFrom? (front ++ '+' :: tail) ((bytes front).length + 1)).map (32 :: ·) := by
  have hplus : String.utf8EncodeChar '+' = [43] := by decide
  obtain ⟨hlt, hget⟩ := bytes_at front tail hplus
  rw [bytesFrom?, dif_pos hlt, hget, if_pos rfl]

/-- A percent sign and two characters stand for a byte. -/
theorem bytesFrom?_escape :
    bytesFrom? (front ++ '%' :: tail) (bytes front).length =
      ((slice? tail 2).bind radix?).bind fun byte =>
        (bytesFrom? (front ++ '%' :: tail) ((bytes front).length + 3)).map (byte :: ·) := by
  have hpercent : String.utf8EncodeChar '%' = [37] := by decide
  have hcut : cut? (front ++ '%' :: tail) ((bytes front).length + 1) ((bytes front).length + 3) =
      slice? tail 2 := by
    have hbehind := cut?_append (front ++ ['%']) tail 2
    rwa [bytes_append, List.length_append, List.append_assoc] at hbehind
  obtain ⟨hlt, hget⟩ := bytes_at front tail hpercent
  rw [bytesFrom?, dif_pos hlt, hget, if_neg (by decide), if_pos rfl, hcut]
  cases (slice? tail 2).bind radix? with
  | none => rfl
  | some byte => rfl

/-- Any other character stands for its bytes. -/
theorem bytesFrom?_plain {c : Char} (hplus : c ≠ '+') (hpercent : c ≠ '%') :
    bytesFrom? (front ++ c :: tail) (bytes front).length =
      (bytesFrom? (front ++ c :: tail) ((bytes front).length + c.utf8Size)).map
        (String.utf8EncodeChar c ++ ·) := by
  have hascii : ∀ d : Char, ∀ x ∈ String.utf8EncodeChar c, d.toNat = x.toNat → x.toNat < 128 →
      c = d := by
    intro d x hx hd hlt
    rw [← Char.ofNat_toNat c, ← Char.ofNat_toNat d, hd, toNat_of_mem_utf8EncodeChar hx hlt]
  have hbytes : bytes (front ++ c :: tail) =
      bytes front ++ String.utf8EncodeChar c ++ bytes tail := by
    rw [bytes_append, bytes_cons, List.append_assoc]
  rw [bytesFrom?_run hbytes, String.length_utf8EncodeChar]
  intro x hx
  constructor
  · rintro rfl
    exact hplus (hascii '+' 43 hx rfl (by decide))
  · rintro rfl
    exact hpercent (hascii '%' 37 hx rfl (by decide))

end Steps

/-- Reading byte by byte from a place between two characters is reading the characters from there
on. -/
theorem bytesFrom?_eq (front rest : List Char) :
    bytesFrom? (front ++ rest) (bytes front).length = queryBytes? rest := by
  -- what holds of a rest holds of it behind what has been read
  have hbehind : ∀ {rest : List Char},
      (∀ front, bytesFrom? (front ++ rest) (bytes front).length = queryBytes? rest) →
      ∀ (front done : List Char) (k : Nat), (bytes done).length = k →
        bytesFrom? (front ++ (done ++ rest)) ((bytes front).length + k) = queryBytes? rest := by
    rintro rest ih front done k rfl
    rw [← ih (front ++ done), bytes_append, List.length_append, List.append_assoc]
  induction rest using queryBytes?.induct generalizing front with
  | case1 =>
      rw [List.append_nil, bytesFrom?, dif_neg (Nat.lt_irrefl _)]
      rfl
  | case2 rest ih =>
      rw [bytesFrom?_space, queryBytes?.eq_2]
      exact congrArg _ (hbehind ih front ['+'] 1 rfl)
  | case3 a b rest byte hbyte ih =>
      have hlength : (bytes ['%', a, b]).length = 3 := by
        obtain ⟨ha, hb⟩ := utf8Size_of_queryByte? hbyte
        have hpercent : '%'.utf8Size = 1 := by decide
        simp [bytes, ha, hb, hpercent]
      rw [bytesFrom?_escape, radix?_slice?_iff.2 ⟨a, b, rest, rfl, hbyte⟩, Option.bind_some,
        queryBytes?.eq_3, hbyte]
      exact congrArg _ (hbehind ih front ['%', a, b] 3 hlength)
  | case4 a b rest hbyte =>
      have hnone : (slice? (a :: b :: rest) 2).bind radix? = none := by
        refine Option.eq_none_iff_forall_ne_some.2 fun byte h => ?_
        obtain ⟨_, _, _, hsame, hpair⟩ := radix?_slice?_iff.1 h
        cases hsame
        cases hbyte.symm.trans hpair
      rw [bytesFrom?_escape, hnone, Option.bind_none, queryBytes?.eq_3, hbyte]
  | case5 tail htail =>
      have hnone : (slice? tail 2).bind radix? = none := by
        refine Option.eq_none_iff_forall_ne_some.2 fun byte h => ?_
        obtain ⟨a, b, rest, hsame, -⟩ := radix?_slice?_iff.1 h
        exact htail a b rest hsame
      rw [bytesFrom?_escape, hnone, Option.bind_none, queryBytes?.eq_4 tail htail]
  | case6 c rest hplus hescape hpercent ih =>
      have hlength : (bytes [c]).length = c.utf8Size := by
        rw [bytes, List.flatMap_singleton, String.length_utf8EncodeChar]
      rw [bytesFrom?_plain front rest hplus hpercent,
        queryBytes?.eq_5 c rest hplus hescape hpercent, charBytes_eq]
      exact congrArg _ (hbehind ih front [c] c.utf8Size hlength)

/-! ## The text of a value -/

/-- A query value is read as a text if it spells the bytes of that text. -/
theorem decodeQuery?_eq_some_iff {cs : List Char} {s : String} :
    decodeQuery? cs = some s ↔ Escaped True cs (bytes s.toList) := by
  rw [decodeQuery?, Option.bind_eq_some_iff, bytes, ← funext charBytes_eq]
  simp only [queryBytes?_iff, ofBytes?_eq_some_iff]
  exact exists_eq_right

/-- **What a query value stands for.** Reading it byte by byte, with the bytes behind a percent sign
cut out where no character is cut, is reading its characters. A text is read exactly if the value
spells it in UTF-8, with plus signs for spaces and an escape of two hexadecimal digits behind each
percent sign, as long as no percent sign is directly followed by a plus sign. In any case a text is
read exactly if the value spells it so that an escape is two digits or a plus sign and one digit. -/
theorem decodeQuery?_iff (cs : List Char) :
    (bytesFrom? cs 0).bind ofBytes? = decodeQuery? cs ∧
    (¬ ['%', '+'] <:+: cs →
      ∀ s, decodeQuery? cs = some s ↔ Escaped False cs (bytes s.toList)) ∧
    (['%', '+'] <:+: cs → ∀ bs, ¬ Escaped False cs bs) ∧
    ∀ s, decodeQuery? cs = some s ↔ Escaped True cs (bytes s.toList) := by
  refine ⟨?_, fun hfree s => ?_, fun hsign bs h => h.free hsign, fun s => ?_⟩
  · have hwalk : bytesFrom? cs 0 = queryBytes? cs := bytesFrom?_eq [] cs
    rw [hwalk, decodeQuery?]
  · rw [decodeQuery?_eq_some_iff]
    exact ⟨fun h => h.unsigned hfree, fun h => h.mono⟩
  · exact decodeQuery?_eq_some_iff

/-- The case of escapes that spell a character of two bytes and a plus sign. -/
theorem decodeQuery?_iff_cafe :
    ¬ ['%', '+'] <:+: "caf%C3%a9+%2B".toList ∧
      Escaped False "caf%C3%a9+%2B".toList (bytes "café +".toList) := by
  have hfree : ¬ ['%', '+'] <:+: "caf%C3%a9+%2B".toList := by decide +kernel
  have hread : decodeQuery? "caf%C3%a9+%2B".toList = some "café +" := by decide +kernel
  obtain ⟨-, hspells, -⟩ := decodeQuery?_iff "caf%C3%a9+%2B".toList
  exact ⟨hfree, (hspells hfree _).1 hread⟩

/-- A plus sign is no hexadecimal digit, and yet a value is read that has one behind its percent
sign. -/
theorem decodeQuery?_signed :
    decodeQuery? "%+1".toList = some "\x01" ∧ (∀ n, ¬ Hex n '+') ∧
      ∀ bs, ¬ Escaped False "%+1".toList bs := by
  refine ⟨by decide +kernel, fun n h => h.ne (by decide) rfl, fun bs h => h.free ?_⟩
  exact ⟨[], ['1'], rfl⟩

end Text

end ControlPlane
