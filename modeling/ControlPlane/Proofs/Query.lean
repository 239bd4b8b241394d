/-
A token in an address.

A value is written into a query one character after the other: as it is, if it means nothing there;
by the escapes of its bytes, whatever it is; and a space as a plus sign, too (`Encodes`). Such a
value is read as the text it stands for (`decodeQuery?_encoded`), and nothing in it ends a pair or
the query. So the pairs of a query are the ones it was joined from (`shownPairs_front`), and the
token is the value of the first pair of that name (`uriToken?_encoded`).
-/
import ControlPlane.Access
import ControlPlane.Proofs.Escape

set_option autoImplicit false

namespace ControlPlane

namespace Text

/-! ## How a value is written -/

/-- The escapes of some bytes, in digits of either case. -/
inductive Escapes : List UInt8 → List Char → Prop
  | nil : Escapes [] []
  | cons {b : UInt8} {x y : Char} {bs : List UInt8} {es : List Char} (hx : Hex (b.toNat / 16) x)
      (hy : Hex (b.toNat % 16) y) (h : Escapes bs es) : Escapes (b :: bs) ('%' :: x :: y :: es)

/-- A text and one of the ways to write it as a value in a query. -/
inductive Encodes : List Char → List Char → Prop
  | nil : Encodes [] []
  /-- A space is a plus sign. -/
  | space {cs es : List Char} (h : Encodes cs es) : Encodes (' ' :: cs) ('+' :: es)
  /-- What means nothing in a query, letters and digits among it, stands for itself. -/
  | literal {c : Char} {cs es : List Char} (hc : c ∉ ['+', '%', '&', '#']) (h : Encodes cs es) :
      Encodes (c :: cs) (c :: es)
  /-- Anything is its bytes. -/
  | escaped {c : Char} {cs ds es : List Char} (hc : Escapes (String.utf8EncodeChar c) ds)
      (h : Encodes cs es) : Encodes (c :: cs) (ds ++ es)

theorem exists_hex {n : Nat} (hn : n < 16) : ∃ c, Hex n c := by
  have hlength : "0123456789abcdef".toList.length = 16 := by decide
  exact ⟨_, Or.inl (List.getElem?_eq_getElem (hlength ▸ hn))⟩

/-- All bytes can be escaped. -/
theorem exists_escapes (bs : List UInt8) : ∃ es, Escapes bs es := by
  induction bs with
  | nil => exact ⟨[], .nil⟩
  | cons b bs ih =>
      obtain ⟨es, hes⟩ := ih
      have hb := b.toNat_lt
      obtain ⟨x, hx⟩ := exists_hex (show b.toNat / 16 < 16 by omega)
      obtain ⟨y, hy⟩ := exists_hex (show b.toNat % 16 < 16 by omega)
      exact ⟨_, .cons hx hy hes⟩

/-- Every text can be encoded. -/
theorem exists_encodes (cs : List Char) : ∃ es, Encodes cs es := by
  induction cs with
  | nil => exact ⟨[], .nil⟩
  | cons c cs ih =>
      obtain ⟨es, hes⟩ := ih
      obtain ⟨ds, hds⟩ := exists_escapes (String.utf8EncodeChar c)
      exact ⟨_, .escaped hds hes⟩

variable {cs es ds : List Char} {bs more : List UInt8} {signs : Prop}

/-! ## How it is read -/

/-- What was escaped stands for its bytes, whatever follows. -/
theorem Escapes.escaped (hds : Escapes bs ds) (hes : Escaped signs es more) :
    Escaped signs (ds ++ es) (bs ++ more) := by
  induction hds with
  | nil => exact hes
  | @cons b x y bs ds hx hy h ih =>
      have hb : (16 * (b.toNat / 16) + b.toNat % 16).toUInt8 = b := by
        rw [Nat.div_add_mod]
        exact UInt8.ofNat_toNat
      have hstep := Escaped.escape hx hy ih
      rwa [hb] at hstep

/-- What a text is encoded as stands for the bytes of the text. -/
theorem Encodes.escaped_bytes (h : Encodes cs es) : Escaped signs es (bytes cs) := by
  induction h with
  | nil => exact .nil
  | space h ih => exact .space ih
  | @literal c cs es hc h ih =>
      rw [bytes_cons]
      refine .plain ?_ ?_ ih
      · rintro rfl
        exact hc (by decide)
      · rintro rfl
        exact hc (by decide)
  | escaped hc h ih =>
      rw [bytes_cons]
      exact hc.escaped ih

/-- A value that was written from a text is read as that text. -/
theorem decodeQuery?_encoded {s : String} (h : Encodes s.toList es) :
    decodeQuery? es = some s :=
  decodeQuery?_eq_some_iff.2 h.escaped_bytes

/-- A character that is neither the sign nor a digit does not occur in what is escaped. -/
theorem Escapes.ne (h : Escapes bs es) {d : Char} (hpercent : '%' ≠ d)
    (hd : hexValue? d = none) : ∀ c ∈ es, c ≠ d := by
  induction h with
  | nil => exact List.forall_mem_nil _
  | cons hx hy h ih =>
      exact List.forall_mem_cons.2 ⟨hpercent,
        List.forall_mem_cons.2 ⟨hx.ne hd, List.forall_mem_cons.2 ⟨hy.ne hd, ih⟩⟩⟩

/-- A value that was written from a text contains nothing that ends a pair or a query. -/
theorem Encodes.ne (h : Encodes cs es) {d : Char} (hd : d = '&' ∨ d = '#') : ∀ c ∈ es, c ≠ d := by
  have hvalue : hexValue? d = none := by rcases hd with rfl | rfl <;> decide
  have hplus : '+' ≠ d := by rcases hd with rfl | rfl <;> decide
  have hpercent : '%' ≠ d := by rcases hd with rfl | rfl <;> decide
  induction h with
  | nil => exact List.forall_mem_nil _
  | space h ih => exact List.forall_mem_cons.2 ⟨hplus, ih⟩
  | @literal c cs es hc h ih =>
      refine List.forall_mem_cons.2 ⟨?_, ih⟩
      rintro rfl
      rcases hd with rfl | rfl
      · exact hc (by decide)
      · exact hc (by decide)
  | escaped hc h ih =>
      exact List.forall_mem_append.2 ⟨hc.ne hpercent hvalue, ih⟩

/-! ## Splitting -/

/-- A text is split at the first separator. -/
theorem splitOnce_append {sep : Char} (rest : List Char) (h : ∀ c ∈ cs, c ≠ sep) :
    splitOnce sep (cs ++ sep :: rest) = some (cs, rest) := by
  induction cs with
  | nil => rw [List.nil_append, splitOnce, if_pos rfl]
  | cons c cs ih =>
      obtain ⟨hc, hcs⟩ := List.forall_mem_cons.1 h
      rw [List.cons_append, splitOnce, if_neg hc, ih hcs]
      rfl

/-- What a separator ends is the first piece. -/
theorem splitAtEach_append {sep : Char} (rest : List Char) (h : ∀ c ∈ cs, c ≠ sep) :
    splitAtEach sep (cs ++ sep :: rest) = cs :: splitAtEach sep rest := by
  induction cs with
  | nil => rw [List.nil_append, splitAtEach, if_pos rfl]
  | cons c cs ih =>
      obtain ⟨hc, hcs⟩ := List.forall_mem_cons.1 h
      rw [List.cons_append, splitAtEach, if_neg hc, ih hcs]

/-- Without a separator there is one piece. -/
theorem splitAtEach_last {sep : Char} (h : ∀ c ∈ cs, c ≠ sep) : splitAtEach sep cs = [cs] := by
  induction cs with
  | nil => rfl
  | cons c cs ih =>
      obtain ⟨hc, hcs⟩ := List.forall_mem_cons.1 h
      rw [splitAtEach, if_neg hc, ih hcs]

end Text

namespace Access

open Text

/-! ## The pairs of a query -/

/-- A pair as it stands in a query. -/
def pairText (p : List Char × List Char) : List Char := p.1 ++ '=' :: p.2

/-- A query of some pairs. -/
def queryText (ps : List (List Char × List Char)) : List Char :=
  ['&'].intercalate (ps.map pairText)

/-- A pair whose value was written from some text. -/
structure Written (p : List Char × List Char) : Prop where
  /-- Nothing in the name ends it. -/
  name : ∀ c ∈ p.1, c ∉ ['=', '&', '#']
  /-- The value stands for some text. -/
  value : ∃ text, Encodes text p.2

variable {front back : List (List Char × List Char)} {p : List Char × List Char}
  {fragment : List Char}

/-- Nothing in a pair ends it. -/
theorem Written.ne (hp : Written p) {d : Char} (hd : d = '&' ∨ d = '#') :
    ∀ c ∈ pairText p, c ≠ d := by
  have hequals : '=' ≠ d := by rcases hd with rfl | rfl <;> decide
  have hname : d ∈ ['=', '&', '#'] := by rcases hd with rfl | rfl <;> decide
  obtain ⟨text, htext⟩ := hp.value
  refine List.forall_mem_append.2 ⟨?_, List.forall_mem_cons.2 ⟨hequals, htext.ne hd⟩⟩
  rintro c hc rfl
  exact hp.name c hc hname

/-- A pair that is written is split into its two parts. -/
theorem Written.splitOnce (hp : Written p) : splitOnce '=' (pairText p) = some p := by
  refine splitOnce_append p.2 ?_
  rintro c hc rfl
  exact hp.name '=' hc (by decide)

/-- The pairs of a query are written one after the other. -/
theorem queryText_cons {ps : List (List Char × List Char)} (hps : ps ≠ []) :
    queryText (p :: ps) = pairText p ++ '&' :: queryText ps := by
  cases ps with
  | nil => exact absurd rfl hps
  | cons q ps => simp [queryText, List.intercalate]

/-! ## Behind the question mark -/

/-- Nothing, or a number sign and what it points at. -/
def IsFragment (cs : List Char) : Prop := cs = [] ∨ ∃ rest, cs = '#' :: rest

/-- The pairs of what stands behind the question mark of an address. -/
def shownPairs (cs : List Char) : List (List Char × List Char) :=
  pairs (cs.takeWhile (· != '#'))

theorem Written.takeWhile (hp : Written p) (rest : List Char) :
    (pairText p ++ rest).takeWhile (· != '#') = pairText p ++ rest.takeWhile (· != '#') :=
  List.takeWhile_append_of_pos fun c hc => bne_iff_ne.2 (hp.ne (Or.inr rfl) c hc)

/-- The first pair is read first. -/
theorem shownPairs_next (hp : Written p) (rest : List Char) :
    shownPairs (pairText p ++ '&' :: rest) = p :: shownPairs rest := by
  rw [shownPairs, hp.takeWhile, List.takeWhile_cons_of_pos (by decide), pairs,
    splitAtEach_append _ (hp.ne (Or.inl rfl)), List.filterMap_cons, hp.splitOnce]
  rfl

/-- The last pair is read up to the fragment. -/
theorem shownPairs_last (hp : Written p) (hfragment : IsFragment fragment) :
    shownPairs (pairText p ++ fragment) = [p] := by
  have hnothing : fragment.takeWhile (· != '#') = [] := by
    rcases hfragment with rfl | ⟨rest, rfl⟩
    · rfl
    · exact List.takeWhile_cons_of_neg (by decide)
  rw [shownPairs, hp.takeWhile, hnothing, List.append_nil, pairs,
    splitAtEach_last (hp.ne (Or.inl rfl)), List.filterMap_cons, hp.splitOnce]
  rfl

/-- The first pair is shown, whatever stands behind it. -/
theorem shownPairs_first (hp : Written p) (hfragment : IsFragment fragment)
    (back : List (List Char × List Char)) :
    ∃ more, shownPairs (queryText (p :: back) ++ fragment) = p :: more := by
  cases back with
  | nil =>
      have hone : queryText [p] = pairText p := List.intercalate_singleton
      exact ⟨[], by rw [hone, shownPairs_last hp hfragment]⟩
  | cons q back =>
      rw [queryText_cons (List.cons_ne_nil q back), List.append_assoc, List.cons_append,
        shownPairs_next hp]
      exact ⟨_, rfl⟩

/-- Each of the pairs in front is shown as it was written. -/
theorem shownPairs_front (hfront : ∀ q ∈ front, Written q) :
    shownPairs (queryText (front ++ p :: back) ++ fragment) =
      front ++ shownPairs (queryText (p :: back) ++ fragment) := by
  induction front with
  | nil => rfl
  | cons q front ih =>
      obtain ⟨hq, hfront⟩ := List.forall_mem_cons.1 hfront
      rw [List.cons_append, queryText_cons (by simp), List.append_assoc, List.cons_append,
        shownPairs_next hq, ih hfront, List.cons_append]

/-- After any path the token is what the first pair of that name says. -/
theorem uriToken?_eq {path : List Char} (hpath : ∀ c ∈ path, c ≠ '?' ∧ c ≠ '#')
    (rest : List Char) :
    uriToken? (String.ofList (path ++ '?' :: rest)) =
      ((shownPairs rest).find? fun p => p.1 == "token".toList).bind fun p =>
        decodeQuery? p.2 := by
  rw [uriToken?, String.toList_ofList, queryPart?,
    List.takeWhile_append_of_pos fun c hc => bne_iff_ne.2 (hpath c hc).2,
    List.takeWhile_cons_of_pos (by decide), splitOnce_append _ fun c hc => (hpath c hc).1,
    Option.map_some, Option.bind_some, queryToken?, ← shownPairs]
  cases (shownPairs rest).find? fun p => p.1 == "token".toList with
  | none => rfl
  | some p => rfl

/-- **A token survives the address.** Every text can be written into a query, with the bytes of any
character escaped, in digits of either case, with spaces as plus signs, and with what means nothing
there as it is. Where it is the value of the first pair named `token`, whatever stands behind it, it
is the token that is read from the address. -/
theorem uriToken?_encoded (token : String) :
    (∃ spelled, Encodes token.toList spelled) ∧
    ∀ (path spelled fragment : List Char) (front back : List (List Char × List Char)),
      (∀ c ∈ path, c ≠ '?' ∧ c ≠ '#') →
      (∀ p ∈ front, Written p ∧ p.1 ≠ "token".toList) →
      Encodes token.toList spelled →
      IsFragment fragment →
      uriToken? (String.ofList (path ++
        '?' :: (queryText (front ++ ("token".toList, spelled) :: back) ++ fragment))) =
          some token := by
  refine ⟨exists_encodes token.toList, ?_⟩
  intro path spelled fragment front back hpath hfront hspelled hfragment
  have hname : ∀ c ∈ "token".toList, c ∉ ['=', '&', '#'] := by simp
  have hwritten : Written ("token".toList, spelled) := ⟨hname, token.toList, hspelled⟩
  have hothers : front.find? (fun p => p.1 == "token".toList) = none := by
    rw [List.find?_eq_none]
    intro p hp hsame
    exact (hfront p hp).2 (beq_iff_eq.1 hsame)
  obtain ⟨more, hmore⟩ := shownPairs_first hwritten hfragment back
  rw [uriToken?_eq hpath, shownPairs_front fun p hp => (hfront p hp).1, hmore, List.find?_append,
    hothers, Option.none_or]
  simp only [List.find?_cons, beq_self_eq_true, Option.bind_some]
  exact decodeQuery?_encoded hspelled

/-- The case of a token with a space, a separator and a character of two bytes, behind another pair
and before another token. -/
theorem uriToken?_encoded_cafe :
    Encodes "café &".toList "caf%C3%a9+%26".toList ∧
      uriToken? "/ws?page=a+b&token=caf%C3%a9+%26&token=no#top" = some "café &" := by
  have htail : Encodes [' ', '&'] "+%26".toList := by
    have hand : Escapes (String.utf8EncodeChar '&') "%26".toList :=
      .cons (by decide +kernel) (by decide +kernel) .nil
    exact .space (.escaped hand .nil)
  have hspelled : Encodes "café &".toList "caf%C3%a9+%26".toList := by
    have heacute : Escapes (String.utf8EncodeChar 'é') "%C3%a9".toList :=
      .cons (by decide +kernel) (by decide +kernel)
        (.cons (by decide +kernel) (by decide +kernel) .nil)
    exact .literal (by decide) (.literal (by decide) (.literal (by decide)
      (.escaped heacute htail)))
  have hpage : Written ("page".toList, "a+b".toList) :=
    ⟨by simp, "a b".toList, .literal (by decide) (.space (.literal (by decide) .nil))⟩
  obtain ⟨-, hsurvives⟩ := uriToken?_encoded "café &"
  have haddress : "/ws?page=a+b&token=caf%C3%a9+%26&token=no#top" =
      String.ofList ("/ws".toList ++ '?' :: (queryText ([("page".toList, "a+b".toList)] ++
        ("token".toList, "caf%C3%a9+%26".toList) :: [("token".toList, "no".toList)]) ++
          "#top".toList)) := by
    decide +kernel
  refine ⟨hspelled, ?_⟩
  rw [haddress]
  refine hsurvives "/ws".toList _ "#top".toList [("page".toList, "a+b".toList)]
    [("token".toList, "no".toList)] (by simp) ?_ hspelled (Or.inr ⟨_, rfl⟩)
  exact List.forall_mem_singleton.2 ⟨hpage, by decide⟩

end Access

end ControlPlane
