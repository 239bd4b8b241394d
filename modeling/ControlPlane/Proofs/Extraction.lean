/-
The JSON in an answer.

What a model says is trimmed and taken out of its fences. If that is JSON, it is taken. Else the
JSON begins with the first bracket, and is looked for by giving up characters at the end. To find
it, it would be enough to read once from that bracket on (`shrink?_eq`), because no list or object
is the beginning of another one (`IsContainer.unique`). So with prose in front and any text behind
it is found all the same (`extract_scan`); but a list or an object between fences may stand in a
quoted text, and then it is the quoted text that is taken (`extract_quoted`).
-/
import ControlPlane.Proofs.Blank
import ControlPlane.Proofs.Boundary
import ControlPlane.Proofs.Grammar

set_option autoImplicit false

namespace ControlPlane

namespace Answer

open Reader Grammar

/-! ## Lists and objects -/

/-- Whether a character closes an object or a list. -/
def closes (c : Char) : Bool := c = '\x7d' || c = ']'

/-- The text of an object or a list, from its opening bracket to its closing one. -/
structure IsContainer (d : List Char) : Prop where
  /-- It begins with a bracket. -/
  first : ∃ c rest, d = c :: rest ∧ opens c = true
  /-- It ends with a bracket. -/
  last : ∃ init c, d = init ++ [c] ∧ closes c = true
  /-- It is JSON. -/
  json : isJson d = true

/-- A text from an opening bracket to a closing one. -/
structure Bracketed (d : List Char) : Prop where
  /-- It begins with a bracket. -/
  first : ∃ c rest, d = c :: rest ∧ opens c = true
  /-- It ends with a bracket. -/
  last : ∃ init c, d = init ++ [c] ∧ closes c = true

/-- The text of an object or a list stands between brackets. -/
theorem IsContainer.bracketed {d : List Char} (h : IsContainer d) : Bracketed d :=
  ⟨h.first, h.last⟩

/-- The text of a value that is kept. -/
def Keeps (d : List Char) (o : Outline) : Prop :=
  Value d o ∧ (o.toJson? Outline.nestingLimit).isSome = true

variable {c : Char} {cs d d' q q' r : List Char} {o : Outline} {fuel room : Nat}

theorem none_of_any {f : Char → Bool} {w : List Char} (h : w.any f = false) :
    ∀ c ∈ w, f c = false :=
  fun c hc => Bool.eq_false_iff.2 (List.any_eq_false.1 h c hc)

/-- Two characters open an object or a list. -/
theorem opens_iff : opens c = true ↔ c = '\x7b' ∨ c = '[' := by
  simp only [opens, Bool.or_eq_true, decide_eq_true_eq]

/-- Two characters close one. -/
theorem closes_iff : closes c = true ↔ c = '\x7d' ∨ c = ']' := by
  simp only [closes, Bool.or_eq_true, decide_eq_true_eq]

theorem not_isBlank_of_opens (hc : opens c = true) : Text.isBlank c = false := by
  rcases opens_iff.1 hc with rfl | rfl <;> rfl

theorem not_isBlank_of_closes (hc : closes c = true) : Text.isBlank c = false := by
  rcases closes_iff.1 hc with rfl | rfl <;> rfl

theorem isBlank_of_isSpace (hc : isSpace c = true) : Text.isBlank c = true := by
  simp only [isSpace, Bool.or_eq_true, decide_eq_true_eq] at hc
  rcases hc with ((rfl | rfl) | rfl) | rfl <;> rfl

/-- Nothing from a bracket to another one is cut away at its end. -/
theorem Bracketed.trimEnd (h : Bracketed d) (p q : List Char) :
    Text.trimEnd (p ++ (d ++ q)) = p ++ (d ++ Text.trimEnd q) := by
  obtain ⟨init, e, rfl, he⟩ := h.last
  have hlast := Text.trimEnd_last (p ++ init) (not_isBlank_of_closes he) q
  simpa only [List.append_assoc, List.singleton_append] using hlast

/-- Of nothing but blanks nothing is left. -/
theorem trimEnd_blanks {sp : List Char} (hsp : Blanks sp) : Text.trimEnd sp = [] :=
  (Text.trimEnd_eq_nil_iff sp).2 (List.all_eq_true.2 fun c hc => isBlank_of_isSpace (hsp c hc))

/-- A value that begins with a bracket is no number, and ends with one. -/
theorem value_opens (h : Value (c :: cs) o) (hc : opens c = true) :
    (∀ n, o ≠ .number n) ∧ ∃ init e, c :: cs = init ++ [e] ∧ closes e = true := by
  cases h with
  | null => cases hc
  | yes => cases hc
  | no => cases hc
  | string => cases hc
  | number h =>
      -- a number begins with a sign or a digit
      obtain ⟨d, tail, heq, hd⟩ := number?_head h
      obtain ⟨rfl, rfl⟩ := List.cons.inj heq
      have hother := (beginsNumber hd).other
      rcases opens_iff.1 hc with rfl | rfl
      · exact absurd rfl (hother '\x7b' (by decide))
      · exact absurd rfl (hother '[' (by decide))
  | array h =>
      refine ⟨fun _ hn => (by cases hn), ?_⟩
      obtain ⟨init, hinit⟩ := h.last
      exact ⟨'[' :: init, ']', by rw [← hinit, List.cons_append], rfl⟩
  | object h =>
      refine ⟨fun _ hn => (by cases hn), ?_⟩
      obtain ⟨init, hinit⟩ := h.last
      exact ⟨'\x7b' :: init, '\x7d', by rw [← hinit, List.cons_append], rfl⟩

/-- An object or a list of which everything is kept was read up to its closing bracket. -/
theorem value_opens_cut (hc : opens c = true) (h : value (fuel + 1) (c :: cs) = (o, r))
    (hjson : (o.toJson? (room + 1)).isSome = true) :
    ∃ used, c :: cs = used ++ r ∧ Value used o := by
  obtain ⟨-, hitems, hmembers⟩ := cuts fuel
  rcases opens_iff.1 hc with rfl | rfl
  · rcases hread : members fuel true cs with ⟨ms, closed, left⟩
    rw [value_object, hread] at h
    cases h
    -- of an object that is not closed nothing is kept
    cases closed with
    | false => cases hjson
    | true =>
        obtain ⟨used, rfl, hused⟩ := hmembers hread
        exact ⟨'\x7b' :: used, rfl, .object hused⟩
  · rcases hread : items fuel true cs with ⟨os, closed, left⟩
    rw [value_array, hread] at h
    cases h
    cases closed with
    | false => cases hjson
    | true =>
        obtain ⟨used, rfl, hused⟩ := hitems hread
        exact ⟨'[' :: used, rfl, .array hused⟩

/-- A text is JSON if a value is read from it, is kept, and only blanks are left. -/
theorem isJson_iff : isJson cs = true ↔ ∃ o r, value (2 * cs.length + 2) cs = (o, r) ∧
    skip r = [] ∧ (o.toJson? Outline.nestingLimit).isSome = true := by
  rcases hread : value (2 * cs.length + 2) cs with ⟨o, r⟩
  have hdocument : Document.ofChars cs = ⟨o, (skip r).isEmpty⟩ := by rw [Document.ofChars, hread]
  rw [isJson, Json.parseChars?, hdocument, Document.toJson?]
  constructor
  · intro h
    dsimp only at h
    split at h
    next hclean => exact ⟨o, r, rfl, List.isEmpty_iff.1 hclean, h⟩
    next => cases h
  · rintro ⟨o', r', heq, hr, hjson⟩
    obtain ⟨rfl, rfl⟩ := Prod.mk.inj heq
    rw [hr]
    exact hjson

/-- What is kept is read, whatever stands behind it. -/
theorem Keeps.read (h : Keeps (c :: cs) o) (hc : opens c = true) (q : List Char)
    (hfuel : 2 * (c :: cs).length ≤ fuel) : value fuel (c :: cs ++ q) = (o, q) :=
  value_read h.1 fuel q hfuel fun ⟨n, hn⟩ => absurd hn ((value_opens h.1 hc).1 n)

/-- What is kept and begins with a bracket is an object or a list. -/
theorem Keeps.isContainer (h : Keeps (c :: cs) o) (hc : opens c = true) :
    IsContainer (c :: cs) := by
  refine ⟨⟨c, cs, rfl, hc⟩, (value_opens h.1 hc).2, isJson_iff.2 ⟨o, [], ?_, rfl, h.2⟩⟩
  have hread := h.read hc [] (Nat.le_add_right (2 * (c :: cs).length) 2)
  rwa [List.append_nil] at hread

/-- JSON that begins with a bracket is an object or a list, and blanks behind it. -/
theorem isJson_opens (h : isJson (c :: cs) = true) (hc : opens c = true) :
    ∃ d sp o, c :: cs = d ++ sp ∧ Blanks sp ∧ Keeps d o := by
  obtain ⟨o, r, hread, hr, hjson⟩ := isJson_iff.1 h
  obtain ⟨d, hd, hvalue⟩ := value_opens_cut hc hread hjson
  exact ⟨d, r, o, hd, List.dropWhile_eq_nil_iff.1 hr, hvalue, hjson⟩

/-- JSON that begins with a bracket is an object or a list, with blanks behind it at most. -/
theorem isJson_isContainer (h : isJson (c :: cs) = true) (hc : opens c = true) :
    ∃ d sp, c :: cs = d ++ sp ∧ Blanks sp ∧ IsContainer d := by
  obtain ⟨d, sp, o, heq, hsp, hkeeps⟩ := isJson_opens h hc
  cases d with
  | nil => exact absurd hkeeps.1.length_pos (Nat.lt_irrefl 0)
  | cons e d =>
      obtain ⟨rfl, -⟩ := List.cons.inj heq
      exact ⟨c :: d, sp, heq, hsp, hkeeps.isContainer hc⟩

namespace IsContainer

/-- An object or a list is a value, and there are no blanks behind it. -/
theorem keeps (h : IsContainer d) : ∃ o, Keeps d o := by
  obtain ⟨c, rest, rfl, hc⟩ := h.first
  obtain ⟨init, e, hlast, he⟩ := h.last
  obtain ⟨d, sp, o, heq, hsp, hkeeps⟩ := isJson_opens h.json hc
  have hnil : sp = [] := by
    rcases List.eq_nil_or_concat sp with hnil | ⟨front, x, rfl⟩
    · exact hnil
    · -- the last character would be a bracket and a blank
      rw [hlast, List.concat_eq_append, ← List.append_assoc] at heq
      obtain ⟨-, hx⟩ := List.append_inj' heq rfl
      obtain rfl := List.singleton_inj.1 hx
      have hblank := isBlank_of_isSpace (hsp e (by simp))
      rw [not_isBlank_of_closes he] at hblank
      cases hblank
  rw [hnil, List.append_nil] at heq
  exact ⟨o, by rwa [heq]⟩

/-- An object or a list is read up to its end, whatever stands behind it. -/
theorem read (h : IsContainer d) : ∃ o, (o.toJson? Outline.nestingLimit).isSome = true ∧
    ∀ fuel q, 2 * d.length ≤ fuel → value fuel (d ++ q) = (o, q) := by
  obtain ⟨o, hkeeps⟩ := h.keeps
  obtain ⟨c, rest, rfl, hc⟩ := h.first
  exact ⟨o, hkeeps.2, fun fuel q hfuel => hkeeps.read hc q hfuel⟩

/-- No object or list is the beginning of another one. -/
theorem unique (h : IsContainer d) (h' : IsContainer d') (heq : d ++ q = d' ++ q') : d = d' := by
  obtain ⟨o, ho⟩ := h.keeps
  obtain ⟨o', ho'⟩ := h'.keeps
  obtain ⟨c, rest, rfl, hc⟩ := h.first
  obtain ⟨c', rest', rfl, hc'⟩ := h'.first
  exact ho.1.unique ho'.1 (value_opens ho.1 hc).1 (value_opens ho'.1 hc').1 heq

/-- Only blanks are cut off behind an object or a list. -/
theorem trimEnd_eq (h : IsContainer d) {sp : List Char} (hsp : Blanks sp) :
    Text.trimEnd (d ++ sp) = d := by
  have hcut := h.bracketed.trimEnd [] sp
  rwa [trimEnd_blanks hsp, List.append_nil] at hcut

end IsContainer

/-! ## One reading -/

/-- The object or the list that a text begins with, after one reading. -/
def scan? (cs : List Char) : Option (List Char) :=
  let (o, rest) := value (2 * cs.length + 2) cs
  if (o.toJson? Outline.nestingLimit).isSome then some (cs.take (cs.length - rest.length)) else none

/-- One reading finds the object or the list that a text begins with. -/
theorem scan?_some (hc : opens c = true) :
    scan? (c :: cs) = some d ↔ IsContainer d ∧ ∃ q, c :: cs = d ++ q := by
  constructor
  · intro h
    rcases hread : value (2 * (c :: cs).length + 2) (c :: cs) with ⟨o, r⟩
    rw [scan?, hread] at h
    dsimp only at h
    split at h
    next hjson =>
      obtain ⟨used, hused, hvalue⟩ := value_opens_cut hc hread hjson
      have htake : (c :: cs).take ((c :: cs).length - r.length) = used := by
        rw [hused, List.length_append, Nat.add_sub_cancel, List.take_left]
      obtain rfl : used = d := by rw [← htake, Option.some.inj h]
      -- what was used is not empty, so it begins with the bracket
      cases used with
      | nil => exact absurd hvalue.length_pos (Nat.lt_irrefl 0)
      | cons e used =>
          obtain ⟨rfl, -⟩ := List.cons.inj hused
          exact ⟨Keeps.isContainer ⟨hvalue, hjson⟩ hc, r, hused⟩
    next => cases h
  · rintro ⟨hd, q, heq⟩
    obtain ⟨o, hjson, hread⟩ := hd.read
    have hvalue := hread (2 * (d ++ q).length + 2) q (by rw [List.length_append]; omega)
    rw [heq, scan?, hvalue]
    dsimp only
    rw [if_pos hjson, List.length_append, Nat.add_sub_cancel, List.take_left]

/-! ## Giving up characters at the end -/

/-- What is left in the end is JSON, and the beginning of the text. -/
theorem shrink?_some {cs y : List Char} (h : shrink? cs = some y) :
    isJson y = true ∧ y ≠ [] ∧ ∃ q, cs.reverse = y ++ q := by
  induction cs with
  | nil => cases h
  | cons c cs ih =>
      rw [shrink?] at h
      split at h
      next hjson =>
        obtain rfl := Option.some.inj h
        exact ⟨hjson, by simp, [], (List.append_nil _).symm⟩
      next =>
        obtain ⟨hjson, hy, q, hq⟩ := ih h
        exact ⟨hjson, hy, q ++ [c], by rw [List.reverse_cons, hq, List.append_assoc]⟩

/-- As long as there is JSON at the beginning of the text, not everything is given up. -/
theorem shrink?_isSome {cs y : List Char} (hy : isJson y = true) (hne : y ≠ [])
    (hcs : ∃ q, cs.reverse = y ++ q) : (shrink? cs).isSome = true := by
  induction cs with
  | nil =>
      obtain ⟨q, hq⟩ := hcs
      exact absurd (List.append_eq_nil_iff.1 hq.symm).1 hne
  | cons c cs ih =>
      rw [shrink?]
      split
      · rfl
      next hnot =>
        -- the whole text is no JSON, so it goes on behind the JSON at its beginning
        apply ih
        obtain ⟨q, hq⟩ := hcs
        rcases List.eq_nil_or_concat q with rfl | ⟨q, x, rfl⟩
        · rw [hq, List.append_nil] at hnot
          exact absurd hy hnot
        · rw [List.reverse_cons, List.concat_eq_append, ← List.append_assoc] at hq
          exact ⟨q, (List.append_inj' hq rfl).1⟩

/-- What is left in the end, without the blanks behind it, is what one reading finds. -/
theorem shrink?_eq (hc : opens c = true) :
    (shrink? (c :: cs).reverse).map Text.trimEnd = scan? (c :: cs) := by
  refine Option.ext fun d => ?_
  rw [Option.map_eq_some_iff, scan?_some hc]
  -- what is left in the end is an object or a list with blanks behind it
  have hleft : ∀ {y}, shrink? (c :: cs).reverse = some y →
      IsContainer (Text.trimEnd y) ∧ ∃ q, c :: cs = Text.trimEnd y ++ q := by
    intro y hy
    obtain ⟨hjson, hne, q, hq⟩ := shrink?_some hy
    rw [List.reverse_reverse] at hq
    obtain ⟨e, y, rfl⟩ := List.exists_cons_of_ne_nil hne
    obtain ⟨rfl, -⟩ := List.cons.inj hq
    obtain ⟨d, sp, heq, hsp, hcontainer⟩ := isJson_isContainer hjson hc
    rw [heq, hcontainer.trimEnd_eq hsp]
    exact ⟨hcontainer, sp ++ q, by rw [hq, heq, List.append_assoc]⟩
  constructor
  · rintro ⟨y, hy, rfl⟩
    exact hleft hy
  · -- not everything is given up, and what is left is the same by `IsContainer.unique`
    rintro ⟨hd, q, hq⟩
    obtain ⟨c', rest, heq, -⟩ := hd.first
    have hne : d ≠ [] := by rw [heq]; exact List.cons_ne_nil _ _
    have hsome : (shrink? (c :: cs).reverse).isSome = true :=
      shrink?_isSome hd.json hne ⟨q, by rw [List.reverse_reverse, hq]⟩
    obtain ⟨y, hy⟩ := Option.isSome_iff_exists.1 hsome
    obtain ⟨hcontainer, q', hq'⟩ := hleft hy
    exact ⟨y, hy, hcontainer.unique hd (hq'.symm.trans hq)⟩

/-! ## The first bracket -/

/-- The first bracket of a text begins another one. -/
def Shows (cs d : List Char) : Prop := ∃ p q, cs = p ++ (d ++ q) ∧ ∀ c ∈ p, opens c = false

/-- The first bracket of a text begins an object or a list. -/
def Carries (cs d : List Char) : Prop :=
  IsContainer d ∧ ∃ p q, cs = p ++ (d ++ q) ∧ ∀ c ∈ p, opens c = false

theorem Carries.shows (h : Carries cs d) : Shows cs d := h.2

/-- In front of the first bracket there is none. -/
theorem first_bracket (h : (cs.dropWhile fun c => !opens c) = c :: r) :
    opens c = true ∧ ∃ p, cs = p ++ c :: r ∧ ∀ e ∈ p, opens e = false := by
  constructor
  · have hhead := List.head?_dropWhile_not (fun c => !opens c) cs
    rw [h] at hhead
    simpa only [List.head?_cons, Bool.not_eq_false'] using hhead
  · refine ⟨cs.takeWhile fun c => !opens c, ?_, ?_⟩
    · rw [← h, List.takeWhile_append_dropWhile]
    · intro e he
      simpa only [Bool.not_eq_true'] using List.mem_takeWhile_imp he

/-- The JSON in a text, after one reading from its first bracket on. -/
def scanned (cs : List Char) : Except Fault (List Char) :=
  match cs.dropWhile fun c => !opens c with
  | [] => .error .noJsonInAnswer
  | found =>
    match scan? found with
    | some json => .ok json
    | none => .error .noCompleteJsonInAnswer

namespace Shows

/-- In front of the first bracket nothing behind it is given up. -/
theorem of_append_front {w : List Char} (h : Shows (w ++ cs) d) (hd : Bracketed d)
    (hw : ∀ c ∈ w, opens c = false) : Shows cs d := by
  obtain ⟨p, q, heq, hp⟩ := h
  rcases List.append_eq_append_iff.1 heq with ⟨a, rfl, rfl⟩ | ⟨a, rfl, ha⟩
  · exact ⟨a, q, rfl, fun c hc => hp c (List.mem_append_right _ hc)⟩
  · cases a with
    | nil => exact ⟨[], q, ha.symm, List.forall_mem_nil _⟩
    | cons e a =>
        -- the first bracket would be given up
        obtain ⟨c, rest, rfl, hc⟩ := hd.first
        obtain ⟨rfl, -⟩ := List.cons.inj ha
        rw [hw c (List.mem_append_right _ List.mem_cons_self)] at hc
        cases hc

/-- Behind the last bracket nothing in front of it is given up. -/
theorem of_append_back {w : List Char} (h : Shows (cs ++ w) d) (hd : Bracketed d)
    (hw : ∀ c ∈ w, closes c = false) : Shows cs d := by
  obtain ⟨p, q, heq, hp⟩ := h
  rw [← List.append_assoc] at heq
  rcases List.append_eq_append_iff.1 heq with ⟨a, ha, rfl⟩ | ⟨a, rfl, rfl⟩
  · rcases List.eq_nil_or_concat a with rfl | ⟨a, x, rfl⟩
    · exact ⟨p, [], by rw [List.append_nil, ha, List.append_nil], hp⟩
    · -- the last bracket would be given up
      obtain ⟨init, e, rfl, he⟩ := hd.last
      rw [List.concat_eq_append, ← List.append_assoc, ← List.append_assoc] at ha
      obtain rfl := List.singleton_inj.1 (List.append_inj' ha rfl).2
      rw [hw e (by simp)] at he
      cases he
  · exact ⟨p, a, List.append_assoc _ _ _, hp⟩

/-- To cut off blanks leaves what the first bracket begins. -/
theorem trimChars (h : Shows cs d) (hd : Bracketed d) : Shows (Text.trimChars cs) d := by
  have hfront : ∀ c ∈ cs.takeWhile Text.isBlank, opens c = false := by
    intro c hc
    rw [Bool.eq_false_iff]
    intro hopens
    have hblank := List.mem_takeWhile_imp hc
    rw [not_isBlank_of_opens hopens] at hblank
    cases hblank
  have hstart : Shows (Text.trimStart cs) d := by
    rw [← List.takeWhile_append_dropWhile (p := Text.isBlank) (l := cs)] at h
    exact h.of_append_front hd hfront
  obtain ⟨p, q, heq, hp⟩ := hstart
  exact ⟨p, Text.trimEnd q, by rw [Text.trimChars, heq, hd.trimEnd], hp⟩

/-- So does to cut off a fence without brackets in front. -/
theorem stripFront {w : List Char} (h : Shows cs d) (hd : Bracketed d)
    (hw : ∀ c ∈ w, opens c = false) : Shows ((Text.stripFront w cs).getD cs) d := by
  cases hstrip : Text.stripFront w cs with
  | none => exact h
  | some rest =>
      rw [Text.eq_of_stripFront hstrip] at h
      exact h.of_append_front hd hw

/-- So does to cut off a fence without brackets at the end. -/
theorem stripBack {w : List Char} (h : Shows cs d) (hd : Bracketed d)
    (hw : ∀ c ∈ w, closes c = false) : Shows ((Text.stripBack w cs).getD cs) d := by
  cases hstrip : Text.stripBack w cs with
  | none => exact h
  | some rest =>
      rw [Text.eq_of_stripBack hstrip] at h
      exact h.of_append_back hd hw

/-- Fences are outside. -/
theorem unfenced (h : Shows cs d) (hd : Bracketed d) : Shows (unfenced cs) d := by
  unfold Answer.unfenced
  cases hstrip : Text.stripFront fence cs with
  | none => exact h
  | some rest =>
      rw [Text.eq_of_stripFront hstrip] at h
      -- there are no brackets in the marks, in front or behind
      have hrest := h.of_append_front hd (none_of_any rfl)
      exact ((hrest.stripFront hd (none_of_any rfl)).stripBack hd (none_of_any rfl)).trimChars hd

/-- What the first bracket begins is found from this bracket on. -/
theorem dropWhile (h : Shows cs d) (hd : Bracketed d) : ∃ c rest q, opens c = true ∧
    (cs.dropWhile fun c => !opens c) = c :: rest ∧ c :: rest = d ++ q := by
  obtain ⟨p, q, rfl, hp⟩ := h
  obtain ⟨c, rest, rfl, hc⟩ := hd.first
  refine ⟨c, rest ++ q, q, hc, ?_, rfl⟩
  rw [List.dropWhile_append_of_pos fun e he => by rw [hp e he]; rfl, List.cons_append,
    List.dropWhile_cons_of_neg (by rw [hc]; decide)]

end Shows

/-- One reading finds the object or the list that the first bracket begins. -/
theorem scanned_ok : scanned cs = .ok d ↔ Carries cs d := by
  constructor
  · intro h
    rw [scanned] at h
    split at h
    next => cases h
    next hfound =>
      split at h
      next json hscan =>
        obtain rfl := Except.ok.inj h
        obtain ⟨c, rest, hdrop⟩ := List.exists_cons_of_ne_nil hfound
        obtain ⟨hc, p, hcs, hp⟩ := first_bracket hdrop
        rw [hdrop] at hscan
        obtain ⟨hcontainer, q, hq⟩ := (scan?_some hc).1 hscan
        exact ⟨hcontainer, p, q, by rw [hcs, hq], hp⟩
      next => cases h
  · intro h
    obtain ⟨c, rest, q, hc, hdrop, heq⟩ := h.shows.dropWhile h.1.bracketed
    rw [scanned, hdrop]
    dsimp only
    rw [(scan?_some hc).2 ⟨h.1, q, heq⟩]

/-- If there is none, that is a fault of the decision. -/
theorem scanned_error {f : Fault} (h : scanned cs = .error f) : f.kind = .decision := by
  rw [scanned] at h
  split at h
  next =>
    cases h
    rfl
  next =>
    split at h
    next => cases h
    next =>
      cases h
      rfl

/-! ## The JSON in an answer -/

/-- What a model says without the blanks and the fences around it. -/
def plain (raw : List Char) : List Char := unfenced (Text.trimChars raw)

/-- To find the JSON it is enough to read once. -/
theorem extractChars_eq (raw : List Char) :
    extractChars raw = if isJson (plain raw) then .ok (plain raw) else scanned (plain raw) := by
  rw [extractChars, ← plain]
  split
  next => rfl
  next =>
    cases hdrop : (plain raw).dropWhile fun c => !opens c with
    | nil => rw [scanned, hdrop]
    | cons c rest =>
        have hscan : (shrink? (c :: rest).reverse).map Text.trimEnd = scan? (c :: rest) :=
          shrink?_eq (first_bracket hdrop).1
        rw [scanned, hdrop]
        dsimp only
        rw [← hscan]
        cases shrink? (c :: rest).reverse with
        | none => rfl
        | some json => rfl

/-- The JSON in what a model says, with a search by bytes. If it were to cut a character, there
would be no result at all. The bytes are counted from the first bracket on, which makes no
difference to where a character is cut (`Text.isBoundary_append`). -/
def extractBytes? (raw : List Char) : Option (Except Fault (List Char)) :=
  let cs := plain raw
  if isJson cs then some (.ok cs)
  else
    match cs.dropWhile fun c => !opens c with
    | [] => some (.error .noJsonInAnswer)
    | found =>
      (searchBytes? found (Text.bytes found).length).map fun
        | some json => .ok (Text.trimEnd json)
        | none => .error .noCompleteJsonInAnswer

/-- No character is cut. -/
theorem extractBytes?_eq (raw : List Char) : extractBytes? raw = some (extractChars raw) := by
  rw [extractBytes?, extractChars, ← plain]
  split
  next => rfl
  next =>
    cases hdrop : (plain raw).dropWhile fun c => !opens c with
    | nil => rfl
    | cons c rest =>
        cases hshrink : shrink? (c :: rest).reverse with
        | none => simp only [searchBytes?_eq, hshrink, Option.map_some]
        | some json => simp only [searchBytes?_eq, hshrink, Option.map_some]

/-- No blank is left at the end. -/
theorem trimEnd_plain (raw : List Char) : Text.trimEnd (plain raw) = plain raw := by
  have htrim : ∀ cs, Text.trimEnd (Text.trimChars cs) = Text.trimChars cs := fun cs =>
    Text.trimEnd_idempotent _
  unfold plain unfenced
  cases Text.stripFront fence (Text.trimChars raw) with
  | none => exact htrim raw
  | some rest => exact htrim _

/-- What the first bracket begins is not lost with blanks and fences. -/
theorem Shows.plain {raw : List Char} (h : Shows raw d) (hd : Bracketed d) :
    Shows (plain raw) d :=
  (h.trimChars hd).unfenced hd

/-- Nor is an object or a list. -/
theorem Carries.plain {raw : List Char} (h : Carries raw d) : Carries (plain raw) d :=
  ⟨h.1, h.shows.plain h.1.bracketed⟩

/-- Of an object or a list that begins with the first bracket it is the whole text that is left, if
what is left is JSON and begins with a bracket. -/
theorem Carries.eq_plain {raw : List Char} (h : Carries (Answer.plain raw) d)
    (hjson : isJson (Answer.plain raw) = true)
    (hfirst : ∃ c rest, Answer.plain raw = c :: rest ∧ opens c = true) : Answer.plain raw = d := by
  obtain ⟨c, rest, heq, hc⟩ := hfirst
  obtain ⟨e, tail, q, -, hdrop, hq⟩ := h.shows.dropWhile h.1.bracketed
  -- the first bracket is the first character, so there is nothing in front of it
  rw [heq, List.dropWhile_cons_of_neg (by rw [hc]; decide)] at hdrop
  rw [heq] at hjson
  obtain ⟨d', sp, hd', hsp, hcontainer⟩ := isJson_isContainer hjson hc
  have hsame : d' = d := hcontainer.unique h.1 (by rw [← hd', hdrop, hq])
  rw [← trimEnd_plain, heq, hd', hcontainer.trimEnd_eq hsp, hsame]

/-- What is left is taken if it is JSON. -/
theorem extract_json {raw : String} (h : isJson (plain raw.toList) = true) :
    extract raw = .ok (String.ofList (plain raw.toList)) := by
  rw [extract, extractChars_eq, if_pos h]
  rfl

/-- What is not JSON as a whole is extracted by one reading. -/
theorem extract_scanned {raw : String} (h : isJson (plain raw.toList) = false) :
    extract raw = (scanned (plain raw.toList)).map String.ofList := by
  rw [extract, extractChars_eq, if_neg (Bool.eq_false_iff.1 h)]

/-- What is extracted is the object or the list that the first bracket begins. -/
theorem extract_ok_iff {raw : String} (h : isJson (plain raw.toList) = false) (d : List Char) :
    extract raw = .ok (String.ofList d) ↔ Carries (plain raw.toList) d := by
  rw [extract_scanned h, ← scanned_ok]
  cases scanned (plain raw.toList) with
  | error f => exact ⟨fun heq => (by cases heq), fun heq => (by cases heq)⟩
  | ok found =>
      constructor
      · intro heq
        rw [String.ofList_injective (Except.ok.inj heq)]
      · intro heq
        rw [Except.ok.inj heq]
        rfl

/-- If the first bracket begins none, that is a fault of the decision. -/
theorem extract_error {raw : String} (h : isJson (plain raw.toList) = false)
    (hnone : ∀ d, ¬ Carries (plain raw.toList) d) :
    ∃ f, extract raw = .error f ∧ f.kind = .decision := by
  cases hfound : scanned (plain raw.toList) with
  | ok d => exact absurd (scanned_ok.1 hfound) (hnone d)
  | error f => exact ⟨f, by rw [extract_scanned h, hfound]; rfl, scanned_error hfound⟩

/-- An object or a list with prose in front and any text behind it is taken, unless what is left is
JSON and begins with something else than a bracket. -/
theorem Carries.extract_iff {raw : String} (hd : Carries raw.toList d) :
    extract raw = .ok (String.ofList d) ↔
      (isJson (Answer.plain raw.toList) = true →
        ∃ c rest, Answer.plain raw.toList = c :: rest ∧ opens c = true) := by
  cases h : isJson (Answer.plain raw.toList) with
  | false => exact iff_of_true ((extract_ok_iff h d).2 hd.plain) nofun
  | true =>
      rw [extract_json h]
      constructor
      · -- what was taken begins with a bracket, and it is the whole of what is left
        intro heq _
        obtain ⟨c, rest, hfirst, hc⟩ := hd.1.first
        exact ⟨c, rest, by rw [String.ofList_injective (Except.ok.inj heq), hfirst], hc⟩
      · intro hfirst
        rw [hd.plain.eq_plain h (hfirst rfl)]

/-- **The JSON in an answer.** The search by bytes cuts no character. What is left without blanks
and fences is taken if it is JSON. Else it is read once from the first bracket on: the object or the
list that begins there is taken, without what follows; if there is none, no decision is made.

So an object or a list with prose in front and any text behind it is taken, unless what is left is
JSON that begins with something else than a bracket: a quoted text. -/
theorem extract_scan (raw : String) :
    extractBytes? raw.toList = some (extractChars raw.toList) ∧
    extractChars raw.toList =
      (if isJson (plain raw.toList) then .ok (plain raw.toList) else scanned (plain raw.toList)) ∧
    (isJson (plain raw.toList) = true → extract raw = .ok (String.ofList (plain raw.toList))) ∧
    (isJson (plain raw.toList) = false →
      (∀ d, extract raw = .ok (String.ofList d) ↔ Carries (plain raw.toList) d) ∧
      ((∀ d, ¬ Carries (plain raw.toList) d) → ∃ f, extract raw = .error f ∧ f.kind = .decision)) ∧
    ∀ d, Carries raw.toList d →
      (extract raw = .ok (String.ofList d) ↔
        (isJson (plain raw.toList) = true →
          ∃ c rest, plain raw.toList = c :: rest ∧ opens c = true)) := by
  refine ⟨extractBytes?_eq _, extractChars_eq _, extract_json, fun h => ⟨?_, ?_⟩, fun d hd => ?_⟩
  · exact extract_ok_iff h
  · exact extract_error h
  · exact hd.extract_iff

/-- The case of prose, a list and another bracket behind it, with characters of several bytes. -/
theorem extract_scan_prose : extract "Señor: [true] … ] €" = .ok "[true]" := by
  have hcarries : Carries "Señor: [true] … ] €".toList "[true]".toList := by
    refine ⟨⟨?_, ?_, by decide⟩, "Señor: ".toList, " … ] €".toList, rfl, none_of_any rfl⟩
    · exact ⟨'[', "true]".toList, rfl, rfl⟩
    · exact ⟨"[true".toList, ']', rfl, rfl⟩
  have hjson : isJson (plain "Señor: [true] … ] €".toList) = false := by decide
  obtain ⟨-, -, -, -, htaken⟩ := extract_scan "Señor: [true] … ] €"
  exact (htaken _ hcarries).2 fun h => absurd h (Bool.eq_false_iff.1 hjson)

/-- A quoted text between fences is taken as it is, with the object in it. -/
theorem extract_quoted :
    Carries "```\"\x7b\x7d\"```".toList ['\x7b', '\x7d'] ∧
      isJson "```\"\x7b\x7d\"```".toList = false ∧
      extract "```\"\x7b\x7d\"```" = .ok "\"\x7b\x7d\"" ∧
      extract "```\"\x7b\x7d\"```" ≠ .ok (String.ofList ['\x7b', '\x7d']) := by
  have hplain : plain "```\"\x7b\x7d\"```".toList = ['"', '\x7b', '\x7d', '"'] := by decide
  have hextract : extract "```\"\x7b\x7d\"```" = .ok "\"\x7b\x7d\"" := by
    rw [extract, extractChars_eq, hplain, if_pos (by decide)]
    rfl
  refine ⟨⟨⟨?_, ?_, by decide⟩, ?_⟩, by decide, hextract, ?_⟩
  · exact ⟨'\x7b', ['\x7d'], rfl, rfl⟩
  · exact ⟨['\x7b'], '\x7d', rfl, rfl⟩
  · exact ⟨['`', '`', '`', '"'], ['"', '`', '`', '`'], rfl, none_of_any rfl⟩
  · rw [hextract]
    decide

end Answer

end ControlPlane
