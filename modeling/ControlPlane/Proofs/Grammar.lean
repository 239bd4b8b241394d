/-
The texts of values.

The reader goes through a text once and says what it begins with. Here the texts that it takes for
a value are described by rules (`Grammar.Value`), with rules for what stands between the brackets
of a list and of an object. The reader follows the rules: what it takes for a whole value is the
text of one (`value_cut`), and it reads the text of a value as that value, whatever follows
(`value_read`); only a number must not go on.

So a text of a list or an object is no beginning of another one (`Value.unique`), and to find the
first one it is enough to read once.
-/
import ControlPlane.Proofs.Layout
import ControlPlane.Proofs.Token

set_option autoImplicit false

namespace ControlPlane

namespace Text

/-- What is cut off in front stood there. -/
theorem eq_of_stripFront {w cs rest : List Char} (h : stripFront w cs = some rest) :
    cs = w ++ rest := by
  induction w generalizing cs with
  | nil => exact Option.some.inj h
  | cons p w ih =>
      cases cs with
      | nil => cases h
      | cons c cs =>
          rw [stripFront] at h
          split at h
          next heq => rw [heq, ih h, List.cons_append]
          next => cases h

/-- What is cut off at the end stood there. -/
theorem eq_of_stripBack {w cs rest : List Char} (h : stripBack w cs = some rest) :
    cs = rest ++ w := by
  obtain ⟨back, hback, rfl⟩ := Option.map_eq_some_iff.1 h
  have hcs := congrArg List.reverse (eq_of_stripFront hback)
  rwa [List.reverse_append, List.reverse_reverse, List.reverse_reverse] at hcs

end Text

open Reader

/-! ## Rules -/

namespace Grammar

/-- Nothing but blanks. -/
def Blanks (cs : List Char) : Prop := ∀ c ∈ cs, isSpace c = true

/-- What may stand in front of an item or a member: blanks, and a comma if it is not the first. -/
inductive Lead : Bool → List Char → Prop where
  /-- Blanks stand in front of the first. -/
  | first {sp : List Char} (hsp : Blanks sp) : Lead true sp
  /-- A comma among blanks stands in front of every other. -/
  | next {sp sp' : List Char} (hsp : Blanks sp) (hsp' : Blanks sp') : Lead false (sp ++ ',' :: sp')

mutual

/-- The text of a value. -/
inductive Value : List Char → Outline → Prop where
  /-- Nothing. -/
  | null : Value ['n', 'u', 'l', 'l'] .null
  /-- The truth value of what is so. -/
  | yes : Value ['t', 'r', 'u', 'e'] (.bool true)
  /-- The truth value of what is not so. -/
  | no : Value ['f', 'a', 'l', 's', 'e'] (.bool false)
  /-- A text in quotes. -/
  | string {cs : List Char} {s : Option String} (h : quotedText? cs = some (s, [])) :
      Value ('"' :: cs) (.string s)
  /-- A number. -/
  | number {cs : List Char} {n : Option JsonNumber} (h : number? cs = some (n, [])) :
      Value cs (.number n)
  /-- A list in brackets. -/
  | array {cs : List Char} {os : List Outline} (h : Items true cs os) :
      Value ('[' :: cs) (.array os true)
  /-- An object in braces. -/
  | object {cs : List Char} {ms : List (Option String × Outline)} (h : Members true cs ms) :
      Value ('{' :: cs) (.object ms true)

/-- The text of the items of a list, with its closing bracket. -/
inductive Items : Bool → List Char → List Outline → Prop where
  /-- The list ends. -/
  | close {first : Bool} {sp : List Char} (hsp : Blanks sp) : Items first (sp ++ [']']) []
  /-- One more item follows. -/
  | item {first : Bool} {lead cs rest : List Char} {o : Outline} {os : List Outline}
      (hlead : Lead first lead) (hvalue : Value cs o) (hrest : Items false rest os) :
      Items first (lead ++ (cs ++ rest)) (o :: os)

/-- The text of the members of an object, with its closing brace. -/
inductive Members : Bool → List Char → List (Option String × Outline) → Prop where
  /-- The object ends. -/
  | close {first : Bool} {sp : List Char} (hsp : Blanks sp) : Members first (sp ++ ['}']) []
  /-- One more member follows: a name in quotes, a colon and a value. -/
  | member {first : Bool} {lead name sp sp' cs rest : List Char} {s : Option String} {o : Outline}
      {ms : List (Option String × Outline)} (hlead : Lead first lead)
      (hname : quotedText? name = some (s, [])) (hsp : Blanks sp) (hsp' : Blanks sp')
      (hvalue : Value cs o) (hrest : Members false rest ms) :
      Members first (lead ++ '"' :: (name ++ (sp ++ ':' :: (sp' ++ (cs ++ rest))))) ((s, o) :: ms)

end

/-! ## Blanks -/

variable {sp cs q : List Char} {o : Outline}

/-- Blanks are passed over. -/
theorem skip_blanks (hsp : Blanks sp) (cs : List Char) : skip (sp ++ cs) = skip cs :=
  List.dropWhile_append_of_pos hsp

/-- What is passed over are blanks. -/
theorem blanks_skip (cs : List Char) : ∃ sp, Blanks sp ∧ cs = sp ++ skip cs :=
  ⟨cs.takeWhile isSpace, fun _ hc => List.mem_takeWhile_imp hc,
    List.takeWhile_append_dropWhile.symm⟩

/-- Blanks do not continue a number. -/
theorem stops_blanks (hsp : Blanks sp) (hcs : Stops cs) : Stops (sp ++ cs) := by
  cases sp with
  | nil => exact hcs
  | cons c sp =>
      refine stops_cons ?_ _
      have hspace := hsp c List.mem_cons_self
      simp only [isSpace, Bool.or_eq_true, decide_eq_true_eq] at hspace
      rcases hspace with ((rfl | rfl) | rfl) | rfl <;> decide

/-! ## What the rules say -/

/-- The text of a value begins with a character that begins one. -/
theorem Value.begins (h : Value cs o) : Begins cs := by
  cases h with
  | null => exact ⟨'n', _, rfl, rfl, by decide⟩
  | yes => exact ⟨'t', _, rfl, rfl, by decide⟩
  | no => exact ⟨'f', _, rfl, rfl, by decide⟩
  | string => exact ⟨'"', _, rfl, rfl, by decide⟩
  | number h => exact begins_numeral h
  | array => exact ⟨'[', _, rfl, rfl, by decide⟩
  | object => exact ⟨'{', _, rfl, rfl, by decide⟩

/-- The text of a value is not empty. -/
theorem Value.length_pos (h : Value cs o) : 0 < cs.length := by
  obtain ⟨c, tail, rfl, -⟩ := h.begins
  exact Nat.succ_pos _

mutual

/-- The text of a value stands for a whole value. -/
theorem Value.isWhole {cs : List Char} {o : Outline} : Value cs o → o.isWhole = true
  | .null => rfl
  | .yes => rfl
  | .no => rfl
  | .string _ => rfl
  | .number _ => rfl
  | .array h => by rw [Outline.isWhole, h.allWhole, Bool.and_self]
  | .object h => by rw [Outline.isWhole, h.allWhole, Bool.and_self]

theorem Items.allWhole {first : Bool} {cs : List Char} {os : List Outline} :
    Items first cs os → Outline.allWhole os = true
  | .close _ => rfl
  | .item _ hvalue hrest => by rw [Outline.allWhole, hvalue.isWhole, hrest.allWhole, Bool.and_self]

theorem Members.allWhole {first : Bool} {cs : List Char} {ms : List (Option String × Outline)} :
    Members first cs ms → Outline.allMembersWhole ms = true
  | .close _ => rfl
  | .member _ _ _ _ hvalue hrest => by
      rw [Outline.allMembersWhole, hvalue.isWhole, hrest.allWhole, Bool.and_self]

end

/-- What follows an item does not continue a number. -/
theorem Items.stops {os : List Outline} (h : Items false cs os) (q : List Char) :
    Stops (cs ++ q) := by
  cases h with
  | close hsp =>
      rw [List.append_assoc]
      exact stops_blanks hsp (stops_cons (by decide) _)
  | item hlead _ _ =>
      cases hlead with
      | next hsp _ =>
          simp only [List.append_assoc, List.cons_append]
          exact stops_blanks hsp (stops_cons (by decide) _)

/-- What follows a value among members does not continue a number. -/
theorem Members.stops {ms : List (Option String × Outline)} (h : Members false cs ms)
    (q : List Char) : Stops (cs ++ q) := by
  cases h with
  | close hsp =>
      rw [List.append_assoc]
      exact stops_blanks hsp (stops_cons (by decide) _)
  | member hlead _ _ _ _ _ =>
      cases hlead with
      | next hsp _ =>
          simp only [List.append_assoc, List.cons_append]
          exact stops_blanks hsp (stops_cons (by decide) _)

/-! ## The reader reads what the rules allow -/

variable {fuel : Nat} {first : Bool} {lead rest : List Char}

/-- The next item is read from behind its comma. -/
theorem items_lead (hlead : Lead first lead) (hbegins : Begins cs)
    (hvalue : value fuel cs = (o, rest)) (hwhole : o.isWhole = true) :
    items (fuel + 1) first (lead ++ cs) =
      (o :: (items fuel false rest).1, (items fuel false rest).2.1,
        (items fuel false rest).2.2) := by
  cases hlead with
  | first hsp =>
      rw [← items_skip, skip_blanks hsp, items_skip, items_first hbegins hvalue hwhole]
  | next hsp hsp' =>
      rw [List.append_assoc, ← items_skip, skip_blanks hsp, items_skip, List.cons_append,
        ← items_comma, skip_blanks hsp', items_comma, items_next hbegins hvalue hwhole]

/-- The next member is read from behind its comma. -/
theorem members_lead (hlead : Lead first lead) {name next : List Char} {s : Option String}
    (hname : quotedText? name = some (s, next)) (hcolon : skip next = ':' :: cs)
    (hvalue : value fuel cs = (o, rest)) (hwhole : o.isWhole = true) :
    members (fuel + 1) first (lead ++ '"' :: name) =
      ((s, o) :: (members fuel false rest).1, (members fuel false rest).2.1,
        (members fuel false rest).2.2) := by
  have hquote : ∀ tail, skip ('"' :: tail) = '"' :: tail := fun _ => rfl
  have hcomma : ∀ tail, skip (',' :: tail) = ',' :: tail := fun _ => rfl
  cases hlead with
  | first hsp =>
      rw [← members_skip, skip_blanks hsp, members_skip, members, hquote]
      simp [hquote, hname, hcolon, hvalue, hwhole]
  | next hsp hsp' =>
      rw [List.append_assoc, ← members_skip, skip_blanks hsp, members_skip, List.cons_append,
        members, hcomma]
      simp [skip_blanks hsp', hquote, hname, hcolon, hvalue, hwhole]

mutual

/-- The text of a value is read as that value, whatever follows, unless it continues a number.
Two steps for a character are enough. -/
theorem value_read {cs : List Char} {o : Outline} : Value cs o → ∀ fuel q,
    2 * cs.length ≤ fuel → ((∃ n, o = .number n) → Stops q) → value fuel (cs ++ q) = (o, q)
  | .null, fuel + 1, q, _, _ => rfl
  | .yes, fuel + 1, q, _, _ => rfl
  | .no, fuel + 1, q, _, _ => rfl
  | .string h, fuel + 1, q, _, _ => by
      rw [List.cons_append, value_scalar rfl (by decide) (by decide), scalar, if_pos rfl,
        quotedText?_append h]
  | .number h, fuel + 1, q, _, hq => value_numeral h (hq ⟨_, rfl⟩) fuel
  | .array h, fuel + 1, q, hfuel, _ => by
      rw [List.length_cons] at hfuel
      rw [List.cons_append, value_array, items_read h fuel q (by omega)]
  | .object h, fuel + 1, q, hfuel, _ => by
      rw [List.length_cons] at hfuel
      rw [List.cons_append, value_object, members_read h fuel q (by omega)]
  | h, 0, q, hfuel, _ => by
      have hpos := h.length_pos
      omega

/-- Items are read up to their bracket, whatever stands behind it. -/
theorem items_read {first : Bool} {cs : List Char} {os : List Outline} : Items first cs os →
    ∀ fuel q, 2 * cs.length + 1 ≤ fuel → items fuel first (cs ++ q) = (os, true, q)
  | .close hsp, fuel + 1, q, _ => by
      rw [List.append_assoc, ← items_skip, skip_blanks hsp, items_skip]
      rfl
  | .item hlead hvalue hrest, fuel + 1, q, hfuel => by
      -- the value has a character, which pays for the step to the item and the step to the rest
      simp only [List.length_append] at hfuel
      have hpos := hvalue.length_pos
      have hread := value_read hvalue fuel _ (by omega) fun _ => hrest.stops q
      rw [List.append_assoc, List.append_assoc,
        items_lead hlead (hvalue.begins.append _) hread hvalue.isWhole,
        items_read hrest fuel q (by omega)]
  | _, 0, _, hfuel => absurd hfuel (Nat.not_succ_le_zero _)

/-- Members are read up to their brace, whatever stands behind it. -/
theorem members_read {first : Bool} {cs : List Char} {ms : List (Option String × Outline)} :
    Members first cs ms →
    ∀ fuel q, 2 * cs.length + 1 ≤ fuel → members fuel first (cs ++ q) = (ms, true, q)
  | .close hsp, fuel + 1, q, _ => by
      rw [List.append_assoc, ← members_skip, skip_blanks hsp, members_skip]
      rfl
  | .member hlead hname hsp hsp' hvalue hrest, fuel + 1, q, hfuel => by
      simp only [List.length_append, List.length_cons] at hfuel
      have hpos := hvalue.length_pos
      have hread := value_read hvalue fuel _ (by omega) fun _ => hrest.stops q
      -- blanks behind the colon are passed over by the reader of the value
      rw [← value_skip, ← skip_blanks hsp', value_skip] at hread
      simp only [List.append_assoc, List.cons_append]
      rw [members_lead hlead (quotedText?_append hname _) (skip_blanks hsp _) hread hvalue.isWhole,
        members_read hrest fuel q (by omega)]
  | _, 0, _, hfuel => absurd hfuel (Nat.not_succ_le_zero _)

end

/-! ## The rules allow what the reader reads -/

variable {r : List Char}

/-- What is taken for a word is the word. -/
theorem word_cut {w : List Char} {found : Outline} (h : word w o cs = (found, r))
    (hwhole : found.isWhole = true) : found = o ∧ cs = w ++ r := by
  unfold word at h
  split at h
  next hstrip =>
    obtain ⟨rfl, rfl⟩ := Prod.mk.inj h
    exact ⟨rfl, Text.eq_of_stripFront hstrip⟩
  next =>
    obtain ⟨rfl, rfl⟩ := Prod.mk.inj h
    cases hwhole

/-- What is taken for a value without brackets is the text of one. -/
theorem scalar_cut (h : scalar cs = (o, r)) (hwhole : o.isWhole = true) :
    ∃ used, cs = used ++ r ∧ Value used o := by
  cases cs with
  | nil =>
      obtain ⟨rfl, rfl⟩ := Prod.mk.inj h
      cases hwhole
  | cons c cs =>
      rw [scalar] at h
      split at h
      next hquote =>
        subst hquote
        split at h
        next s rest htext =>
          obtain ⟨rfl, rfl⟩ := Prod.mk.inj h
          obtain ⟨used, rfl, hread⟩ := quotedText?_local htext
          have halone := hread []
          rw [List.append_nil] at halone
          exact ⟨'"' :: used, rfl, .string halone⟩
        next =>
          obtain ⟨rfl, rfl⟩ := Prod.mk.inj h
          cases hwhole
      next =>
      split at h
      next hn =>
        obtain ⟨rfl, rfl⟩ := word_cut h hwhole
        exact ⟨['n', 'u', 'l', 'l'], by rw [hn]; rfl, .null⟩
      next =>
      split at h
      next ht =>
        obtain ⟨rfl, rfl⟩ := word_cut h hwhole
        exact ⟨['t', 'r', 'u', 'e'], by rw [ht]; rfl, .yes⟩
      next =>
      split at h
      next hf =>
        obtain ⟨rfl, rfl⟩ := word_cut h hwhole
        exact ⟨['f', 'a', 'l', 's', 'e'], by rw [hf]; rfl, .no⟩
      next =>
        split at h
        next n rest hnumber =>
          obtain ⟨rfl, rfl⟩ := Prod.mk.inj h
          obtain ⟨used, hused, hread⟩ := number?_cut hnumber
          exact ⟨used, hused, .number hread⟩
        next =>
          obtain ⟨rfl, rfl⟩ := Prod.mk.inj h
          cases hwhole

/-- What is taken for a whole value is the text of one. -/
def CutsValue (fuel : Nat) : Prop :=
  ∀ {cs r o}, value fuel cs = (o, r) → o.isWhole = true → ∃ used, skip cs = used ++ r ∧ Value used o

/-- What is taken for items up to a bracket is the text of some. -/
def CutsItems (fuel : Nat) : Prop :=
  ∀ {first cs r os}, items fuel first cs = (os, true, r) →
    ∃ used, cs = used ++ r ∧ Items first used os

/-- What is taken for members up to a brace is the text of some. -/
def CutsMembers (fuel : Nat) : Prop :=
  ∀ {first cs r ms}, members fuel first cs = (ms, true, r) →
    ∃ used, cs = used ++ r ∧ Members first used ms

/-- With more fuel a value is cut right if items and members are. -/
theorem value_cut (hitems : CutsItems fuel) (hmembers : CutsMembers fuel) :
    CutsValue (fuel + 1) := by
  intro cs r o h hwhole
  -- a list or an object is whole only if it is closed, and then its parts are texts of their own
  rw [value] at h
  split at h
  next rest hskip =>
    rcases hread : items fuel true rest with ⟨os, closed, left⟩
    rw [hread] at h
    obtain ⟨rfl, rfl⟩ := Prod.mk.inj h
    obtain ⟨rfl, -⟩ := Bool.and_eq_true_iff.1 hwhole
    obtain ⟨used, rfl, hused⟩ := hitems hread
    exact ⟨'[' :: used, hskip, .array hused⟩
  next rest hskip =>
    rcases hread : members fuel true rest with ⟨ms, closed, left⟩
    rw [hread] at h
    obtain ⟨rfl, rfl⟩ := Prod.mk.inj h
    obtain ⟨rfl, -⟩ := Bool.and_eq_true_iff.1 hwhole
    obtain ⟨used, rfl, hused⟩ := hmembers hread
    exact ⟨'{' :: used, hskip, .object hused⟩
  next => exact scalar_cut h hwhole

/-- Blanks, and a comma where there has to be one, are passed over. -/
theorem lead_cut {next : List Char} {c : Char} (hskip : skip cs = c :: rest)
    (hnext : (if first = true then some (c :: rest) else if c = ',' then some rest else none) =
      some next) : ∃ lead, Lead first lead ∧ cs = lead ++ skip next := by
  obtain ⟨sp, hsp, hcs⟩ := blanks_skip cs
  cases first with
  | true =>
      obtain rfl := Option.some.inj hnext
      refine ⟨sp, .first hsp, ?_⟩
      rw [← hskip, skip_skip]
      exact hcs
  | false =>
      rw [if_neg Bool.false_ne_true] at hnext
      split at hnext
      next hcomma =>
        obtain rfl := Option.some.inj hnext
        obtain ⟨sp', hsp', hrest⟩ := blanks_skip rest
        refine ⟨sp ++ ',' :: sp', .next hsp hsp', ?_⟩
        rw [List.append_assoc, List.cons_append, ← hrest, ← hcomma, ← hskip]
        exact hcs
      next => cases hnext

/-- Items are cut right if values are. -/
theorem items_cut (hvalue : CutsValue fuel) (hitems : CutsItems fuel) :
    CutsItems (fuel + 1) := by
  intro first cs r os h
  rw [items] at h
  split at h
  next rest hskip =>
    obtain ⟨sp, hsp, hcs⟩ := blanks_skip cs
    cases h
    refine ⟨sp ++ [']'], ?_, .close hsp⟩
    rw [List.append_assoc, List.singleton_append, ← hskip]
    exact hcs
  next c rest hbracket hskip =>
    split at h
    next => cases h
    next next hnext =>
      split at h
      next => cases h
      next =>
        -- an item, and then the others
        obtain ⟨lead, hlead, hcs⟩ := lead_cut hskip hnext
        rcases hread : value fuel next with ⟨o, left⟩
        rw [hread] at h
        dsimp only at h
        split at h
        next hwhole =>
          rcases hmore : items fuel false left with ⟨os', closed, left'⟩
          rw [hmore] at h
          cases h
          obtain ⟨used, hused, htext⟩ := hvalue hread hwhole
          obtain ⟨others, rfl, hothers⟩ := hitems hmore
          refine ⟨lead ++ (used ++ others), ?_, .item hlead htext hothers⟩
          rw [hcs, hused, List.append_assoc, List.append_assoc]
        next => cases h
  next => cases h

/-- Members are cut right if values are. -/
theorem members_cut (hvalue : CutsValue fuel) (hmembers : CutsMembers fuel) :
    CutsMembers (fuel + 1) := by
  intro first cs r ms h
  rw [members] at h
  split at h
  next rest hskip =>
    obtain ⟨sp, hsp, hcs⟩ := blanks_skip cs
    cases h
    refine ⟨sp ++ ['}'], ?_, .close hsp⟩
    rw [List.append_assoc, List.singleton_append, ← hskip]
    exact hcs
  next c rest hbrace hskip =>
    split at h
    next => cases h
    next next hnext =>
      obtain ⟨lead, hlead, hcs⟩ := lead_cut hskip hnext
      split at h
      next name hquote =>
        split at h
        next => cases h
        next s after hname =>
          split at h
          next tail hcolon =>
            -- a member, and then the others
            rcases hread : value fuel tail with ⟨o, left⟩
            rw [hread] at h
            dsimp only at h
            split at h
            next hwhole =>
              rcases hmore : members fuel false left with ⟨ms', closed, left'⟩
              rw [hmore] at h
              cases h
              obtain ⟨text, rfl, hquoted⟩ := quotedText?_local hname
              have halone := hquoted []
              rw [List.append_nil] at halone
              obtain ⟨sp, hsp, hafter⟩ := blanks_skip after
              obtain ⟨sp', hsp', htail⟩ := blanks_skip tail
              obtain ⟨used, hused, htext⟩ := hvalue hread hwhole
              obtain ⟨others, rfl, hothers⟩ := hmembers hmore
              refine ⟨_, ?_, .member hlead halone hsp hsp' htext hothers⟩
              rw [hcs, hquote, hafter, hcolon, htail, hused]
              simp only [List.append_assoc, List.cons_append]
            next => cases h
          next => cases h
      next => cases h
  next => cases h

/-- **What is cut off is what the rules say**, with any fuel. -/
theorem cuts (fuel : Nat) : CutsValue fuel ∧ CutsItems fuel ∧ CutsMembers fuel := by
  induction fuel with
  | zero =>
      refine ⟨?_, ?_, ?_⟩
      · intro cs r o h hwhole
        cases h
        cases hwhole
      · intro first cs r os h
        cases h
      · intro first cs r ms h
        cases h
  | succ fuel ih =>
      obtain ⟨hvalue, hitems, hmembers⟩ := ih
      exact ⟨value_cut hitems hmembers, items_cut hvalue hitems, members_cut hvalue hmembers⟩

/-! ## Where a value ends -/

/-- Of two texts of values neither is the beginning of the other, numbers apart. -/
theorem Value.unique {cs' q' : List Char} {o' : Outline} (h : Value cs o) (h' : Value cs' o')
    (hnumber : ∀ n, o ≠ .number n) (hnumber' : ∀ n, o' ≠ .number n)
    (heq : cs ++ q = cs' ++ q') : cs = cs' := by
  -- with enough steps for both, the reader stops behind each of them
  have hread := value_read h (2 * cs.length + 2 * cs'.length) q (Nat.le_add_right _ _)
    fun ⟨n, hn⟩ => absurd hn (hnumber n)
  have hread' := value_read h' (2 * cs.length + 2 * cs'.length) q' (Nat.le_add_left _ _)
    fun ⟨n, hn⟩ => absurd hn (hnumber' n)
  -- both are read from one text, so the same is left
  rw [heq, hread'] at hread
  obtain ⟨-, rfl⟩ := Prod.mk.inj hread
  exact List.append_cancel_right heq

/-- Items end with their bracket. -/
theorem Items.last {first : Bool} {cs : List Char} {os : List Outline} :
    Items first cs os → [']'] <:+ cs
  | .close _ => List.suffix_append _ _
  | .item _ _ hrest => List.suffix_append_of_suffix (List.suffix_append_of_suffix hrest.last)

/-- Members end with their brace. -/
theorem Members.last {first : Bool} {cs : List Char} {ms : List (Option String × Outline)} :
    Members first cs ms → ['}'] <:+ cs
  | .close _ => List.suffix_append _ _
  | .member _ _ _ _ _ hrest => by
      refine List.suffix_append_of_suffix (List.IsSuffix.trans ?_ (List.suffix_cons _ _))
      refine List.suffix_append_of_suffix (List.suffix_append_of_suffix ?_)
      refine List.IsSuffix.trans ?_ (List.suffix_cons _ _)
      exact List.suffix_append_of_suffix (List.suffix_append_of_suffix hrest.last)

end Grammar

end ControlPlane
