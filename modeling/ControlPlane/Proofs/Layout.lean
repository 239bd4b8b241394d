/-
Text over several lines is read back.

The reader passes over blanks in front of a value, an item, a member and a closing bracket
(`value_skip`, `items_skip`, `members_skip`), and behind a comma (`items_comma`, `members_comma`).
So what was written with items and members on lines of their own is taken apart like what was
written on one line (`value_prettyChars`).

Numbers are read by their digits alone. A number of single precision is not told from its text, so
it may be read as another number (`JsonNumber.reread`); a number that is read back where it stands
alone stays what it is (`JsonNumber.ReadsBack.reread_eq`).
-/
import ControlPlane.Proofs.Rereading
import Mathlib.Data.List.DropRight

set_option autoImplicit false

namespace ControlPlane

/-! ## Numbers as they are read -/

namespace JsonNumber

/-- The number that is read where this one was written. -/
def reread (n : JsonNumber) : JsonNumber :=
  match Reader.number? n.chars with
  | some (some m, _) => m
  | _ => n

/-- The text of the number is a number. -/
def Legible (n : JsonNumber) : Prop := Reader.number? n.chars = some (some n.reread, [])

variable {n : JsonNumber}

/-- A number that reads back is reread as itself. -/
theorem ReadsBack.reread_eq (h : n.ReadsBack) : n.reread = n := by
  unfold ReadsBack at h
  rw [reread, h]

/-- A number that reads back is legible. -/
theorem ReadsBack.legible (h : n.ReadsBack) : n.Legible := by
  rw [Legible, h.reread_eq]
  exact h

end JsonNumber

namespace Json

mutual

/-- The value with every number as it is read. -/
def reread : Json → Json
  | .number n => .number n.reread
  | .array items => .array (rereadItems items)
  | .object members => .object (rereadMembers members)
  | v => v

/-- Items with every number as it is read. -/
def rereadItems : List Json → List Json
  | [] => []
  | v :: rest => v.reread :: rereadItems rest

/-- Members with every number as it is read. -/
def rereadMembers : List (String × Json) → List (String × Json)
  | [] => []
  | (name, v) :: rest => (name, v.reread) :: rereadMembers rest

end

/-- The text of every number in the value is a number. -/
def Legible (v : Json) : Prop := ∀ n ∈ v.numbers, n.Legible

/-! ## What is written, line by line -/

/-- The items after the first one, as they are written on lines of their own. -/
def prettyItemTail (level : Nat) : List Json → List Char
  | [] => []
  | v :: rest => ',' :: (lineStart level ++ (v.prettyChars level ++ prettyItemTail level rest))

/-- The members after the first one, as they are written on lines of their own. -/
def prettyMemberTail (level : Nat) : List (String × Json) → List Char
  | [] => []
  | (name, v) :: rest =>
    ',' :: (lineStart level ++
      (stringChars name ++ ':' :: ' ' :: (v.prettyChars level ++ prettyMemberTail level rest)))

/-- Items over several lines are the first one, and the others after commas. -/
theorem prettyItems_cons (level : Nat) (v : Json) (rest : List Json) :
    prettyItems level (v :: rest) = v.prettyChars level ++ prettyItemTail level rest := by
  induction rest generalizing v with
  | nil => rw [prettyItems, prettyItemTail, List.append_nil]
  | cons w rest ih =>
      rw [prettyItems, ih, prettyItemTail]
      · simp only [List.append_assoc, List.cons_append]
      · exact List.cons_ne_nil w rest

/-- Members over several lines are the first one, and the others after commas. -/
theorem prettyMembers_cons (level : Nat) (name : String) (v : Json)
    (rest : List (String × Json)) :
    prettyMembers level ((name, v) :: rest) =
      stringChars name ++ ':' :: ' ' :: (v.prettyChars level ++ prettyMemberTail level rest) := by
  induction rest generalizing name v with
  | nil => rw [prettyMembers, prettyMemberTail, List.append_nil]
  | cons m rest ih =>
      rw [prettyMembers, ih, prettyMemberTail]
      · simp only [List.append_assoc, List.cons_append]
      · exact List.cons_ne_nil m rest

end Json

namespace Reader

open Json

/-! ## Blanks -/

variable {fuel level : Nat} {cs rest : List Char}

/-- Blanks are skipped at once. -/
theorem skip_skip (cs : List Char) : skip (skip cs) = skip cs :=
  List.dropWhile_idempotent _ _

/-- The start of a line is blanks, and they are skipped. -/
theorem skip_lineStart (level : Nat) (cs : List Char) : skip (lineStart level ++ cs) = skip cs := by
  have hspace : ∀ c ∈ lineStart level, isSpace c = true := by
    intro c hc
    rcases List.mem_cons.1 hc with rfl | hc
    · rfl
    · rw [List.eq_of_mem_replicate hc]
      rfl
  exact List.dropWhile_append_of_pos hspace

/-- A value is read from where the blanks end. -/
theorem value_skip (fuel : Nat) (cs : List Char) : value fuel (skip cs) = value fuel cs := by
  cases fuel with
  | zero => rfl
  | succ fuel => rw [value, value, skip_skip]

/-- A blank in front of a value is passed over. -/
theorem value_blank {found : Outline × List Char} (h : value fuel cs = found) :
    value fuel (' ' :: cs) = found := by
  rw [← h, ← value_skip fuel (' ' :: cs), ← value_skip fuel cs]
  rfl

/-- So are the items of a list. -/
theorem items_skip (fuel : Nat) (first : Bool) (cs : List Char) :
    items fuel first (skip cs) = items fuel first cs := by
  cases fuel with
  | zero => rfl
  | succ fuel => rw [items, items, skip_skip]

/-- So are the members of an object. -/
theorem members_skip (fuel : Nat) (first : Bool) (cs : List Char) :
    members fuel first (skip cs) = members fuel first cs := by
  cases fuel with
  | zero => rfl
  | succ fuel => rw [members, members, skip_skip]

/-- After a comma blanks do not matter to the items. -/
theorem items_comma (fuel : Nat) (cs : List Char) :
    items fuel false (',' :: skip cs) = items fuel false (',' :: cs) := by
  have hcomma : ∀ tail, skip (',' :: tail) = ',' :: tail := fun _ => rfl
  cases fuel with
  | zero => rfl
  | succ fuel => simp [items, hcomma, skip_skip, value_skip]

/-- After a comma blanks do not matter to the members. -/
theorem members_comma (fuel : Nat) (cs : List Char) :
    members fuel false (',' :: skip cs) = members fuel false (',' :: cs) := by
  have hcomma : ∀ tail, skip (',' :: tail) = ',' :: tail := fun _ => rfl
  cases fuel with
  | zero => rfl
  | succ fuel => simp [members, hcomma, skip_skip]

/-! ## Reading what was written -/

/-- A value over several lines begins as a value does. -/
theorem begins_prettyChars (level : Nat) {v : Json} (hv : v.Legible) :
    Begins (v.prettyChars level) := by
  cases v with
  | null => exact ⟨'n', _, rfl, rfl, by decide⟩
  | bool b => cases b with
    | true => exact ⟨'t', _, rfl, rfl, by decide⟩
    | false => exact ⟨'f', _, rfl, rfl, by decide⟩
  | number n => exact begins_numeral (hv n List.mem_cons_self)
  | string s => exact ⟨'"', _, rfl, rfl, by decide⟩
  | array items => cases items with
    | nil => exact ⟨'[', _, rfl, rfl, by decide⟩
    | cons v items => exact ⟨'[', _, rfl, rfl, by decide⟩
  | object members => cases members with
    | nil => exact ⟨'{', _, rfl, rfl, by decide⟩
    | cons m members => exact ⟨'{', _, rfl, rfl, by decide⟩

theorem stops_lineStart (level : Nat) (rest : List Char) : Stops (lineStart level ++ rest) :=
  stops_cons (by decide) _

/-- Where the rest of a list begins, a number stops. -/
theorem stops_prettyItemTail (level : Nat) (items : List Json) {rest : List Char}
    (hrest : Stops rest) : Stops (prettyItemTail level items ++ rest) := by
  cases items with
  | nil => exact hrest
  | cons v items => exact stops_cons (by decide) _

/-- Where the rest of an object begins, a number stops. -/
theorem stops_prettyMemberTail (level : Nat) (members : List (String × Json)) {rest : List Char}
    (hrest : Stops rest) : Stops (prettyMemberTail level members ++ rest) := by
  cases members with
  | nil => exact hrest
  | cons m members => exact stops_cons (by decide) _

mutual

/-- What is written for a value over several lines is read as that value, with its numbers as they
are read, and what follows is left. -/
theorem value_prettyChars : (v : Json) → (level fuel : Nat) → (rest : List Char) → v.Legible →
    Stops rest → 2 * (v.prettyChars level).length ≤ fuel →
    value fuel (v.prettyChars level ++ rest) = (.ofJson v.reread, rest)
  | .null, level, fuel + 1, rest, _, _, _ => rfl
  | .bool true, level, fuel + 1, rest, _, _, _ => rfl
  | .bool false, level, fuel + 1, rest, _, _, _ => rfl
  | .number n, level, fuel + 1, rest, hv, hrest, _ =>
      value_numeral (hv n List.mem_cons_self) hrest fuel
  | .string s, level, fuel + 1, rest, _, _, _ => value_string s fuel rest
  | .array [], level, fuel + 2, rest, _, _, _ => rfl
  | .array (v :: items), level, fuel + 2, rest, hv, _, hfuel => by
      have hhead : v.Legible := fun n hn => hv n (List.mem_append_left _ hn)
      have hchars : (Json.array (v :: items)).prettyChars level ++ rest =
          '[' :: (lineStart (level + 1) ++ (v.prettyChars (level + 1) ++
            (prettyItemTail (level + 1) items ++ (lineStart level ++ ']' :: rest)))) := by
        simp only [prettyChars, prettyItems_cons, List.cons_append, List.append_assoc,
          List.nil_append]
      -- the brackets pay for the step to the list and the step to its first item
      simp only [prettyChars, prettyItems_cons, List.length_append, List.length_cons] at hfuel
      have hvalue := value_prettyChars v (level + 1) fuel _ hhead
        (stops_prettyItemTail (level + 1) items (stops_lineStart level (']' :: rest))) (by omega)
      have htail := items_prettyItemTail items (level + 1) level fuel rest
        (fun n hn => hv n (List.mem_append_right _ hn)) (by omega)
      rw [hchars, value_array, ← items_skip, skip_lineStart, items_skip,
        items_first ((begins_prettyChars (level + 1) hhead).append _) hvalue
          (Outline.isWhole_ofJson v.reread), htail]
      rfl
  | .object [], level, fuel + 2, rest, _, _, _ => rfl
  | .object ((name, v) :: members), level, fuel + 2, rest, hv, _, hfuel => by
      have hhead : v.Legible := fun n hn => hv n (List.mem_append_left _ hn)
      have hchars : (Json.object ((name, v) :: members)).prettyChars level ++ rest =
          '{' :: (lineStart (level + 1) ++ (stringChars name ++ ':' :: ' ' ::
            (v.prettyChars (level + 1) ++
              (prettyMemberTail (level + 1) members ++ (lineStart level ++ '}' :: rest))))) := by
        simp only [prettyChars, prettyMembers_cons, List.cons_append, List.append_assoc,
          List.nil_append]
      simp only [prettyChars, prettyMembers_cons, List.length_append, List.length_cons] at hfuel
      have hvalue := value_prettyChars v (level + 1) fuel _ hhead
        (stops_prettyMemberTail (level + 1) members (stops_lineStart level ('}' :: rest)))
        (by omega)
      have htail := members_prettyMemberTail members (level + 1) level fuel rest
        (fun n hn => hv n (List.mem_append_right _ hn)) (by omega)
      rw [hchars, value_object, ← members_skip, skip_lineStart, members_skip,
        members_first name (value_blank hvalue) (Outline.isWhole_ofJson v.reread), htail]
      rfl
  | .array [], level, 1, _, _, _, hfuel => by
      simp only [prettyChars, List.length_cons] at hfuel
      omega
  | .array (v :: items), level, 1, _, _, _, hfuel => by
      simp only [prettyChars, List.length_append, List.length_cons] at hfuel
      omega
  | .object [], level, 1, _, _, _, hfuel => by
      simp only [prettyChars, List.length_cons] at hfuel
      omega
  | .object (m :: members), level, 1, _, _, _, hfuel => by
      simp only [prettyChars, List.length_append, List.length_cons] at hfuel
      omega
  | v, level, 0, rest, hv, _, hfuel => by
      obtain ⟨c, tail, hchars, -⟩ := begins_prettyChars level hv
      rw [hchars, List.length_cons] at hfuel
      omega

/-- The rest of a list over several lines is read as its items. -/
theorem items_prettyItemTail : (items : List Json) → (level outer fuel : Nat) →
    (rest : List Char) → (∀ n ∈ itemNumbers items, n.Legible) →
    2 * (prettyItemTail level items).length + 1 ≤ fuel →
    Reader.items fuel false (prettyItemTail level items ++ (lineStart outer ++ ']' :: rest)) =
      (Outline.ofItems (rereadItems items), true, rest)
  | [], level, outer, fuel + 1, rest, _, _ => by
      rw [prettyItemTail, List.nil_append, ← items_skip, skip_lineStart, items_skip]
      rfl
  | v :: items, level, outer, fuel + 1, rest, hv, hfuel => by
      have hhead : v.Legible := fun n hn => hv n (List.mem_append_left _ hn)
      have hchars : prettyItemTail level (v :: items) ++ (lineStart outer ++ ']' :: rest) =
          ',' :: (lineStart level ++ (v.prettyChars level ++
            (prettyItemTail level items ++ (lineStart outer ++ ']' :: rest)))) := by
        simp only [prettyItemTail, List.cons_append, List.append_assoc]
      simp only [prettyItemTail, List.length_append, List.length_cons] at hfuel
      have hvalue := value_prettyChars v level fuel _ hhead
        (stops_prettyItemTail level items (stops_lineStart outer (']' :: rest))) (by omega)
      have htail := items_prettyItemTail items level outer fuel rest
        (fun n hn => hv n (List.mem_append_right _ hn)) (by omega)
      rw [hchars, ← items_comma, skip_lineStart, items_comma,
        items_next ((begins_prettyChars level hhead).append _) hvalue
          (Outline.isWhole_ofJson v.reread), htail]
      rfl
  | _, _, _, 0, _, _, hfuel => absurd hfuel (Nat.not_succ_le_zero _)

/-- The rest of an object over several lines is read as its members. -/
theorem members_prettyMemberTail : (members : List (String × Json)) → (level outer fuel : Nat) →
    (rest : List Char) → (∀ n ∈ memberNumbers members, n.Legible) →
    2 * (prettyMemberTail level members).length + 1 ≤ fuel →
    Reader.members fuel false
        (prettyMemberTail level members ++ (lineStart outer ++ '}' :: rest)) =
      (Outline.ofMembers (rereadMembers members), true, rest)
  | [], level, outer, fuel + 1, rest, _, _ => by
      rw [prettyMemberTail, List.nil_append, ← members_skip, skip_lineStart, members_skip]
      rfl
  | (name, v) :: members, level, outer, fuel + 1, rest, hv, hfuel => by
      have hhead : v.Legible := fun n hn => hv n (List.mem_append_left _ hn)
      have hchars : prettyMemberTail level ((name, v) :: members) ++
            (lineStart outer ++ '}' :: rest) =
          ',' :: (lineStart level ++ (stringChars name ++ ':' :: ' ' :: (v.prettyChars level ++
            (prettyMemberTail level members ++ (lineStart outer ++ '}' :: rest))))) := by
        simp only [prettyMemberTail, List.cons_append, List.append_assoc]
      simp only [prettyMemberTail, List.length_append, List.length_cons] at hfuel
      have hvalue := value_prettyChars v level fuel _ hhead
        (stops_prettyMemberTail level members (stops_lineStart outer ('}' :: rest))) (by omega)
      have htail := members_prettyMemberTail members level outer fuel rest
        (fun n hn => hv n (List.mem_append_right _ hn)) (by omega)
      rw [hchars, ← members_comma, skip_lineStart, members_comma,
        members_next name (value_blank hvalue) (Outline.isWhole_ofJson v.reread), htail]
      rfl
  | _, _, _, 0, _, _, hfuel => absurd hfuel (Nat.not_succ_le_zero _)

end

end Reader

/-- The text of a value over several lines is read as that value, with its numbers as they are
read. -/
theorem Document.ofText_prettyText {v : Json} (hv : v.Legible) :
    Document.ofText v.prettyText = ⟨.ofJson v.reread, true⟩ := by
  have hvalue := Reader.value_prettyChars v 0 (2 * (v.prettyChars 0).length + 2) [] hv
    Reader.stops_nil (Nat.le_add_right _ 2)
  rw [List.append_nil] at hvalue
  rw [ofText, Json.prettyText, String.toList_ofList, ofChars, hvalue]
  rfl

end ControlPlane
