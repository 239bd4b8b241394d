/-
What is written is read back.

The text of a value on one line, with anything behind it that cannot continue a number, is read as
the outline of that value, and what stands behind it is left (`value_chars`). The reader goes from
item to item, and from member to member, with a comma in front of all but the first; so what is
written is taken apart the same way (`itemTail`, `memberTail`). A step of the reader takes one unit
of fuel, and every step to a value or past a comma has a character of its own, so two units for a
character are enough.

Of the numbers in a value it is only asked that each is read back where it stands alone.
-/
import ControlPlane.Proofs.Numeral
import ControlPlane.Proofs.Quotation

set_option autoImplicit false

namespace ControlPlane

namespace Json

/-! ## The numbers of a value -/

mutual

/-- The numbers in a value. -/
def numbers : Json → List JsonNumber
  | .number n => [n]
  | .array items => itemNumbers items
  | .object members => memberNumbers members
  | _ => []

/-- The numbers in the items of a list. -/
def itemNumbers : List Json → List JsonNumber
  | [] => []
  | v :: rest => v.numbers ++ itemNumbers rest

/-- The numbers in the members of an object. -/
def memberNumbers : List (String × Json) → List JsonNumber
  | [] => []
  | (_, v) :: rest => v.numbers ++ memberNumbers rest

end

/-- Every number in the value is read back where it stands alone. -/
def ReadsBack (v : Json) : Prop := ∀ n ∈ v.numbers, n.ReadsBack

/-! ## What is written, item by item -/

/-- The items after the first one, as they are written. -/
def itemTail : List Json → List Char
  | [] => []
  | v :: rest => ',' :: v.chars ++ itemTail rest

/-- The members after the first one, as they are written. -/
def memberTail : List (String × Json) → List Char
  | [] => []
  | (name, v) :: rest => ',' :: stringChars name ++ ':' :: v.chars ++ memberTail rest

theorem itemChars_cons (v : Json) (rest : List Json) :
    itemChars (v :: rest) = v.chars ++ itemTail rest := by
  induction rest generalizing v with
  | nil => rw [itemChars, itemTail, List.append_nil]
  | cons w rest ih =>
      rw [itemChars, ih, itemTail, List.cons_append]
      exact List.cons_ne_nil w rest

theorem memberChars_cons (name : String) (v : Json) (rest : List (String × Json)) :
    memberChars ((name, v) :: rest) = stringChars name ++ ':' :: v.chars ++ memberTail rest := by
  induction rest generalizing name v with
  | nil => rw [memberChars, memberTail, List.append_nil]
  | cons m rest ih =>
      rw [memberChars, ih, memberTail, List.cons_append]
      · simp only [List.append_assoc, List.cons_append]
      · exact List.cons_ne_nil m rest

end Json

/-! ## Every value is sound -/

namespace Outline

mutual

@[simp] theorem isWhole_ofJson : (v : Json) → (ofJson v).isWhole = true
  | .null => rfl
  | .bool _ => rfl
  | .number _ => rfl
  | .string _ => rfl
  | .array items => by rw [ofJson, isWhole, allWhole_ofItems items, Bool.true_and]
  | .object members => by rw [ofJson, isWhole, allMembersWhole_ofMembers members, Bool.true_and]

theorem allWhole_ofItems : (items : List Json) → allWhole (ofItems items) = true
  | [] => rfl
  | v :: rest => by rw [ofItems, allWhole, isWhole_ofJson v, allWhole_ofItems rest, Bool.true_and]

theorem allMembersWhole_ofMembers :
    (members : List (String × Json)) → allMembersWhole (ofMembers members) = true
  | [] => rfl
  | (name, v) :: rest => by
      rw [ofMembers, allMembersWhole, isWhole_ofJson v, allMembersWhole_ofMembers rest,
        Bool.true_and]

end

end Outline

namespace Reader

open Json

/-! ## How a value begins -/

/-- The characters begin with one that may begin a value. -/
def Begins (cs : List Char) : Prop :=
  ∃ c tail, cs = c :: tail ∧ isSpace c = false ∧ c ≠ ']'

theorem Begins.append {cs : List Char} (h : Begins cs) (rest : List Char) :
    Begins (cs ++ rest) := by
  obtain ⟨c, tail, rfl, hspace, hbracket⟩ := h
  exact ⟨c, tail ++ rest, List.cons_append, hspace, hbracket⟩

theorem Begins.skip {cs : List Char} (h : Begins cs) : skip cs = cs := by
  obtain ⟨c, tail, rfl, hspace, -⟩ := h
  rw [Reader.skip, List.dropWhile_cons_of_neg (Bool.eq_false_iff.1 hspace)]

/-- What begins a number begins nothing else. -/
structure BeginsNumber (c : Char) : Prop where
  /-- It is no blank. -/
  space : isSpace c = false
  /-- It opens and closes nothing, and is no letter of a fixed word. -/
  other : ∀ d ∈ ['"', 'n', 't', 'f', '[', '{', ']'], c ≠ d

theorem beginsNumber {c : Char} (hc : c = '-' ∨ isDigit c = true) : BeginsNumber c := by
  rcases hc with rfl | hc
  · exact ⟨rfl, by simp⟩
  · constructor
    · unfold isSpace
      simp only [Bool.or_eq_false_iff, decide_eq_false_iff_not]
      refine ⟨⟨⟨?_, ?_⟩, ?_⟩, ?_⟩ <;>
      · rintro rfl
        cases hc
    · have hnone : ∀ d ∈ ['"', 'n', 't', 'f', '[', '{', ']'], isDigit d = false := by
        simp [isDigit]
      intro d hd heq
      rw [heq, hnone d hd] at hc
      cases hc

/-- A number begins with a character that may begin a value. -/
theorem begins_numeral {cs : List Char} {found : Option JsonNumber × List Char}
    (h : number? cs = some found) : Begins cs := by
  obtain ⟨c, tail, hchars, hc⟩ := number?_head h
  have hbegins := beginsNumber hc
  exact ⟨c, tail, hchars, hbegins.space, hbegins.other _ (by decide)⟩

theorem begins_chars {v : Json} (hv : v.ReadsBack) : Begins v.chars := by
  cases v with
  | null => exact ⟨'n', _, rfl, rfl, by decide⟩
  | bool b => cases b with
    | true => exact ⟨'t', _, rfl, rfl, by decide⟩
    | false => exact ⟨'f', _, rfl, rfl, by decide⟩
  | number n => exact begins_numeral (hv n List.mem_cons_self)
  | string s => exact ⟨'"', _, rfl, rfl, by decide⟩
  | array items => exact ⟨'[', _, rfl, rfl, by decide⟩
  | object members => exact ⟨'{', _, rfl, rfl, by decide⟩

/-! ## One step of the reader -/

variable {fuel : Nat} {cs rest : List Char}

theorem value_array (fuel : Nat) (cs : List Char) :
    value (fuel + 1) ('[' :: cs) =
      (.array (items fuel true cs).1 (items fuel true cs).2.1, (items fuel true cs).2.2) := rfl

theorem value_object (fuel : Nat) (cs : List Char) :
    value (fuel + 1) ('{' :: cs) =
      (.object (members fuel true cs).1 (members fuel true cs).2.1, (members fuel true cs).2.2) :=
  rfl

theorem value_scalar {c : Char} (hspace : isSpace c = false) (harray : c ≠ '[')
    (hobject : c ≠ '{') (fuel : Nat) (cs : List Char) :
    value (fuel + 1) (c :: cs) = scalar (c :: cs) := by
  have hskip : skip (c :: cs) = c :: cs :=
    List.dropWhile_cons_of_neg (Bool.eq_false_iff.1 hspace)
  rw [value, hskip]
  split
  · next heq => exact absurd (List.cons.inj heq).1 harray
  · next heq => exact absurd (List.cons.inj heq).1 hobject
  · rfl

/-- What is a number where it stands alone is read as that number. -/
theorem value_numeral {n : Option JsonNumber} (hn : number? cs = some (n, [])) (hrest : Stops rest)
    (fuel : Nat) : value (fuel + 1) (cs ++ rest) = (.number n, rest) := by
  have hread : number? (cs ++ rest) = some (n, rest) := number?_append hrest hn
  obtain ⟨c, tail, hchars, hc⟩ := number?_head hread
  obtain ⟨hspace, hother⟩ := beginsNumber hc
  rw [hchars] at hread ⊢
  rw [value_scalar hspace (hother _ (by decide)) (hother _ (by decide)), scalar,
    if_neg (hother _ (by decide)), if_neg (hother _ (by decide)), if_neg (hother _ (by decide)),
    if_neg (hother _ (by decide)), hread]

theorem value_number {n : JsonNumber} (hn : n.ReadsBack) (hrest : Stops rest) (fuel : Nat) :
    value (fuel + 1) (n.chars ++ rest) = (.number (some n), rest) :=
  value_numeral hn hrest fuel

theorem stringChars_append (s : String) (rest : List Char) :
    stringChars s ++ rest = '"' :: (s.toList.flatMap escapeChar ++ '"' :: rest) := by
  simp only [stringChars, List.cons_append, List.append_assoc, List.nil_append]

theorem value_string (s : String) (fuel : Nat) (rest : List Char) :
    value (fuel + 1) (stringChars s ++ rest) = (.string (some s), rest) := by
  rw [stringChars_append, value_scalar rfl (by decide) (by decide), scalar, if_pos rfl,
    quotedText?_escaped]

/-- The first item of a list is read, and then the others. -/
theorem items_first (hbegins : Begins cs) {o : Outline} (hvalue : value fuel cs = (o, rest))
    (hwhole : o.isWhole = true) :
    items (fuel + 1) true cs =
      (o :: (items fuel false rest).1, (items fuel false rest).2.1,
        (items fuel false rest).2.2) := by
  have hskip := hbegins.skip
  obtain ⟨c, tail, rfl, -, hbracket⟩ := hbegins
  rw [items, hskip]
  split
  · next heq => exact absurd (List.cons.inj heq).1 hbracket
  · next heq =>
      obtain ⟨rfl, rfl⟩ := List.cons.inj heq
      simp [hvalue, hwhole]
  · next heq => cases heq

/-- An item after a comma is read, and then the others. -/
theorem items_next (hbegins : Begins cs) {o : Outline} (hvalue : value fuel cs = (o, rest))
    (hwhole : o.isWhole = true) :
    items (fuel + 1) false (',' :: cs) =
      (o :: (items fuel false rest).1, (items fuel false rest).2.1,
        (items fuel false rest).2.2) := by
  have hskip := hbegins.skip
  obtain ⟨c, tail, rfl, -, hbracket⟩ := hbegins
  have hcomma : skip (',' :: c :: tail) = ',' :: c :: tail := rfl
  rw [items, hcomma]
  simp [hskip, hbracket, hvalue, hwhole]

/-- The first member of an object is read, and then the others. -/
theorem members_first (name : String) {o : Outline} (hvalue : value fuel cs = (o, rest))
    (hwhole : o.isWhole = true) :
    members (fuel + 1) true (stringChars name ++ ':' :: cs) =
      ((some name, o) :: (members fuel false rest).1, (members fuel false rest).2.1,
        (members fuel false rest).2.2) := by
  have hquote : ∀ tail, skip ('"' :: tail) = '"' :: tail := fun _ => rfl
  have hcolon : skip (':' :: cs) = ':' :: cs := rfl
  rw [stringChars_append, members, hquote]
  simp [hquote, quotedText?_escaped, hcolon, hvalue, hwhole]

/-- A member after a comma is read, and then the others. -/
theorem members_next (name : String) {o : Outline} (hvalue : value fuel cs = (o, rest))
    (hwhole : o.isWhole = true) :
    members (fuel + 1) false (',' :: (stringChars name ++ ':' :: cs)) =
      ((some name, o) :: (members fuel false rest).1, (members fuel false rest).2.1,
        (members fuel false rest).2.2) := by
  have hcomma : ∀ tail, skip (',' :: tail) = ',' :: tail := fun _ => rfl
  have hquote : ∀ tail, skip ('"' :: tail) = '"' :: tail := fun _ => rfl
  have hcolon : skip (':' :: cs) = ':' :: cs := rfl
  rw [stringChars_append, members, hcomma]
  simp [hquote, quotedText?_escaped, hcolon, hvalue, hwhole]

/-! ## Reading what was written -/

theorem stops_itemTail (items : List Json) (rest : List Char) :
    Stops (itemTail items ++ ']' :: rest) := by
  cases items with
  | nil => exact stops_cons (by decide) rest
  | cons v items => exact stops_cons (by decide) _

theorem stops_memberTail (members : List (String × Json)) (rest : List Char) :
    Stops (memberTail members ++ '}' :: rest) := by
  cases members with
  | nil => exact stops_cons (by decide) rest
  | cons m members => exact stops_cons (by decide) _

mutual

/-- What is written for a value is read as that value, and what follows is left. -/
theorem value_chars : (v : Json) → (fuel : Nat) → (rest : List Char) → v.ReadsBack →
    Stops rest → 2 * v.chars.length ≤ fuel →
    value fuel (v.chars ++ rest) = (.ofJson v, rest)
  | .null, fuel + 1, rest, _, _, _ => rfl
  | .bool true, fuel + 1, rest, _, _, _ => rfl
  | .bool false, fuel + 1, rest, _, _, _ => rfl
  | .number n, fuel + 1, rest, hv, hrest, _ => value_number (hv n List.mem_cons_self) hrest fuel
  | .string s, fuel + 1, rest, _, _, _ => value_string s fuel rest
  | .array [], fuel + 2, rest, _, _, _ => rfl
  | .array (v :: items), fuel + 2, rest, hv, _, hfuel => by
      have hhead : v.ReadsBack := fun n hn => hv n (List.mem_append_left _ hn)
      have hchars : (Json.array (v :: items)).chars ++ rest =
          '[' :: (v.chars ++ (itemTail items ++ ']' :: rest)) := by
        simp only [chars, itemChars_cons, List.cons_append, List.append_assoc, List.nil_append]
      -- the brackets pay for the step to the list and the step to its first item
      simp only [chars, itemChars_cons, List.length_append, List.length_cons] at hfuel
      have hvalue := value_chars v fuel _ hhead (stops_itemTail items rest) (by omega)
      have htail := items_itemTail items fuel rest (fun n hn => hv n (List.mem_append_right _ hn))
        (by omega)
      rw [hchars, value_array, items_first ((begins_chars hhead).append _) hvalue
        (Outline.isWhole_ofJson v), htail]
      rfl
  | .object [], fuel + 2, rest, _, _, _ => rfl
  | .object ((name, v) :: members), fuel + 2, rest, hv, _, hfuel => by
      have hhead : v.ReadsBack := fun n hn => hv n (List.mem_append_left _ hn)
      have hchars : (Json.object ((name, v) :: members)).chars ++ rest =
          '{' :: (stringChars name ++ ':' :: (v.chars ++ (memberTail members ++ '}' :: rest))) := by
        simp only [chars, memberChars_cons, List.cons_append, List.append_assoc, List.nil_append]
      simp only [chars, memberChars_cons, List.length_append, List.length_cons] at hfuel
      have hvalue := value_chars v fuel _ hhead (stops_memberTail members rest) (by omega)
      have htail := members_memberTail members fuel rest
        (fun n hn => hv n (List.mem_append_right _ hn)) (by omega)
      rw [hchars, value_object, members_first name hvalue (Outline.isWhole_ofJson v), htail]
      rfl
  | .array _, 1, _, _, _, hfuel => by
      simp only [chars, List.length_append, List.length_cons] at hfuel
      omega
  | .object _, 1, _, _, _, hfuel => by
      simp only [chars, List.length_append, List.length_cons] at hfuel
      omega
  | v, 0, rest, hv, _, hfuel => by
      obtain ⟨c, tail, hchars, -⟩ := begins_chars hv
      rw [hchars, List.length_cons] at hfuel
      omega

theorem items_itemTail : (items : List Json) → (fuel : Nat) → (rest : List Char) →
    (∀ n ∈ itemNumbers items, n.ReadsBack) → 2 * (itemTail items).length + 1 ≤ fuel →
    Reader.items fuel false (itemTail items ++ ']' :: rest) = (Outline.ofItems items, true, rest)
  | [], fuel + 1, rest, _, _ => rfl
  | v :: items, fuel + 1, rest, hv, hfuel => by
      have hhead : v.ReadsBack := fun n hn => hv n (List.mem_append_left _ hn)
      have hchars : itemTail (v :: items) ++ ']' :: rest =
          ',' :: (v.chars ++ (itemTail items ++ ']' :: rest)) := by
        simp only [itemTail, List.cons_append, List.append_assoc]
      simp only [itemTail, List.length_append, List.length_cons] at hfuel
      have hvalue := value_chars v fuel _ hhead (stops_itemTail items rest) (by omega)
      have htail := items_itemTail items fuel rest (fun n hn => hv n (List.mem_append_right _ hn))
        (by omega)
      rw [hchars, items_next ((begins_chars hhead).append _) hvalue (Outline.isWhole_ofJson v),
        htail]
      rfl
  | _, 0, _, _, hfuel => absurd hfuel (Nat.not_succ_le_zero _)

theorem members_memberTail : (members : List (String × Json)) → (fuel : Nat) →
    (rest : List Char) → (∀ n ∈ memberNumbers members, n.ReadsBack) →
    2 * (memberTail members).length + 1 ≤ fuel →
    Reader.members fuel false (memberTail members ++ '}' :: rest) =
      (Outline.ofMembers members, true, rest)
  | [], fuel + 1, rest, _, _ => rfl
  | (name, v) :: members, fuel + 1, rest, hv, hfuel => by
      have hhead : v.ReadsBack := fun n hn => hv n (List.mem_append_left _ hn)
      have hchars : memberTail ((name, v) :: members) ++ '}' :: rest =
          ',' :: (stringChars name ++ ':' :: (v.chars ++ (memberTail members ++ '}' :: rest))) := by
        simp only [memberTail, List.cons_append, List.append_assoc]
      simp only [memberTail, List.length_append, List.length_cons] at hfuel
      have hvalue := value_chars v fuel _ hhead (stops_memberTail members rest) (by omega)
      have htail := members_memberTail members fuel rest
        (fun n hn => hv n (List.mem_append_right _ hn)) (by omega)
      rw [hchars, members_next name hvalue (Outline.isWhole_ofJson v), htail]
      rfl
  | _, 0, _, _, hfuel => absurd hfuel (Nat.not_succ_le_zero _)

end

end Reader

/-- The text of a value is read as that value. -/
theorem Document.ofText_text {v : Json} (hv : v.ReadsBack) :
    Document.ofText v.text = ⟨.ofJson v, true⟩ := by
  have hvalue := Reader.value_chars v (2 * v.chars.length + 2) [] hv Reader.stops_nil
    (Nat.le_add_right _ 2)
  rw [List.append_nil] at hvalue
  rw [ofText, Json.text, String.toList_ofList, ofChars, hvalue]
  rfl

/-! ## Reading a value as a whole -/

namespace Json

mutual

/-- How many containers stand inside one another at most. -/
def depth : Json → Nat
  | .array items => itemDepth items + 1
  | .object members => memberDepth members + 1
  | _ => 0

/-- The depth of the deepest item. -/
def itemDepth : List Json → Nat
  | [] => 0
  | v :: rest => max v.depth (itemDepth rest)

/-- The depth of the deepest member. -/
def memberDepth : List (String × Json) → Nat
  | [] => 0
  | (_, v) :: rest => max v.depth (memberDepth rest)

end

mutual

/-- The value with the members of every object in the order of their names; of two with one name
the last stays. -/
def sorted : Json → Json
  | .array items => .array (sortedItems items)
  | .object members => .object (sortMembers (sortedMembers members))
  | v => v

/-- Items with the members of their objects in order. -/
def sortedItems : List Json → List Json
  | [] => []
  | v :: rest => v.sorted :: sortedItems rest

/-- Members with the members of their objects in order. -/
def sortedMembers : List (String × Json) → List (String × Json)
  | [] => []
  | (name, v) :: rest => (name, v.sorted) :: sortedMembers rest

end

end Json

namespace Outline

open Json

mutual

/-- A value is kept, with its members sorted, if there is room for its containers. -/
theorem toJson?_ofJson : (v : Json) → (room : Nat) →
    (ofJson v).toJson? room = if v.depth ≤ room then some v.sorted else none
  | .null, _ => rfl
  | .bool _, _ => rfl
  | .number _, _ => rfl
  | .string _, _ => rfl
  | .array items, 0 => rfl
  | .array items, room + 1 => by
      rw [ofJson, toJson?, if_pos rfl, itemsToJson?_ofItems items room, depth, sorted]
      simp only [Nat.add_le_add_iff_right]
      split <;> rfl
  | .object members, 0 => rfl
  | .object members, room + 1 => by
      rw [ofJson, toJson?, if_pos rfl, membersToJson?_ofMembers members room, depth, sorted]
      simp only [Nat.add_le_add_iff_right]
      split <;> rfl

theorem itemsToJson?_ofItems : (items : List Json) → (room : Nat) →
    itemsToJson? room (ofItems items) =
      if itemDepth items ≤ room then some (sortedItems items) else none
  | [], _ => by rw [ofItems, itemsToJson?, itemDepth, if_pos (Nat.zero_le _), sortedItems]
  | v :: rest, room => by
      rw [ofItems, itemsToJson?, toJson?_ofJson v room, itemsToJson?_ofItems rest room, itemDepth,
        sortedItems]
      simp only [Nat.max_le]
      by_cases hv : v.depth ≤ room <;> by_cases hrest : itemDepth rest ≤ room <;>
        simp [hv, hrest]

theorem membersToJson?_ofMembers : (members : List (String × Json)) → (room : Nat) →
    membersToJson? room (ofMembers members) =
      if memberDepth members ≤ room then some (sortedMembers members) else none
  | [], _ => by
      rw [ofMembers, membersToJson?, memberDepth, if_pos (Nat.zero_le _), sortedMembers]
  | (name, v) :: rest, room => by
      have hhead := toJson?_ofJson v room
      have htail := membersToJson?_ofMembers rest room
      rw [ofMembers, memberDepth, sortedMembers]
      unfold membersToJson?
      simp only [hhead, htail, Nat.max_le]
      by_cases hv : v.depth ≤ room <;> by_cases hrest : memberDepth rest ≤ room <;>
        simp [hv, hrest]

end

end Outline

/-- The text of a value is one value, unless containers stand too deep in it; the members of
objects are in order then. -/
theorem Json.parse?_text {v : Json} (hv : v.ReadsBack) :
    parse? v.text = if v.depth ≤ Outline.nestingLimit then some v.sorted else none := by
  have hdocument := Document.ofText_text hv
  rw [Document.ofText] at hdocument
  rw [parse?, parseChars?, hdocument, Document.toJson?, if_pos rfl, Outline.toJson?_ofJson]

/-! ## Values that are small enough -/

namespace Json

/-- There is room for the containers of the value, and its numbers are read back. -/
structure Tame (room : Nat) (v : Json) : Prop where
  /-- So many containers stand inside one another at most. -/
  depth : v.depth ≤ room
  /-- Every number is read back where it stands alone. -/
  readsBack : v.ReadsBack

variable {room : Nat}

theorem Tame.mono {room' : Nat} {v : Json} (h : v.Tame room) (hle : room ≤ room') :
    v.Tame room' :=
  ⟨Nat.le_trans h.depth hle, h.readsBack⟩

theorem tame_string (s : String) : (Json.string s).Tame room :=
  ⟨Nat.zero_le _, List.forall_mem_nil _⟩

theorem tame_bool (b : Bool) : (Json.bool b).Tame room :=
  ⟨Nat.zero_le _, List.forall_mem_nil _⟩

theorem tame_number {n : JsonNumber} (hn : n.ReadsBack) : (Json.number n).Tame room :=
  ⟨Nat.zero_le _, fun _ hk => List.mem_singleton.1 hk ▸ hn⟩

theorem tame_int {n : Int} (hn : WordRange.signed64.holds n = true) : (Json.int n).Tame room :=
  tame_number (JsonNumber.readsBack_signed64 hn)

theorem tame_array {items : List Json} (h : ∀ v ∈ items, v.Tame room) :
    (Json.array items).Tame (room + 1) := by
  suffices hitems : itemDepth items ≤ room ∧ ∀ n ∈ itemNumbers items, n.ReadsBack from
    ⟨Nat.succ_le_succ hitems.1, hitems.2⟩
  induction items with
  | nil => exact ⟨Nat.zero_le _, List.forall_mem_nil _⟩
  | cons v rest ih =>
      obtain ⟨hdepth, hnumbers⟩ := ih fun w hw => h w (List.mem_cons_of_mem v hw)
      have hv := h v List.mem_cons_self
      refine ⟨Nat.max_le.2 ⟨hv.depth, hdepth⟩, fun n hn => ?_⟩
      rcases List.mem_append.1 hn with hn | hn
      · exact hv.readsBack n hn
      · exact hnumbers n hn

theorem tame_object {members : List (String × Json)} (h : ∀ m ∈ members, m.2.Tame room) :
    (Json.object members).Tame (room + 1) := by
  suffices hmembers : memberDepth members ≤ room ∧ ∀ n ∈ memberNumbers members, n.ReadsBack from
    ⟨Nat.succ_le_succ hmembers.1, hmembers.2⟩
  induction members with
  | nil => exact ⟨Nat.zero_le _, List.forall_mem_nil _⟩
  | cons m rest ih =>
      obtain ⟨name, v⟩ := m
      obtain ⟨hdepth, hnumbers⟩ := ih fun w hw => h w (List.mem_cons_of_mem _ hw)
      have hv : v.Tame room := h (name, v) List.mem_cons_self
      refine ⟨Nat.max_le.2 ⟨hv.depth, hdepth⟩, fun n hn => ?_⟩
      rcases List.mem_append.1 hn with hn | hn
      · exact hv.readsBack n hn
      · exact hnumbers n hn

theorem mem_optional {α : Type} {name : String} {f : α → Json} {o : Option α}
    {m : String × Json} : m ∈ optional name f o ↔ ∃ a, o = some a ∧ m = (name, f a) := by
  cases o with
  | none => simp [optional]
  | some a => simp [optional]

theorem tame_optional {α : Type} {name : String} {f : α → Json} {o : Option α}
    (h : ∀ a, o = some a → (f a).Tame room) : ∀ m ∈ optional name f o, m.2.Tame room := by
  intro m hm
  obtain ⟨a, ha, rfl⟩ := mem_optional.1 hm
  exact h a ha

end Json

end ControlPlane
