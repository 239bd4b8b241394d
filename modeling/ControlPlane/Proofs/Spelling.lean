/-
Other ways to write a frame from the browser.

The parts of a frame are objects, each with the names that it knows, the members that may be left
out when they say nothing new, and the parts that it holds. How the same frame may be written
otherwise is one relation over the parts (`Loosens`): members in another order, members with
unknown names, a member that says what is said by leaving it out, a member that is overridden by a
later one, and other ways to write an identifier.

What a part means is a list of slots, one for each name: what may be said there, and whether
nothing has to be (`Meets`). Only what an object answers counts for that (`Json.member?`), and no
other way to write a part changes anything but the answers that its slot allows
(`Loosens.meets`). The slots are looked at one by one only where a part leaves something out or
holds another part.
-/
import ControlPlane.Frame.Client
import ControlPlane.Proofs.Downstream

set_option autoImplicit false

namespace ControlPlane

/-! ## Identifiers -/

/-- The ways to write an identifier: as a whole number, or as a decimal text, with blanks around
it or none, and a plus sign in front unless it is negative. -/
inductive Spelled (n : Int) : Json → Prop
  /-- A whole number. -/
  | number : Spelled n (Json.int n)
  /-- A text. -/
  | text (front back : List Char) (hfront : ∀ c ∈ front, Text.isBlank c = true)
      (hback : ∀ c ∈ back, Text.isBlank c = true) :
      Spelled n (.string (String.ofList (front ++ Integer.chars n ++ back)))
  /-- A text with a plus sign. -/
  | signed (front back : List Char) (hfront : ∀ c ∈ front, Text.isBlank c = true)
      (hback : ∀ c ∈ back, Text.isBlank c = true) (hn : 0 ≤ n) :
      Spelled n (.string (String.ofList (front ++ ('+' :: Integer.chars n) ++ back)))

/-- However an identifier is written, it is read. -/
theorem Spelled.identifier {n : Int} {v : Json} (hn : WordRange.signed64.holds n = true)
    (h : Spelled n v) : Decoder.identifier .buffered (.ofJson v.sorted) = .ok n := by
  have hblank : ∀ c ∈ Integer.chars n, Text.isBlank c = false :=
    fun c hc => Integer.isBlank_of_mem_chars hc
  cases h with
  | number =>
      change (if WordRange.signed64.holds n then Except.ok n else _) = _
      rw [if_pos hn]
  | text front back hfront hback =>
      change Decoder.identifier .buffered (.string (some _)) = .ok n
      rw [Decoder.identifier, String.toList_ofList, Text.trimChars_surrounded hfront hblank hback,
        Integer.readSigned64?_chars hn]
  | signed front back hfront hback hpos =>
      have hplus : ∀ c ∈ '+' :: Integer.chars n, Text.isBlank c = false := by
        intro c hc
        rcases List.mem_cons.1 hc with rfl | hc
        · rfl
        · exact hblank c hc
      have hgreatest : n ≤ 9223372036854775807 :=
        of_decide_eq_true (Bool.and_eq_true_iff.1 hn).2
      obtain ⟨k, rfl⟩ := Int.eq_ofNat_of_zero_le hpos
      have hread : Integer.readSigned64? ('+' :: Integer.chars k) = some (k : Int) :=
        (Integer.readSigned64?_digits hgreatest).2
      change Decoder.identifier .buffered (.string (some _)) = .ok _
      rw [Decoder.identifier, String.toList_ofList, Text.trimChars_surrounded hfront hplus hback,
        hread]

/-! ## Parts -/

/-- The parts of a frame from the browser. -/
inductive Part where
  /-- A request for work. -/
  | task
  /-- A result. -/
  | result
  /-- A page. -/
  | page
  /-- An element of a page. -/
  | element
  /-- Where an element stands. -/
  | box
  /-- How far a page is scrolled. -/
  | scroll
deriving DecidableEq, Repr

namespace Part

/-- The names that a part knows. -/
def names : Part → List String
  | task => ["type", "message_id", "pageState", "task"]
  | result => ["type", "action_id", "success", "error", "execution_time", "pageState"]
  | page => ["url", "title", "elements", "scroll"]
  | element => ["tag", "text", "selector", "type", "value", "position", "visible", "disabled"]
  | box => ["x", "y", "width", "height"]
  | scroll =>
    ["scrollHeight", "clientHeight", "scrollTop", "scrollLeft", "hasMoreAbove", "hasMoreBelow"]

/-- The members of a part that say what is said by leaving them out. -/
def standard : Part → List (String × Json)
  | task => [("pageState", Page.blank.toJson)]
  | result => [("success", .bool false)]
  | page => [("url", .string ""), ("title", .string ""), ("elements", .array [])]
  | element => [("text", .string ""), ("visible", .bool true), ("disabled", .bool false)]
  | box => [("width", Json.float default), ("height", Json.float default)]
  | scroll =>
    [("scrollHeight", Json.float default), ("clientHeight", Json.float default),
      ("scrollTop", Json.float default), ("scrollLeft", Json.float default),
      ("hasMoreAbove", .bool false), ("hasMoreBelow", .bool false)]

/-- The parts that a part holds, by name. -/
def held : Part → List (String × Part)
  | task => [("pageState", page)]
  | result => [("pageState", page)]
  | page => [("scroll", scroll)]
  | element => [("position", box)]
  | box => []
  | scroll => []

/-- The name of the identifier. -/
def identifier? : Part → Option String
  | task => some "message_id"
  | result => some "action_id"
  | _ => none

end Part

/-- The value of a part and another way to write it. -/
inductive Loosens : Part → Json → Json → Prop
  /-- The value as it is. -/
  | same {p : Part} (v : Json) : Loosens p v v
  /-- One change after another. -/
  | next {p : Part} {u v w : Json} (huv : Loosens p u v) (hvw : Loosens p v w) : Loosens p u w
  /-- The members are in another order, those of one name among themselves excepted. -/
  | reorder {p : Part} {ms ms' : List (String × Json)}
      (h : ∀ name, ms.filter (·.1 == name) = ms'.filter (·.1 == name)) :
      Loosens p (.object ms) (.object ms')
  /-- There is a member with an unknown name. -/
  | unknown {p : Part} (front back : List (String × Json)) (name : String) (v : Json)
      (h : name ∉ p.names) :
      Loosens p (.object (front ++ back)) (.object (front ++ (name, v) :: back))
  /-- A member is left out that says what is said by that. -/
  | leaveOut {p : Part} (front back : List (String × Json)) {name : String} {v : Json}
      (h : (name, v) ∈ p.standard) (honly : ∀ m ∈ front ++ back, m.1 ≠ name) :
      Loosens p (.object (front ++ (name, v) :: back)) (.object (front ++ back))
  /-- Before a member there is another one with its name. -/
  | double {p : Part} (front middle back : List (String × Json)) (name : String) (v w : Json) :
      Loosens p (.object (front ++ (middle ++ (name, v) :: back)))
        (.object (front ++ (name, w) :: (middle ++ (name, v) :: back)))
  /-- The identifier is written otherwise. -/
  | identifier {p : Part} (front back : List (String × Json)) {name : String} {n : Int} {v : Json}
      (h : p.identifier? = some name) (hn : WordRange.signed64.holds n = true)
      (hv : Spelled n v) :
      Loosens p (.object (front ++ (name, .string (Integer.text n)) :: back))
        (.object (front ++ (name, v) :: back))
  /-- A part is written otherwise that this one holds. -/
  | inside {p q : Part} (front back : List (String × Json)) {name : String} {v w : Json}
      (h : (name, q) ∈ p.held) (hvw : Loosens q v w) :
      Loosens p (.object (front ++ (name, v) :: back)) (.object (front ++ (name, w) :: back))
  /-- An element of a page is written otherwise. -/
  | item (front back : List (String × Json)) (before after : List Json) {v w : Json}
      (hvw : Loosens .element v w) :
      Loosens .page (.object (front ++ ("elements", .array (before ++ v :: after)) :: back))
        (.object (front ++ ("elements", .array (before ++ w :: after)) :: back))

/-- What a part may answer to one name. -/
structure Slot where
  /-- The name. -/
  name : String
  /-- The values that may be the answer. -/
  takes : Json → Prop
  /-- Whether there may be no answer. -/
  spare : Prop

namespace Slot

/-- The answer is one that the slot allows. -/
def Met (s : Slot) (answer : Option Json) : Prop :=
  match answer with
  | some v => s.takes v
  | none => s.spare

/-- The slot of a field that holds no part: what its decoder takes for the value. -/
def leaf {α : Type} (name : String) (d : Decoder α) (absent : Option α) (a : α) : Slot :=
  ⟨name, fun v => d .buffered (.ofJson v.sorted) = .ok a, absent = some a⟩

end Slot

/-- The value is an object, and all slots are met by its answers. -/
def Meets (slots : List Slot) (v : Json) : Prop :=
  ∃ ms, v = .object ms ∧ ∀ s ∈ slots, s.Met ((Json.object ms).member? s.name)

variable {slots : List Slot}

/-- Another object with answers that are as good meets the slots, too. -/
theorem Meets.of_answers {ms ms' : List (String × Json)} (h : Meets slots (.object ms))
    (hanswers : ∀ s ∈ slots, s.Met ((Json.object ms).member? s.name) →
      s.Met ((Json.object ms').member? s.name)) : Meets slots (.object ms') := by
  obtain ⟨found, heq, hmet⟩ := h
  obtain rfl := Json.object.inj heq
  exact ⟨ms', rfl, fun s hs => hanswers s hs (hmet s hs)⟩

theorem member?_middle (front back : List (String × Json)) (n name : String) (v : Json) :
    (Json.object (front ++ (n, v) :: back)).member? name =
      ((Json.object back).member? name).or
        ((if n = name then some v else none).or ((Json.object front).member? name)) := by
  rw [Json.member?_append, Json.member?_cons, Option.or_assoc]

theorem member?_double (front middle back : List (String × Json)) (n name : String) (v w : Json) :
    (Json.object (front ++ (n, w) :: (middle ++ (n, v) :: back))).member? name =
      (Json.object (front ++ (middle ++ (n, v) :: back))).member? name := by
  rw [member?_middle, ← List.append_assoc, member?_middle, member?_middle, Json.member?_append]
  by_cases hn : n = name
  · simp only [if_pos hn, Option.some_or, Option.or_assoc]
  · simp only [if_neg hn, Option.none_or, Option.or_assoc]

theorem member?_reorder {ms ms' : List (String × Json)} {name : String}
    (h : ms.filter (·.1 == name) = ms'.filter (·.1 == name)) :
    (Json.object ms).member? name = (Json.object ms').member? name := by
  simp only [Json.member?, ← List.head?_filter, List.filter_reverse, h]

/-- A member may be replaced by one that its slot takes as well. -/
theorem Meets.replace {front back : List (String × Json)} {name : String} {v w : Json}
    (h : Meets slots (.object (front ++ (name, v) :: back)))
    (hslot : ∀ s ∈ slots, s.name = name → s.takes v → s.takes w) :
    Meets slots (.object (front ++ (name, w) :: back)) := by
  refine h.of_answers fun s hs hmet => ?_
  rw [member?_middle] at hmet ⊢
  cases hback : (Json.object back).member? s.name with
  | some u =>
      -- what stands behind is the answer in any case
      rwa [hback] at hmet
  | none =>
      rw [hback] at hmet
      by_cases hname : name = s.name
      · rw [if_pos hname] at hmet ⊢
        exact hslot s hs hname.symm hmet
      · rwa [if_neg hname] at hmet ⊢

/-- A member may be added whose name no slot asks for. -/
theorem Meets.unknown {front back : List (String × Json)} {name : String} (v : Json)
    (h : Meets slots (.object (front ++ back))) (hname : ∀ s ∈ slots, s.name ≠ name) :
    Meets slots (.object (front ++ (name, v) :: back)) := by
  refine h.of_answers fun s hs hmet => ?_
  rwa [member?_middle, if_neg (hname s hs).symm, Option.none_or, ← Json.member?_append]

/-- A member may be left out if its slot need not be answered. -/
theorem Meets.leaveOut {front back : List (String × Json)} {name : String} {v : Json}
    (h : Meets slots (.object (front ++ (name, v) :: back)))
    (honly : ∀ m ∈ front ++ back, m.1 ≠ name)
    (hslot : ∀ s ∈ slots, s.name = name → s.takes v → s.spare) :
    Meets slots (.object (front ++ back)) := by
  refine h.of_answers fun s hs hmet => ?_
  by_cases hname : name = s.name
  · have hback : (Json.object back).member? s.name = none :=
      Json.member?_eq_none_iff.2 fun m hm => hname ▸ honly m (List.mem_append_right _ hm)
    have hrest : (Json.object (front ++ back)).member? s.name = none :=
      Json.member?_eq_none_iff.2 fun m hm => hname ▸ honly m hm
    rw [member?_middle, hback, if_pos hname] at hmet
    rw [hrest]
    exact hslot s hs hname.symm hmet
  · rwa [member?_middle, if_neg hname, Option.none_or, ← Json.member?_append] at hmet

/-- What a slot allows for a value that its decoder takes for a field. -/
theorem Slot.Met.fills {α : Type} {name : String} {d : Decoder α} {absent : Option α} {a : α}
    {answer : Option Json} (h : (Slot.leaf name d absent a).Met answer) :
    d.Fills .buffered absent (answer.map Json.sorted) a := by
  cases answer with
  | none => exact h
  | some v => exact h

/-- Where the value that a field has without a member is written out, it may be left out. -/
theorem Slot.spare_leaf {α : Type} {name : String} {d : Decoder α} {a₀ a : α} {v : Json}
    (hv : d .buffered (.ofJson v.sorted) = .ok a₀)
    (h : (Slot.leaf name d (some a₀) a).takes v) : (Slot.leaf name d (some a₀) a).spare := by
  have hread : d .buffered (.ofJson v.sorted) = .ok a := h
  rw [hv] at hread
  exact congrArg some (Except.ok.inj hread)

end ControlPlane
