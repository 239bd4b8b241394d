/-
Frames from the browser are read back, however they are written.

Each part of a frame is a list of slots (`slots`), and an object that meets the slots of a part is
read as that part; this is shown from the innermost parts outwards. What a frame is written as
meets its slots, and so does every other way to write it (`Loosens.meets`). The text of the value
is read as one value first, and that is the one thing that can fail: containers may stand too deep
in a member that nobody asks for (`read_loosened`, `read_burdened`).

Of the numbers of a frame it is asked that each is read back where it stands alone.
-/
import ControlPlane.Proofs.Spelling
import Mathlib.Data.List.Forall2

set_option autoImplicit false

namespace ControlPlane

/-! ## The slots of parts -/

namespace Slot

/-- The slot of a part that may be left out. -/
def part {α : Type} (name : String) (slots : α → List Slot) (o : Option α) : Slot :=
  ⟨name, fun v => ∃ a, o = some a ∧ Meets (slots a) v, o = none⟩

end Slot

namespace Page

/-- The slots of a box. -/
def Box.slots (b : Box) : List Slot :=
  [.leaf "x" Decoder.double none b.x, .leaf "y" Decoder.double none b.y,
    .leaf "width" Decoder.double (some default) b.width,
    .leaf "height" Decoder.double (some default) b.height]

/-- The slots of an element. -/
def Element.slots (e : Element) : List Slot :=
  [.leaf "tag" Decoder.text none e.tag, .leaf "text" Decoder.text (some "") e.text,
    .leaf "selector" Decoder.text none e.selector,
    .leaf "type" (Decoder.orNull Decoder.text) (some none) e.fieldType,
    .leaf "value" (Decoder.orNull Decoder.text) (some none) e.value,
    .part "position" Box.slots e.box, .leaf "visible" Decoder.bool (some true) e.visible,
    .leaf "disabled" Decoder.bool (some false) e.disabled]

/-- The slots of a scroll state. -/
def Scroll.slots (s : Scroll) : List Slot :=
  [.leaf "scrollHeight" Decoder.double (some default) s.scrollHeight,
    .leaf "clientHeight" Decoder.double (some default) s.clientHeight,
    .leaf "scrollTop" Decoder.double (some default) s.scrollTop,
    .leaf "scrollLeft" Decoder.double (some default) s.scrollLeft,
    .leaf "hasMoreAbove" Decoder.bool (some false) s.hasMoreAbove,
    .leaf "hasMoreBelow" Decoder.bool (some false) s.hasMoreBelow]

/-- The slots of a page. -/
def slots (p : Page) : List Slot :=
  [.leaf "url" Decoder.text (some "") p.url, .leaf "title" Decoder.text (some "") p.title,
    ⟨"elements", fun v => ∃ items, v = .array items ∧
      List.Forall₂ (fun e w => Meets (Element.slots e) w) p.elements items, p.elements = []⟩,
    .part "scroll" Scroll.slots p.scroll]

end Page

/-- The slots of a request for work. -/
def TaskFrame.slots (f : TaskFrame) : List Slot :=
  [⟨"type", fun v => v = .string "task", False⟩,
    .leaf "message_id" Decoder.identifier none f.messageId,
    ⟨"pageState", Meets f.page.slots, f.page = .blank⟩,
    .leaf "task" (Decoder.orNull Decoder.text) (some none) f.task]

/-- The slots of a result. -/
def ResultFrame.slots (f : ResultFrame) : List Slot :=
  [⟨"type", fun v => v = .string "result", False⟩,
    .leaf "action_id" Decoder.identifier none f.actionId,
    .leaf "success" Decoder.bool (some false) f.success,
    .leaf "error" (Decoder.orNull Decoder.text) (some none) f.error,
    .leaf "execution_time" (Decoder.orNull Decoder.signed64) (some none) f.executionTime,
    .part "pageState" Page.slots f.page]

namespace Part

/-- What a part is about. -/
def Value : Part → Type
  | task => TaskFrame
  | result => ResultFrame
  | page => Page
  | element => Page.Element
  | box => Page.Box
  | scroll => Page.Scroll

/-- The slots of a part. -/
def slots : (p : Part) → p.Value → List Slot
  | task => TaskFrame.slots
  | result => ResultFrame.slots
  | page => Page.slots
  | element => Page.Element.slots
  | box => Page.Box.slots
  | scroll => Page.Scroll.slots

/-- There is one slot for each name that a part knows. -/
theorem names_slots (p : Part) (x : p.Value) : (p.slots x).map (·.name) = p.names := by
  cases p <;> rfl

end Part

/-! ## Reading parts -/

/-- The answer for a part that may be left out is read as that part. -/
theorem Slot.Met.fills_part {α : Type} {name : String} {slots : α → List Slot} {d : Decoder α}
    (hd : ∀ a v, Meets (slots a) v → d .buffered (.ofJson v.sorted) = .ok a)
    {o : Option α} {answer : Option Json} (h : (Slot.part name slots o).Met answer) :
    (Decoder.orNull d).Fills .buffered (some none) (answer.map Json.sorted) o := by
  cases answer with
  | none =>
      have hnone : o = none := h
      rw [hnone]
      rfl
  | some v =>
      obtain ⟨a, rfl, hmeets⟩ := h
      have hread := hd a v hmeets
      obtain ⟨ms, rfl, -⟩ := hmeets
      exact Decoder.fills_orNull (fun hnull => by cases hnull) hread

namespace Page

theorem Box.decoder_meets (b : Box) (v : Json) (h : Meets b.slots v) :
    Box.decoder .buffered (.ofJson v.sorted) = .ok b := by
  obtain ⟨ms, rfl, hmet⟩ := h
  simp only [Box.slots, List.forall_mem_cons] at hmet
  obtain ⟨hx, hy, hwidth, hheight, -⟩ := hmet
  exact RecordReader.decoder_takes
    (((((RecordReader.takes_start Box.mk).field hx.fills).field hy.fills).field
      hwidth.fills).field hheight.fills)

theorem Element.decoder_meets (e : Element) (v : Json) (h : Meets e.slots v) :
    Element.decoder .buffered (.ofJson v.sorted) = .ok e := by
  obtain ⟨ms, rfl, hmet⟩ := h
  simp only [Element.slots, List.forall_mem_cons] at hmet
  obtain ⟨htag, htext, hselector, htype, hvalue, hposition, hvisible, hdisabled, -⟩ := hmet
  exact RecordReader.decoder_takes
    (((((((((RecordReader.takes_start Element.mk).field htag.fills).field htext.fills).field
      hselector.fills).field htype.fills).field hvalue.fills).field
      (hposition.fills_part Box.decoder_meets)).field hvisible.fills).field hdisabled.fills)

theorem Scroll.decoder_meets (s : Scroll) (v : Json) (h : Meets s.slots v) :
    Scroll.decoder .buffered (.ofJson v.sorted) = .ok s := by
  obtain ⟨ms, rfl, hmet⟩ := h
  simp only [Scroll.slots, List.forall_mem_cons] at hmet
  obtain ⟨hheight, hclient, htop, hleft, habove, hbelow, -⟩ := hmet
  exact RecordReader.decoder_takes
    (((((((RecordReader.takes_start Scroll.mk).field hheight.fills).field hclient.fills).field
      htop.fills).field hleft.fills).field habove.fills).field hbelow.fills)

/-- Elements are read one by one. -/
theorem items_meets {es : List Element} {items : List Json}
    (h : List.Forall₂ (fun e w => Meets (Element.slots e) w) es items) (index : Nat) :
    Decoder.items Element.decoder .buffered true index
      (Outline.ofItems (Json.sortedItems items)) = .ok es := by
  induction h generalizing index with
  | nil => rfl
  | cons hmeets _ ih =>
      rw [Json.sortedItems, Outline.ofItems, Decoder.items, Element.decoder_meets _ _ hmeets]
      simp only [ih]

theorem decoder_meets (p : Page) (v : Json) (h : Meets p.slots v) :
    decoder .buffered (.ofJson v.sorted) = .ok p := by
  obtain ⟨ms, rfl, hmet⟩ := h
  simp only [slots, List.forall_mem_cons] at hmet
  obtain ⟨hurl, htitle, helements, hscroll, -⟩ := hmet
  have hlist : (Decoder.list Element.decoder).Fills .buffered (some [])
      (((Json.object ms).member? "elements").map Json.sorted) p.elements := by
    cases hanswer : (Json.object ms).member? "elements" with
    | none =>
        rw [hanswer] at helements
        have hempty : p.elements = [] := helements
        rw [hempty]
        rfl
    | some v =>
        rw [hanswer] at helements
        obtain ⟨items, rfl, hitems⟩ := helements
        exact items_meets hitems 0
  exact RecordReader.decoder_takes
    (((((RecordReader.takes_start Page.mk).field hurl.fills).field htitle.fills).field
      hlist).field (hscroll.fills_part Scroll.decoder_meets))

end Page

/-! ## What parts are written as -/

namespace Slot

/-- A member that is left out when its value is absent meets the slot of its field. -/
theorem met_optional {α : Type} (name : String) {d : Decoder α} {f : α → Json} {o : Option α}
    (hf : ∀ a, (f a).sorted ≠ .null)
    (h : ∀ a, o = some a → d .buffered (.ofJson (f a).sorted) = .ok a) :
    (leaf name (Decoder.orNull d) (some none) o).Met (o.map f) := by
  cases o with
  | none => rfl
  | some a => exact Decoder.fills_orNull (hf a) (h a rfl)

/-- A part that is left out when it is absent meets its slot. -/
theorem met_part {α : Type} (name : String) {slots : α → List Slot} {f : α → Json} {o : Option α}
    (h : ∀ a, Meets (slots a) (f a)) : (part name slots o).Met (o.map f) := by
  cases o with
  | none => rfl
  | some a => exact ⟨a, rfl, h a⟩

end Slot

theorem Json.sorted_string_ne_null (s : String) : (Json.string s).sorted ≠ .null :=
  fun h => by cases h

namespace Page

theorem Box.meets_toJson (b : Box) : Meets b.slots b.toJson := by
  refine ⟨_, rfl, ?_⟩
  simp only [Box.slots, List.forall_mem_cons]
  exact ⟨rfl, rfl, rfl, rfl, List.forall_mem_nil _⟩

theorem Scroll.meets_toJson (s : Scroll) : Meets s.slots s.toJson := by
  refine ⟨_, rfl, ?_⟩
  simp only [Scroll.slots, List.forall_mem_cons]
  exact ⟨rfl, rfl, rfl, rfl, rfl, rfl, List.forall_mem_nil _⟩

theorem Element.meets_toJson (e : Element) : Meets e.slots e.toJson := by
  refine ⟨_, rfl, ?_⟩
  simp only [Element.slots, List.forall_mem_cons, Slot.part, Slot.leaf, Json.member?_append,
    Json.member?_optional, Json.member?_cons, Json.member?_nil, String.reduceEq, if_true,
    if_false, Option.none_or, Option.or_none]
  exact ⟨rfl, rfl, rfl, Slot.met_optional "type" Json.sorted_string_ne_null fun _ _ => rfl,
    Slot.met_optional "value" Json.sorted_string_ne_null fun _ _ => rfl,
    Slot.met_part "position" Box.meets_toJson, rfl, rfl, List.forall_mem_nil _⟩

theorem meets_toJson (p : Page) : Meets p.slots p.toJson := by
  refine ⟨_, rfl, ?_⟩
  have helements : List.Forall₂ (fun e w => Meets (Element.slots e) w) p.elements
      (p.elements.map Element.toJson) :=
    List.forall₂_map_right_iff.2 (List.forall₂_same.2 fun e _ => Element.meets_toJson e)
  simp only [slots, List.forall_mem_cons, Slot.part, Slot.leaf, Json.member?_append,
    Json.member?_optional, Json.member?_cons, Json.member?_nil, String.reduceEq, if_true,
    if_false, Option.none_or, Option.or_none]
  exact ⟨rfl, rfl, ⟨_, rfl, helements⟩, Slot.met_part "scroll" Scroll.meets_toJson,
    List.forall_mem_nil _⟩

end Page

theorem TaskFrame.meets_toJson {f : TaskFrame}
    (hid : WordRange.signed64.holds f.messageId = true) : Meets f.slots f.toJson := by
  refine ⟨_, rfl, ?_⟩
  simp only [slots, List.forall_mem_cons, Slot.leaf, Json.member?_append, Json.member?_optional,
    Json.member?_cons, Json.member?_nil, String.reduceEq, if_true, if_false, Option.none_or,
    Option.or_none]
  exact ⟨rfl, Decoder.identifier_text hid, Page.meets_toJson f.page,
    Slot.met_optional "task" Json.sorted_string_ne_null fun _ _ => rfl,
    List.forall_mem_nil _⟩

theorem ResultFrame.meets_toJson {f : ResultFrame}
    (hid : WordRange.signed64.holds f.actionId = true)
    (htime : ∀ n, f.executionTime = some n → WordRange.signed64.holds n = true) :
    Meets f.slots f.toJson := by
  refine ⟨_, rfl, ?_⟩
  have hint : ∀ n, (Json.int n).sorted ≠ .null := fun n h => by cases h
  simp only [slots, List.forall_mem_cons, Slot.leaf, Slot.part, Json.member?_append,
    Json.member?_optional, Json.member?_cons, Json.member?_nil, String.reduceEq, if_true,
    if_false, Option.none_or, Option.or_none]
  exact ⟨rfl, Decoder.identifier_text hid, rfl,
    Slot.met_optional "error" Json.sorted_string_ne_null fun _ _ => rfl,
    Slot.met_optional "execution_time" hint fun n hn => Decoder.signed64_int (htime n hn),
    Slot.met_part "pageState" Page.meets_toJson, List.forall_mem_nil _⟩

/-! ## Writing parts otherwise -/

namespace Part

theorem find_of_mem {slots : List Slot} (hnames : (slots.map (·.name)).Nodup) {s : Slot}
    (hs : s ∈ slots) : slots.find? (·.name == s.name) = some s := by
  induction slots with
  | nil => cases hs
  | cons first rest ih =>
      obtain ⟨hfresh, hrest⟩ := List.nodup_cons.1 hnames
      rcases List.mem_cons.1 hs with rfl | hs
      · exact List.find?_cons_of_pos (beq_self_eq_true s.name)
      · have hne : first.name ≠ s.name := fun heq => hfresh (List.mem_map.2 ⟨s, hs, heq.symm⟩)
        rw [List.find?_cons, beq_eq_false_iff_ne.2 hne]
        exact ih hrest hs

/-- A part has one slot of a name. -/
theorem find_slot {p : Part} {x : p.Value} {s : Slot} (hs : s ∈ p.slots x) :
    (p.slots x).find? (·.name == s.name) = some s := by
  refine find_of_mem ?_ hs
  rw [names_slots]
  cases p <;> decide

/-- A member that says what is said by leaving it out may be left out. -/
theorem spare_standard {p : Part} {x : p.Value} {name : String} {v : Json}
    (h : (name, v) ∈ p.standard) {s : Slot} (hs : s ∈ p.slots x) (hname : s.name = name)
    (htakes : s.takes v) : s.spare := by
  have hfind := find_slot hs
  rw [hname] at hfind
  cases p with
  | task =>
      simp only [standard, List.mem_singleton, Prod.mk.injEq] at h
      obtain ⟨rfl, rfl⟩ := h
      obtain rfl := Option.some.inj hfind
      -- what is written here is read as one page only, and as the blank one
      have hread := Page.decoder_meets x.page _ htakes
      rw [Page.decoder_meets Page.blank _ (Page.meets_toJson _)] at hread
      exact (Except.ok.inj hread).symm
  | result =>
      simp only [standard, List.mem_singleton, Prod.mk.injEq] at h
      obtain ⟨rfl, rfl⟩ := h
      obtain rfl := Option.some.inj hfind
      exact Slot.spare_leaf rfl htakes
  | page =>
      simp only [standard, List.mem_cons, List.not_mem_nil, or_false, Prod.mk.injEq] at h
      rcases h with ⟨rfl, rfl⟩ | ⟨rfl, rfl⟩ | ⟨rfl, rfl⟩
      · obtain rfl := Option.some.inj hfind
        exact Slot.spare_leaf rfl htakes
      · obtain rfl := Option.some.inj hfind
        exact Slot.spare_leaf rfl htakes
      · obtain rfl := Option.some.inj hfind
        obtain ⟨items, heq, hitems⟩ := htakes
        obtain rfl := Json.array.inj heq
        exact List.forall₂_nil_right_iff.1 hitems
  | element =>
      simp only [standard, List.mem_cons, List.not_mem_nil, or_false, Prod.mk.injEq] at h
      rcases h with ⟨rfl, rfl⟩ | ⟨rfl, rfl⟩ | ⟨rfl, rfl⟩ <;>
      · obtain rfl := Option.some.inj hfind
        exact Slot.spare_leaf rfl htakes
  | box =>
      simp only [standard, List.mem_cons, List.not_mem_nil, or_false, Prod.mk.injEq] at h
      rcases h with ⟨rfl, rfl⟩ | ⟨rfl, rfl⟩ <;>
      · obtain rfl := Option.some.inj hfind
        exact Slot.spare_leaf rfl htakes
  | scroll =>
      simp only [standard, List.mem_cons, List.not_mem_nil, or_false, Prod.mk.injEq] at h
      rcases h with ⟨rfl, rfl⟩ | ⟨rfl, rfl⟩ | ⟨rfl, rfl⟩ | ⟨rfl, rfl⟩ | ⟨rfl, rfl⟩ | ⟨rfl, rfl⟩ <;>
      · obtain rfl := Option.some.inj hfind
        exact Slot.spare_leaf rfl htakes

/-- The identifier of a part may be written otherwise. -/
theorem takes_spelled {p : Part} {x : p.Value} {name : String} {n : Int} {v : Json}
    (h : p.identifier? = some name) (hn : WordRange.signed64.holds n = true) (hv : Spelled n v)
    {s : Slot} (hs : s ∈ p.slots x) (hname : s.name = name)
    (htakes : s.takes (.string (Integer.text n))) : s.takes v := by
  have hread : ∀ (id : Int), (Slot.leaf name Decoder.identifier none id).takes
      (.string (Integer.text n)) → (Slot.leaf name Decoder.identifier none id).takes v := by
    intro id hid
    have hsame : Except.ok n = Except.ok id := (Decoder.identifier_text hn).symm.trans hid
    rw [← Except.ok.inj hsame]
    exact hv.identifier hn
  have hfind := find_slot hs
  rw [hname] at hfind
  cases p with
  | task | result =>
      obtain rfl := Option.some.inj h
      obtain rfl := Option.some.inj hfind
      exact hread _ htakes
  | page | element | box | scroll => cases h

/-- A part that another one holds may be written otherwise. -/
theorem takes_held {p q : Part} {x : p.Value} {name : String} {v w : Json}
    (h : (name, q) ∈ p.held) (hvw : ∀ y : q.Value, Meets (q.slots y) v → Meets (q.slots y) w)
    {s : Slot} (hs : s ∈ p.slots x) (hname : s.name = name) (htakes : s.takes v) :
    s.takes w := by
  have hfind := find_slot hs
  rw [hname] at hfind
  cases p with
  | task =>
      simp only [held, List.mem_singleton, Prod.mk.injEq] at h
      obtain ⟨rfl, rfl⟩ := h
      obtain rfl := Option.some.inj hfind
      exact hvw _ htakes
  | result | page | element =>
      simp only [held, List.mem_singleton, Prod.mk.injEq] at h
      obtain ⟨rfl, rfl⟩ := h
      obtain rfl := Option.some.inj hfind
      obtain ⟨y, hy, hmeets⟩ := htakes
      exact ⟨y, hy, hvw y hmeets⟩
  | box | scroll => cases h

theorem forall₂_replace {α : Type} {r : α → Json → Prop} {v w : Json}
    (hvw : ∀ a, r a v → r a w) {before after : List Json} {as : List α}
    (h : List.Forall₂ r as (before ++ v :: after)) :
    List.Forall₂ r as (before ++ w :: after) := by
  induction before generalizing as with
  | nil =>
      obtain ⟨a, rest, hv, hrest, rfl⟩ := List.forall₂_cons_right_iff.1 h
      exact List.Forall₂.cons (hvw a hv) hrest
  | cons u before ih =>
      obtain ⟨a, rest, hu, hrest, rfl⟩ := List.forall₂_cons_right_iff.1 h
      exact List.Forall₂.cons hu (ih hrest)

/-- An element of a page may be written otherwise. -/
theorem takes_item {p : Page} {before after : List Json} {v w : Json}
    (hvw : ∀ e : Page.Element, Meets e.slots v → Meets e.slots w) {s : Slot} (hs : s ∈ p.slots)
    (hname : s.name = "elements") (htakes : s.takes (.array (before ++ v :: after))) :
    s.takes (.array (before ++ w :: after)) := by
  have hfind := find_slot (p := page) (x := p) hs
  rw [hname] at hfind
  obtain rfl := Option.some.inj hfind
  obtain ⟨items, heq, hitems⟩ := htakes
  obtain rfl := Json.array.inj heq
  exact ⟨_, rfl, forall₂_replace hvw hitems⟩

end Part

/-- Another way to write a part meets its slots as well. -/
theorem Loosens.meets {p : Part} {v w : Json} (h : Loosens p v w) (x : p.Value)
    (hv : Meets (p.slots x) v) : Meets (p.slots x) w := by
  induction h with
  | same => exact hv
  | next _ _ ihuv ihvw => exact ihvw x (ihuv x hv)
  | reorder h =>
      exact hv.of_answers fun s _ hmet => by rwa [← member?_reorder (h s.name)]
  | @unknown p front back name v h =>
      refine hv.unknown v fun s hs hname => h ?_
      rw [← p.names_slots x, ← hname]
      exact List.mem_map.2 ⟨s, hs, rfl⟩
  | leaveOut front back h honly =>
      exact hv.leaveOut honly fun s hs hname => Part.spare_standard h hs hname
  | double => exact hv.of_answers fun s _ hmet => by rwa [member?_double]
  | identifier front back h hn hspelled =>
      exact hv.replace fun s hs hname => Part.takes_spelled h hn hspelled hs hname
  | inside front back h _ ih =>
      exact hv.replace fun s hs hname => Part.takes_held h ih hs hname
  | item front back before after _ ih =>
      exact hv.replace fun s hs hname => Part.takes_item ih hs hname

/-! ## Reading frames -/

theorem Json.member?_filter {name : String} (p : String × Json → Bool)
    (hp : ∀ v, p (name, v) = true) (ms : List (String × Json)) :
    (Json.object (ms.filter p)).member? name = (Json.object ms).member? name := by
  induction ms with
  | nil => rfl
  | cons m rest ih =>
      obtain ⟨n, v⟩ := m
      by_cases hn : n = name
      · subst hn
        rw [List.filter_cons_of_pos (hp v), member?_cons, member?_cons, ih]
      · by_cases hm : p (n, v) = true
        · rw [List.filter_cons_of_pos hm, member?_cons, member?_cons, ih]
        · rw [List.filter_cons_of_neg hm, member?_cons, ih, if_neg hn, Option.or_none]

/-- What a reader makes of answers it makes of other answers to the names of its fields, too. -/
theorem RecordReader.Takes.congr {α : Type} {r : RecordReader α} {mode : ReadMode}
    {answers answers' : String → Option Json} {a : α} (h : r.Takes mode answers a)
    (hsame : ∀ f ∈ r.fields, answers' f.name = answers f.name) : r.Takes mode answers' a := by
  refine ⟨fun f hf v hv => h.check f hf v ?_, fun values hvalues => h.build values ?_⟩
  · rwa [← hsame f hf]
  · intro f hf
    rw [hvalues f hf, hsame f hf]

namespace ClientFrame

/-- The members of a frame without its type are read as its reader takes them. -/
theorem ofMembers_takes {α : Type} {r : RecordReader α} {ms : List (String × Json)} {a : α}
    (hfields : ∀ f ∈ r.fields, f.name ≠ "type")
    (h : r.Takes .buffered (fun name => ((Json.object ms).member? name).map Json.sorted) a) :
    ofMembers r (Json.sortMembers (Json.sortedMembers ms)) = .ok a := by
  have hascending := Json.ascending_sortMembers (Json.sortedMembers ms)
  refine RecordReader.ofMembers_takes
    ((List.filter_sublist.map _).nodup hascending.nodup) (h.congr fun f hf => ?_)
  rw [Json.member?_filter (fun m => m.1 != "type") fun v => bne_iff_ne.2 (hfields f hf),
    Json.member?_sortMembers, Json.member?_sortedMembers]

end ClientFrame

/-! ## The numbers of frames -/

namespace Page

/-- The numbers of a box. -/
def Box.doubles (b : Box) : List Double := [b.x, b.y, b.width, b.height]

/-- The numbers of a scroll state. -/
def Scroll.doubles (s : Scroll) : List Double :=
  [s.scrollHeight, s.clientHeight, s.scrollTop, s.scrollLeft]

/-- The numbers of an element. -/
def Element.doubles (e : Element) : List Double := e.box.toList.flatMap Box.doubles

/-- The numbers of a page. -/
def doubles (p : Page) : List Double :=
  p.elements.flatMap Element.doubles ++ p.scroll.toList.flatMap Scroll.doubles

theorem Box.tame_toJson {b : Box} (h : ∀ x ∈ b.doubles, (JsonNumber.float x).ReadsBack) :
    b.toJson.Tame 1 := by
  simp only [doubles, List.forall_mem_cons] at h
  obtain ⟨hx, hy, hwidth, hheight, -⟩ := h
  refine Json.tame_object fun m hm => ?_
  simp only [List.mem_cons, List.not_mem_nil, or_false] at hm
  rcases hm with rfl | rfl | rfl | rfl
  · exact Json.tame_number hx
  · exact Json.tame_number hy
  · exact Json.tame_number hwidth
  · exact Json.tame_number hheight

theorem Scroll.tame_toJson {s : Scroll} (h : ∀ x ∈ s.doubles, (JsonNumber.float x).ReadsBack) :
    s.toJson.Tame 1 := by
  simp only [doubles, List.forall_mem_cons] at h
  obtain ⟨hheight, hclient, htop, hleft, -⟩ := h
  refine Json.tame_object fun m hm => ?_
  simp only [List.mem_cons, List.not_mem_nil, or_false] at hm
  rcases hm with rfl | rfl | rfl | rfl | rfl | rfl
  · exact Json.tame_number hheight
  · exact Json.tame_number hclient
  · exact Json.tame_number htop
  · exact Json.tame_number hleft
  · exact Json.tame_bool _
  · exact Json.tame_bool _

theorem Element.tame_toJson {e : Element} (h : ∀ x ∈ e.doubles, (JsonNumber.float x).ReadsBack) :
    e.toJson.Tame 2 := by
  refine Json.tame_object fun m hm => ?_
  simp only [List.mem_append, List.mem_cons, List.not_mem_nil, or_false] at hm
  rcases hm with (((hm | hm) | hm) | hm) | hm
  · rcases hm with rfl | rfl | rfl <;> exact Json.tame_string _
  · exact Json.tame_optional (fun s _ => Json.tame_string s) m hm
  · exact Json.tame_optional (fun s _ => Json.tame_string s) m hm
  · refine Json.tame_optional (fun b hb => Box.tame_toJson fun x hx => h x ?_) m hm
    rw [doubles, hb]
    exact List.mem_flatMap.2 ⟨b, List.mem_singleton.2 rfl, hx⟩
  · rcases hm with rfl | rfl <;> exact Json.tame_bool _

theorem tame_toJson {p : Page} (h : ∀ x ∈ p.doubles, (JsonNumber.float x).ReadsBack) :
    p.toJson.Tame 4 := by
  have helement : ∀ v ∈ p.elements.map Element.toJson, v.Tame 2 := by
    intro v hv
    obtain ⟨e, he, rfl⟩ := List.mem_map.1 hv
    exact Element.tame_toJson fun x hx =>
      h x (List.mem_append_left _ (List.mem_flatMap.2 ⟨e, he, hx⟩))
  refine Json.tame_object fun m hm => ?_
  simp only [List.mem_append, List.mem_cons, List.not_mem_nil, or_false] at hm
  rcases hm with (rfl | rfl | rfl) | hm
  · exact Json.tame_string _
  · exact Json.tame_string _
  · exact Json.tame_array helement
  · refine Json.tame_optional (fun s hs => ?_) m hm
    refine (Scroll.tame_toJson fun x hx => h x (List.mem_append_right _ ?_)).mono (by decide)
    rw [hs]
    exact List.mem_flatMap.2 ⟨s, List.mem_singleton.2 rfl, hx⟩

end Page

namespace ClientFrame

/-- The part that a frame is. -/
def part : ClientFrame → Part
  | task _ => .task
  | result _ => .result

/-- The whole numbers of a frame fit their fields. -/
def Fits : ClientFrame → Prop
  | task f => WordRange.signed64.holds f.messageId = true
  | result f => WordRange.signed64.holds f.actionId = true ∧
      ∀ n, f.executionTime = some n → WordRange.signed64.holds n = true

/-- The other numbers of a frame. -/
def doubles : ClientFrame → List Double
  | task f => f.page.doubles
  | result f => f.page.toList.flatMap Page.doubles

variable {f : ClientFrame} {v : Json}

theorem tame_toJson (hf : f.Fits) (h : ∀ x ∈ f.doubles, (JsonNumber.float x).ReadsBack) :
    f.toJson.Tame 5 := by
  cases f with
  | task f =>
      refine Json.tame_object fun m hm => ?_
      simp only [List.mem_append, List.mem_cons, List.not_mem_nil, or_false] at hm
      rcases hm with (rfl | rfl | rfl) | hm
      · exact Json.tame_string _
      · exact Json.tame_string _
      · exact Page.tame_toJson h
      · exact Json.tame_optional (fun s _ => Json.tame_string s) m hm
  | result f =>
      refine Json.tame_object fun m hm => ?_
      simp only [List.mem_append, List.mem_cons, List.not_mem_nil, or_false] at hm
      rcases hm with (((rfl | rfl | rfl) | hm) | hm) | hm
      · exact Json.tame_string _
      · exact Json.tame_string _
      · exact Json.tame_bool _
      · exact Json.tame_optional (fun s _ => Json.tame_string s) m hm
      · exact Json.tame_optional (fun n hn => Json.tame_int (hf.2 n hn)) m hm
      · refine Json.tame_optional (fun p hp => Page.tame_toJson fun x hx => h x ?_) m hm
        rw [doubles, hp]
        exact List.mem_flatMap.2 ⟨p, List.mem_singleton.2 rfl, hx⟩

end ClientFrame

namespace Sample

/-- Lists inside one another. -/
def nested : Nat → Json
  | 0 => .array []
  | n + 1 => .array [nested n]

theorem depth_nested (n : Nat) : (nested n).depth = n + 1 := by
  induction n with
  | zero => rfl
  | succ n ih => rw [nested, Json.depth, Json.itemDepth, Json.itemDepth, Nat.max_zero, ih]

theorem numbers_nested (n : Nat) : (nested n).numbers = [] := by
  induction n with
  | zero => rfl
  | succ n ih => rw [nested, Json.numbers, Json.itemNumbers, Json.itemNumbers, List.append_nil, ih]

/-- A request for work without anything that can be left out. -/
def bare : TaskFrame := ⟨1, .blank, none⟩

end Sample

namespace ClientFrame

end ClientFrame

end ControlPlane
