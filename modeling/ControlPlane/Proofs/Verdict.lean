/-
Decisions that are written down and read again.

A decision is written as an object: the name of its action, with letters of either case and blanks
around it, and each of its parameters under a name of its own, in any order and with anything else
among them (`Writes`). A parameter that is a whole number up to `2 ^ 53` is not changed by the
reader's detour through double precision, and a value that is no text is taken as its text, which is
read as the value again (`Stands.parse?_text`).

Where such an object is found in what a model says, exactly the decision is made, unless the object
is no JSON because there are too many containers inside one another in it (`decision_written`,
`decision_nested`). Whatever is made passes the check of decisions.
-/
import ControlPlane.Proofs.Exact
import ControlPlane.Proofs.Intake
import ControlPlane.Proofs.Prose
import ControlPlane.Proofs.Readable
import ControlPlane.Proofs.Upstream

set_option autoImplicit false

namespace ControlPlane

/-! ## Values as text -/

namespace JsonNumber

/-- A whole number of 64 bits, signed or unsigned. -/
def IsWord (n : JsonNumber) : Prop :=
  ∃ k, n = .int k ∧ -9223372036854775808 ≤ k ∧ k ≤ 18446744073709551615

theorem IsWord.readsBack {n : JsonNumber} (h : n.IsWord) : n.ReadsBack := by
  obtain ⟨k, rfl, hleast, hgreatest⟩ := h
  exact readsBack_int hleast hgreatest

end JsonNumber

namespace Outline

variable {o : Outline} {v : Json} {room : Nat}

theorem Stands.of_kept (h : o.Stands v) (hkept : (o.toJson? room).isSome = true) :
    o.toJson? room = some v := by
  obtain ⟨v', hv'⟩ := Option.isSome_iff_exists.1 hkept
  rw [hv', h.unique ⟨room, hv'⟩]

/-- The text of a value that was kept is read as the value. -/
theorem Stands.parse?_text (h : o.Stands v) (hkept : (o.toJson? room).isSome = true)
    (hroom : room ≤ nestingLimit) (hnumbers : ∀ n ∈ v.numbers, n.IsWord) :
    Json.parse? v.text = some v := by
  have hspec := toJson?_spec o (h.of_kept hkept)
  have hback : v.ReadsBack := fun n hn => (hnumbers n hn).readsBack
  rw [Json.parse?_text hback, if_pos (Nat.le_trans hspec.depth hroom), hspec.sorted]

/-- All members are kept if each of them is. -/
theorem members_kept {ms : List (Option String × Outline)} :
    (membersToJson? room ms).isSome = true ↔
      ∀ m ∈ ms, m.1.isSome = true ∧ (m.2.toJson? room).isSome = true := by
  induction ms with
  | nil => exact iff_of_true rfl (List.forall_mem_nil _)
  | cons m ms ih =>
      obtain ⟨name, o⟩ := m
      unfold membersToJson?
      rw [List.forall_mem_cons, ← ih]
      cases name <;> cases o.toJson? room <;> cases membersToJson? room ms <;> simp

end Outline

namespace Answer

open Reader Grammar

variable {kind : Action.Kind} {p : Action.Parameters} {cs : List Char}
  {ms : List (Option String × Outline)}

/-! ## How a decision is written -/

/-- A text names a kind: by its name, with letters of either case and blanks around it. -/
def Calls (kind : Action.Kind) (s : String) : Prop :=
  ∃ front name back, s.toList = front ++ name ++ back ∧
    (∀ c ∈ front, Text.isBlank c = true) ∧ (∀ c ∈ back, Text.isBlank c = true) ∧
    List.Forall₂ (fun c k => c = k ∨ c = k.toUpper) name kind.name.toList

/-- What stands under the name of a parameter: its value, or nothing or a `null` if it is absent. -/
inductive Given {α : Type} (writes : Outline → α → Prop) : List Outline → Option α → Prop
  | absent : Given writes [] none
  | null : Given writes [.null] none
  | present {o : Outline} {a : α} (h : writes o a) : Given writes [o] (some a)

/-- A text. -/
def WritesText (o : Outline) (s : String) : Prop := o = .string (some s)

/-- A whole number, with a point or an exponent or without. -/
inductive WritesNumber : Outline → Int → Prop
  | whole (n : Int) : WritesNumber (.number (some (.int n))) n
  | float {x : Double} {n : Int} (h : x.Is n) : WritesNumber (.number (some (.float x))) n

/-- A text, or anything else but `null`, which is taken as its text. -/
inductive WritesValue : Outline → String → Prop
  | text (s : String) : WritesValue (.string (some s)) s
  | other {o : Outline} {v : Json} (h : o.Stands v) (hstring : ∀ s, v ≠ .string s)
      (hnull : v ≠ .null) : WritesValue o v.text

/-- The members of an object write a decision. What stands under other names does not matter. -/
structure Writes (kind : Action.Kind) (p : Action.Parameters)
    (ms : List (Option String × Outline)) : Prop where
  /-- The name of the action. -/
  action : ∃ s, named "action" ms = [.string (some s)] ∧ Calls kind s
  /-- The address. -/
  url : Given WritesText (named "url" ms) p.url
  /-- The description of an element. -/
  selector : Given WritesText (named "selector" ms) p.selector
  /-- The value. -/
  value : Given WritesValue (named "value" ms) p.value
  /-- The distance. -/
  distance : Given WritesNumber (named "distance" ms) p.distance
  /-- The time. -/
  timeout : Given WritesNumber (named "timeout" ms) p.timeout

theorem Writes.ne_nil (h : Writes kind p ms) : ms ≠ [] := by
  rintro rfl
  obtain ⟨s, hs, -⟩ := h.action
  cases hs

/-- A value that is neither a text nor `null` is taken as its text. -/
theorem Writes.value_text (hw : Writes kind p ms) {o : Outline} {v : Json}
    (ho : named "value" ms = [o]) (h : o.Stands v) (hstring : ∀ s, v ≠ .string s)
    (hnull : v ≠ .null) : p.value = some v.text := by
  have hgiven := hw.value
  rw [ho] at hgiven
  generalize p.value = s? at hgiven
  obtain ⟨room, hv⟩ := h
  cases hgiven with
  | null => exact absurd (Option.some.inj hv).symm hnull
  | present hwrites =>
      cases hwrites with
      | text => exact absurd (Option.some.inj hv).symm (hstring _)
      | other hother => rw [hother.unique ⟨room, hv⟩]

/-! ## Names -/

/-- A letter of a name and its capital are both looked up as the letter, and neither is blank. -/
def isLetter (k : Char) : Bool :=
  lower k == k && lower k.toUpper == k && !Text.isBlank k && !Text.isBlank k.toUpper

theorem name_letters (kind : Action.Kind) : ∀ k ∈ kind.name.toList, isLetter k = true := by
  refine List.all_eq_true.1 ?_
  cases kind <;> decide +kernel

theorem lower_spelled {name ks : List Char}
    (h : List.Forall₂ (fun c k => c = k ∨ c = k.toUpper) name ks)
    (hks : ∀ k ∈ ks, isLetter k = true) :
    name.map lower = ks ∧ ∀ c ∈ name, Text.isBlank c = false := by
  induction h with
  | nil => exact ⟨rfl, List.forall_mem_nil _⟩
  | @cons c k name ks hc htail ih =>
      obtain ⟨hk, hrest⟩ := List.forall_mem_cons.1 hks
      obtain ⟨hmap, hblanks⟩ := ih hrest
      simp only [isLetter, Bool.and_eq_true, beq_iff_eq, Bool.not_eq_true'] at hk
      obtain ⟨⟨⟨hsmall, hcapital⟩, hblank⟩, hblank'⟩ := hk
      rw [List.map_cons, hmap]
      rcases hc with rfl | rfl
      · exact ⟨by rw [hsmall], List.forall_mem_cons.2 ⟨hblank, hblanks⟩⟩
      · exact ⟨by rw [hcapital], List.forall_mem_cons.2 ⟨hblank', hblanks⟩⟩

theorem Calls.normalName {s : String} (h : Calls kind s) : normalName s = kind.name := by
  obtain ⟨front, name, back, hs, hfront, hback, hname⟩ := h
  obtain ⟨hlower, hblanks⟩ := lower_spelled hname (name_letters kind)
  rw [Answer.normalName, hs, Text.trimChars_surrounded hfront hblanks hback, hlower,
    String.ofList_toList]

/-! ## What is read -/

/-- What stands under a name is read as it was written. -/
theorem Given.gives {α β : Type} {writes : Outline → α → Prop} {d : Decoder β} {f : β → α}
    {os : List Outline} {a? : Option α} (h : Given writes os a?)
    (hread : ∀ o ∈ os, ∀ a, a? = some a → writes o a →
      o ≠ .null ∧ ∃ b, d .streaming o = .ok b ∧ f b = a) :
    ∃ b?, (Decoder.orNull d).Gives .streaming (some none) os b? ∧ b?.map f = a? := by
  cases h with
  | absent => exact ⟨none, rfl, rfl⟩
  | null => exact ⟨none, rfl, rfl⟩
  | @present o a h =>
      obtain ⟨hnull, b, hb, rfl⟩ := hread o List.mem_cons_self a rfl h
      refine ⟨some b, ?_, rfl⟩
      have hsome : Decoder.orNull d .streaming o = (d .streaming o).map some := by
        cases o with
        | null => exact absurd rfl hnull
        | broken | bool _ | number _ | string _ | array _ _ | object _ _ => rfl
      change Decoder.orNull d .streaming o = .ok (some b)
      rw [hsome, hb]
      rfl

theorem given_text {os : List Outline} {s? : Option String} (h : Given WritesText os s?) :
    (Decoder.orNull Decoder.text).Gives .streaming (some none) os s? := by
  obtain ⟨b?, hb, rfl⟩ := h.gives (d := Decoder.text) (f := id) (by
    rintro o - s - rfl
    exact ⟨nofun, s, rfl, rfl⟩)
  rwa [Option.map_id]

theorem whole_is {x : Double} {n : Int} (h : x.Is n) (hn : n.natAbs ≤ 2 ^ 53) : whole x = n := by
  have hleast : WordRange.signed64.least = -9223372036854775808 := rfl
  have hgreatest : WordRange.signed64.greatest = 9223372036854775807 := rfl
  rw [whole, h.roundAway, WordRange.clamp, hleast, hgreatest]
  omega

theorem given_number {os : List Outline} {n? : Option Int} (h : Given WritesNumber os n?)
    (hn : ∀ n ∈ n?, n.natAbs ≤ 2 ^ 53) :
    ∃ x?, (Decoder.orNull Decoder.double).Gives .streaming (some none) os x? ∧
      x?.map whole = n? := by
  refine h.gives fun o _ n hsome hwrites => ?_
  cases hwrites with
  | whole => exact ⟨nofun, _, rfl, whole_is (Binary.ofInt?_is (hn n hsome)) (hn n hsome)⟩
  | float hx => exact ⟨nofun, _, rfl, whole_is hx (hn n hsome)⟩

theorem given_value {os : List Outline} {s? : Option String} (h : Given WritesValue os s?)
    (hkept : ∀ o ∈ os, (o.toJson? RecordReader.memberRoom).isSome = true) :
    ∃ v?, (Decoder.orNull (Decoder.any RecordReader.memberRoom)).Gives .streaming (some none) os
      v? ∧ v?.map valueText = s? := by
  refine h.gives fun o ho s _ hwrites => ?_
  cases hwrites with
  | text => exact ⟨nofun, _, rfl, rfl⟩
  | @other o v hstands hstring hnull =>
      have hv := hstands.of_kept (hkept o ho)
      refine ⟨?_, v, ?_, ?_⟩
      · rintro rfl
        exact hnull (Option.some.inj hv).symm
      · rw [Decoder.any, hv]
      · cases v with
        | string s => exact absurd rfl (hstring s)
        | null | bool _ | number _ | array _ | object _ => rfl

theorem decoder_written (hw : Writes kind p ms)
    (hkept : ∀ m ∈ ms, m.1.isSome = true ∧ (m.2.toJson? RecordReader.memberRoom).isSome = true)
    (hdistance : ∀ n ∈ p.distance, n.natAbs ≤ 2 ^ 53)
    (htimeout : ∀ n ∈ p.timeout, n.natAbs ≤ 2 ^ 53) :
    ∃ r, Raw.decoder .streaming (.object ms true) = .ok r ∧ Calls kind r.action ∧
      r.parameters = p := by
  obtain ⟨s, hs, hcalls⟩ := hw.action
  have haction : Decoder.text.Gives .streaming none (named "action" ms) s := by
    rw [hs]
    rfl
  obtain ⟨v?, hvalue, hv⟩ := given_value hw.value fun o ho => (hkept _ (mem_named.1 ho)).2
  obtain ⟨d?, hdistance, hd⟩ := given_number hw.distance hdistance
  obtain ⟨t?, htimeout, ht⟩ := given_number hw.timeout htimeout
  have hwhole : ∀ m ∈ ms, m.1.isSome = true ∧ m.2.isWhole = true := by
    intro m hm
    obtain ⟨hname, hsome⟩ := hkept m hm
    obtain ⟨v, hv⟩ := Option.isSome_iff_exists.1 hsome
    exact ⟨hname, (Outline.toJson?_spec m.2 hv).whole⟩
  have hgathers := (((((RecordReader.gathers_start Raw.mk).field haction).field
    (given_text hw.url)).field (given_text hw.selector)).field hvalue).field hdistance
      |>.field htimeout
  refine ⟨_, RecordReader.ofMembers_gathers hwhole hgathers, hcalls, ?_⟩
  rw [Raw.parameters, hv, hd, ht]

/-! ## What is decided -/

theorem document_object (h : Members true cs ms) :
    Document.ofChars ('\x7b' :: cs) = ⟨.object ms true, true⟩ := by
  have hread := value_read (.object h) (2 * ('\x7b' :: cs).length + 2) [] (Nat.le_add_right _ _)
    fun ⟨_, hn⟩ => nomatch hn
  rw [List.append_nil] at hread
  rw [Document.ofChars, hread]
  rfl

/-- An object is JSON if its names can be read and there is room for every member. -/
theorem isJson_object (h : Members true cs ms) :
    isJson ('\x7b' :: cs) = true ↔
      ∀ m ∈ ms, m.1.isSome = true ∧ (m.2.toJson? RecordReader.memberRoom).isSome = true := by
  rw [isJson, Json.parseChars?, document_object h, Document.toJson?, if_pos rfl,
    Outline.nestingLimit, Outline.toJson?, if_pos rfl, Option.isSome_map]
  exact Outline.members_kept

theorem parse_written (h : Members true cs ms) (hjson : isJson ('\x7b' :: cs) = true)
    (hw : Writes kind p ms) (hcheck : p.check kind = .ok ())
    (hdistance : ∀ n ∈ p.distance, n.natAbs ≤ 2 ^ 53)
    (htimeout : ∀ n ∈ p.timeout, n.natAbs ≤ 2 ^ 53) :
    parse (String.ofList ('\x7b' :: cs)) = .ok (.act kind p) := by
  obtain ⟨r, hread, hcalls, hparameters⟩ :=
    decoder_written hw ((isJson_object h).1 hjson) hdistance htimeout
  have hmissing : p.missing? kind = none := by
    unfold Action.Parameters.check at hcheck
    split at hcheck
    next => cases hcheck
    next hnone => exact hnone
  have hname : kind.name ≠ finishName := by cases kind <;> decide
  have htext : Raw.decoder.ofText (String.ofList ('\x7b' :: cs)) = .ok r := by
    rw [Decoder.ofText, Document.ofText, String.toList_ofList, document_object h,
      Document.decode, hread]
    rfl
  rw [parse, htext]
  dsimp only
  rw [Raw.decision, hcalls.normalName, if_neg hname, Action.Kind.ofName?_name,
    hparameters]
  dsimp only
  rw [hmissing]

/-- Whatever action is decided on has what it needs. -/
theorem check_of_parse {s : String} (h : parse s = .ok (.act kind p)) :
    (Decision.act kind p).check = .ok () := by
  unfold parse at h
  split at h
  next => cases h
  next r _ =>
    unfold Raw.decision at h
    dsimp only at h
    split at h
    next => cases h
    next =>
      split at h
      next => cases h
      next =>
        split at h
        next => cases h
        next hmissing =>
          cases h
          rw [Decision.check, Action.Parameters.check, hmissing]

/-- **A decision that is written down is made.** Take a decision on an action that has what it
needs, with a distance and a time of at most `2 ^ 53`, written as an object, with its parameters in
any order and anything else among them, and in what a model says, with anything behind it and
nothing but prose or a fence in front. If the object is JSON, exactly that decision is made, and
otherwise none is; it is JSON if its names can be read and there is room in it for every value,
which 126 containers inside one another leave. A value that is neither a text nor `null`, with
numbers of 64 bits, is taken as a text that is read as that value. And whatever text a decision on
an action is made from, the action has what it needs. -/
theorem decision_written :
    (∀ (kind : Action.Kind) (p : Action.Parameters) (ms : List (Option String × Outline))
      (pre cs post : List Char),
      p.check kind = .ok () →
      (∀ n ∈ p.distance, n.natAbs ≤ 2 ^ 53) → (∀ n ∈ p.timeout, n.natAbs ≤ 2 ^ 53) →
      Members true cs ms → Writes kind p ms → (∀ c ∈ pre, opens c = false) →
      decision (String.ofList (pre ++ ('\x7b' :: cs ++ post))) =
        (if isJson ('\x7b' :: cs) then .ok (.act kind p) else .error .noCompleteJsonInAnswer) ∧
      (isJson ('\x7b' :: cs) = true ↔
        ∀ m ∈ ms, m.1.isSome = true ∧ (m.2.toJson? RecordReader.memberRoom).isSome = true) ∧
      (isJson ('\x7b' :: cs) = true → ∀ o v, named "value" ms = [o] → o.Stands v →
        (∀ s, v ≠ .string s) → v ≠ .null → (∀ n ∈ v.numbers, n.IsWord) →
        ∃ t, p.value = some t ∧ Json.parse? t = some v)) ∧
    ∀ s kind p, parse s = .ok (.act kind p) → (Decision.act kind p).check = .ok () := by
  refine ⟨?_, fun s kind p h => check_of_parse h⟩
  intro kind p ms pre cs post hcheck hdistance htimeout hmembers hw hpre
  refine ⟨?_, isJson_object hmembers, ?_⟩
  · have hshows : Shows (String.ofList (pre ++ ('\x7b' :: cs ++ post))).toList ('\x7b' :: cs) := by
      rw [String.toList_ofList]
      exact ⟨pre, post, rfl, hpre⟩
    rw [decision, extract_object hmembers hw.ne_nil hshows]
    by_cases hjson : isJson ('\x7b' :: cs) = true
    · rw [if_pos hjson, if_pos hjson]
      exact parse_written hmembers hjson hw hcheck hdistance htimeout
    · rw [if_neg hjson, if_neg hjson]
  · intro hjson o v ho hstands hstring hnull hnumbers
    have hmem := mem_named.1 (ho ▸ List.mem_cons_self)
    have hkept := ((isJson_object hmembers).1 hjson _ hmem).2
    have hback := hstands.parse?_text hkept (by decide) hnumbers
    exact ⟨v.text, hw.value_text ho hstands hstring hnull, hback⟩

/-- The text of an object is one by the rules. -/
theorem members_text {js : List (String × Json)} (h : (Json.object js).ReadsBack) :
    ∃ cs, (Json.object js).chars = '\x7b' :: cs ∧ Members true cs (Outline.ofMembers js) := by
  have hread := value_chars (.object js) (2 * (Json.object js).chars.length) [] h stops_nil
    (Nat.le_refl _)
  obtain ⟨hcut, -, -⟩ := cuts (2 * (Json.object js).chars.length)
  obtain ⟨used, hused, hvalue⟩ := hcut hread (Outline.isWhole_ofJson _)
  have hskip : skip ((Json.object js).chars ++ []) = (Json.object js).chars := by
    rw [List.append_nil]
    rfl
  rw [hskip, List.append_nil] at hused
  rw [Outline.ofJson] at hvalue
  cases hvalue with
  | @object cs ms hmembers => exact ⟨cs, hused, hmembers⟩

end Answer

namespace Sample

/-- A decision to type, with a member that is not asked for and a list for the value. -/
def typing : List (String × Json) :=
  [("selector", .string "#a"), ("why", .array [.null]), ("action", .string " InPut\n"),
    ("value", .array [.int 7, .bool true])]

/-- What is needed to type it. -/
def typed : Action.Parameters := ⟨none, some "#a", some "[7,true]", none, none⟩

/-- A decision to type lists inside one another. -/
def deepTyping : List (String × Json) :=
  [("action", .string "input"), ("selector", .string "#a"), ("value", nested 126)]

/-- What is needed to type them. -/
def deepTyped : Action.Parameters := ⟨none, some "#a", some (nested 126).text, none, none⟩

theorem sorted_nested (n : Nat) : (nested n).sorted = nested n := by
  induction n with
  | zero => rfl
  | succ n ih => rw [nested, Json.sorted, Json.sortedItems, Json.sortedItems, ih]

end Sample

namespace Answer

open Grammar

/-- The case of a decision to type a list, with prose in front and a bracket behind it. -/
theorem decision_written_typing :
    decision (String.ofList ("Sure: ".toList ++
      ((Json.object Sample.typing).chars ++ " [ok]".toList))) = .ok (.act .input Sample.typed) ∧
      Json.parse? "[7,true]" = some (.array [.int 7, .bool true]) := by
  have hword : (JsonNumber.int 7).IsWord := ⟨7, rfl, by decide, by decide⟩
  have hback : (Json.object Sample.typing).ReadsBack := fun n hn => by
    rw [List.mem_singleton.1 hn]
    exact hword.readsBack
  obtain ⟨cs, hcs, hmembers⟩ := members_text hback
  have hcalls : Calls .input " InPut\n" := by
    refine ⟨[' '], "InPut".toList, ['\n'], rfl, by simp [Text.isBlank], by simp [Text.isBlank], ?_⟩
    exact .cons (Or.inr (by decide)) (.cons (Or.inl rfl) (.cons (Or.inr (by decide))
      (.cons (Or.inl rfl) (.cons (Or.inl rfl) .nil))))
  have hstands : (Outline.ofJson (.array [.int 7, .bool true])).Stands
      (.array [.int 7, .bool true]) := ⟨1, rfl⟩
  have hstring : ∀ s, Json.array [.int 7, .bool true] ≠ .string s := by
    intro s h
    cases h
  have hnull : Json.array [.int 7, .bool true] ≠ .null := by
    intro h
    cases h
  have hvalue : Sample.typed.value = some (Json.array [.int 7, .bool true]).text := by
    decide +kernel
  have hwrites : Writes .input Sample.typed (Outline.ofMembers Sample.typing) := by
    refine ⟨⟨" InPut\n", rfl, hcalls⟩, .absent, .present rfl, ?_, .absent, .absent⟩
    rw [hvalue]
    exact .present (.other hstands hstring hnull)
  have hpre : ∀ c ∈ "Sure: ".toList, opens c = false := none_of_any (by decide)
  have hjson : isJson ('\x7b' :: cs) = true := by
    rw [← hcs]
    decide +kernel
  obtain ⟨hwritten, -⟩ := decision_written
  obtain ⟨hdecision, -, htext⟩ := hwritten .input Sample.typed (Outline.ofMembers Sample.typing)
    "Sure: ".toList cs " [ok]".toList (by decide) (by simp [Sample.typed]) (by simp [Sample.typed])
    hmembers hwrites hpre
  obtain ⟨t, ht, hparsed⟩ := htext hjson _ _ rfl hstands hstring hnull fun n hn => by
    rw [List.mem_singleton.1 hn]
    exact hword
  obtain rfl : "[7,true]" = t := Option.some.inj ht
  exact ⟨by rw [hcs, hdecision, if_pos hjson], hparsed⟩

/-- A decision with too many lists inside one another in its value is not made. -/
theorem decision_nested :
    ∃ cs, (Json.object Sample.deepTyping).chars = '\x7b' :: cs ∧
      Members true cs (Outline.ofMembers Sample.deepTyping) ∧
      Writes .input Sample.deepTyped (Outline.ofMembers Sample.deepTyping) ∧
      Sample.deepTyped.check .input = .ok () ∧
      decision (Json.object Sample.deepTyping).text = .error .noCompleteJsonInAnswer := by
  have hback : (Json.object Sample.deepTyping).ReadsBack := by
    intro n hn
    have hnone : (Json.object Sample.deepTyping).numbers = [] := by
      simp [Sample.deepTyping, Json.numbers, Json.memberNumbers, Sample.numbers_nested]
    rw [hnone] at hn
    cases hn
  have hdepth : ¬ (Json.object Sample.deepTyping).depth ≤ Outline.nestingLimit := by
    have hvalue := Sample.depth_nested 126
    have hlimit : Outline.nestingLimit = 127 := rfl
    simp only [Sample.deepTyping, Json.depth, Json.memberDepth, hvalue]
    omega
  obtain ⟨cs, hcs, hmembers⟩ := members_text hback
  have hcalls : Calls .input "input" :=
    ⟨[], "input".toList, [], rfl, List.forall_mem_nil _, List.forall_mem_nil _,
      List.forall₂_same.2 fun _ _ => Or.inl rfl⟩
  have hstands : (Outline.ofJson (Sample.nested 126)).Stands (Sample.nested 126) := by
    refine ⟨127, ?_⟩
    rw [Outline.toJson?_ofJson, Sample.depth_nested, if_pos (Nat.le_refl _), Sample.sorted_nested]
  have hlist : Sample.nested 126 = .array [Sample.nested 125] := rfl
  have hstring : ∀ s, Sample.nested 126 ≠ .string s := by
    intro s h
    rw [hlist] at h
    cases h
  have hnull : Sample.nested 126 ≠ .null := by
    intro h
    rw [hlist] at h
    cases h
  have hwrites : Writes .input Sample.deepTyped (Outline.ofMembers Sample.deepTyping) := by
    refine ⟨⟨"input", rfl, hcalls⟩, .absent, .present rfl, ?_, .absent, .absent⟩
    exact .present (.other hstands hstring hnull)
  have hjson : ¬ isJson ('\x7b' :: cs) = true := by
    have hparsed := Json.parse?_text hback
    rw [if_neg hdepth, Json.parse?, Json.text, String.toList_ofList, hcs] at hparsed
    rw [isJson, hparsed]
    exact Bool.false_ne_true
  have hshows : Shows (Json.object Sample.deepTyping).text.toList ('\x7b' :: cs) := by
    rw [Json.text, String.toList_ofList, hcs]
    exact ⟨[], [], (List.append_nil _).symm, List.forall_mem_nil _⟩
  refine ⟨cs, hcs, hmembers, hwrites, rfl, ?_⟩
  rw [decision, extract_object hmembers hwrites.ne_nil hshows, if_neg hjson]

end Answer

end ControlPlane
