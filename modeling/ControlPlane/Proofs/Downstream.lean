/-
Frames for the browser are read back.

A frame is written as an object with its type and one more member; what an order needs no browser
to know is left out. Reading a frame takes the type from among the members and then reads the
others, as they were buffered, as what the type says. Both records are put together from the
answers of their objects (`RecordReader.ofMembers_takes`), so all there is to show is that each
field finds its own value there.
-/
import ControlPlane.Frame.Server
import ControlPlane.Proofs.Members

set_option autoImplicit false

namespace ControlPlane

/-! ## Fields -/

namespace Decoder

variable {α : Type} {d : Decoder α} {mode : ReadMode} {v : Json} {a : α}

/-- A field that may be `null` or not there takes what its decoder takes. -/
theorem fills_orNull (hv : v ≠ .null) (h : d mode (.ofJson v) = .ok a) :
    (orNull d).Fills mode (some none) (some v) (some a) := by
  have hnull : Outline.ofJson v ≠ .null := by
    cases v with
    | null => exact absurd rfl hv
    | bool _ | number _ | string _ | array _ | object _ => exact fun h => by cases h
  change orNull d mode (.ofJson v) = .ok (some a)
  rw [orNull, h]
  · rfl
  · exact hnull

/-- A member that is there gives the field its value. -/
theorem fills_some {absent : Option α} {answer : Option Json} (hanswer : answer = some v)
    (h : d mode (.ofJson v) = .ok a) : d.Fills mode absent answer a := by
  rw [hanswer]
  exact h

/-- A member that is left out when its value is absent gives the field its value. -/
theorem fills_optional {f : α → Json} {o : Option α} {answer : Option Json}
    (hanswer : answer = o.map f) (hf : ∀ a, f a ≠ .null)
    (h : ∀ a, o = some a → d mode (.ofJson (f a)) = .ok a) :
    (orNull d).Fills mode (some none) answer o := by
  rw [hanswer]
  cases o with
  | none => rfl
  | some a => exact fills_orNull (hf a) (h a rfl)

/-- The text of a signed word is read as its number. -/
theorem identifier_text {n : Int} (hn : WordRange.signed64.holds n = true) :
    identifier mode (.string (some (Integer.text n))) = .ok n := by
  have htrim : Text.trimChars (Integer.text n).toList = Integer.chars n := by
    have hnone : ∀ c ∈ ([] : List Char), Text.isBlank c = true :=
      List.forall_mem_nil _
    have h := Text.trimChars_surrounded hnone
      (fun c hc => Integer.isBlank_of_mem_chars (n := n) hc) hnone
    rw [Integer.text, String.toList_ofList]
    rwa [List.nil_append, List.append_nil] at h
  rw [identifier, htrim, Integer.readSigned64?_chars hn]

/-- So is the number itself. -/
theorem signed64_int {n : Int} (hn : WordRange.signed64.holds n = true) :
    signed64 mode (.ofJson (Json.int n)) = .ok n := by
  change (if WordRange.signed64.holds n then Except.ok n else _) = _
  rw [if_pos hn]

end Decoder

namespace Json

/-- A member that may be left out has one name at most. -/
theorem names_optional {α : Type} (name : String) (f : α → Json) (o : Option α) :
    ((optional name f o).map (·.1)).Sublist [name] := by
  cases o with
  | none => exact List.nil_sublist _
  | some a => exact List.Sublist.refl _

end Json

/-! ## Orders -/

namespace ActionOrder

/-- The numbers of an order fit their fields. -/
structure Fits (o : ActionOrder) : Prop where
  /-- The number of the action. -/
  actionId : WordRange.signed64.holds o.actionId = true
  /-- The distance, if there is one. -/
  distance : ∀ n, o.parameters.distance = some n → WordRange.signed64.holds n = true
  /-- The time, if there is one. -/
  timeout : ∀ n, o.parameters.timeout = some n → WordRange.signed64.holds n = true

variable {o : ActionOrder} {mode : ReadMode}

/-- The members of an order. -/
def members (o : ActionOrder) : List (String × Json) :=
  [("action_id", .string (Integer.text o.actionId)), ("action", .string o.kind.name)] ++
    Json.optional "selector" .string o.parameters.selector ++
    Json.optional "value" .string o.parameters.value ++
    Json.optional "url" .string o.parameters.url ++
    Json.optional "distance" Json.int o.parameters.distance ++
    Json.optional "timeout" Json.int o.parameters.timeout

/-- No member of an order comes twice. -/
theorem nodup_members (o : ActionOrder) : (o.members.map (·.1)).Nodup := by
  have hsub : (o.members.map (·.1)).Sublist
      (["action_id", "action"] ++ ["selector"] ++ ["value"] ++ ["url"] ++ ["distance"] ++
        ["timeout"]) := by
    unfold members
    simp only [List.map_append]
    refine ((((List.Sublist.append ?_ ?_).append ?_).append ?_).append ?_).append ?_
    · exact List.Sublist.refl _
    all_goals exact Json.names_optional _ _ _
  exact hsub.nodup (by decide)

/-- The name of a kind is read as the kind. -/
theorem kind_decoder (k : Action.Kind) :
    Action.Kind.decoder mode (.string (some k.name)) = .ok k := by
  cases k <;> rfl

/-- Each field of an order has its own member, or none if there is no value. -/
theorem answers (o : ActionOrder) :
    let ask := fun name => (Json.object o.members).member? name
    ask "action_id" = some (.string (Integer.text o.actionId)) ∧
      ask "action" = some (.string o.kind.name) ∧
      ask "selector" = o.parameters.selector.map .string ∧
      ask "value" = o.parameters.value.map .string ∧
      ask "url" = o.parameters.url.map .string ∧
      ask "distance" = o.parameters.distance.map Json.int ∧
      ask "timeout" = o.parameters.timeout.map Json.int := by
  unfold members
  simp only [Json.member?_append, Json.member?_optional, Json.member?_cons, Json.member?_nil,
    String.reduceEq, if_true, if_false, Option.none_or, Option.or_none, and_self]

/-- An order is read back from its value. -/
theorem decoder_toJson (ho : o.Fits) : decoder mode (.ofJson o.toJson) = .ok o := by
  have hstring : ∀ s : String, Json.string s ≠ .null := fun _ h => by cases h
  have hint : ∀ n : Int, Json.int n ≠ .null := fun _ h => by cases h
  obtain ⟨hid, hkind, hselector, hvalue, hurl, hdistance, htimeout⟩ := o.answers
  exact RecordReader.ofMembers_takes o.nodup_members
    ((((((((RecordReader.takes_start assemble).field
      (Decoder.fills_some hid (Decoder.identifier_text ho.actionId))).field
      (Decoder.fills_some hkind (kind_decoder o.kind))).field
      (Decoder.fills_optional (d := Decoder.text) hselector hstring fun _ _ => rfl)).field
      (Decoder.fills_optional (d := Decoder.text) hvalue hstring fun _ _ => rfl)).field
      (Decoder.fills_optional (d := Decoder.text) hurl hstring fun _ _ => rfl)).field
      (Decoder.fills_optional hdistance hint fun n hn =>
        Decoder.signed64_int (ho.distance n hn))).field
      (Decoder.fills_optional htimeout hint fun n hn =>
        Decoder.signed64_int (ho.timeout n hn)))

/-- An order whose numbers fit is read back, inside of one more object. -/
theorem tame_toJson (ho : o.Fits) : o.toJson.Tame 1 := by
  refine Json.tame_object fun m hm => ?_
  simp only [List.mem_append, List.mem_cons, List.not_mem_nil, or_false] at hm
  rcases hm with (((((rfl | rfl) | hm) | hm) | hm) | hm) | hm
  · exact Json.tame_string _
  · exact Json.tame_string _
  · exact Json.tame_optional (fun s _ => Json.tame_string s) m hm
  · exact Json.tame_optional (fun s _ => Json.tame_string s) m hm
  · exact Json.tame_optional (fun s _ => Json.tame_string s) m hm
  · exact Json.tame_optional (fun n hn => Json.tame_int (ho.distance n hn)) m hm
  · exact Json.tame_optional (fun n hn => Json.tame_int (ho.timeout n hn)) m hm

end ActionOrder

/-! ## Frames -/

namespace ServerFrame

/-- The numbers of a frame fit their fields. -/
def Fits : ServerFrame → Prop
  | action order => order.Fits
  | finish _ => True
  | error _ => True

variable {f : ServerFrame}

/-- A frame whose numbers fit is read back. -/
theorem tame_toJson (hf : f.Fits) : f.toJson.Tame 2 := by
  cases f with
  | action order =>
      refine Json.tame_object fun m hm => ?_
      rcases List.mem_cons.1 hm with rfl | hm
      · exact Json.tame_string _
      · rw [List.mem_singleton.1 hm]
        exact ActionOrder.tame_toJson hf
  | finish message | error message =>
      refine Json.tame_object fun m hm => ?_
      rcases List.mem_cons.1 hm with rfl | hm
      · exact Json.tame_string _
      · rw [List.mem_singleton.1 hm]
        exact Json.tame_string _

/-- The type of a frame is taken from among its members, and the other is kept. -/
theorem splitTag_two {t : Tag} (type name : String) {v : Json} (hname : name ≠ "type")
    (ht : Tag.decoder .streaming (.string (some type)) = .ok t)
    (hv : v.depth ≤ RecordReader.memberRoom) :
    splitTag .streaming true none
        (Outline.ofMembers [("type", .string type), (name, v)]) =
      .ok (some t, Outline.ofMembers [(name, v)]) := by
  simp only [Outline.ofMembers, Outline.ofJson]
  rw [splitTag, if_pos rfl, ht]
  simp [splitTag, hname, Outline.toJson?_ofJson, hv]

/-- The rest of a frame is one member. -/
theorem contentDecoder_one {α : Type} (build : α → ServerFrame) (name : String)
    {d : Decoder α} {v : Json} {a : α} (h : d .buffered (.ofJson v) = .ok a) :
    ((RecordReader.start build).required name d).ofMembers .buffered true
      (Outline.ofMembers [(name, v)]) = .ok (build a) := by
  refine RecordReader.ofMembers_takes (List.pairwise_singleton _ _)
    ((RecordReader.takes_start build).field ?_)
  rw [Json.member?_singleton, if_pos rfl]
  exact h

theorem decoder_toJson (hf : f.Fits) : decoder .streaming (.ofJson f.toJson) = .ok f := by
  cases f with
  | action order =>
      have hdepth : order.toJson.depth ≤ RecordReader.memberRoom :=
        Nat.le_trans (ActionOrder.tame_toJson hf).depth (by decide)
      have hsplit := splitTag_two (t := .action) "action" "action" (by decide) rfl hdepth
      rw [toJson, Outline.ofJson, decoder, hsplit]
      exact contentDecoder_one action "action" (ActionOrder.decoder_toJson hf)
  | finish message =>
      have hsplit := splitTag_two (t := .finish) (v := .string message) "finish" "message"
        (by decide) rfl (Nat.zero_le _)
      rw [toJson, Outline.ofJson, decoder, hsplit]
      exact contentDecoder_one (d := Decoder.text) (v := .string message) finish "message" rfl
  | error message =>
      have hsplit := splitTag_two (t := .error) (v := .string message) "error" "message"
        (by decide) rfl (Nat.zero_le _)
      rw [toJson, Outline.ofJson, decoder, hsplit]
      exact contentDecoder_one (d := Decoder.text) (v := .string message) error "message" rfl

/-- **Frames for the browser decode to what was encoded.** The text of any frame whose numbers fit
their fields, whatever its texts and whichever of its fields are left out, is read as that very
frame. So no two frames have one text. -/
theorem read_text (hf : f.Fits) :
    read f.text = .ok f ∧ ∀ g : ServerFrame, g.Fits → g.text = f.text → g = f := by
  have hread : ∀ g : ServerFrame, g.Fits → read g.text = .ok g := by
    intro g hg
    rw [read, text, Decoder.ofText, Document.ofText_text (tame_toJson hg).readsBack,
      Document.decode]
    simp only [decoder_toJson hg, if_true]
  refine ⟨hread f hf, fun g hg htext => ?_⟩
  -- both frames are what is read from their text
  have hsame := hread g hg
  rw [htext, hread f hf] at hsame
  exact (Except.ok.inj hsame).symm

end ServerFrame

namespace Sample

/-- An order at the edge of its numbers, with characters that are escaped and one that takes two
code units elsewhere. -/
def order : ActionOrder :=
  ⟨-9223372036854775808, .input, ⟨none, some "a[name=\"q\\\"]", some "\u0001\n\t😀", none,
    some 9007199254740993⟩⟩

end Sample

namespace ServerFrame

/-- An order at the edge of its numbers, with characters that are escaped. -/
theorem read_text_order :
    (action Sample.order).Fits ∧ read (action Sample.order).text = .ok (action Sample.order) := by
  have hfits : (action Sample.order).Fits := by
    refine ⟨by decide, ?_, ?_⟩
    · intro n hn
      cases hn
    · intro n hn
      cases hn
      decide
  exact ⟨hfits, (read_text hfits).1⟩

end ServerFrame

end ControlPlane
