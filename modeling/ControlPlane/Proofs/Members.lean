/-
The members of an object, and the records made of them.

What a record is read from is what its object answers for each name (`Json.member?`), which is
what stands last under that name. Sorting the members changes no answer and leaves one member for
each name (`member?_sortMembers`, `ascending_sortMembers`).

The reader of a record is put together field by field, and so is what it makes of an object: a
field adds its value if the object answers for it with something that its decoder takes, or if it
does not and the field has a value for that (`Takes.field`). Members that no field asks for do not
matter as long as they are sound, and nor does the order of members (`ofMembers_takes`).
-/
import ControlPlane.Json.Decode
import ControlPlane.Proofs.Rereading
import Mathlib.Data.String.Basic

set_option autoImplicit false

namespace ControlPlane

namespace Json

variable {name : String} {v : Json} {ms ms' : List (String × Json)}

/-! ## What an object answers -/

theorem member?_nil (name : String) : (object []).member? name = none := rfl

/-- Of two members of one name the last counts. -/
theorem member?_append (name : String) (ms ms' : List (String × Json)) :
    (object (ms ++ ms')).member? name =
      ((object ms').member? name).or ((object ms).member? name) := by
  simp only [member?, List.reverse_append, List.find?_append, Option.map_or]

theorem member?_singleton (name n : String) (v : Json) :
    (object [(n, v)]).member? name = if n = name then some v else none := by
  by_cases h : n = name <;> simp [member?, h]

theorem member?_cons (name n : String) (v : Json) (ms : List (String × Json)) :
    (object ((n, v) :: ms)).member? name =
      ((object ms).member? name).or (if n = name then some v else none) := by
  rw [← List.singleton_append, member?_append, member?_singleton]

/-- There is no member of a name if no member has it. -/
theorem member?_eq_none_iff :
    (object ms).member? name = none ↔ ∀ m ∈ ms, m.1 ≠ name := by
  simp [member?]

/-- A member that is written only for a value is there if the value is. -/
theorem member?_optional {α : Type} (name n : String) (f : α → Json) (o : Option α) :
    (object (optional n f o)).member? name = if n = name then o.map f else none := by
  cases o with
  | none => simp [optional, member?]
  | some a => exact member?_singleton name n (f a)

/-! ## Sorting -/

/-- The names ascend. -/
def Ascending (ms : List (String × Json)) : Prop := ms.Pairwise fun m m' => m.1 < m'.1

/-- Members in order have different names. -/
theorem Ascending.nodup (h : Ascending ms) : (ms.map (·.1)).Nodup :=
  List.pairwise_map.2 (h.imp fun hlt => ne_of_lt hlt)

/-- A member that is there after one was put in was there before, or is that one. -/
theorem mem_insertMember {m : String × Json} (h : m ∈ insertMember name v ms) :
    m = (name, v) ∨ m ∈ ms := by
  induction ms with
  | nil => exact Or.inl (List.mem_singleton.1 h)
  | cons head rest ih =>
      obtain ⟨n, w⟩ := head
      unfold insertMember at h
      split at h
      · exact List.mem_cons.1 h
      · split at h
        · rcases List.mem_cons.1 h with h | h
          · exact Or.inl h
          · exact Or.inr (List.mem_cons_of_mem _ h)
        · rcases List.mem_cons.1 h with rfl | h
          · exact Or.inr List.mem_cons_self
          · rcases ih h with h | h
            · exact Or.inl h
            · exact Or.inr (List.mem_cons_of_mem _ h)

/-- Members in order stay in order when one is put in. -/
theorem Ascending.insertMember (name : String) (v : Json) (h : Ascending ms) :
    Ascending (insertMember name v ms) := by
  induction ms with
  | nil => exact List.pairwise_singleton _ _
  | cons head rest ih =>
      obtain ⟨n, w⟩ := head
      obtain ⟨hhead, hrest⟩ := List.pairwise_cons.1 h
      unfold Json.insertMember
      split
      · next hlt =>
          refine List.pairwise_cons.2 ⟨fun m hm => ?_, h⟩
          rcases List.mem_cons.1 hm with rfl | hm
          · exact hlt
          · exact lt_trans hlt (hhead m hm)
      · next hlt =>
          split
          · next heq =>
              subst heq
              exact List.pairwise_cons.2 ⟨hhead, hrest⟩
          · next hne =>
              refine List.pairwise_cons.2 ⟨fun m hm => ?_, ih hrest⟩
              rcases mem_insertMember hm with rfl | hm
              · exact lt_of_le_of_ne (not_lt.1 hlt) (Ne.symm hne)
              · exact hhead m hm

/-- The member that was put in is the one of its name, and the others stay. -/
theorem member?_insertMember (h : Ascending ms) (n : String) :
    (object (insertMember name v ms)).member? n =
      if name = n then some v else (object ms).member? n := by
  induction ms with
  | nil => rw [insertMember, member?_singleton]; rfl
  | cons head rest ih =>
      obtain ⟨n', w⟩ := head
      obtain ⟨hhead, hrest⟩ := List.pairwise_cons.1 h
      unfold insertMember
      split
      · next hlt =>
          rw [member?_cons]
          by_cases hn : name = n
          · subst hn
            -- what stands behind has greater names
            have hnone : (object ((n', w) :: rest)).member? name = none := by
              refine member?_eq_none_iff.2 fun m hm heq => ?_
              rcases List.mem_cons.1 hm with rfl | hm
              · exact ne_of_lt hlt heq.symm
              · exact ne_of_lt (lt_trans hlt (hhead m hm)) heq.symm
            simp [hnone]
          · simp [hn]
      · next hlt =>
          split
          · next heq =>
              subst heq
              rw [member?_cons, member?_cons]
              by_cases hn : name = n
              · subst hn
                have hnone : (object rest).member? name = none :=
                  member?_eq_none_iff.2 fun m hm heq => ne_of_lt (hhead m hm) heq.symm
                simp [hnone]
              · simp [hn]
          · next hne =>
              rw [member?_cons, member?_cons, ih hrest]
              by_cases hn : name = n <;> simp [hn]

/-- Sorting goes on from members that ascend. -/
theorem sort_from (ms : List (String × Json)) {acc : List (String × Json)} (h : Ascending acc) :
    Ascending (ms.foldl (fun sorted (name, value) => insertMember name value sorted) acc) ∧
      ∀ n, (object (ms.foldl (fun sorted (name, value) => insertMember name value sorted)
          acc)).member? n = ((object ms).member? n).or ((object acc).member? n) := by
  induction ms generalizing acc with
  | nil => exact ⟨h, fun n => rfl⟩
  | cons m rest ih =>
      obtain ⟨name, v⟩ := m
      obtain ⟨hascending, hanswers⟩ := ih (h.insertMember name v)
      refine ⟨hascending, fun n => ?_⟩
      rw [List.foldl_cons, hanswers, member?_insertMember h, member?_cons]
      by_cases hn : name = n <;> cases (object rest).member? n <;> simp [hn]

/-- Sorted members are in order. -/
theorem ascending_sortMembers (ms : List (String × Json)) : Ascending (sortMembers ms) :=
  (sort_from ms List.Pairwise.nil).1

/-- Sorting changes no answer. -/
theorem member?_sortMembers (n : String) (ms : List (String × Json)) :
    (object (sortMembers ms)).member? n = (object ms).member? n := by
  have h := (sort_from ms List.Pairwise.nil).2 n
  rwa [member?_nil, Option.or_none] at h

/-- What is found under a name among sorted values is the sorted value. -/
theorem member?_sortedMembers (n : String) (ms : List (String × Json)) :
    (object (sortedMembers ms)).member? n = ((object ms).member? n).map sorted := by
  induction ms with
  | nil => rfl
  | cons m rest ih =>
      obtain ⟨name, v⟩ := m
      rw [sortedMembers, member?_cons, member?_cons, ih]
      by_cases hn : name = n <;> cases (object rest).member? n <;> simp [hn]

end Json

/-! ## Reading a record -/

namespace Decoder

/-- What an object answers for a field gives the field its value: either it answers and the
decoder takes the answer, or it does not and the field has a value for that. -/
def Fills {α : Type} (d : Decoder α) (mode : ReadMode) (absent : Option α) (answer : Option Json)
    (a : α) : Prop :=
  match answer with
  | some v => d mode (.ofJson v) = .ok a
  | none => absent = some a

end Decoder

namespace RecordReader

variable {α β : Type} {mode : ReadMode} {answers : String → Option Json}

/-- The reader makes a record of an object with such answers. -/
structure Takes (r : RecordReader α) (mode : ReadMode) (answers : String → Option Json) (a : α) :
    Prop where
  /-- The values of fields pass the scan. -/
  check : ∀ f ∈ r.fields, ∀ v, answers f.name = some v → f.check mode (.ofJson v) = .ok ()
  /-- From the values of its fields the record is built. -/
  build : ∀ values : RecordValues,
    (∀ f ∈ r.fields, (values.find? (·.1 == f.name)).map (·.2) = (answers f.name).map .ofJson) →
      r.build mode values = .ok a

/-- A record without fields is taken from any answers. -/
theorem takes_start (a : α) : (start a).Takes mode answers a :=
  ⟨List.forall_mem_nil _, fun _ _ => rfl⟩

/-- If the reader takes a function from the answers, and the answer for one more field fills it with
a value, then with this field the reader takes the function's value. -/
theorem Takes.field {r : RecordReader (α → β)} {f : α → β} (hr : r.Takes mode answers f)
    {name : String} {d : Decoder α} {absent : Option α} {a : α}
    (hd : d.Fills mode absent (answers name) a) :
    (r.field name d absent).Takes mode answers (f a) := by
  constructor
  · intro field hfield v hv
    rcases List.mem_append.1 hfield with hfield | hfield
    · exact hr.check field hfield v hv
    · rw [List.mem_singleton.1 hfield] at hv ⊢
      have hread : d mode (.ofJson v) = .ok a := by
        change answers name = some v at hv
        rw [hv] at hd
        exact hd
      change (d mode (.ofJson v)).map (fun _ => ()) = .ok ()
      rw [hread]
      rfl
  · intro values hvalues
    have hbuild := hr.build values fun field hfield =>
      hvalues field (List.mem_append_left _ hfield)
    have hown := hvalues ⟨name, absent.isSome, fun mode o => (d mode o).map fun _ => ()⟩
      (List.mem_append_right _ List.mem_cons_self)
    change (values.find? (·.1 == name)).map (·.2) = (answers name).map .ofJson at hown
    unfold RecordReader.field
    simp only [hbuild]
    unfold Decoder.Fills at hd
    cases hanswer : answers name with
    | none =>
        rw [hanswer] at hown hd
        rw [Option.map_eq_none_iff.1 hown]
        simp only at hd ⊢
        rw [hd]
    | some v =>
        rw [hanswer] at hown hd
        obtain ⟨entry, hentry, hvalue⟩ := Option.map_eq_some_iff.1 hown
        obtain ⟨n, o⟩ := entry
        simp only at hvalue hd
        rw [hentry]
        simp only
        rw [hvalue, hd]
        rfl

variable {fields : List RecordField} {seen : List String} {ms : List (String × Json)}
  {name : String} {v : Json}

/-- The scan passes over a member that no field asks for. -/
theorem scan_unknown (hfind : fields.find? (·.name == name) = none) :
    scan fields Outline.isWhole mode true seen (Outline.ofMembers ((name, v) :: ms)) =
      scan fields Outline.isWhole mode true seen (Outline.ofMembers ms) := by
  rw [Outline.ofMembers, scan, hfind]
  simp only [Outline.isWhole_ofJson, if_true]

/-- The scan keeps a member that passes the check of its field, unless it kept one before. -/
theorem scan_known {g : RecordField} (hfind : fields.find? (·.name == name) = some g)
    (hseen : name ∉ seen) (hpass : g.check mode (.ofJson v) = .ok ()) {values : RecordValues}
    (hscan : scan fields Outline.isWhole mode true (name :: seen) (Outline.ofMembers ms) =
      .ok values) :
    scan fields Outline.isWhole mode true seen (Outline.ofMembers ((name, v) :: ms)) =
      .ok ((name, .ofJson v) :: values) := by
  have hunseen : ¬ seen.contains name = true := by rwa [List.contains_iff_mem]
  rw [Outline.ofMembers, scan, hfind]
  simp only [if_neg hunseen, hpass, hscan]

/-- What the scan keeps of an object are its answers to the fields. -/
theorem scan_ofMembers (hnames : (ms.map (·.1)).Nodup) (seen : List String)
    (hseen : ∀ m ∈ ms, m.1 ∉ seen)
    (hcheck : ∀ f ∈ fields, ∀ v, (Json.object ms).member? f.name = some v →
      f.check mode (.ofJson v) = .ok ()) :
    ∃ values, scan fields Outline.isWhole mode true seen (Outline.ofMembers ms) = .ok values ∧
      ∀ f ∈ fields, (values.find? (·.1 == f.name)).map (·.2) =
        ((Json.object ms).member? f.name).map .ofJson := by
  induction ms generalizing seen with
  | nil => exact ⟨[], rfl, fun _ _ => rfl⟩
  | cons m rest ih =>
      obtain ⟨name, v⟩ := m
      obtain ⟨hfresh, hrest⟩ := List.nodup_cons.1 hnames
      have hnone : (Json.object rest).member? name = none :=
        Json.member?_eq_none_iff.2 fun m hm heq => hfresh (List.mem_map.2 ⟨m, hm, heq⟩)
      have hcheck' : ∀ f ∈ fields, ∀ w, (Json.object rest).member? f.name = some w →
          f.check mode (.ofJson w) = .ok () := by
        intro f hf w hw
        refine hcheck f hf w ?_
        rw [Json.member?_cons, hw, Option.some_or]
      cases hfind : fields.find? (·.name == name) with
      | none =>
          obtain ⟨values, hscan, hvalues⟩ := ih hrest seen
            (fun m hm => hseen m (List.mem_cons_of_mem _ hm)) hcheck'
          refine ⟨values, (scan_unknown hfind).trans hscan, fun f hf => ?_⟩
          have hne : name ≠ f.name := fun heq =>
            List.find?_eq_none.1 hfind f hf (beq_iff_eq.2 heq.symm)
          rw [hvalues f hf, Json.member?_cons, if_neg hne, Option.or_none]
      | some g =>
          have hmatch := List.find?_some hfind
          have hname : g.name = name := beq_iff_eq.1 hmatch
          have hpass : g.check mode (.ofJson v) = .ok () := by
            refine hcheck g (List.mem_of_find?_eq_some hfind) v ?_
            rw [hname, Json.member?_cons, hnone, if_pos rfl, Option.none_or]
          have hseen' : ∀ m ∈ rest, m.1 ∉ name :: seen := by
            intro m hm hmem
            rcases List.mem_cons.1 hmem with heq | hmem
            · exact hfresh (List.mem_map.2 ⟨m, hm, heq⟩)
            · exact hseen m (List.mem_cons_of_mem _ hm) hmem
          obtain ⟨values, hscan, hvalues⟩ := ih hrest (name :: seen) hseen' hcheck'
          refine ⟨(name, .ofJson v) :: values,
            scan_known hfind (hseen (name, v) List.mem_cons_self) hpass hscan, fun f hf => ?_⟩
          by_cases heq : name = f.name
          · rw [← heq, Json.member?_cons, hnone, if_pos rfl, Option.none_or]
            simp
          · rw [List.find?_cons_of_neg (by simpa using heq), hvalues f hf, Json.member?_cons,
              if_neg heq, Option.or_none]

/-- What a reader makes of an object depends on its answers alone. -/
theorem ofMembers_takes {r : RecordReader α} {a : α}
    (hnames : (ms.map (·.1)).Nodup)
    (h : r.Takes mode (fun name => (Json.object ms).member? name) a) :
    r.ofMembers mode true (Outline.ofMembers ms) = .ok a := by
  obtain ⟨values, hscan, hvalues⟩ := scan_ofMembers hnames []
    (fun _ _ => List.not_mem_nil) h.check
  rw [ofMembers, hscan]
  exact h.build values hvalues

/-- What the decoder of a record makes of an object with sorted members. -/
theorem decoder_takes {r : RecordReader α} {record : String} {a : α}
    (h : r.Takes mode (fun name => ((Json.object ms).member? name).map Json.sorted) a) :
    r.decoder record mode (.ofJson (Json.object ms).sorted) = .ok a := by
  refine ofMembers_takes (Json.ascending_sortMembers _).nodup ?_
  simpa only [Json.member?_sortMembers, Json.member?_sortedMembers] using h

end RecordReader

end ControlPlane
