/-
What decoders answer is kept when it is written and read again.

A decoder keeps a value, with some way to write it, if it answers that value for what is written
(`Decoder.Keeps`), and then the numbers in it are legible. Scalars are kept if they lie in their
range, and what a decoder answers does (`natural_yields`). For records both is put together field by
field. What a record is made of has been answered by the decoders of its fields or is their default
(`RecordReader.Yields.field`), and a record is kept if each of its members gives its field the value
back (`RecordReader.Reads.field`, `RecordReader.Reads.keeps`).

Where one member does not, the scan stops there, and the complaint names it
(`RecordReader.Reads.refuses`).
-/
import ControlPlane.Proofs.Layout
import ControlPlane.Proofs.Members
import Mathlib.Data.List.Nodup

set_option autoImplicit false

namespace ControlPlane

/-! ## Legible values -/

namespace Json

theorem legible_null : null.Legible := List.forall_mem_nil _

theorem legible_bool (b : Bool) : (bool b).Legible := List.forall_mem_nil _

theorem legible_string (s : String) : (string s).Legible := List.forall_mem_nil _

/-- A legible number is a legible value. -/
theorem legible_number {n : JsonNumber} (hn : n.Legible) : (number n).Legible :=
  fun _ hk => List.mem_singleton.1 hk ▸ hn

/-- A list of legible values is legible. -/
theorem legible_array {items : List Json} (h : ∀ v ∈ items, v.Legible) :
    (array items).Legible := by
  change ∀ n ∈ itemNumbers items, n.Legible
  induction items with
  | nil => exact List.forall_mem_nil _
  | cons v rest ih =>
      have hrest := ih fun w hw => h w (List.mem_cons_of_mem v hw)
      exact List.forall_mem_append.2 ⟨h v List.mem_cons_self, hrest⟩

/-- An object whose members have legible values is legible. -/
theorem legible_object {members : List (String × Json)} (h : ∀ m ∈ members, m.2.Legible) :
    (object members).Legible := by
  change ∀ n ∈ memberNumbers members, n.Legible
  induction members with
  | nil => exact List.forall_mem_nil _
  | cons m rest ih =>
      have hrest := ih fun w hw => h w (List.mem_cons_of_mem m hw)
      exact List.forall_mem_append.2 ⟨h m List.mem_cons_self, hrest⟩

/-- If no name is used twice, each member is found under its name. -/
theorem member?_of_mem {ms : List (String × Json)} (hnames : (ms.map (·.1)).Nodup)
    {m : String × Json} (hm : m ∈ ms) : (object ms).member? m.1 = some m.2 := by
  induction ms with
  | nil => cases hm
  | cons first rest ih =>
      obtain ⟨hfirst, hrest⟩ := List.nodup_cons.1 hnames
      rw [← Prod.mk.eta (p := first), member?_cons]
      rcases List.mem_cons.1 hm with rfl | hm
      · have hnone : (object rest).member? m.1 = none :=
          member?_eq_none_iff.2 fun w hw heq => hfirst (List.mem_map.2 ⟨w, hw, heq⟩)
        rw [hnone, if_pos rfl, Option.none_or]
      · rw [ih hrest hm, Option.some_or]

/-- A list of written values is reread one by one. -/
theorem rereadItems_map {α : Type} (write : α → Json) (as : List α) :
    rereadItems (as.map write) = as.map fun a => (write a).reread := by
  induction as with
  | nil => rfl
  | cons a as ih => rw [List.map_cons, rereadItems, ih, List.map_cons]

/-- Members before and after are reread apart. -/
theorem rereadMembers_append (ms ms' : List (String × Json)) :
    rereadMembers (ms ++ ms') = rereadMembers ms ++ rereadMembers ms' := by
  induction ms with
  | nil => rfl
  | cons m rest ih => rw [List.cons_append, rereadMembers, ih, rereadMembers, List.cons_append]

/-- To reread the values leaves the names. -/
theorem names_rereadMembers (ms : List (String × Json)) :
    (rereadMembers ms).map (·.1) = ms.map (·.1) := by
  induction ms with
  | nil => rfl
  | cons m rest ih => rw [rereadMembers, List.map_cons, ih, List.map_cons]

end Json

/-! ## Decoders -/

namespace Decoder

variable {α : Type} {d : Decoder α} {write : α → Json} {P : α → Prop}

/-- Whatever the decoder answers has the property. -/
def Yields (d : Decoder α) (P : α → Prop) : Prop := ∀ mode o a, d mode o = .ok a → P a

/-- Of the answers of a decoder nothing is wanted. -/
theorem yields_any (d : Decoder α) : d.Yields fun _ => True := fun _ _ _ _ => trivial

/-- The decoder answers a value for what is written for it. -/
structure Keeps (d : Decoder α) (write : α → Json) (a : α) : Prop where
  /-- The numbers in what is written are legible. -/
  legible : (write a).Legible
  /-- What is read is the value. -/
  reads : ∀ mode, d mode (.ofJson (write a).reread) = .ok a

/-! ### Scalars -/

/-- Texts are kept. -/
theorem text_keeps (s : String) : text.Keeps .string s := ⟨Json.legible_string s, fun _ => rfl⟩

theorem text_yields : text.Yields (text.Keeps .string) := fun _ _ s _ => text_keeps s

/-- Truth values are kept. -/
theorem bool_keeps (b : Bool) : bool.Keeps .bool b := ⟨Json.legible_bool b, fun _ => rfl⟩

theorem bool_yields : bool.Yields (bool.Keeps .bool) := fun _ _ b _ => bool_keeps b

/-- A text that may be missing is kept. -/
theorem optionalText_keeps (o : Option String) : (orNull text).Keeps (Json.orNull .string) o := by
  cases o with
  | none => exact ⟨Json.legible_null, fun _ => rfl⟩
  | some s => exact ⟨Json.legible_string s, fun _ => rfl⟩

/-- Such a text is kept, whatever it was read from. -/
theorem optionalText_yields : (orNull text).Yields ((orNull text).Keeps (Json.orNull .string)) :=
  fun _ _ o _ => optionalText_keeps o

/-- An integer that is read is in its range. -/
theorem integer_yields (range : WordRange) (wanted : String) :
    (integer range wanted).Yields fun n => range.holds n = true := by
  intro mode o n h
  unfold integer at h
  split at h
  next k =>
    by_cases hk : range.holds k = true
    · rw [if_pos hk] at h
      exact Except.ok.inj h ▸ hk
    · rw [if_neg hk] at h
      cases h
  next => cases h

/-- A signed word of 64 bits is kept. -/
theorem signed64_keeps {n : Int} (hn : WordRange.signed64.holds n = true) :
    signed64.Keeps Json.int n := by
  have hback := JsonNumber.readsBack_signed64 hn
  refine ⟨Json.legible_number hback.legible, fun mode => ?_⟩
  rw [Json.int, Json.reread, hback.reread_eq]
  exact if_pos hn

/-- What is read as such a word is kept. -/
theorem signed64_yields : signed64.Yields (signed64.Keeps Json.int) :=
  fun mode o n h => signed64_keeps (integer_yields .signed64 "i64" mode o n h)

/-- Numbers of a range of unsigned words. -/
structure IsUnsigned (range : WordRange) : Prop where
  /-- The range starts at zero. -/
  least : range.least = 0
  /-- It ends with a number of 64 bits at most. -/
  greatest : range.greatest ≤ 18446744073709551615

/-- An unsigned word is kept. -/
theorem natural_keeps {range : WordRange} (hrange : IsUnsigned range) {wanted : String} {n : Nat}
    (hn : range.holds n = true) :
    (natural range wanted).Keeps (fun n => Json.int n) n := by
  obtain ⟨-, hgreatest⟩ := Bool.and_eq_true_iff.1 hn
  have hback : (JsonNumber.int n).ReadsBack :=
    JsonNumber.readsBack_int (by omega)
      (Int.le_trans (of_decide_eq_true hgreatest) hrange.greatest)
  refine ⟨Json.legible_number hback.legible, fun mode => ?_⟩
  rw [Json.int, Json.reread, hback.reread_eq]
  change (if range.holds n then Except.ok (n : Int) else _).map Int.toNat = _
  rw [if_pos hn]
  rfl

/-- What is read as an unsigned word is in its range. -/
theorem natural_holds {range : WordRange} (hrange : IsUnsigned range) (wanted : String) :
    (natural range wanted).Yields fun n => range.holds n = true := by
  intro mode o n h
  unfold natural at h
  cases hread : integer range wanted mode o with
  | error e =>
      rw [hread] at h
      cases h
  | ok k =>
      have hk := integer_yields range wanted mode o k hread
      have hleast : range.least ≤ k := of_decide_eq_true (Bool.and_eq_true_iff.1 hk).1
      rw [hrange.least] at hleast
      rw [hread] at h
      rwa [← Except.ok.inj h, Int.toNat_of_nonneg hleast]

/-- What is read as an unsigned word is kept. -/
theorem natural_yields {range : WordRange} (hrange : IsUnsigned range) (wanted : String) :
    (natural range wanted).Yields ((natural range wanted).Keeps fun n => Json.int n) :=
  fun mode o n h => natural_keeps hrange (natural_holds hrange wanted mode o n h)

/-! ### Lists -/

/-- If all answers of a decoder have a property, so have the items of a list it reads from some
place on. -/
theorem items_yields (hd : d.Yields P) {mode : ReadMode} {closed : Bool} {index : Nat}
    {os : List Outline} {as : List α} (h : items d mode closed index os = .ok as) :
    ∀ a ∈ as, P a := by
  induction os generalizing index as with
  | nil =>
      unfold items at h
      split at h
      · rw [← Except.ok.inj h]
        exact List.forall_mem_nil _
      · cases h
  | cons o rest ih =>
      unfold items at h
      split at h
      next => cases h
      next a hread =>
        split at h
        next => cases h
        next as' hrest =>
          rw [← Except.ok.inj h]
          exact List.forall_mem_cons.2 ⟨hd mode o a hread, ih hrest⟩

/-- The items of a list that is read have the property of what their decoder answers. -/
theorem list_yields (hd : d.Yields P) : (list d).Yields fun as => ∀ a ∈ as, P a := by
  intro mode o as h
  unfold list at h
  split at h
  next => exact items_yields hd h
  next => cases h

/-- If a decoder keeps some values, it reads them from the list of what is written for them. -/
theorem items_keeps {as : List α} (h : ∀ a ∈ as, d.Keeps write a) (mode : ReadMode) (index : Nat) :
    items d mode true index (Outline.ofItems (as.map fun a => (write a).reread)) = .ok as := by
  induction as generalizing index with
  | nil => rfl
  | cons a as ih =>
      rw [List.map_cons, Outline.ofItems, items, (h a List.mem_cons_self).reads]
      simp only
      rw [ih fun b hb => h b (List.mem_cons_of_mem a hb)]

/-- A list of values that are kept is kept. -/
theorem list_keeps {as : List α} (h : ∀ a ∈ as, d.Keeps write a) :
    (list d).Keeps (fun as => .array (as.map write)) as := by
  constructor
  · refine Json.legible_array fun v hv => ?_
    obtain ⟨a, ha, rfl⟩ := List.mem_map.1 hv
    exact (h a ha).legible
  · intro mode
    rw [Json.reread, Json.rereadItems_map, Outline.ofJson, list]
    exact items_keeps h mode 0

end Decoder

/-! ## Records -/

namespace RecordReader

variable {α β : Type} {d : Decoder α} {write : α → Json} {name record : String}
  {absent : Option α}

/-- Whatever record is put together has the property. -/
def Yields (r : RecordReader α) (P : α → Prop) : Prop :=
  ∀ mode values a, r.build mode values = .ok a → P a

/-- A record without fields is the one that it starts from. -/
theorem yields_start {P : α → Prop} {a : α} (h : P a) : (start a).Yields P := by
  intro mode values b hb
  exact Except.ok.inj hb ▸ h

/-- The value of a field was answered by its decoder or is the one for a record without it. -/
theorem Yields.field {r : RecordReader (α → β)} {P : α → Prop} {Q : β → Prop}
    (hr : r.Yields fun f => ∀ a, P a → Q (f a)) (hd : d.Yields P)
    (habsent : ∀ a, absent = some a → P a) : (r.field name d absent).Yields Q := by
  intro mode values b h
  unfold RecordReader.field at h
  simp only at h
  split at h
  next => cases h
  next f hbuild =>
    have hf := hr mode values f hbuild
    split at h
    next o _ =>
      cases hread : d mode o with
      | error e =>
          rw [hread] at h
          cases h
      | ok a =>
          rw [hread] at h
          exact Except.ok.inj h ▸ hf a (hd mode o a hread)
    next =>
      cases habs : absent with
      | none =>
          rw [habs] at h
          cases h
      | some a =>
          rw [habs] at h
          exact Except.ok.inj h ▸ hf a (habsent a habs)

/-- A field that may not be missing has a value which its decoder answered. -/
theorem Yields.required {r : RecordReader (α → β)} {P : α → Prop} {Q : β → Prop}
    (hr : r.Yields fun f => ∀ a, P a → Q (f a)) (hd : d.Yields P) :
    (r.required name d).Yields Q :=
  hr.field hd fun _ h => by cases h

/-- A field that may be missing has a value which its decoder answered, or its default. -/
theorem Yields.defaulted {r : RecordReader (α → β)} {P : α → Prop} {Q : β → Prop}
    (hr : r.Yields fun f => ∀ a, P a → Q (f a)) (hd : d.Yields P) {a : α} (ha : P a) :
    (r.defaulted name d a).Yields Q :=
  hr.field hd fun _ h => Option.some.inj h ▸ ha

/-- A field that may be missing or null has a value which its decoder answered, or none. -/
theorem Yields.optional {r : RecordReader (Option α → β)} {P : Option α → Prop} {Q : β → Prop}
    (hr : r.Yields fun f => ∀ o, P o → Q (f o)) (hd : (Decoder.orNull d).Yields P)
    (hnone : P none) : (r.optional name d).Yields Q :=
  hr.field hd fun _ h => Option.some.inj h ▸ hnone

/-- What is read from an object or a list was put together. -/
theorem Yields.decoder {r : RecordReader α} {P : α → Prop} (hr : r.Yields P) (record : String) :
    (r.decoder record).Yields P := by
  intro mode o a h
  unfold RecordReader.decoder at h
  split at h
  next =>
    unfold ofMembers at h
    split at h
    next => cases h
    next values _ => exact hr _ values a h
  next =>
    split at h
    next => cases h
    next values _ => exact hr _ values a h
  next => cases h

/-- From members such as these, with their numbers as they are read, the reader makes a record. -/
structure Reads (r : RecordReader α) (ms : List (String × Json)) (a : α) : Prop where
  /-- Each field has its member. -/
  fields : r.fields.map (·.name) = ms.map (·.1)
  /-- Whatever answers with these members gives the fields their values. -/
  takes : ∀ mode (answers : String → Option Json), (∀ m ∈ ms, answers m.1 = some m.2.reread) →
    r.Takes mode answers a
  /-- The numbers in the members are legible. -/
  legible : ∀ m ∈ ms, m.2.Legible

/-- A record without fields is read from no members. -/
theorem reads_start (a : α) : (start a).Reads [] a :=
  ⟨rfl, fun _ _ _ => takes_start a, List.forall_mem_nil _⟩

/-- A field takes its value from one more member. -/
theorem Reads.field {r : RecordReader (α → β)} {ms : List (String × Json)} {f : α → β} {a : α}
    (h : r.Reads ms f) (name : String) (hd : d.Keeps write a) :
    (r.field name d absent).Reads (ms ++ [(name, write a)]) (f a) := by
  constructor
  · unfold RecordReader.field
    rw [List.map_append, h.fields, List.map_append]
    rfl
  · -- the fields before it see the same answers, so they are not looked at again
    intro mode answers hanswers
    obtain ⟨hothers, hown⟩ := List.forall_mem_append.1 hanswers
    refine (h.takes mode answers hothers).field ?_
    rw [hown (name, write a) List.mem_cons_self]
    exact hd.reads mode
  · exact List.forall_mem_append.2 ⟨h.legible, List.forall_mem_singleton.2 hd.legible⟩

/-- Each member is reread with the others. -/
theorem mem_rereadMembers {ms : List (String × Json)} {m : String × Json} (hm : m ∈ ms) :
    (m.1, m.2.reread) ∈ Json.rereadMembers ms := by
  induction ms with
  | nil => cases hm
  | cons first rest ih =>
      rcases List.mem_cons.1 hm with rfl | hm
      · exact List.mem_cons_self
      · exact List.mem_cons_of_mem _ (ih hm)

/-- A record that is read from some members is read from the object of these. -/
theorem Reads.takes_object {r : RecordReader α} {ms : List (String × Json)} {a : α}
    (h : r.Reads ms a) (hnames : (ms.map (·.1)).Nodup) (mode : ReadMode) :
    r.Takes mode (fun name => (Json.object (Json.rereadMembers ms)).member? name) a := by
  refine h.takes mode _ fun m hm => ?_
  exact Json.member?_of_mem (Json.names_rereadMembers ms ▸ hnames) (mem_rereadMembers hm)

/-- A record is kept if it is read from what is written for it. -/
theorem Reads.keeps {r : RecordReader α} {ms : List (String × Json)} {a : α} (h : r.Reads ms a)
    {toJson : α → Json} (hwritten : toJson a = .object ms) (hnames : (ms.map (·.1)).Nodup)
    (record : String) : (r.decoder record).Keeps toJson a := by
  constructor
  · rw [hwritten]
    exact Json.legible_object h.legible
  · intro mode
    rw [hwritten]
    exact ofMembers_takes (Json.names_rereadMembers ms ▸ hnames) (h.takes_object hnames mode)

/-! ### Members that are refused -/

variable {mode : ReadMode}

/-- The scan stops at the first member that does not pass. -/
theorem scan_refuses {fields : List RecordField} {ms : List (String × Json)} {seen : List String}
    (hpass : ∀ m ∈ ms, ∃ g, fields.find? (·.name == m.1) = some g ∧
      g.check mode (.ofJson m.2) = .ok ())
    (hnames : (ms.map (·.1)).Nodup) (hseen : ∀ m ∈ ms, m.1 ∉ seen) (hname : name ∉ seen)
    (hfresh : name ∉ ms.map (·.1)) {g : RecordField} {v : Json} {e : Defect}
    (hfind : fields.find? (·.name == name) = some g) (he : g.check mode (.ofJson v) = .error e)
    (rest : List (String × Json)) :
    scan fields Outline.isWhole mode true seen (Outline.ofMembers (ms ++ (name, v) :: rest)) =
      .error (e.inside (.member name)) := by
  induction ms generalizing seen with
  | nil =>
      rw [List.nil_append, Outline.ofMembers, scan, hfind]
      simp only [List.contains_iff_mem, if_neg hname, he]
  | cons m ms ih =>
      obtain ⟨n, w⟩ := m
      obtain ⟨g', hfind', hpass'⟩ := hpass (n, w) List.mem_cons_self
      obtain ⟨hfirst, hrest⟩ := List.nodup_cons.1 hnames
      have hseen' : ∀ m ∈ ms, m.1 ∉ n :: seen := fun m hm =>
        List.not_mem_cons_of_ne_of_not_mem (fun heq => hfirst (List.mem_map.2 ⟨m, hm, heq⟩))
          (hseen m (List.mem_cons_of_mem _ hm))
      have hname' : name ∉ n :: seen :=
        List.not_mem_cons_of_ne_of_not_mem (List.ne_of_not_mem_cons hfresh) hname
      have hscan := ih (fun m hm => hpass m (List.mem_cons_of_mem _ hm)) hrest hseen' hname'
        (List.not_mem_of_not_mem_cons hfresh)
      rw [List.cons_append, Outline.ofMembers, scan, hfind']
      simp only [List.contains_iff_mem, if_neg (hseen (n, w) List.mem_cons_self), hpass', hscan]

/-- Members of fields pass the check of a reader that has these fields first. -/
theorem Reads.passes {r : RecordReader α} {ms : List (String × Json)} {a : α} (h : r.Reads ms a)
    (hnodup : (ms.map (·.1)).Nodup) (mode : ReadMode) (more : List RecordField) :
    ∀ m ∈ Json.rereadMembers ms, ∃ g, (r.fields ++ more).find? (·.name == m.1) = some g ∧
      g.check mode (.ofJson m.2) = .ok () := by
  intro m hm
  have hnames := Json.names_rereadMembers ms
  have hname : m.1 ∈ r.fields.map (·.name) := by
    rw [h.fields, ← hnames]
    exact List.mem_map.2 ⟨m, hm, rfl⟩
  obtain ⟨g, hg, hgname⟩ := List.mem_map.1 hname
  cases hfind : r.fields.find? (·.name == m.1) with
  | none => exact absurd (beq_iff_eq.2 hgname) (List.find?_eq_none.1 hfind g hg)
  | some g' =>
      have hmatch := List.find?_some hfind
      have hg'name : g'.name = m.1 := beq_iff_eq.1 hmatch
      refine ⟨g', by rw [List.find?_append, hfind, Option.some_or], ?_⟩
      refine (h.takes_object hnodup mode).check g' (List.mem_of_find?_eq_some hfind) m.2 ?_
      rw [hg'name]
      exact Json.member?_of_mem (hnames ▸ hnodup) hm

/-- If the member after those of the first fields does not pass, the record is refused, and the
complaint names that member. -/
theorem Reads.refuses {γ : Type} {r : RecordReader (α → β)} {ms : List (String × Json)}
    {f : α → β} (h : r.Reads ms f) {r' : RecordReader γ} {more : List RecordField}
    (hfields : r'.fields = (r.field name d absent).fields ++ more)
    (hnodup : (ms.map (·.1)).Nodup) (hname : name ∉ ms.map (·.1)) {v : Json} {e : Defect}
    (hd : d mode (.ofJson v.reread) = .error e)
    (rest : List (String × Json)) (record : String) :
    r'.decoder record mode (.ofJson (Json.object (ms ++ (name, v) :: rest)).reread) =
      .error (e.inside (.member name)) := by
  have hnames := Json.names_rereadMembers ms
  let own : RecordField := ⟨name, absent.isSome, fun mode o => (d mode o).map fun _ => ()⟩
  have hall : r'.fields = r.fields ++ (own :: more) := by
    rw [hfields]
    exact List.append_assoc _ _ _
  -- none of the first fields has the name, so it is the next one that is asked
  have hunknown : r.fields.find? (·.name == name) = none := by
    refine List.find?_eq_none.2 fun g hg hmatch => hname ?_
    rw [← h.fields]
    exact List.mem_map.2 ⟨g, hg, beq_iff_eq.1 hmatch⟩
  have hfind : r'.fields.find? (·.name == name) = some own := by
    rw [hall, List.find?_append, hunknown, Option.none_or]
    exact List.find?_cons_of_pos (beq_iff_eq.2 rfl)
  have hcheck : own.check mode (.ofJson v.reread) = .error e := by
    change (d mode (.ofJson v.reread)).map (fun _ => ()) = .error e
    rw [hd]
    rfl
  have hscan := scan_refuses (hall ▸ h.passes hnodup mode (own :: more)) (hnames ▸ hnodup)
    (fun _ _ => List.not_mem_nil) List.not_mem_nil (hnames ▸ hname) hfind hcheck
    (Json.rereadMembers rest)
  rw [Json.reread, Json.rereadMembers_append, Json.rereadMembers, Outline.ofJson]
  change r'.ofMembers mode true _ = _
  rw [ofMembers, hscan]

end RecordReader

end ControlPlane
