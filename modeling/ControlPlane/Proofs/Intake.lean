/-
Records out of the members of a text.

In a text the members of an object stand in any order, with members among them that nobody asks
for, and more than one of those may have one name. A record is read from the values that stand under
the names of its fields (`named`), at most one under each: a field adds its value if what stands
under its name is something that its decoder takes, or if nothing does and the field has a value for
that (`Gathers.field`). The rest is passed over, as long as it is whole (`ofMembers_gathers`).
-/
import ControlPlane.Json.Decode

set_option autoImplicit false

namespace ControlPlane

/-- The values that stand under a name. -/
def named (name : String) (ms : List (Option String × Outline)) : List Outline :=
  (ms.filter fun m => m.1 == some name).map (·.2)

section Named

variable (name : String) {n : String} (o : Outline) (ms : List (Option String × Outline))

/-- A member of the name comes first among those of the name. -/
theorem named_self : named name ((some name, o) :: ms) = o :: named name ms := by
  simp [named]

/-- A member of another name is passed over. -/
theorem named_other (h : n ≠ name) : named name ((some n, o) :: ms) = named name ms := by
  simp [named, h]

/-- One more member in front takes no value away. -/
theorem named_suffix (m : Option String × Outline) : named name ms <:+ named name (m :: ms) := by
  unfold named
  rw [List.filter_cons]
  split
  · exact List.suffix_cons _ _
  · exact List.suffix_refl _

/-- The values under a name are those of its members. -/
theorem mem_named {name : String} {o : Outline} {ms : List (Option String × Outline)} :
    o ∈ named name ms ↔ (some name, o) ∈ ms := by
  simp [named]

end Named

namespace Decoder

/-- The values under a name give a field its value: either there is one and the decoder takes it,
or there is none and the field has a value for that. -/
def Gives {α : Type} (d : Decoder α) (mode : ReadMode) (absent : Option α) :
    List Outline → α → Prop
  | [], a => absent = some a
  | [o], a => d mode o = .ok a
  | _, _ => False

end Decoder

namespace RecordReader

variable {α β : Type} {mode : ReadMode} {ms : List (Option String × Outline)}

/-- The reader makes a record of such members. -/
structure Gathers (r : RecordReader α) (mode : ReadMode) (ms : List (Option String × Outline))
    (a : α) : Prop where
  /-- No field is given twice. -/
  single : ∀ f ∈ r.fields, (named f.name ms).length ≤ 1
  /-- The values of fields pass the scan. -/
  check : ∀ f ∈ r.fields, ∀ o ∈ named f.name ms, f.check mode o = .ok ()
  /-- From the values of its fields the record is built. -/
  build : ∀ values : RecordValues,
    (∀ f ∈ r.fields, (values.find? (·.1 == f.name)).map (·.2) = (named f.name ms).head?) →
      r.build mode values = .ok a

/-- A record without fields is made of any members. -/
theorem gathers_start (a : α) : (start a).Gathers mode ms a :=
  ⟨List.forall_mem_nil _, List.forall_mem_nil _, fun _ _ => rfl⟩

/-- If the reader makes a function of the members, and the decoder of one more field gives a value,
then with this field the reader makes the function's value. -/
theorem Gathers.field {r : RecordReader (α → β)} {f : α → β} (hr : r.Gathers mode ms f)
    {name : String} {d : Decoder α} {absent : Option α} {a : α}
    (hd : d.Gives mode absent (named name ms) a) :
    (r.field name d absent).Gathers mode ms (f a) := by
  have hshape : (named name ms = [] ∧ absent = some a) ∨
      ∃ o, named name ms = [o] ∧ d mode o = .ok a := by
    match hnamed : named name ms with
    | [] =>
        rw [hnamed] at hd
        exact Or.inl ⟨rfl, hd⟩
    | [o] =>
        rw [hnamed] at hd
        exact Or.inr ⟨o, rfl, hd⟩
    | o :: o' :: os =>
        rw [hnamed] at hd
        exact hd.elim
  constructor
  · intro field hfield
    rcases List.mem_append.1 hfield with hfield | hfield
    · exact hr.single field hfield
    · rw [List.mem_singleton.1 hfield]
      rcases hshape with ⟨hnone, -⟩ | ⟨o, hone, -⟩
      · simp [hnone]
      · simp [hone]
  · intro field hfield o ho
    rcases List.mem_append.1 hfield with hfield | hfield
    · exact hr.check field hfield o ho
    · rw [List.mem_singleton.1 hfield] at ho ⊢
      rcases hshape with ⟨hnone, -⟩ | ⟨o', hone, hread⟩
      · simp [hnone] at ho
      · rw [hone] at ho
        rw [List.mem_singleton.1 ho]
        change (d mode o').map (fun _ => ()) = .ok ()
        rw [hread]
        rfl
  · intro values hvalues
    have hbuild := hr.build values fun field hfield =>
      hvalues field (List.mem_append_left _ hfield)
    have hown := hvalues ⟨name, absent.isSome, fun mode o => (d mode o).map fun _ => ()⟩
      (List.mem_append_right _ List.mem_cons_self)
    change (values.find? (·.1 == name)).map (·.2) = (named name ms).head? at hown
    unfold RecordReader.field
    simp only [hbuild]
    rcases hshape with ⟨hnone, habsent⟩ | ⟨o, hone, hread⟩
    · rw [hnone, List.head?_nil, Option.map_eq_none_iff] at hown
      rw [hown, habsent]
    · rw [hone, List.head?_cons] at hown
      obtain ⟨⟨n, o'⟩, hentry, rfl⟩ := Option.map_eq_some_iff.1 hown
      rw [hentry]
      dsimp only
      rw [hread]
      rfl

variable {fields : List RecordField} {passes : Outline → Bool}

/-- What the scan keeps is what stands under the names of the fields. -/
theorem scan_named (hms : ∀ m ∈ ms, m.1.isSome = true ∧ passes m.2 = true) (seen : List String)
    (hseen : ∀ f ∈ fields, f.name ∈ seen → named f.name ms = [])
    (hsingle : ∀ f ∈ fields, (named f.name ms).length ≤ 1)
    (hcheck : ∀ f ∈ fields, ∀ o ∈ named f.name ms, f.check mode o = .ok ()) :
    ∃ values, scan fields passes mode true seen ms = .ok values ∧
      ∀ f ∈ fields, (values.find? (·.1 == f.name)).map (·.2) = (named f.name ms).head? := by
  induction ms generalizing seen with
  | nil => exact ⟨[], rfl, fun _ _ => rfl⟩
  | cons m rest ih =>
      obtain ⟨hm, hrest⟩ := List.forall_mem_cons.1 hms
      obtain ⟨name | name, o⟩ := m
      · cases hm.1
      have hless : ∀ f : RecordField, named f.name rest <:+ named f.name ((some name, o) :: rest) :=
        fun f => named_suffix f.name rest (some name, o)
      have hseen' : ∀ f ∈ fields, f.name ∈ seen → named f.name rest = [] :=
        fun f hf hmem => List.suffix_nil.1 (hseen f hf hmem ▸ hless f)
      have hsingle' : ∀ f ∈ fields, (named f.name rest).length ≤ 1 :=
        fun f hf => Nat.le_trans (hless f).length_le (hsingle f hf)
      have hcheck' : ∀ f ∈ fields, ∀ p ∈ named f.name rest, f.check mode p = .ok () :=
        fun f hf p hp => hcheck f hf p ((hless f).subset hp)
      cases hfind : fields.find? (·.name == name) with
      | none =>
          -- nobody asks for the member
          obtain ⟨values, hscan, hvalues⟩ := ih hrest seen hseen' hsingle' hcheck'
          refine ⟨values, ?_, fun f hf => ?_⟩
          · rw [scan, hfind]
            dsimp only
            rw [if_pos hm.2, hscan]
          · have hne : name ≠ f.name := fun heq =>
              List.find?_eq_none.1 hfind f hf (beq_iff_eq.2 heq.symm)
            rw [hvalues f hf, named_other f.name o rest hne]
      | some g =>
          have hg := List.mem_of_find?_eq_some hfind
          have hmatch := List.find?_some hfind
          obtain rfl : g.name = name := beq_iff_eq.1 hmatch
          have hown := named_self g.name o rest
          have hpass : g.check mode o = .ok () :=
            hcheck g hg o (by rw [hown]; exact List.mem_cons_self)
          have hunseen : ¬ seen.contains g.name = true := by
            rw [List.contains_iff_mem]
            intro hmem
            rw [hseen g hg hmem] at hown
            cases hown
          have hlast : named g.name rest = [] := by
            have hlength := hsingle g hg
            rw [hown, List.length_cons] at hlength
            exact List.length_eq_zero_iff.1 (by omega)
          have hseen'' : ∀ f ∈ fields, f.name ∈ g.name :: seen → named f.name rest = [] := by
            intro f hf hmem
            rcases List.mem_cons.1 hmem with heq | hmem
            · rw [heq, hlast]
            · exact hseen' f hf hmem
          obtain ⟨values, hscan, hvalues⟩ := ih hrest (g.name :: seen) hseen'' hsingle' hcheck'
          refine ⟨(g.name, o) :: values, ?_, fun f hf => ?_⟩
          · rw [scan, hfind]
            dsimp only
            rw [if_neg hunseen, hpass, hscan]
          · by_cases heq : g.name = f.name
            · rw [← heq, hown]
              simp
            · rw [List.find?_cons_of_neg (by simpa using heq), hvalues f hf,
                named_other f.name o rest heq]

/-- What a reader makes of the members of an object depends on what stands under the names of its
fields alone. -/
theorem ofMembers_gathers {r : RecordReader α} {a : α}
    (hms : ∀ m ∈ ms, m.1.isSome = true ∧ m.2.isWhole = true) (h : r.Gathers mode ms a) :
    r.ofMembers mode true ms = .ok a := by
  obtain ⟨values, hscan, hvalues⟩ := scan_named hms [] (fun _ _ hmem => by cases hmem) h.single
    h.check
  rw [ofMembers, hscan]
  exact h.build values hvalues

end RecordReader

end ControlPlane
