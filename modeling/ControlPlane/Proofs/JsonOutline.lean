/-
The value that an outline stands for.

What is kept of an outline is a value in order: the members of its objects ascend, and containers
stand no deeper in it than there was room (`toJson?_spec`). With more room the same value is kept,
so that an outline stands for one value at most (`Stands.unique`).
-/
import ControlPlane.Proofs.Members

set_option autoImplicit false

namespace ControlPlane

namespace Json

variable {name : String} {v : Json} {ms : List (String × Json)}

/-! ## Members in order -/

/-- A member whose name is after all the others goes to the end. -/
theorem insertMember_last (h : ∀ m ∈ ms, m.1 < name) :
    insertMember name v ms = ms ++ [(name, v)] := by
  induction ms with
  | nil => rfl
  | cons head rest ih =>
      obtain ⟨n, w⟩ := head
      obtain ⟨hhead, hrest⟩ := List.forall_mem_cons.1 h
      rw [insertMember, if_neg (not_lt_of_gt hhead), if_neg (ne_of_gt hhead), ih hrest,
        List.cons_append]

/-- Sorting goes on with members that ascend by putting them at the end. -/
theorem sort_from_ascending (rest done : List (String × Json)) (h : Ascending (done ++ rest)) :
    rest.foldl (fun sorted (name, value) => insertMember name value sorted) done =
      done ++ rest := by
  induction rest generalizing done with
  | nil => exact (List.append_nil done).symm
  | cons m rest ih =>
      obtain ⟨name, v⟩ := m
      obtain ⟨-, -, hbefore⟩ := List.pairwise_append.1 h
      have hlast : insertMember name v done = done ++ [(name, v)] :=
        insertMember_last fun d hd => hbefore d hd (name, v) List.mem_cons_self
      rw [List.foldl_cons]
      dsimp only
      rw [hlast, ih _ (by rwa [List.append_assoc]), List.append_assoc, List.singleton_append]

/-- Members in order stay as they are. -/
theorem sortMembers_eq_self (h : Ascending ms) : sortMembers ms = ms :=
  sort_from_ascending ms [] h

/-- What is found after members were put in one by one was there before or was put in. -/
theorem mem_sort_from {m : String × Json} (rest done : List (String × Json))
    (h : m ∈ rest.foldl (fun sorted (name, value) => insertMember name value sorted) done) :
    m ∈ done ∨ m ∈ rest := by
  induction rest generalizing done with
  | nil => exact Or.inl h
  | cons head rest ih =>
      rcases ih _ h with hm | hm
      · rcases mem_insertMember hm with rfl | hm
        · exact Or.inr List.mem_cons_self
        · exact Or.inl hm
      · exact Or.inr (List.mem_cons_of_mem _ hm)

/-- Sorting adds no member. -/
theorem mem_sortMembers {m : String × Json} (h : m ∈ sortMembers ms) : m ∈ ms :=
  (mem_sort_from ms [] h).resolve_left List.not_mem_nil

/-- Members whose values are sorted stay as they are when the values are sorted. -/
theorem sortedMembers_eq_self (h : ∀ m ∈ ms, m.2.sorted = m.2) : sortedMembers ms = ms := by
  induction ms with
  | nil => rfl
  | cons m rest ih =>
      obtain ⟨hm, hrest⟩ := List.forall_mem_cons.1 h
      rw [sortedMembers, hm, ih hrest]

/-- Members are no deeper than the deepest of their values. -/
theorem memberDepth_le {room : Nat} (h : ∀ m ∈ ms, m.2.depth ≤ room) : memberDepth ms ≤ room := by
  induction ms with
  | nil => exact Nat.zero_le _
  | cons m rest ih =>
      obtain ⟨hm, hrest⟩ := List.forall_mem_cons.1 h
      exact Nat.max_le.2 ⟨hm, ih hrest⟩

end Json

namespace Outline

open Json

/-- What is kept of an outline. -/
structure Kept (o : Outline) (room : Nat) (v : Json) : Prop where
  /-- Nothing breaks off. -/
  whole : o.isWhole = true
  /-- The members of objects are in order. -/
  sorted : v.sorted = v
  /-- There was room for the containers. -/
  depth : v.depth ≤ room
  /-- With more room the same is kept. -/
  more : ∀ room', room ≤ room' → o.toJson? room' = some v

mutual

/-- What is kept of a value is as it should be. -/
theorem toJson?_spec : (o : Outline) → {room : Nat} → {v : Json} → o.toJson? room = some v →
    o.Kept room v
  | .null, _, _, h => by
      cases h
      exact ⟨rfl, rfl, Nat.zero_le _, fun _ _ => rfl⟩
  | .bool b, _, _, h => by
      cases h
      exact ⟨rfl, rfl, Nat.zero_le _, fun _ _ => rfl⟩
  | .number (some n), _, _, h => by
      cases h
      exact ⟨rfl, rfl, Nat.zero_le _, fun _ _ => rfl⟩
  | .string (some s), _, _, h => by
      cases h
      exact ⟨rfl, rfl, Nat.zero_le _, fun _ _ => rfl⟩
  | .array os closed, room + 1, v, h => by
      rw [toJson?] at h
      split at h
      next hclosed =>
        obtain ⟨vs, hvs, rfl⟩ := Option.map_eq_some_iff.1 h
        obtain ⟨hwhole, hsorted, hdepth, hmore⟩ := itemsToJson?_spec os hvs
        refine ⟨by rw [isWhole, hclosed, hwhole]; rfl, by rw [Json.sorted, hsorted],
          Nat.succ_le_succ hdepth, fun room' hroom => ?_⟩
        obtain ⟨room', rfl⟩ : ∃ k, room' = k + 1 := ⟨room' - 1, by omega⟩
        rw [toJson?, if_pos hclosed, hmore room' (by omega), Option.map_some]
      next => cases h
  | .object ms closed, room + 1, v, h => by
      rw [toJson?] at h
      split at h
      next hclosed =>
        obtain ⟨js, hjs, rfl⟩ := Option.map_eq_some_iff.1 h
        obtain ⟨hwhole, hmembers, hmore⟩ := membersToJson?_spec ms hjs
        have hkept : ∀ m ∈ sortMembers js, m.2.sorted = m.2 ∧ m.2.depth ≤ room :=
          fun m hm => hmembers m (mem_sortMembers hm)
        refine ⟨by rw [isWhole, hclosed, hwhole]; rfl, ?_,
          Nat.succ_le_succ (memberDepth_le fun m hm => (hkept m hm).2), fun room' hroom => ?_⟩
        · rw [Json.sorted, sortedMembers_eq_self fun m hm => (hkept m hm).1,
            sortMembers_eq_self (ascending_sortMembers js)]
        · obtain ⟨room', rfl⟩ : ∃ k, room' = k + 1 := ⟨room' - 1, by omega⟩
          rw [toJson?, if_pos hclosed, hmore room' (by omega), Option.map_some]
      next => cases h

/-- So it is for the items of a list. -/
theorem itemsToJson?_spec : (os : List Outline) → {room : Nat} → {vs : List Json} →
    itemsToJson? room os = some vs →
    allWhole os = true ∧ sortedItems vs = vs ∧ itemDepth vs ≤ room ∧
      ∀ room', room ≤ room' → itemsToJson? room' os = some vs
  | [], _, _, h => by
      cases h
      exact ⟨rfl, rfl, Nat.zero_le _, fun _ _ => rfl⟩
  | o :: os, room, vs, h => by
      rw [itemsToJson?] at h
      split at h
      next v vs' hv hvs =>
        cases h
        have hhead := toJson?_spec o hv
        obtain ⟨hwhole, hsorted, hdepth, hmore⟩ := itemsToJson?_spec os hvs
        refine ⟨by rw [allWhole, hhead.whole, hwhole]; rfl,
          by rw [sortedItems, hhead.sorted, hsorted], Nat.max_le.2 ⟨hhead.depth, hdepth⟩,
          fun room' hroom => ?_⟩
        rw [itemsToJson?, hhead.more room' hroom, hmore room' hroom]
      next => cases h

/-- So it is for the members of an object. -/
theorem membersToJson?_spec : (ms : List (Option String × Outline)) → {room : Nat} →
    {js : List (String × Json)} → membersToJson? room ms = some js →
    allMembersWhole ms = true ∧ (∀ m ∈ js, m.2.sorted = m.2 ∧ m.2.depth ≤ room) ∧
      ∀ room', room ≤ room' → membersToJson? room' ms = some js
  | [], _, _, h => by
      cases h
      exact ⟨rfl, List.forall_mem_nil _, fun _ _ => rfl⟩
  | (name, o) :: ms, room, js, h => by
      unfold membersToJson? at h
      split at h
      next name v js' hv hjs =>
        cases h
        have hhead := toJson?_spec o hv
        obtain ⟨hwhole, hmembers, hmore⟩ := membersToJson?_spec ms hjs
        refine ⟨by rw [allMembersWhole, hhead.whole, hwhole]; rfl,
          List.forall_mem_cons.2 ⟨⟨hhead.sorted, hhead.depth⟩, hmembers⟩, fun room' hroom => ?_⟩
        unfold membersToJson?
        rw [hhead.more room' hroom, hmore room' hroom]
      next => cases h

end

/-- The outline stands for the value. -/
def Stands (o : Outline) (v : Json) : Prop := ∃ room, o.toJson? room = some v

variable {o : Outline} {v v' : Json}

/-- An outline stands for one value at most. -/
theorem Stands.unique (h : o.Stands v) (h' : o.Stands v') : v = v' := by
  obtain ⟨room, hv⟩ := h
  obtain ⟨room', hv'⟩ := h'
  have hmore := (toJson?_spec o hv).more _ (Nat.le_max_left room room')
  have hmore' := (toJson?_spec o hv').more _ (Nat.le_max_right room room')
  exact Option.some.inj (hmore.symm.trans hmore')

end Outline

end ControlPlane
