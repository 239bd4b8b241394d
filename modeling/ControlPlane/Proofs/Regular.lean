/-
Parents and places.

Two facts about every store that calls have made of the empty one, beside the order of its
tables. Every action serves a message that is there (`Store.Anchored`). And the actions of a
message have the places 1, 2, 3 and so on in the order in which they were added
(`Store.Sequenced`), so that the last place is also their number (`lastSequence_eq`).
-/
import ControlPlane.Proofs.Answer

set_option autoImplicit false

namespace ControlPlane

namespace Store

variable {s s' : Store} {now : Instant} {call : Call}

/-! ## Parents -/

/-- Every action serves a message that is there. -/
def Anchored (s : Store) : Prop := ∀ a ∈ s.actions, ∃ r ∈ s.messages, r.id = a.messageId

theorem empty_anchored : Store.empty.Anchored := fun _ h => absurd h List.not_mem_nil

/-- No call leaves an action without its message. -/
theorem Change.anchored (h : s.Change now call s') (hs : s.Anchored) : s'.Anchored := by
  cases h with
  | nothing => exact hs
  | actions _ f hf =>
      intro b hb
      obtain ⟨a, ha, rfl⟩ := List.mem_map.1 hb
      rw [(hf a).becomes.messageId]
      exact hs a ha
  | messages _ f hf =>
      intro a ha
      obtain ⟨r, hr, hid⟩ := hs a ha
      exact ⟨f r, List.mem_map_of_mem hr, (hf r).id.trans hid⟩
  | conversations => exact hs
  | newConversation => exact hs
  | newMessage =>
      intro a ha
      obtain ⟨r, hr, hid⟩ := hs a ha
      exact ⟨r, List.mem_append_left _ hr, hid⟩
  | newAction m kind parameters hm =>
      intro a ha
      rcases List.mem_append.1 ha with ha | ha
      · exact hs a ha
      · obtain ⟨r, hfind⟩ := Option.isSome_iff_exists.1 hm
        have hid : r.id = m := by simpa using List.find?_some hfind
        rw [List.mem_singleton.1 ha]
        exact ⟨r, List.mem_of_find?_eq_some hfind, hid⟩

/-! ## Places -/

/-- The actions of a message, in the order of their numbers. -/
def servants (s : Store) (message : Int) : List ActionRow :=
  s.actions.filter (·.messageId == message)

/-- The places of the actions of a message are 1, 2, 3 and so on. -/
def Sequenced (s : Store) : Prop :=
  ∀ m, (s.servants m).map (·.sequence) =
    (List.range (s.servants m).length).map fun (i : Nat) => (i : Int) + 1

theorem empty_sequenced : Store.empty.Sequenced := fun _ => rfl

/-- The actions of a message stay its actions when rows only become what they may. -/
theorem servants_map {f : ActionRow → ActionRow} (hf : ∀ a : ActionRow, a.Becomes (f a))
    (m : Int) :
    servants { s with actions := s.actions.map f } m = (s.servants m).map f := by
  have hsame : ((fun a : ActionRow => a.messageId == m) ∘ f) = fun a => a.messageId == m := by
    funext a
    rw [Function.comp_apply, (hf a).messageId]
  rw [servants, List.filter_map, hsame]
  rfl

/-- What stands in place does not move when actions change. -/
theorem sequences_map {f : ActionRow → ActionRow} (hf : ∀ a : ActionRow, a.Becomes (f a))
    (rows : List ActionRow) : (rows.map f).map (·.sequence) = rows.map (·.sequence) := by
  rw [List.map_map]
  exact List.map_congr_left fun a _ => (hf a).sequence

/-- The last of the places 1, 2, 3 and so on is their number. -/
theorem lastSequence_eq (hs : s.Sequenced) (m : Int) :
    s.lastSequence m = (s.servants m).length := by
  have hplaces := hs m
  unfold lastSequence
  rw [← servants, hplaces]
  generalize (s.servants m).length = n
  -- the largest of the first places, and one more place after them
  induction n with
  | zero => rfl
  | succ n ih =>
      rw [List.range_succ, List.map_append, List.map_singleton]
      cases hfirst : (List.range n).map fun (i : Nat) => (i : Int) + 1 with
      | nil =>
          have hzero : n = 0 := by simpa using hfirst
          rw [hzero]
          rfl
      | cons x others =>
          rw [hfirst] at ih
          simp only at ih
          simp only [List.cons_append, List.foldl_append, List.foldl_cons, List.foldl_nil, ih]
          omega

/-- No call breaks the sequence of the actions of a message. -/
theorem Change.sequenced (h : s.Change now call s') (hs : s.Sequenced) : s'.Sequenced := by
  cases h with
  | nothing => exact hs
  | actions _ f hf =>
      intro m
      have hbecomes := fun a => (hf a).becomes
      rw [servants_map hbecomes, sequences_map hbecomes, List.length_map]
      exact hs m
  | messages => exact hs
  | conversations => exact hs
  | newConversation => exact hs
  | newMessage => exact hs
  | newAction m kind parameters _ =>
      intro m'
      have hlast := lastSequence_eq hs m
      have hplaces := hs m'
      simp only [servants, List.filter_append] at hlast hplaces ⊢
      by_cases hm : m = m'
      · -- the new place is the next one
        subst hm
        have hnew : [s.pendingRow now m kind parameters].filter (·.messageId == m) =
            [s.pendingRow now m kind parameters] := by simp [pendingRow]
        rw [hnew, List.map_append, List.length_append, List.length_singleton, List.range_succ,
          List.map_append, hplaces, List.map_singleton, List.map_singleton, pendingRow, hlast]
      · have hother : [s.pendingRow now m kind parameters].filter (·.messageId == m') = [] := by
          simp [pendingRow, hm]
        rw [hother, List.append_nil]
        exact hplaces

/-! ## Both, and the order of the tables -/

/-- The tables are numbered, the actions have their messages, and places are counted. -/
structure Regular (s : Store) : Prop where
  /-- The tables are numbered. -/
  ordered : s.Ordered
  /-- Every action serves a message that is there. -/
  anchored : s.Anchored
  /-- The places of the actions of a message are 1, 2, 3 and so on. -/
  sequenced : s.Sequenced

theorem empty_regular : Store.empty.Regular := ⟨empty_ordered, empty_anchored, empty_sequenced⟩

/-- No call makes a regular store irregular. -/
theorem Change.regular (h : s.Change now call s') (hs : s.Regular) : s'.Regular :=
  ⟨h.ordered hs.ordered, h.anchored hs.anchored, h.sequenced hs.sequenced⟩

/-- What calls make of the empty store is regular. -/
theorem replay_regular (calls : List (Instant × Call)) : (Store.empty.replay calls).Regular :=
  replay_induction (fun s e _ hs => (s.perform_change e.1 e.2).regular hs) empty_regular

end Store

end ControlPlane
