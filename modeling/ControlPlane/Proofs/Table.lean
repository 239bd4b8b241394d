/-
Tables of numbered rows.

A table is a list of rows in the order of their numbers, beside the largest number
that it has given out. `Numbered` says that the numbers ascend and stay below that
bound. It is what makes a number name one row, and every operation keeps it: a row
that is changed keeps its number, and a row that is added gets the next one.

The last section says which rows the look-ups by message collect.
-/
import ControlPlane.Store.Basic
import Mathlib.Data.List.Basic

set_option autoImplicit false

namespace ControlPlane

namespace Store

/-! ## Numbers -/

section Numbered

variable {ρ : Type} {id : ρ → Int} {rows : List ρ} {last : Int}

/-- The rows of a table stand in the order of their numbers, and no number is above
the largest one given out. -/
structure Numbered (id : ρ → Int) (rows : List ρ) (last : Int) : Prop where
  /-- The numbers ascend. -/
  ascending : rows.Pairwise fun a b => id a < id b
  /-- No number is above the bound. -/
  bounded : ∀ r ∈ rows, id r ≤ last

namespace Numbered

theorem nil : Numbered id [] last :=
  ⟨List.Pairwise.nil, fun _ h => absurd h List.not_mem_nil⟩

/-- Rows that keep their numbers stay numbered. -/
theorem map (h : Numbered id rows last) {f : ρ → ρ} (hf : ∀ r, id (f r) = id r) :
    Numbered id (rows.map f) last where
  ascending := by
    rw [List.pairwise_map]
    refine h.ascending.imp ?_
    intro a b hab
    rwa [hf, hf]
  bounded := by
    intro r hr
    obtain ⟨a, ha, rfl⟩ := List.mem_map.1 hr
    rw [hf]
    exact h.bounded a ha

/-- A row with the next number goes to the end. -/
theorem append (h : Numbered id rows last) {r : ρ} (hr : id r = last + 1) :
    Numbered id (rows ++ [r]) (last + 1) where
  ascending := by
    refine List.pairwise_append.2 ⟨h.ascending, List.pairwise_singleton _ r, ?_⟩
    intro a ha b hb
    rw [List.mem_singleton.1 hb, hr]
    have := h.bounded a ha
    omega
  bounded := by
    intro a ha
    rcases List.mem_append.1 ha with ha | ha
    · have := h.bounded a ha
      omega
    · exact Int.le_of_eq (by rw [List.mem_singleton.1 ha, hr])

/-- A number names one row. -/
theorem eq_of_id_eq (h : Numbered id rows last) {a b : ρ} (ha : a ∈ rows) (hb : b ∈ rows)
    (hab : id a = id b) : a = b := by
  obtain ⟨i, hi, rfl⟩ := List.getElem_of_mem ha
  obtain ⟨j, hj, rfl⟩ := List.getElem_of_mem hb
  have hpair := List.pairwise_iff_getElem.1 h.ascending
  -- at two places the numbers would differ
  rcases Nat.lt_trichotomy i j with hij | rfl | hji
  · have := hpair i j hi hj hij
    omega
  · rfl
  · have := hpair j i hj hi hji
    omega

/-- A row is found by its number. -/
theorem find?_eq (h : Numbered id rows last) {r : ρ} (hr : r ∈ rows) {i : Int} (hi : id r = i) :
    rows.find? (fun x => id x == i) = some r := by
  cases hfind : rows.find? (fun x => id x == i) with
  | none => exact absurd (beq_iff_eq.2 hi) (List.find?_eq_none.1 hfind r hr)
  | some x =>
      have hx : id x = i := by simpa using List.find?_some hfind
      rw [h.eq_of_id_eq (List.mem_of_find?_eq_some hfind) hr (hx.trans hi.symm)]

/-- A row has the number of one of some rows if it is one of them. -/
theorem any_filter_id (h : Numbered id rows last) (p : ρ → Bool) {r : ρ} (hr : r ∈ rows) :
    ((rows.filter p).any fun x => id x == id r) = p r := by
  rw [Bool.eq_iff_iff, List.any_eq_true]
  constructor
  · rintro ⟨x, hx, hid⟩
    obtain ⟨hmem, hp⟩ := List.mem_filter.1 hx
    rwa [← h.eq_of_id_eq hmem hr (beq_iff_eq.1 hid)]
  · exact fun hp => ⟨r, List.mem_filter.2 ⟨hr, hp⟩, beq_self_eq_true _⟩

/-- No number is there twice. -/
theorem nodup (h : Numbered id rows last) : (rows.map id).Nodup := by
  refine (List.pairwise_map.2 h.ascending).imp ?_
  intro a b hab heq
  omega

end Numbered

end Numbered

/-! ## Looking up by message -/

theorem insertBySequence_perm (r : ActionRow) (rows : List ActionRow) :
    (insertBySequence r rows).Perm (r :: rows) := by
  induction rows with
  | nil => exact List.Perm.refl _
  | cons x rest ih =>
      rw [insertBySequence]
      split
      · exact (ih.cons x).trans (List.Perm.swap r x rest)
      · exact List.Perm.refl _

theorem foldl_insertBySequence_perm (rows sorted : List ActionRow) :
    (rows.foldl (fun sorted r => insertBySequence r sorted) sorted).Perm (rows ++ sorted) := by
  induction rows generalizing sorted with
  | nil => exact List.Perm.refl _
  | cons x rest ih =>
      refine (ih (insertBySequence x sorted)).trans ?_
      refine ((insertBySequence_perm x sorted).append_left rest).trans ?_
      exact List.perm_middle

/-- The actions of a message are the rows that serve it, in another order. -/
theorem actionsOf_perm (s : Store) (message : Int) :
    (s.actionsOf message).Perm (s.actions.filter (·.messageId == message)) := by
  have h := foldl_insertBySequence_perm (s.actions.filter (·.messageId == message)) []
  rwa [List.append_nil] at h

theorem mem_actionsOf {s : Store} {message : Int} {a : ActionRow} :
    a ∈ s.actionsOf message ↔ a ∈ s.actions ∧ a.messageId = message := by
  rw [(actionsOf_perm s message).mem_iff, List.mem_filter, beq_iff_eq]

theorem le_foldl_max (rest : List Int) (n : Int) :
    n ≤ rest.foldl max n ∧ ∀ m ∈ rest, m ≤ rest.foldl max n := by
  induction rest generalizing n with
  | nil => exact ⟨Int.le_refl n, fun _ h => absurd h List.not_mem_nil⟩
  | cons x rest ih =>
      rw [List.foldl_cons]
      obtain ⟨hstart, hrest⟩ := ih (max n x)
      refine ⟨by omega, ?_⟩
      intro m hm
      rcases List.mem_cons.1 hm with rfl | hm
      · omega
      · exact hrest m hm

/-- No action of a message has a place after the last one. -/
theorem sequence_le_lastSequence {s : Store} {a : ActionRow} (ha : a ∈ s.actions) :
    a.sequence ≤ s.lastSequence a.messageId := by
  have hmem : a.sequence ∈ (s.actions.filter (·.messageId == a.messageId)).map (·.sequence) := by
    refine List.mem_map.2 ⟨a, ?_, rfl⟩
    exact List.mem_filter.2 ⟨ha, beq_self_eq_true _⟩
  rw [lastSequence]
  cases hrows : (s.actions.filter (·.messageId == a.messageId)).map (·.sequence) with
  | nil => rw [hrows] at hmem; exact absurd hmem List.not_mem_nil
  | cons n rest =>
      rw [hrows] at hmem
      obtain ⟨hstart, hrest⟩ := le_foldl_max rest n
      rcases List.mem_cons.1 hmem with h | h
      · simpa only [h] using hstart
      · exact hrest _ h

end Store

end ControlPlane
