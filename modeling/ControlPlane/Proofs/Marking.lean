/-
Marking rows.

A pass over a table marks rows one group after the other: rows that are hit become something
else, and the others stay as they are (`Marked`). What a later group hits is asked of the rows
that are not marked yet, so a whole pass comes to marking once, by a condition on the rows as
they were (`Marked.modify`). Questions about the rows after a pass become questions about the
rows before it (`Marked.filter`), as long as no marked row answers to them.
-/
import ControlPlane.Proofs.Table
import ControlPlane.Sweep
import Mathlib.Data.List.Forall2

set_option autoImplicit false

namespace ControlPlane

namespace Store

section Pairs

variable {ρ σ : Type} {R : ρ → σ → Prop} {rows : List ρ} {rows' : List σ}

/-- What stands in the second of two related lists is related to something in the first. -/
theorem exists_of_forall₂ (h : List.Forall₂ R rows rows') {r' : σ} (hr' : r' ∈ rows') :
    ∃ r ∈ rows, R r r' := by
  induction h with
  | nil => cases hr'
  | @cons r x rest rest' hr _ ih =>
      rcases List.mem_cons.1 hr' with rfl | hmem
      · exact ⟨r, List.mem_cons_self, hr⟩
      · obtain ⟨y, hy, hR⟩ := ih hmem
        exact ⟨y, List.mem_cons_of_mem r hy, hR⟩

/-- A change in place of the second of two related lists keeps what it keeps row by row. -/
theorem forall₂_map_right (h : List.Forall₂ R rows rows') {f : σ → σ}
    (hf : ∀ r ∈ rows, ∀ r' ∈ rows', R r r' → R r (f r')) :
    List.Forall₂ R rows (rows'.map f) := by
  induction h with
  | nil => exact List.Forall₂.nil
  | @cons r r' rest rest' hr _ ih =>
      refine List.Forall₂.cons (hf r List.mem_cons_self r' List.mem_cons_self hr) (ih ?_)
      intro x hx y hy
      exact hf x (List.mem_cons_of_mem r hx) y (List.mem_cons_of_mem r' hy)

end Pairs

section Marked

variable {ρ : Type} {hit hit' : ρ → Bool} {R R' : ρ → ρ → Prop} {rows rows' rows'' : List ρ}

/-- Rows that are hit become something else, and the others stay. -/
def Marked (hit : ρ → Bool) (R : ρ → ρ → Prop) (rows rows' : List ρ) : Prop :=
  List.Forall₂ (fun r r' => (hit r = true ∧ R r r') ∨ (hit r = false ∧ r' = r)) rows rows'

namespace Marked

/-- Where nothing is hit nothing changes. -/
theorem none (h : ∀ r ∈ rows, hit r = false) : Marked hit R rows rows := by
  induction rows with
  | nil => exact List.Forall₂.nil
  | cons r rest ih =>
      exact List.Forall₂.cons (Or.inr ⟨h r List.mem_cons_self, rfl⟩)
        (ih fun x hx => h x (List.mem_cons_of_mem r hx))

/-- Two conditions that hit the same rows mark the same. -/
theorem congr (h : Marked hit R rows rows') (hhit : ∀ r ∈ rows, hit r = hit' r) :
    Marked hit' R rows rows' := by
  induction h with
  | nil => exact List.Forall₂.nil
  | @cons r r' rest rest' hr _ ih =>
      rw [hhit r List.mem_cons_self] at hr
      exact List.Forall₂.cons hr (ih fun x hx => hhit x (List.mem_cons_of_mem r hx))

/-- An earlier row that was not hit is still there. -/
theorem mem_of_not_hit (h : Marked hit R rows rows') {r : ρ} (hr : r ∈ rows)
    (hhit : hit r = false) : r ∈ rows' := by
  induction h with
  | nil => cases hr
  | @cons x x' rest rest' hx _ ih =>
      rcases List.mem_cons.1 hr with rfl | hmem
      · rcases hx with ⟨hhit', -⟩ | ⟨-, hsame⟩
        · rw [hhit] at hhit'
          cases hhit'
        · rw [hsame]
          exact List.mem_cons_self
      · exact List.mem_cons_of_mem x' (ih hmem)

/-- **One more group.** What is changed in place among rows that are marked already marks the
rows before it, if no marked row is changed again. -/
theorem modify {p : ρ → Bool} {f : ρ → ρ} (h : Marked hit R rows rows')
    (hclosed : ∀ r r', R r r' → p r' = false) (hR : ∀ r, p r = true → R r (f r)) :
    Marked (fun r => hit r || p r) R rows (Store.modify p f rows') := by
  induction h with
  | nil => exact List.Forall₂.nil
  | @cons r r' rest rest' hr _ ih =>
      refine List.Forall₂.cons ?_ ih
      simp only
      rcases hr with ⟨hhit, hmarked⟩ | ⟨hhit, rfl⟩
      · rw [hhit, hclosed r r' hmarked]
        exact Or.inl ⟨rfl, hmarked⟩
      · rw [hhit, Bool.false_or]
        cases hp : p r' with
        | true => exact Or.inl ⟨rfl, hR r' hp⟩
        | false => exact Or.inr ⟨rfl, rfl⟩

/-- What no marked row answers to is answered by the rows that were not hit. -/
theorem filter {p : ρ → Bool} (h : Marked hit R rows rows')
    (hclosed : ∀ r r', R r r' → p r' = false) :
    rows'.filter p = rows.filter fun r => !hit r && p r := by
  induction h with
  | nil => rfl
  | @cons r r' rest rest' hr _ ih =>
      rw [List.filter_cons, List.filter_cons, ih]
      rcases hr with ⟨hhit, hmarked⟩ | ⟨hhit, rfl⟩
      · rw [hhit, hclosed r r' hmarked]
        rfl
      · rw [hhit]
        rfl

/-- If what becomes of a row that is hit is no longer counted, the count is that of the rows that
are not hit. -/
theorem countP {p : ρ → Bool} (h : Marked hit R rows rows')
    (hclosed : ∀ r r', R r r' → p r' = false) :
    rows'.countP p = rows.countP fun r => !hit r && p r := by
  rw [List.countP_eq_length_filter, List.countP_eq_length_filter, h.filter hclosed]

/-- If what becomes of a row that is hit is no longer found, what is found afterwards was not hit.
-/
theorem any {p : ρ → Bool} (h : Marked hit R rows rows')
    (hclosed : ∀ r r', R r r' → p r' = false) :
    rows'.any p = rows.any fun r => !hit r && p r := by
  rw [Bool.eq_iff_iff, List.any_eq_true, List.any_eq_true, ← List.countP_pos_iff,
    ← List.countP_pos_iff, h.countP hclosed]

/-- Two passes: what the first has marked the second leaves alone. -/
theorem trans (h : Marked hit R rows rows') (h' : Marked hit' R' rows' rows'')
    (hclosed : ∀ r r', R r r' → hit' r' = false) :
    List.Forall₂
      (fun r r' => (hit r = true ∧ R r r') ∨ (hit r = false ∧ hit' r = true ∧ R' r r') ∨
        (hit r = false ∧ hit' r = false ∧ r' = r))
      rows rows'' := by
  induction h generalizing rows'' with
  | nil =>
      cases h'
      exact List.Forall₂.nil
  | @cons r r' rest rest' hr _ ih =>
      cases h' with
      | @cons _ r'' _ rest'' hr' hrest' =>
          refine List.Forall₂.cons ?_ (ih hrest')
          rcases hr with ⟨hhit, hmarked⟩ | ⟨hhit, rfl⟩
          · rcases hr' with ⟨hagain, -⟩ | ⟨-, rfl⟩
            · rw [hclosed r r' hmarked] at hagain
              cases hagain
            · exact Or.inl ⟨hhit, hmarked⟩
          · exact Or.inr (hr'.imp (And.intro hhit) (And.intro hhit))

end Marked

/-- Rows of two groups, one after the other. -/
theorem countP_or {p q : ρ → Bool} (rows : List ρ) :
    rows.countP (fun r => p r || q r) =
      rows.countP p + rows.countP fun r => !p r && q r := by
  induction rows with
  | nil => rfl
  | cons r rest ih =>
      rw [List.countP_cons, List.countP_cons, List.countP_cons, ih]
      cases p r <;> cases q r <;> simp <;> omega

end Marked

/-! ## Numbers of marked rows -/

open Sweep (insertId)

section Numbers

variable {ρ : Type} {id : ρ → Int} {rows : List ρ}

/-- A number below all others goes to the front. -/
theorem insertId_front {i : Int} {ids : List Int} (h : ∀ j ∈ ids, i < j) :
    insertId i ids = i :: ids := by
  cases ids with
  | nil => rfl
  | cons j rest => rw [insertId, if_pos (h j List.mem_cons_self)]

/-- The number of one more row goes to its place among the numbers of the rows before. -/
theorem insertId_filter {p : ρ → Bool} (hrows : rows.Pairwise fun a b => id a < id b) {r : ρ}
    (hr : r ∈ rows) (hp : p r = false) :
    insertId (id r) ((rows.filter p).map id) =
      (rows.filter fun x => p x || id x == id r).map id := by
  induction rows with
  | nil => cases hr
  | cons x rest ih =>
      obtain ⟨hhead, htail⟩ := List.pairwise_cons.1 hrows
      rw [List.filter_cons, List.filter_cons]
      rcases List.mem_cons.1 hr with rfl | hmem
      · -- no later row has its number, so it comes first and the others stay
        have hothers : (rest.filter fun x => p x || id x == id r) = rest.filter p := by
          refine List.filter_congr fun y hy => ?_
          have hne : (id y == id r) = false := by
            have := hhead y hy
            exact beq_eq_false_iff_ne.2 (by omega)
          rw [hne, Bool.or_false]
        have hfront : insertId (id r) ((rest.filter p).map id) =
            id r :: (rest.filter p).map id := by
          refine insertId_front fun j hj => ?_
          obtain ⟨y, hy, rfl⟩ := List.mem_map.1 hj
          exact hhead y (List.mem_of_mem_filter hy)
        simp only [hp, beq_self_eq_true, Bool.or_true, if_true, Bool.false_eq_true, if_false,
          hothers, hfront, List.map_cons]
      · have hlt := hhead r hmem
        have hne : (id x == id r) = false := beq_eq_false_iff_ne.2 (by omega)
        have hrest := ih htail hmem
        rw [hne, Bool.or_false]
        cases hpx : p x with
        | true =>
            simp only [if_true, List.map_cons]
            rw [insertId, if_neg (by omega), if_neg (by omega), hrest]
        | false =>
            simp only [Bool.false_eq_true, if_false]
            exact hrest

end Numbers

end Store

end ControlPlane
