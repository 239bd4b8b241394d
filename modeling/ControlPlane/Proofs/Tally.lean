/-
Counting by name.

A tally lists names in ascending order, each with a number (`Store.Ascending`). Counting one more
of a name keeps the order, so every name is listed once, with the number of its occurrences
(`countOf_tallies`), and the numbers of all names add up to the number of all occurrences
(`total_tallies`).

Rows that are told apart by a class are counted class by class (`total_filter_classes`).

The daily series is a table with one entry for each day. A tally by the texts of days is entered
into it one name after the other. As every day has one entry, this is the same as entering the
whole tally into each entry (`enter_map`); and a name is entered once at most
(`entered_of_unique`).
-/
import ControlPlane.Store.Operation
import Mathlib.Data.List.Nodup

set_option autoImplicit false

namespace ControlPlane

/-! ## Numbers -/

/-- A count that fits into a signed word is kept. -/
theorem WordRange.wrapSigned64_natCast {n : Nat} (h : n < 9223372036854775808) :
    wrapSigned64 (n : Int) = n := by
  unfold wrapSigned64
  omega

theorem Integer.natCast_total (ns : List Nat) :
    (total ns : Int) = (ns.map fun n : Nat => (n : Int)).foldr (· + ·) 0 := by
  induction ns with
  | nil => rfl
  | cons n rest ih => rw [total, Int.natCast_add, ih, List.map_cons, List.foldr_cons]

namespace Store

variable {name : String} {counts : List (String × Nat)}

/-! ## Tallies -/

/-- The names of a tally ascend. -/
def Ascending (counts : List (String × Nat)) : Prop := counts.Pairwise fun a b => a.1 < b.1

/-- The number beside a name; zero, if the name is not listed. -/
def countOf (counts : List (String × Nat)) (name : String) : Nat :=
  (counts.find? (·.1 == name)).elim 0 (·.2)

theorem fst_of_mem_tally {e : String × Nat} (h : e ∈ tally name counts) :
    e.1 = name ∨ ∃ e' ∈ counts, e'.1 = e.1 := by
  induction counts with
  | nil => exact Or.inl (congrArg Prod.fst (List.mem_singleton.1 h))
  | cons c rest ih =>
      obtain ⟨n, k⟩ := c
      rw [tally] at h
      split at h
      · rcases List.mem_cons.1 h with rfl | h
        · exact Or.inl rfl
        · exact Or.inr ⟨e, h, rfl⟩
      · split at h
        · rename_i heq
          rcases List.mem_cons.1 h with rfl | h
          · exact Or.inl heq.symm
          · exact Or.inr ⟨e, List.mem_cons_of_mem _ h, rfl⟩
        · rcases List.mem_cons.1 h with rfl | h
          · exact Or.inr ⟨(n, k), List.mem_cons_self, rfl⟩
          · rcases ih h with hname | ⟨e', he', hsame⟩
            · exact Or.inl hname
            · exact Or.inr ⟨e', List.mem_cons_of_mem _ he', hsame⟩

theorem Ascending.tally (h : Ascending counts) (name : String) :
    Ascending (Store.tally name counts) := by
  induction counts with
  | nil => exact List.pairwise_singleton _ _
  | cons c rest ih =>
      obtain ⟨n, k⟩ := c
      obtain ⟨hfirst, hrest⟩ := List.pairwise_cons.1 h
      rw [Store.tally]
      split
      · rename_i hlt
        refine List.pairwise_cons.2 ⟨?_, h⟩
        intro e he
        rcases List.mem_cons.1 he with rfl | he
        · exact hlt
        · exact String.lt_trans hlt (hfirst e he)
      · rename_i hnot
        split
        · exact List.pairwise_cons.2 ⟨hfirst, hrest⟩
        · rename_i hne
          refine List.pairwise_cons.2 ⟨?_, ih hrest⟩
          intro e he
          rcases fst_of_mem_tally he with hname | ⟨e', he', hsame⟩
          · -- the name is neither before the first one nor the same
            rw [hname]
            exact String.not_le.1 fun hle => hne (String.le_antisymm hle (String.not_lt.1 hnot))
          · rw [← hsame]
            exact hfirst e' he'

theorem countOf_cons (e : String × Nat) (x : String) :
    countOf (e :: counts) x = if e.1 = x then e.2 else countOf counts x := by
  unfold countOf
  rw [List.find?_cons]
  by_cases h : e.1 = x
  · rw [if_pos h, beq_iff_eq.2 h]
    rfl
  · rw [if_neg h, beq_eq_false_iff_ne.2 h]

/-- A name that is before all of a tally is not listed. -/
theorem countOf_eq_zero {x : String} (h : ∀ e ∈ counts, e.1 ≠ x) : countOf counts x = 0 := by
  have hnone : counts.find? (·.1 == x) = none := by
    rw [List.find?_eq_none]
    intro e he
    simpa using h e he
  rw [countOf, hnone, Option.elim_none]

theorem countOf_tally (h : Ascending counts) (name x : String) :
    countOf (tally name counts) x = countOf counts x + if name = x then 1 else 0 := by
  induction counts with
  | nil =>
      rw [tally, countOf_cons]
      exact (Nat.zero_add _).symm
  | cons c rest ih =>
      obtain ⟨n, k⟩ := c
      obtain ⟨hfirst, hrest⟩ := List.pairwise_cons.1 h
      rw [tally]
      split
      · rename_i hlt
        rw [countOf_cons]
        by_cases hx : name = x
        · subst hx
          have hzero : countOf ((n, k) :: rest) name = 0 := by
            refine countOf_eq_zero ?_
            intro e he heq
            rcases List.mem_cons.1 he with rfl | he
            · exact String.lt_irrefl _ (heq ▸ hlt)
            · exact String.lt_irrefl _ (String.lt_trans hlt (heq ▸ hfirst e he))
          rw [if_pos rfl, if_pos rfl, hzero]
        · rw [if_neg hx, if_neg hx, Nat.add_zero]
      · split
        · rename_i hname
          subst hname
          rw [countOf_cons, countOf_cons]
          by_cases hx : name = x
          · rw [if_pos hx, if_pos hx, if_pos hx]
          · rw [if_neg hx, if_neg hx, if_neg hx, Nat.add_zero]
        · rename_i hne
          rw [countOf_cons, countOf_cons]
          by_cases hx : n = x
          · have hother : ¬ name = x := fun heq => hne (heq.trans hx.symm)
            rw [if_pos hx, if_pos hx, if_neg hother, Nat.add_zero]
          · rw [if_neg hx, if_neg hx, ih hrest]

theorem tallies_spec (names : List String) :
    Ascending (tallies names) ∧ ∀ x, countOf (tallies names) x = names.count x := by
  -- on the names, with a tally of those that were counted before
  suffices h : ∀ counts, Ascending counts →
      Ascending (names.foldl (fun counts name => tally name counts) counts) ∧
        ∀ x, countOf (names.foldl (fun counts name => tally name counts) counts) x =
          countOf counts x + names.count x by
    obtain ⟨hascending, hcount⟩ := h [] List.Pairwise.nil
    refine ⟨hascending, fun x => (hcount x).trans ?_⟩
    rw [countOf, List.find?_nil, Option.elim_none, Nat.zero_add]
  induction names with
  | nil => exact fun counts h => ⟨h, fun _ => rfl⟩
  | cons name rest ih =>
      intro counts h
      obtain ⟨hascending, hcount⟩ := ih _ (h.tally name)
      refine ⟨hascending, fun x => ?_⟩
      rw [List.foldl_cons, hcount x, countOf_tally h, List.count_cons]
      simp only [beq_iff_eq]
      omega

/-- **Tallies count.** The number beside a name is how often the name occurs. -/
theorem countOf_tallies (names : List String) (x : String) :
    countOf (tallies names) x = names.count x := (tallies_spec names).2 x

theorem Ascending.countOf_of_mem (h : Ascending counts) {e : String × Nat} (he : e ∈ counts) :
    countOf counts e.1 = e.2 := by
  induction counts with
  | nil => cases he
  | cons c rest ih =>
      obtain ⟨hfirst, hrest⟩ := List.pairwise_cons.1 h
      rw [countOf_cons]
      rcases List.mem_cons.1 he with rfl | he
      · rw [if_pos rfl]
      · rw [if_neg fun heq => String.lt_irrefl _ (heq ▸ hfirst e he), ih hrest he]

/-- The number that is listed with a name is how often it occurs. -/
theorem count_of_mem_tallies {names : List String} {e : String × Nat} (he : e ∈ tallies names) :
    e.2 = names.count e.1 := by
  rw [← countOf_tallies, (tallies_spec names).1.countOf_of_mem he]

theorem mem_of_mem_tallies {names : List String} {e : String × Nat} (he : e ∈ tallies names) :
    e.1 ∈ names := by
  suffices h : ∀ counts, e ∈ names.foldl (fun counts name => tally name counts) counts →
      e.1 ∈ names ∨ ∃ e' ∈ counts, e'.1 = e.1 by
    rcases h [] he with hmem | ⟨e', he', -⟩
    · exact hmem
    · cases he'
  clear he
  induction names with
  | nil => exact fun counts he => Or.inr ⟨e, he, rfl⟩
  | cons name rest ih =>
      intro counts he
      rcases ih _ he with hmem | ⟨e', he', hsame⟩
      · exact Or.inl (List.mem_cons_of_mem _ hmem)
      · rcases fst_of_mem_tally he' with hname | ⟨e'', he'', hsame'⟩
        · exact Or.inl (by rw [← hsame, hname]; exact List.mem_cons_self)
        · exact Or.inr ⟨e'', he'', hsame'.trans hsame⟩

theorem total_tally (name : String) (counts : List (String × Nat)) :
    Integer.total ((tally name counts).map (·.2)) = Integer.total (counts.map (·.2)) + 1 := by
  induction counts with
  | nil => rfl
  | cons c rest ih =>
      obtain ⟨n, k⟩ := c
      rw [tally]
      split
      · simp only [List.map_cons, Integer.total]
        omega
      · split
        · simp only [List.map_cons, Integer.total]
          omega
        · simp only [List.map_cons, Integer.total, ih]
          omega

/-- **Tallies lose nothing.** The numbers add up to the number of names. -/
theorem total_tallies (names : List String) :
    Integer.total ((tallies names).map (·.2)) = names.length := by
  suffices h : ∀ counts,
      Integer.total ((names.foldl (fun counts name => tally name counts) counts).map (·.2)) =
        Integer.total (counts.map (·.2)) + names.length by
    rw [tallies, h [], List.map_nil, Integer.total, Nat.zero_add]
  induction names with
  | nil => exact fun _ => rfl
  | cons name rest ih =>
      intro counts
      rw [List.foldl_cons, ih, total_tally, List.length_cons]
      omega

/-! ## Counting class by class -/

section Classes

variable {ρ κ : Type} {rows : List ρ}

theorem length_filter_or {p q : ρ → Bool} (h : ∀ r ∈ rows, p r = true → q r = false) :
    (rows.filter fun r => p r || q r).length = (rows.filter p).length + (rows.filter q).length := by
  induction rows with
  | nil => rfl
  | cons r rest ih =>
      have hrest := ih fun x hx => h x (List.mem_cons_of_mem r hx)
      have hfirst := h r List.mem_cons_self
      simp only [List.filter_cons]
      cases hp : p r with
      | true =>
          simp only [hfirst hp, Bool.or_false, if_true, List.length_cons, hrest, Bool.false_eq_true,
            if_false]
          omega
      | false =>
          cases hq : q r with
          | true =>
              simp only [Bool.or_true, if_true, List.length_cons, hrest, Bool.false_eq_true,
                if_false]
              omega
          | false => simp only [Bool.or_false, Bool.false_eq_true, if_false, hrest]

/-- If no row is of two classes, the rows of all classes together are as many as those of each
class, added up. -/
theorem total_filter_classes {classes : List κ} (hnodup : classes.Nodup) (p : ρ → Bool)
    {belongs : κ → ρ → Bool}
    (hone : ∀ r ∈ rows, ∀ k k', belongs k r = true → belongs k' r = true → k = k') :
    Integer.total (classes.map fun k => (rows.filter fun r => p r && belongs k r).length) =
      (rows.filter fun r => p r && classes.any fun k => belongs k r).length := by
  induction classes with
  | nil => simp [Integer.total]
  | cons k rest ih =>
      obtain ⟨hfirst, hrest⟩ := List.nodup_cons.1 hnodup
      have hsplit : (fun r => p r && (k :: rest).any fun k => belongs k r) =
          fun r => (p r && belongs k r) || (p r && rest.any fun k => belongs k r) := by
        funext r
        rw [List.any_cons, Bool.and_or_distrib_left]
      rw [List.map_cons, Integer.total, ih hrest, hsplit, length_filter_or]
      intro r hr hk
      obtain ⟨-, hk⟩ := Bool.and_eq_true_iff.1 hk
      rw [Bool.and_eq_false_iff, List.any_eq_false]
      refine Or.inr fun k' hk' hbelongs => hfirst ?_
      rw [hone r hr k k' hk hbelongs]
      exact hk'

end Classes

/-! ## Entering a tally into days -/

variable {set : String → Nat → DailyActivity → DailyActivity}

/-- Enters a tally into the entry of one day. -/
def entered (set : String → Nat → DailyActivity → DailyActivity) (counts : List (String × Nat))
    (a : DailyActivity) : DailyActivity :=
  counts.foldl (fun a e => if Stamp.readDate? e.1 = some a.day then set e.1 e.2 a else a) a

theorem entered_cons (e : String × Nat) (a : DailyActivity) :
    entered set (e :: counts) a =
      entered set counts (if Stamp.readDate? e.1 = some a.day then set e.1 e.2 a else a) := rfl

theorem entered_day (set : String → Nat → DailyActivity → DailyActivity)
    (hset : ∀ text n a, (set text n a).day = a.day) (a : DailyActivity) :
    (entered set counts a).day = a.day := by
  induction counts generalizing a with
  | nil => rfl
  | cons e rest ih =>
      rw [entered_cons, ih]
      split
      · exact hset _ _ _
      · rfl

/-- What holds of an entry, and is kept whenever a number is entered, holds at the end. -/
theorem entered_induction {P : DailyActivity → Prop}
    {set : String → Nat → DailyActivity → DailyActivity}
    (hset : ∀ e ∈ counts, ∀ a, P a → P (set e.1 e.2 a)) {a : DailyActivity} (ha : P a) :
    P (entered set counts a) := by
  induction counts generalizing a with
  | nil => exact ha
  | cons e rest ih =>
      rw [entered_cons]
      refine ih (fun e' he' => hset e' (List.mem_cons_of_mem e he')) ?_
      split
      · exact hset e List.mem_cons_self a ha
      · exact ha

/-- A tally none of whose texts is this day leaves the entry alone. -/
theorem entered_of_none {a : DailyActivity} (h : ∀ e ∈ counts, Stamp.readDate? e.1 ≠ some a.day) :
    entered set counts a = a := by
  induction counts with
  | nil => rfl
  | cons e rest ih =>
      rw [entered_cons, if_neg (h e List.mem_cons_self)]
      exact ih fun e' he' => h e' (List.mem_cons_of_mem e he')

/-- If one text at most is this day, its number is entered, and zero if it is not listed. -/
theorem entered_of_unique (hcounts : Ascending counts)
    (hset : ∀ text n a, (set text n a).day = a.day) {a : DailyActivity}
    (hzero : countOf counts name = 0 → set name 0 a = a)
    (hunique : ∀ e ∈ counts, Stamp.readDate? e.1 = some a.day ↔ e.1 = name) :
    entered set counts a = set name (countOf counts name) a := by
  induction counts with
  | nil => exact (hzero rfl).symm
  | cons e rest ih =>
      obtain ⟨hfirst, hrest⟩ := List.pairwise_cons.1 hcounts
      have hhead := hunique e List.mem_cons_self
      have htail := fun e' he' => hunique e' (List.mem_cons_of_mem e he')
      rw [countOf_cons] at hzero
      rw [entered_cons, countOf_cons]
      by_cases hname : e.1 = name
      · rw [if_pos (hhead.2 hname), if_pos hname, hname]
        -- the texts that follow are of other days
        refine entered_of_none fun e' he' => ?_
        rw [hset, ne_eq, htail e' he']
        intro heq
        exact String.lt_irrefl _ (heq ▸ hname ▸ hfirst e' he')
      · rw [if_neg hname] at hzero
        rw [if_neg (mt hhead.1 hname), if_neg hname]
        exact ih hrest hzero htail

theorem onDay_eq_map {days : List DailyActivity} (h : (days.map (·.day)).Nodup) (day : Date)
    (f : DailyActivity → DailyActivity) :
    onDay day f days = days.map fun a => if a.day = day then f a else a := by
  induction days with
  | nil => rfl
  | cons a rest ih =>
      obtain ⟨hfirst, hrest⟩ := List.nodup_cons.1 h
      rw [onDay, List.map_cons]
      by_cases hday : a.day = day
      · rw [if_pos hday, if_pos hday]
        -- no other entry is of this day
        have hothers : ∀ b ∈ rest, (if b.day = day then f b else b) = b := by
          intro b hb
          exact if_neg fun hsame => hfirst (List.mem_map.2 ⟨b, hb, hsame.trans hday.symm⟩)
        rw [List.map_congr_left hothers, List.map_id']
      · rw [if_neg hday, if_neg hday, ih hrest]

theorem enter_cons (e : String × Nat) (days : List DailyActivity) :
    enter set (e :: counts) days =
      enter set counts
        ((Stamp.readDate? e.1).elim days fun day => onDay day (set e.1 e.2) days) := by
  unfold enter
  simp only [List.foldl_cons]
  cases Stamp.readDate? e.1 with
  | none => rfl
  | some day => rfl

/-- **Entering a tally** into a table of days is entering it into each entry. -/
theorem enter_eq_map (hset : ∀ text n a, (set text n a).day = a.day) (counts : List (String × Nat))
    {days : List DailyActivity} (h : (days.map (·.day)).Nodup) :
    enter set counts days = days.map (entered set counts) := by
  induction counts generalizing days with
  | nil => exact (List.map_id' days).symm
  | cons e rest ih =>
      have hkept : ∀ f : DailyActivity → DailyActivity, (∀ a, (f a).day = a.day) →
          ((days.map f).map (·.day)).Nodup := by
        intro f hf
        rw [List.map_map]
        have hsame : (fun a : DailyActivity => a.day) ∘ f = fun a => a.day := funext hf
        rw [hsame]
        exact h
      have hstep : enter set (e :: rest) days =
          enter set rest (days.map fun a =>
            if Stamp.readDate? e.1 = some a.day then set e.1 e.2 a else a) := by
        rw [enter_cons]
        cases hread : Stamp.readDate? e.1 with
        | none => simp only [Option.elim_none, reduceCtorEq, if_false, List.map_id']
        | some day =>
            simp only [Option.elim_some, Option.some.injEq]
            rw [onDay_eq_map h]
            simp only [eq_comm]
      rw [hstep, ih (hkept _ fun a => ?_), List.map_map]
      · rfl
      · split
        · exact hset _ _ _
        · rfl

/-- A table with one entry for each of some days keeps this form. -/
theorem enter_map (set : String → Nat → DailyActivity → DailyActivity)
    (hset : ∀ text n a, (set text n a).day = a.day) (counts : List (String × Nat))
    {dates : List Date} (hdates : dates.Nodup) {f : Date → DailyActivity}
    (hf : ∀ d, (f d).day = d) :
    enter set counts (dates.map f) = dates.map fun d => entered set counts (f d) := by
  have hdays : ((dates.map f).map (·.day)).Nodup := by
    rw [List.map_map, show (fun a : DailyActivity => a.day) ∘ f = id from funext hf, List.map_id]
    exact hdates
  rw [enter_eq_map hset counts hdays, List.map_map]
  rfl

end Store

end ControlPlane
