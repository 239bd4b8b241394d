/-
Skipping the open actions of a message.

`Store.skipEach` takes one number after the other: it ends the action if it is open,
and reads it again. When no reading fails, the outcome is that of one change in place
(`skipOpenActions_store`), and the answer names each action that was skipped once, in
the order of the sequence (`skipOpenActions_ids`). When a reading fails, the action is
skipped all the same, and no answer names it.
-/
import ControlPlane.Proofs.Answer

set_option autoImplicit false

namespace ControlPlane

namespace Store

variable {s : Store} {now : Instant} {reason : String}

/-- Skips an action if it is open and has one of some numbers. -/
def skipIn (now : Instant) (reason : String) (ids : List Int) (a : ActionRow) : ActionRow :=
  if ids.contains a.id && a.isOpen then forced now .skipped reason a else a

theorem forced_isOpen (st : Action.Status) (hst : st.isTerminal = true) (a : ActionRow) :
    (forced now st reason a).isOpen = false :=
  ActionRow.isOpen_eq_false_of_isEnded (ActionRow.isEnded_of_terminal hst rfl)

theorem skipIn_nil (a : ActionRow) : skipIn now reason [] a = a := by
  rw [skipIn, List.contains_nil, Bool.false_and]
  rfl

/-- One number after the other is the same as all at once: what was skipped first is
not open any more. -/
theorem skipIn_cons (id : Int) (rest : List Int) (a : ActionRow) :
    skipIn now reason rest (if a.id == id && a.isOpen then forced now .skipped reason a else a) =
      skipIn now reason (id :: rest) a := by
  by_cases hopen : a.isOpen = true
  · by_cases hid : a.id = id
    · have hhit : (a.id == id && a.isOpen) = true := by simp [hid, hopen]
      have hall : ((id :: rest).contains a.id && a.isOpen) = true := by simp [hid, hopen]
      rw [if_pos hhit, skipIn, skipIn, if_pos hall,
        forced_isOpen .skipped rfl a, Bool.and_false]
      rfl
    · have hmiss : ¬ (a.id == id && a.isOpen) = true := by simp [hid]
      rw [if_neg hmiss, skipIn, skipIn, List.contains_cons, beq_eq_false_iff_ne.2 hid,
        Bool.false_or]
  · have hmiss : ¬ (a.id == id && a.isOpen) = true := by simp [hopen]
    have hclosed : a.isOpen = false := Bool.eq_false_iff.2 hopen
    rw [if_neg hmiss, skipIn, skipIn, hclosed, Bool.and_false, Bool.and_false]

/-- The store after an action was skipped. -/
def skipOne (now : Instant) (reason : String) (id : Int) (s : Store) : Store :=
  { s with
    actions := modify (fun a => a.id == id && a.isOpen) (forced now .skipped reason) s.actions }

/-- If no reading fails, the first action was read when it was open, and the others
were skipped after it. -/
theorem skipEach_cons {id : Int} {rest : List Int} {skipped : List Action}
    (h : (skipEach now reason (id :: rest) s).1 = .ok skipped) :
    ∃ found tail,
      (if (s.actions.any fun a => a.id == id && a.isOpen) then
          (skipOne now reason id s).getAction id
        else .ok none) = .ok found ∧
      (skipEach now reason rest (skipOne now reason id s)).1 = .ok tail ∧
      skipped = found.toList ++ tail ∧
      (skipEach now reason (id :: rest) s).2 =
        (skipEach now reason rest (skipOne now reason id s)).2 := by
  simp only [skipEach] at h ⊢
  split at h
  next => cases h
  next found hread =>
    have hone : (skipOne now reason id s) = { s with
        actions := modify (fun a => a.id == id && a.isOpen) (forced now .skipped reason)
                     s.actions } := rfl
    rw [← hone] at h hread ⊢
    rw [hread]
    cases hrest : skipEach now reason rest (skipOne now reason id s) with
    | mk answer s' =>
        rw [hrest] at h
        cases answer with
        | error e => cases h
        | ok tail =>
            cases h
            exact ⟨found, tail, rfl, rfl, rfl, rfl⟩

/-- If no reading fails, skipping actions one after the other skips all of them. -/
theorem skipEach_store {ids : List Int} {skipped : List Action}
    (h : (skipEach now reason ids s).1 = .ok skipped) :
    (skipEach now reason ids s).2 =
      { s with actions := s.actions.map (skipIn now reason ids) } := by
  induction ids generalizing s skipped with
  | nil =>
      have hid : s.actions.map (skipIn now reason []) = s.actions := by
        rw [List.map_congr_left fun a _ => skipIn_nil a, List.map_id' s.actions]
      rw [hid]
      rfl
  | cons id rest ih =>
      obtain ⟨found, tail, _, htail, _, hstore⟩ := skipEach_cons h
      have hrows : (skipOne now reason id s).actions.map (skipIn now reason rest) =
          s.actions.map (skipIn now reason (id :: rest)) := by
        simp only [skipOne, modify, List.map_map]
        exact List.map_congr_left fun a _ => skipIn_cons id rest a
      rw [hstore, ih htail, hrows]
      rfl

/-- If no reading fails and every number is that of an open action, each of them is
answered. -/
theorem skipEach_ids {ids : List Int} {skipped : List Action} (hids : ids.Nodup)
    (hopen : ∀ i ∈ ids, ∃ a ∈ s.actions, a.id = i ∧ a.isOpen = true)
    (h : (skipEach now reason ids s).1 = .ok skipped) : skipped.map (·.id) = ids := by
  induction ids generalizing s skipped with
  | nil => cases h; rfl
  | cons id rest ih =>
      obtain ⟨hnew, hrest⟩ := List.nodup_cons.1 hids
      obtain ⟨found, tail, hread, htail, hskipped, _⟩ := skipEach_cons h
      obtain ⟨a, ha, haid, haopen⟩ := hopen id List.mem_cons_self
      have hany : (s.actions.any fun a => a.id == id && a.isOpen) = true :=
        List.any_eq_true.2 ⟨a, ha, by simp [haid, haopen]⟩
      rw [if_pos hany] at hread
      -- the other actions are as open as before, because their numbers differ
      have hothers : ∀ i ∈ rest, ∃ a ∈ (skipOne now reason id s).actions,
          a.id = i ∧ a.isOpen = true := by
        intro i hi
        obtain ⟨b, hb, hbid, hbopen⟩ := hopen i (List.mem_cons_of_mem _ hi)
        have hne : ¬ (b.id == id && b.isOpen) = true := by
          intro hhit
          have hbid' : b.id = id := by simpa using (Bool.and_eq_true_iff.1 hhit).1
          exact hnew (hbid' ▸ hbid ▸ hi)
        refine ⟨b, List.mem_map.2 ⟨b, hb, if_neg hne⟩, hbid, hbopen⟩
      have htailids := ih hrest hothers htail
      cases found with
      | none =>
          -- the row that was just skipped is there, so it is found
          have hmem : forced now .skipped reason a ∈ (skipOne now reason id s).actions :=
            List.mem_map.2 ⟨a, ha, if_pos (by simp [haid, haopen])⟩
          unfold getAction at hread
          cases hfind : (skipOne now reason id s).action? id with
          | none =>
              have hmiss := List.find?_eq_none.1 hfind _ hmem
              simp [forced, haid] at hmiss
          | some r =>
              rw [hfind] at hread
              cases hr : r.read with
              | ok v =>
                  simp only [answer?, answer, hr, Except.map] at hread
                  cases hread
              | error e =>
                  simp only [answer?, answer, failure, hr, Except.map] at hread
                  cases hread
      | some v =>
          obtain ⟨hv, _⟩ := getAction_some hread
          rw [hskipped, List.map_append, htailids]
          simp [hv]

/-! ## The actions of a message -/

/-- The numbers of the open actions of a message, by sequence. -/
def openIds (s : Store) (message : Int) : List Int :=
  ((s.actionsOf message).filter (·.isOpen)).map (·.id)

theorem mem_openIds {m i : Int} :
    i ∈ s.openIds m ↔ ∃ a ∈ s.actions, a.messageId = m ∧ a.isOpen = true ∧ a.id = i := by
  simp only [openIds, List.mem_map, List.mem_filter, mem_actionsOf, and_assoc]

theorem Ordered.openIds_nodup (hs : s.Ordered) (m : Int) : (s.openIds m).Nodup := by
  -- another order does not make a number occur twice
  have hperm : (s.openIds m).Perm
      (((s.actions.filter (·.messageId == m)).filter (·.isOpen)).map (·.id)) :=
    ((actionsOf_perm s m).filter _).map _
  refine hperm.nodup_iff.2 ?_
  rw [List.filter_filter]
  exact hs.actions.nodup.sublist (List.filter_sublist.map _)

/-- If no reading fails, exactly the open actions of the message are skipped. -/
theorem skipOpenActions_store (hs : s.Ordered) {m : Int} {skipped : List Action}
    (h : (s.skipOpenActions now m reason).1 = .ok skipped) :
    (s.skipOpenActions now m reason).2 =
      { s with
        actions := modify (fun a => a.messageId == m && a.isOpen) (forced now .skipped reason)
                     s.actions } := by
  have hrows : s.actions.map (skipIn now reason (s.openIds m)) =
      modify (fun a => a.messageId == m && a.isOpen) (forced now .skipped reason) s.actions := by
    refine List.map_congr_left ?_
    intro a ha
    have hhit : ((s.openIds m).contains a.id && a.isOpen) = (a.messageId == m && a.isOpen) := by
      rw [Bool.eq_iff_iff, Bool.and_eq_true, Bool.and_eq_true, List.contains_iff_mem,
        mem_openIds, beq_iff_eq]
      constructor
      · rintro ⟨⟨b, hb, hbm, _, hba⟩, hopen⟩
        -- the row with this number is the row itself
        rw [← hs.actions.eq_of_id_eq hb ha hba]
        rw [← hs.actions.eq_of_id_eq hb ha hba] at hopen
        exact ⟨hbm, hopen⟩
      · rintro ⟨hm, hopen⟩
        exact ⟨⟨a, ha, hm, hopen, rfl⟩, hopen⟩
    rw [skipIn, hhit]
  unfold skipOpenActions at h ⊢
  rw [skipEach_store h, ← hrows]
  rfl

/-- If no reading fails, the answer names the open actions of the message, each once. -/
theorem skipOpenActions_ids (hs : s.Ordered) {m : Int} {skipped : List Action}
    (h : (s.skipOpenActions now m reason).1 = .ok skipped) :
    skipped.map (·.id) = s.openIds m := by
  refine skipEach_ids (hs.openIds_nodup m) ?_ h
  intro i hi
  obtain ⟨a, ha, _, hopen, hid⟩ := mem_openIds.1 hi
  exact ⟨a, ha, hid, hopen⟩

end Store

end ControlPlane
