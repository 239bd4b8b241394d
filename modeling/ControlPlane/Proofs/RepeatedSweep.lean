/-
A sweep after a sweep.

What a sweep has ended is not open any more and not running any more, and what it left alone was
not overdue (`Sweep.Swept.not_overdue`, `Sweep.Swept.not_overtime`). So a sweep that follows
directly finds nothing to do, as long as it does not look further ahead
(`Sweep.follow_sweepAt_idle`).

A later time makes for later cutoffs, with one exception. Going back from within a leap second
counts from the second after it, and so a time within a leap second may be earlier than another
one while its cutoff is later.
-/
import ControlPlane.Proofs.Lapse

set_option autoImplicit false

namespace ControlPlane

namespace Sweep

open Store

variable {s s' : Store} {messageCutoff actionCutoff cutoff : Instant} {report : Report}

/-! ## What is left -/

/-- An action that is open after a sweep is as it was, and was neither overdue nor overtime. -/
theorem Swept.open_action (h : Swept s messageCutoff actionCutoff s' report) {a : ActionRow}
    (ha : a ∈ s'.actions) (hopen : a.isOpen = true) :
    a ∈ s.actions ∧ skippedWith (s.overdue messageCutoff) a = false ∧
      s.isOvertime messageCutoff actionCutoff a = false := by
  obtain ⟨b, hb, hlapses⟩ := exists_of_forall₂ h.actions ha
  cases hlapses with
  | skipped _ t =>
      rw [forced_isOpen .skipped rfl] at hopen
      cases hopen
  | failed _ t =>
      rw [forced_isOpen .failed rfl] at hopen
      cases hopen
  | stays hmessage haction => exact ⟨hb, hmessage, haction⟩

/-- A conversation that is running after a sweep was running before, and owns no message that
was overdue. -/
theorem Swept.running_conversation (hs : s.Ordered)
    (h : Swept s messageCutoff actionCutoff s' report) {id : Int}
    (hrunning : s'.isRunning id = true) :
    s.isRunning id = true ∧ ∀ m ∈ s.overdue messageCutoff, m.conversationId ≠ id := by
  unfold Store.isRunning at hrunning
  cases hfind : s'.conversation? id with
  | none =>
      rw [hfind] at hrunning
      cases hrunning
  | some c =>
      rw [hfind] at hrunning
      have hid : c.id = id := by simpa using List.find?_some hfind
      obtain ⟨b, hb, ⟨-, t, rfl⟩ | ⟨hmissed, rfl⟩⟩ :=
        exists_of_forall₂ h.conversations (List.mem_of_find?_eq_some hfind)
      · cases hrunning
      · have hbefore : s.conversation? id = some c := hs.conversations.find?_eq hb hid
        refine ⟨by rw [Store.isRunning, hbefore]; exact hrunning, ?_⟩
        have hall : (c.isRunning) = true := hrunning
        rw [stoppedWith, hall, Bool.and_true, List.any_eq_false] at hmissed
        intro m hm hconversation
        exact hmissed m hm (beq_iff_eq.2 (hconversation.trans hid.symm))

/-- After a sweep no message is overdue. -/
theorem Swept.not_overdue (hs : s.Ordered) (h : Swept s messageCutoff actionCutoff s' report)
    (hle : messageCutoff.before cutoff = false) {m : MessageRow} (hm : m ∈ s'.messages) :
    s'.isOverdue cutoff m = false := by
  have hmessages : s'.messages = s.messages := by rw [h.kept]
  rw [hmessages] at hm
  by_contra hoverdue
  rw [Bool.not_eq_false, isOverdue, Bool.and_eq_true, Bool.or_eq_true, Bool.and_eq_true] at hoverdue
  obtain ⟨hbefore, hwork⟩ := hoverdue
  have hbefore' := Stamp.isBefore_of_isBefore hbefore hle
  -- what it has to do now it had to do then, and so it was overdue then
  rcases hwork with hopen | ⟨hnewest, hrunning⟩
  · obtain ⟨a, ha, hserves⟩ := List.any_eq_true.1 hopen
    obtain ⟨hid, haopen⟩ := Bool.and_eq_true_iff.1 hserves
    obtain ⟨hmem, hmissed, -⟩ := h.open_action ha haopen
    have hthen : m ∈ s.overdue messageCutoff := by
      refine List.mem_filter.2 ⟨hm, ?_⟩
      have hhas : s.hasOpen m.id = true := List.any_eq_true.2 ⟨a, hmem, hserves⟩
      rw [isOverdue, hbefore', hhas, Bool.true_or, Bool.true_and]
    rw [skippedWith, haopen, Bool.and_true, List.any_eq_false] at hmissed
    exact hmissed m hthen (beq_iff_eq.2 (beq_iff_eq.1 hid).symm)
  · obtain ⟨hthen, hnone⟩ := h.running_conversation hs hrunning
    have hsame : s'.isNewest m = s.isNewest m := by
      rw [isNewest, isNewest, messagesOf, messagesOf, hmessages]
    refine hnone m (List.mem_filter.2 ⟨hm, ?_⟩) rfl
    rw [isOverdue, hbefore', ← hsame, hnewest, hthen, Bool.and_true, Bool.or_true, Bool.true_and]

/-- After a sweep no open action has taken too long. -/
theorem Swept.not_overtime (h : Swept s messageCutoff actionCutoff s' report)
    (hle : actionCutoff.before cutoff = false) {a : ActionRow} (ha : a ∈ s'.actions) :
    (a.isOpen && Stamp.isBefore a.clockStart cutoff) = false := by
  by_contra hlate
  rw [Bool.not_eq_false, Bool.and_eq_true] at hlate
  obtain ⟨-, hmissed, hovertime⟩ := h.open_action ha hlate.1
  rw [isOvertime, hlate.1, hmissed, Stamp.isBefore_of_isBefore hlate.2 hle] at hovertime
  cases hovertime

/-- **What is left after a sweep**: nothing is answered when a sweep that looks no further ahead
asks for it. -/
theorem Swept.nothing_left (hs : s.Ordered) (hlegible : s.Legible)
    (h : Swept s messageCutoff actionCutoff s' report) {messageCutoff' actionCutoff' : Instant}
    (hmessage : messageCutoff.before messageCutoff' = false)
    (haction : actionCutoff.before actionCutoff' = false) (hmessage' : messageCutoff'.Legible)
    (haction' : actionCutoff'.Legible) :
    s'.staleMessages messageCutoff' = .ok [] ∧ s'.staleActions actionCutoff' = .ok [] := by
  have hmessages : s'.messages = s.messages := by rw [h.kept]
  have hnone : s'.messages.filter (s'.isStale messageCutoff') = [] := by
    refine List.filter_eq_nil_iff.2 fun m hm hstale => ?_
    have hreadable := hlegible.messages m (hmessages ▸ hm)
    rw [isStale, lt_storedText_iff hreadable.createdAt hmessage'.possible hmessage'.year.2]
      at hstale
    have hnot := h.not_overdue hs hmessage hm
    rw [isOverdue, hstale] at hnot
    cases hnot
  have hnone' : (s'.actions.filter fun a =>
      a.isOpen && decide (a.clockStart < actionCutoff'.storedText)) = [] := by
    refine List.filter_eq_nil_iff.2 fun a ha hstale => ?_
    have hreadable := hlegible.actions a (h.open_action ha (Bool.and_eq_true_iff.1 hstale).1).1
    rw [lt_storedText_iff hreadable.clockStart haction'.possible haction'.year.2] at hstale
    have hnot := h.not_overtime haction ha
    rw [hstale] at hnot
    cases hnot
  rw [staleMessages, staleActions, hnone, hnone']
  exact ⟨rfl, rfl⟩

/-! ## A sweep that finds nothing -/

variable {now now' : Instant} {settings : Settings.Sweeper}

/-- A sweep that is answered nothing does nothing, whatever the clock reads. -/
theorem follow_sweepAt_idle
    (hmessage : cutoff? now settings.messageMaxDuration = some messageCutoff)
    (haction : cutoff? now settings.actionMaxDuration = some actionCutoff)
    (hmessages : s.staleMessages messageCutoff = .ok [])
    (hactions : s.staleActions actionCutoff = .ok []) (k : Course) :
    (sweepAlone settings now k s).1 = .ok .empty ∧
      (sweepAlone settings now k s).2.store = s := by
  let looked := (Past.start s).called .sweeper (k.clock 0) (.staleMessages messageCutoff)
  let after (messages : List Message) : Procedure Report := do
    let report ← expireMessages .empty messages
    let actionCutoff ← Procedure.orFail .beyondCalendar (cutoff? now settings.actionMaxDuration)
    let actions ← Procedure.call (.staleActions actionCutoff)
    timeOutActions report actions
  have hrun : sweepAlone settings now k s =
      (.ok .empty, looked.called .sweeper (k.rest.clock 0) (.staleActions actionCutoff)) :=
    calc sweepAlone settings now k s
        = (Procedure.call (.staleMessages messageCutoff) >>= after).run.follow .sweeper k
            (.start s) := by
          rw [sweepAlone, sweepAt, hmessage]
          rfl
      _ = (after []).run.follow .sweeper k.rest looked :=
          Procedure.follow_call (c := .staleMessages messageCutoff) hmessages
      _ = (Procedure.call (.staleActions actionCutoff) >>= timeOutActions .empty).run.follow
            .sweeper k.rest looked := by
          simp only [after]
          rw [haction]
          rfl
      _ = (timeOutActions .empty []).run.follow .sweeper k.rest.rest
            (looked.called .sweeper (k.rest.clock 0) (.staleActions actionCutoff)) :=
          Procedure.follow_call (c := .staleActions actionCutoff) hactions
      _ = _ := rfl
  rw [hrun]
  exact ⟨rfl, rfl⟩

/-! ## Later cutoffs -/

/-- Of two times the later one has the later cutoff, unless the earlier one lies within a leap
second. -/
theorem minusSeconds_not_before (hle : now.before now' = false)
    (hleap : now'.nano < Instant.nanosPerSecond ∨
      (now.minusSeconds 1).before (now'.minusSeconds 1) = false) (seconds : Nat) :
    (now.minusSeconds seconds).before (now'.minusSeconds seconds) = false := by
  by_cases hzero : seconds = 0
  · rw [hzero]
    exact hle
  · -- by whether the two times lie within leap seconds
    unfold Instant.minusSeconds at hleap ⊢
    simp only [if_neg hzero, if_neg Nat.one_ne_zero, Instant.before_eq_false_iff] at hle hleap ⊢
    by_cases hsmooth : now.nano < Instant.nanosPerSecond
    · by_cases hsmooth' : now'.nano < Instant.nanosPerSecond
      · simp only [if_pos hsmooth, if_pos hsmooth']
        omega
      · simp only [if_pos hsmooth, if_neg hsmooth'] at hleap ⊢
        omega
    · by_cases hsmooth' : now'.nano < Instant.nanosPerSecond
      · simp only [if_neg hsmooth, if_pos hsmooth']
        omega
      · simp only [if_neg hsmooth, if_neg hsmooth'] at hleap ⊢
        omega

/-- **A sweep reaches a fixpoint.** Take a store that calls have made of the empty one, with
legible times, and a sweep with legible cutoffs along a legible course. A second sweep with the
same budgets directly after it, as if it were the same time or an earlier one, reports nothing and
leaves the store unchanged, whatever the clock reads. If the second time lies within a leap second,
it has to be no later still when both times are moved back by a second. -/
theorem sweepAt_again {calls : List (Instant × Store.Call)} (settings : Settings.Sweeper)
    (now now' : Instant) {k : Course} (hstore : (Store.empty.replay calls).Legible)
    (hnow : now.Possible) (hmessage : (now.minusSeconds settings.messageMaxDuration).Legible)
    (haction : (now.minusSeconds settings.actionMaxDuration).Legible) (hk : k.Legible)
    (hnow' : now'.Possible) (hmessage' : (now'.minusSeconds settings.messageMaxDuration).Legible)
    (haction' : (now'.minusSeconds settings.actionMaxDuration).Legible)
    (hle : now.before now' = false)
    (hleap : now'.nano < Instant.nanosPerSecond ∨
      (now.minusSeconds 1).before (now'.minusSeconds 1) = false) (k' : Course) :
    let s := (sweepAlone settings now k (Store.empty.replay calls)).2.store
    (sweepAlone settings now' k' s).1 = .ok .empty ∧
      (sweepAlone settings now' k' s).2.store = s := by
  have hordered := Store.replay_ordered Store.empty_ordered calls
  obtain ⟨report, h, hfirst, hswept⟩ := sweepAlone_swept hordered hstore hnow
    ⟨hmessage.possible, hmessage.year.2⟩ ⟨haction.possible, haction.year.2⟩ hk
  obtain ⟨hmessages, hactions⟩ := hswept.nothing_left hordered hstore
    (minusSeconds_not_before hle hleap _) (minusSeconds_not_before hle hleap _) hmessage' haction'
  rw [hfirst]
  exact follow_sweepAt_idle (cutoff?_eq hnow' hmessage'.possible)
    (cutoff?_eq hnow' haction'.possible) hmessages hactions k'

end Sweep

namespace Sample

/-- A conversation begins shortly before a leap second. -/
def newYear : List (Instant × Store.Call) :=
  [(⟨1483228799, 300000000⟩, .createConversation "Happy new year" "chrome" none),
    (⟨1483228799, 300000000⟩, .createMessage 1 .user "Send the cards")]

/-- A minute before the first sweep. -/
def earlierTime : Instant := ⟨overdueTime.second - 60, 0⟩

/-- A second is allowed. -/
def hurried : Settings.Sweeper := { Settings.Sweeper.standard with
  actionMaxDuration := 1, messageMaxDuration := 1 }

end Sample

namespace Sweep

/-- A sweep as if it were a minute earlier, after one that has ended all there was to end. -/
theorem sweepAt_again_abandoned :
    (Store.empty.replay Sample.abandoned).Legible ∧ Sample.overdueTime.Possible ∧
      (Sample.overdueTime.minusSeconds 3600).Legible ∧
      (Sample.overdueTime.minusSeconds 600).Legible ∧
      (Sample.still Sample.overdueTime).Legible ∧ Sample.earlierTime.Possible ∧
      (Sample.earlierTime.minusSeconds 3600).Legible ∧
      (Sample.earlierTime.minusSeconds 600).Legible ∧
      Sample.overdueTime.before Sample.earlierTime = false ∧
      Sample.earlierTime.nano < Instant.nanosPerSecond ∧
      let s := (sweepAlone .standard Sample.overdueTime (Sample.still Sample.overdueTime)
        (Store.empty.replay Sample.abandoned)).2.store
      (sweepAlone .standard Sample.earlierTime (Sample.still Sample.moment) s).1 = .ok .empty ∧
        (sweepAlone .standard Sample.earlierTime (Sample.still Sample.moment) s).2.store = s := by
  have hcalls : ∀ e ∈ Sample.abandoned, e.1.Legible := by decide +kernel
  have hstore := Store.replay_legible hcalls Store.empty_legible
  have hlegible : Sample.overdueTime.Legible := by decide +kernel
  have hlegible' : Sample.earlierTime.Legible := by decide +kernel
  have hmessage : (Sample.overdueTime.minusSeconds 3600).Legible := by decide +kernel
  have haction : (Sample.overdueTime.minusSeconds 600).Legible := by decide +kernel
  have hmessage' : (Sample.earlierTime.minusSeconds 3600).Legible := by decide +kernel
  have haction' : (Sample.earlierTime.minusSeconds 600).Legible := by decide +kernel
  have hk : (Sample.still Sample.overdueTime).Legible := Course.legible_constant hlegible _
  have hle : Sample.overdueTime.before Sample.earlierTime = false := by decide +kernel
  have hsmooth : Sample.earlierTime.nano < Instant.nanosPerSecond := by decide +kernel
  exact ⟨hstore, hlegible.possible, hmessage, haction, hk, hlegible'.possible, hmessage', haction',
    hle, hsmooth, sweepAt_again .standard Sample.overdueTime Sample.earlierTime hstore
      hlegible.possible hmessage haction hk hlegible'.possible hmessage' haction' hle
      (Or.inl hsmooth) (Sample.still Sample.moment)⟩

/-- The time of the second sweep lies within a leap second: it is earlier than that of the first,
and its cutoff is later. -/
theorem sweepAt_again_leap :
    let now : Instant := ⟨1483228800, 200000000⟩
    let now' : Instant := ⟨1483228799, 1500000000⟩
    let s := (sweepAlone Sample.hurried now (Sample.still now)
      (Store.empty.replay Sample.newYear)).2.store
    (∀ e ∈ Sample.newYear, e.1.Legible) ∧ (now.minusSeconds 1).Legible ∧
      (now'.minusSeconds 1).Legible ∧ now'.before now = true ∧
      s = Store.empty.replay Sample.newYear ∧
      (sweepAlone Sample.hurried now' (Sample.still now') s).1 =
        .ok ⟨0, 0, 1, [1], [(1, "message 1 timed out; the conversation was stopped")]⟩ := by
  decide +kernel

end Sweep

end ControlPlane
