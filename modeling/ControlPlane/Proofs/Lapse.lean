/-
What a sweep comes to.

What the two passes of a sweep make of a store can be said at once, from the store as it was
(`Sweep.Swept`): the open actions of overdue messages are skipped and their running
conversations stopped, of the other open actions those fail whose own time was up, and nothing
else changes. The report counts what was ended (`Store.sweepReport`).

A cutoff is the time of the sweep less a budget. Budgets that lead back to a time of the
calendar are taken at their word (`Sweep.cutoff?_eq`).
-/
import ControlPlane.Proofs.Overdue

set_option autoImplicit false

namespace ControlPlane

namespace Store

/-! ## What lapses -/

/-- Whether an action is open, serves no overdue message, and was handed out, or else created,
before a time. -/
def isOvertime (s : Store) (messageCutoff actionCutoff : Instant) (a : ActionRow) : Bool :=
  a.isOpen && !skippedWith (s.overdue messageCutoff) a &&
    Stamp.isBefore a.clockStart actionCutoff

/-- The report of a sweep with some cutoffs. -/
def sweepReport (s : Store) (messageCutoff actionCutoff : Instant) : Sweep.Report :=
  let report := s.expiryReport messageCutoff (s.overdue messageCutoff)
  let failed := s.actions.filter (s.isOvertime messageCutoff actionCutoff)
  { report with
    timedOutActions := failed.length
    notices := report.notices ++ failed.flatMap s.overtimeNotices }

/-- What becomes of an action in a sweep. -/
inductive Lapses (s : Store) (messageCutoff actionCutoff : Instant) (a : ActionRow) :
    ActionRow → Prop where
  /-- It was open and its message overdue: it is skipped. -/
  | skipped (h : skippedWith (s.overdue messageCutoff) a = true) (t : Instant) :
      Lapses s messageCutoff actionCutoff a (forced t .skipped Sweep.messageReason a)
  /-- It was open and its own time was up: it has failed. -/
  | failed (h : s.isOvertime messageCutoff actionCutoff a = true) (t : Instant) :
      Lapses s messageCutoff actionCutoff a (forced t .failed Sweep.actionReason a)
  /-- It was neither: it is as it was. -/
  | stays (hmessage : skippedWith (s.overdue messageCutoff) a = false)
      (haction : s.isOvertime messageCutoff actionCutoff a = false) :
      Lapses s messageCutoff actionCutoff a a

end Store

namespace Sweep

open Store

/-- What a sweep with two cutoffs makes of a store, and what it reports. -/
structure Swept (s : Store) (messageCutoff actionCutoff : Instant) (s' : Store)
    (report : Report) : Prop where
  /-- The open actions of overdue messages are skipped, of the others those that took too long
  have failed, and the rest stays. -/
  actions : List.Forall₂ (s.Lapses messageCutoff actionCutoff) s.actions s'.actions
  /-- The running conversations of overdue messages are stopped with an error, and the others
  stay. -/
  conversations : Marked (stoppedWith (s.overdue messageCutoff)) Stopped s.conversations
    s'.conversations
  /-- Nothing else changes. -/
  kept : s' = { s with actions := s'.actions, conversations := s'.conversations }
  /-- The report counts what was ended, and tells the clients. -/
  report : report = s.sweepReport messageCutoff actionCutoff

/-- The two passes, one after the other, are the sweep. -/
theorem swept_of_passes {s s₁ s₂ : Store} {messageCutoff actionCutoff : Instant}
    {report₁ report₂ : Report} (hs₁ : s₁.Ordered)
    (hfirst : s.Expiring messageCutoff (s.overdue messageCutoff) s₁ report₁)
    (hsecond : s₁.TimingOut report₁
      (s₁.actions.filter fun a => a.isOpen && Stamp.isBefore a.clockStart actionCutoff) s₂
      report₂) :
    Swept s messageCutoff actionCutoff s₂ report₂ := by
  have hclosed : ∀ a a', EndedBy .skipped messageReason a a' →
      (a'.isOpen && Stamp.isBefore a'.clockStart actionCutoff) = false := by
    intro a a' ha
    rw [Bool.and_comm]
    exact EndedBy.closed rfl (fun a => Stamp.isBefore a.clockStart actionCutoff) a a' ha
  have hrows : (s₁.actions.filter fun a => a.isOpen && Stamp.isBefore a.clockStart actionCutoff) =
      s.actions.filter (s.isOvertime messageCutoff actionCutoff) := by
    rw [hfirst.actions.filter hclosed]
    refine List.filter_congr fun a _ => ?_
    rw [isOvertime, ← Bool.and_assoc, Bool.and_comm a.isOpen]
  have hnotices : s₁.overtimeNotices = s.overtimeNotices := by
    rw [hfirst.kept]
    rfl
  have hmarked := hsecond.actions.congr fun a ha => hs₁.actions.any_filter_id _ ha
  refine ⟨(hfirst.actions.trans hmarked hclosed).imp ?_, ?_, ?_, ?_⟩
  · rintro a a' (⟨hskipped, t, rfl⟩ | ⟨hmissed, htime, t, rfl⟩ | ⟨hmissed, htime, rfl⟩)
    · exact .skipped hskipped t
    · refine .failed ?_ t
      rw [isOvertime, hmissed, Bool.not_false, Bool.and_true]
      exact htime
    · refine .stays hmissed ?_
      rw [isOvertime, hmissed, Bool.not_false, Bool.and_true]
      exact htime
  · rw [hsecond.kept]
    exact hfirst.conversations
  · rw [hsecond.kept]
    exact congrArg (fun x : Store => { x with actions := s₂.actions }) hfirst.kept
  · rw [hsecond.report, hfirst.report, hrows, hnotices, sweepReport]
    simp only [expiryReport, Nat.zero_add]

variable {s : Store} {now messageCutoff actionCutoff : Instant} {settings : Settings.Sweeper}

/-- **What a sweep comes to**, along a legible course, if its cutoffs do not lie after the year
9999. -/
theorem follow_sweepAt (who : Actor) (hs : s.Ordered) (hlegible : s.Legible)
    (hmessage : cutoff? now settings.messageMaxDuration = some messageCutoff)
    (haction : cutoff? now settings.actionMaxDuration = some actionCutoff)
    (hmessage' : messageCutoff.Possible ∧ messageCutoff.date.year ≤ 9999)
    (haction' : actionCutoff.Possible ∧ actionCutoff.date.year ≤ 9999) {k : Course}
    (hk : k.Legible) {h : Past} (hstore : h.store = s) :
    ∃ report h', (sweepAt settings now).run.follow who k h = (.ok report, h') ∧
      Swept s messageCutoff actionCutoff h'.store report := by
  subst hstore
  obtain ⟨messages, hmessages, hread⟩ := hlegible.staleMessages hmessage'.1 hmessage'.2
  let looked := h.called who (k.clock 0) (.staleMessages messageCutoff)
  obtain ⟨report₁, h₁, hrun₁, hfirst, hordered₁, hlegible₁⟩ :=
    follow_expireMessages who (h := looked) (k := k.rest) hs hread rfl hk.rest
      (Expiring.start h.store messageCutoff) hs hlegible
  let after (report : Report) : Procedure Report := do
    let actionCutoff ← Procedure.orFail .beyondCalendar (cutoff? now settings.actionMaxDuration)
    let actions ← Procedure.call (.staleActions actionCutoff)
    timeOutActions report actions
  obtain ⟨k₁, hk₁, hbind⟩ := Procedure.follow_bind (f := after) hrun₁
  obtain ⟨actions, hactions, hread'⟩ := hlegible₁.staleActions haction'.1 haction'.2
  let looked₁ := h₁.called who (k₁.clock 0) (.staleActions actionCutoff)
  have hrows : ∀ a ∈ h₁.store.actions.filter fun a =>
      a.isOpen && Stamp.isBefore a.clockStart actionCutoff,
      a ∈ h₁.store.actions ∧ a.isOpen = true := by
    intro a ha
    obtain ⟨hmem, hstale⟩ := List.mem_filter.1 ha
    exact ⟨hmem, (Bool.and_eq_true_iff.1 hstale).1⟩
  obtain ⟨report₂, h₂, hrun₂, hsecond⟩ :=
    follow_timeOutActions who (h := looked₁) (k := k₁.rest) hordered₁ hlegible₁ hread'
      hrows (hordered₁.actions.ascending.sublist List.filter_sublist) (hk₁ hk.rest).rest
      (TimingOut.start h₁.store report₁) hlegible₁
  refine ⟨report₂, h₂, ?_, swept_of_passes hordered₁ hfirst hsecond⟩
  calc (sweepAt settings now).run.follow who k h
      = (Procedure.call (.staleMessages messageCutoff) >>= fun messages =>
          expireMessages .empty messages >>= after).run.follow who k h := by
        rw [sweepAt, hmessage]
        rfl
    _ = (expireMessages .empty messages >>= after).run.follow who k.rest looked :=
        Procedure.follow_call (c := .staleMessages messageCutoff) hmessages
    _ = (after report₁).run.follow who k₁ h₁ := hbind
    _ = (Procedure.call (.staleActions actionCutoff) >>= timeOutActions report₁).run.follow who
          k₁ h₁ := by
        simp only [after]
        rw [haction]
        rfl
    _ = (timeOutActions report₁ actions).run.follow who k₁.rest looked₁ :=
        Procedure.follow_call (c := .staleActions actionCutoff) hactions
    _ = (.ok report₂, h₂) := hrun₂

end Sweep

/-! ## Cutoffs -/

namespace Instant

variable {t : Instant}

/-- The bounds of the calendar in seconds. -/
theorem Possible.second_bounds (h : t.Possible) :
    Sweep.calendarStart ≤ t.second ∧ t.second < 9000000000000 := by
  obtain ⟨hlow, hhigh⟩ := t.dayNumber_bounds
  have hyear := h.year
  have hstart : Sweep.calendarStart = -8334601228800 := by decide +kernel
  rw [Date.daysBeforeYear_eq] at hlow hhigh
  unfold Date.firstYear Date.lastYear at hyear
  unfold dayNumber secondsPerDay Date.epoch at hlow hhigh
  rw [hstart]
  omega

/-- A time that is not before the calendar begins lies in a year of the calendar or later. -/
theorem firstYear_le (h : Sweep.calendarStart ≤ t.second) : Date.firstYear ≤ t.date.year := by
  obtain ⟨-, hhigh⟩ := t.dayNumber_bounds
  have hstart : Sweep.calendarStart = -8334601228800 := by decide +kernel
  rw [Date.daysBeforeYear_eq] at hhigh
  rw [hstart] at h
  unfold Date.firstYear
  unfold dayNumber secondsPerDay Date.epoch at hhigh
  omega

end Instant

namespace Sweep

variable {now cutoff : Instant} {seconds : Nat}

/-- Going back does not lead into the future. -/
theorem second_minusSeconds_le (now : Instant) (seconds : Nat) :
    (now.minusSeconds seconds).second ≤ now.second := by
  unfold Instant.minusSeconds
  split
  · exact Int.le_refl _
  · split
    · simp only
      omega
    · simp only
      omega

/-- **Budgets that lead back to a time of the calendar** are taken at their word. -/
theorem cutoff?_eq (hnow : now.Possible) (h : (now.minusSeconds seconds).Possible) :
    cutoff? now seconds = some (now.minusSeconds seconds) := by
  have hlow := h.second_bounds.1
  have hhigh := hnow.second_bounds.2
  have hlength : ¬ longestBudget < seconds := by
    have hstart : calendarStart = -8334601228800 := by decide +kernel
    intro hlong
    rw [hstart] at hlow
    unfold longestBudget at hlong
    unfold Instant.minusSeconds at hlow
    split at hlow
    · omega
    · split at hlow
      · simp only at hlow
        omega
      · simp only at hlow
        omega
  rw [cutoff?, effectiveBudget, if_neg hlength]
  exact if_neg (by omega)

/-- A sweep from its beginning to its end, as if it were a given time, while nobody else is at
work. -/
def sweepAlone (settings : Settings.Sweeper) (now : Instant) (k : Course) (s : Store) :
    Except Fault Report × Past :=
  (sweepAt settings now).run.follow .sweeper k (.start s)

/-- Alone a sweep is answered, if its cutoffs are times of the calendar up to the year 9999. -/
theorem sweepAlone_swept {s : Store} {settings : Settings.Sweeper} (hs : s.Ordered)
    (hlegible : s.Legible) (hnow : now.Possible)
    (hmessage : (now.minusSeconds settings.messageMaxDuration).Possible ∧
      (now.minusSeconds settings.messageMaxDuration).date.year ≤ 9999)
    (haction : (now.minusSeconds settings.actionMaxDuration).Possible ∧
      (now.minusSeconds settings.actionMaxDuration).date.year ≤ 9999) {k : Course}
    (hk : k.Legible) :
    ∃ report h, sweepAlone settings now k s = (.ok report, h) ∧
      Swept s (now.minusSeconds settings.messageMaxDuration)
        (now.minusSeconds settings.actionMaxDuration) h.store report :=
  follow_sweepAt .sweeper hs hlegible (cutoff?_eq hnow hmessage.1) (cutoff?_eq hnow haction.1)
    hmessage haction hk rfl

/-- **A sweep does exactly what its budgets say.** Take a store that calls have made of the empty
one, with legible times, and a sweep whose cutoffs are legible: the time of the sweep less the
budgets. Along every legible course the sweep is answered. The open actions of overdue messages
are skipped with the text for messages, and the running conversations of overdue messages are
stopped; of the other open actions those have failed, with the text for actions, whose clock
started before the action cutoff; and nothing else has changed. The report counts the actions
that failed and those that were skipped, tells which conversations were stopped, and has a
notice for each overdue message at whose turn something ended and for each action that
failed. -/
theorem sweepAt_swept {calls : List (Instant × Store.Call)} (settings : Settings.Sweeper)
    (now : Instant) {k : Course} (hstore : (Store.empty.replay calls).Legible)
    (hnow : now.Possible) (hmessage : (now.minusSeconds settings.messageMaxDuration).Legible)
    (haction : (now.minusSeconds settings.actionMaxDuration).Legible) (hk : k.Legible) :
    let s := Store.empty.replay calls
    let outcome := sweepAlone settings now k s
    ∃ report, outcome.1 = .ok report ∧
      Swept s (now.minusSeconds settings.messageMaxDuration)
        (now.minusSeconds settings.actionMaxDuration) outcome.2.store report := by
  have hordered := Store.replay_ordered Store.empty_ordered calls
  obtain ⟨report, h, hrun, hswept⟩ := sweepAlone_swept hordered hstore hnow
    ⟨hmessage.possible, hmessage.year.2⟩ ⟨haction.possible, haction.year.2⟩ hk
  exact ⟨report, congrArg Prod.fst hrun, (congrArg Prod.snd hrun) ▸ hswept⟩

end Sweep

namespace Sample

/-- Two conversations that the client has abandoned, the second fifty minutes after the first. -/
def abandoned : List (Instant × Store.Call) :=
  calls ++ [(⟨moment.second + 3000, 0⟩, .createConversation "Buy a ticket" "chrome" none),
    (⟨moment.second + 3000, 0⟩, .createMessage 2 .user "To Leiden"),
    (⟨moment.second + 3000, 0⟩, .createAction 2 .click ⟨none, some "#b", none, none, none⟩)]

/-- A conversation in which a second message followed before the first was done. -/
def followed : List (Instant × Store.Call) :=
  calls ++ [(moment, .createMessage 1 .user "As Bob")]

/-- No time is allowed. -/
def strict : Settings.Sweeper := { Settings.Sweeper.standard with
  actionMaxDuration := 0, messageMaxDuration := 0 }

/-- A good hour after the first conversation was abandoned. -/
def overdueTime : Instant := ⟨moment.second + 3700, 0⟩

/-- The clock stands still. -/
def still (now : Instant) : Course := .constant now (.error (.reported .decision "unavailable"))

end Sample

namespace Sweep

/-- A good hour later the first message is overdue, and the second action has taken too long. -/
theorem sweepAt_swept_abandoned :
    (Store.empty.replay Sample.abandoned).Legible ∧ Sample.overdueTime.Possible ∧
      (Sample.overdueTime.minusSeconds 3600).Legible ∧
      (Sample.overdueTime.minusSeconds 600).Legible ∧
      (Sample.still Sample.overdueTime).Legible ∧
      ∃ report,
        (sweepAlone .standard Sample.overdueTime (Sample.still Sample.overdueTime)
          (Store.empty.replay Sample.abandoned)).1 = .ok report ∧
        Swept (Store.empty.replay Sample.abandoned) (Sample.overdueTime.minusSeconds 3600)
          (Sample.overdueTime.minusSeconds 600)
          (sweepAlone .standard Sample.overdueTime (Sample.still Sample.overdueTime)
            (Store.empty.replay Sample.abandoned)).2.store report ∧
        report = ⟨1, 1, 1, [1], [(1, "message 1 timed out; the conversation was stopped"),
          (2, "action 2 (click) timed out without a result")]⟩ := by
  have hcalls : ∀ e ∈ Sample.abandoned, e.1.Legible := by decide +kernel
  have hstore := Store.replay_legible hcalls Store.empty_legible
  have hlegible : Sample.overdueTime.Legible := by decide +kernel
  have hmessage : (Sample.overdueTime.minusSeconds 3600).Legible := by decide +kernel
  have haction : (Sample.overdueTime.minusSeconds 600).Legible := by decide +kernel
  have hk : (Sample.still Sample.overdueTime).Legible := Course.legible_constant hlegible _
  obtain ⟨report, hreport, hswept⟩ := sweepAt_swept .standard Sample.overdueTime hstore
    hlegible.possible hmessage haction hk
  have hcounts : (Store.empty.replay Sample.abandoned).sweepReport
      (Sample.overdueTime.minusSeconds 3600) (Sample.overdueTime.minusSeconds 600) =
        ⟨1, 1, 1, [1], [(1, "message 1 timed out; the conversation was stopped"),
          (2, "action 2 (click) timed out without a result")]⟩ := by decide +kernel
  exact ⟨hstore, hlegible.possible, hmessage, haction, hk, report, hreport, hswept,
    hswept.report.trans hcounts⟩

/-- Half a microsecond after a message was created its time is up, but not its stored time. And
of two overdue messages of one conversation only the first counts if it ends all that there is
to end. -/
theorem sweepAt_coarse :
    (let s := Store.empty.replay Sample.calls
      let now : Instant := ⟨Sample.moment.second, 500⟩
      (∃ m ∈ s.messages, Stamp.read m.createdAt = .ok Sample.moment ∧
        Sample.moment.before (now.minusSeconds 0) = true ∧ s.hasOpen m.id = true) ∧
        (sweepAlone Sample.strict now (Sample.still now) s).1 = .ok .empty ∧
        (sweepAlone Sample.strict now (Sample.still now) s).2.store = s) ∧
      let s := Store.empty.replay Sample.followed
      let now : Instant := ⟨Sample.moment.second + 1, 0⟩
      (s.overdue (now.minusSeconds 0)).length = 2 ∧
        (sweepAlone Sample.strict now (Sample.still now) s).1 =
          .ok ⟨0, 1, 1, [1], [(1, "message 1 timed out; the conversation was stopped")]⟩ := by
  decide +kernel

end Sweep

end ControlPlane
