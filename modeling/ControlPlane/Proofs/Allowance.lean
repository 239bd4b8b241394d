/-
What a sweep spares.

A sweep lets fail only actions whose clock started more than their budget ago, and ends work on
messages only if they were created more than their budget ago (`Sweep.sweepAt_within_budget`).
This is asked of every store that calls have made of the empty one, also where times cannot be
read back, and of sweeps that break off. So it is proved by a contract: what a sweep is answered
is overdue (`Store.Dated.staleMessages`, `Store.Dated.staleActions`), the calls it goes on to
make are about what it was answered (`Store.Rightful`), and such calls spare the rest
(`Store.Spares.called`).

It holds of budgets that are taken at their word. A longer one counts as none
(`Sweep.effectiveBudget`), and then work is ended that has hardly begun; and a budget that leads
out of the calendar breaks the sweep off (`Sweep.sweepAt_overlong`).
-/
import ControlPlane.Proofs.RepeatedSweep

set_option autoImplicit false

namespace ControlPlane

/-! ## Times of the calendar -/

/-- A text that the store wrote for a time of the calendar. -/
def Stamp.IsWritten (raw : String) : Prop := ∃ t : Instant, t.Possible ∧ raw = t.storedText

/-- What can be read and is before a text is before its time. -/
theorem Stamp.isBefore_of_lt {raw : String} {cutoff : Instant} (hraw : Stamp.IsWritten raw)
    (hcutoff : cutoff.Possible) {v : Instant} (hread : Stamp.read raw = .ok v)
    (hlt : raw < cutoff.storedText) : Stamp.isBefore raw cutoff = true := by
  obtain ⟨t, ht, rfl⟩ := hraw
  have hlegible := Stamp.legible_of_read ht hread
  rw [Stamp.isBefore_storedText hlegible]
  exact Instant.before_of_storedText_lt hlegible hcutoff hlt

namespace Store

variable {s s' : Store} {now : Instant}

/-- The times from which budgets count are times of the calendar. -/
structure Dated (s : Store) : Prop where
  /-- Messages were created at such times. -/
  messages : ∀ m ∈ s.messages, Stamp.IsWritten m.createdAt
  /-- The clocks of actions started at such times. -/
  actions : ∀ a ∈ s.actions,
    Stamp.IsWritten a.createdAt ∧ ∀ text ∈ a.startedAt, Stamp.IsWritten text

theorem empty_dated : Store.empty.Dated :=
  ⟨fun _ h => absurd h List.not_mem_nil, fun _ h => absurd h List.not_mem_nil⟩

theorem Change.dated {call : Call} (h : s.Change now call s') (hnow : now.Possible)
    (hs : s.Dated) : s'.Dated := by
  cases h with
  | nothing => exact hs
  | conversations => exact ⟨hs.messages, hs.actions⟩
  | newConversation => exact ⟨hs.messages, hs.actions⟩
  | actions _ f hf =>
      refine ⟨hs.messages, ?_⟩
      intro b hb
      obtain ⟨a, ha, rfl⟩ := List.mem_map.1 hb
      have hmoves := hf a
      generalize f a = b at hmoves
      cases hmoves with
      | stays => exact hs.actions a ha
      | starts =>
          refine ⟨(hs.actions a ha).1, ?_⟩
          intro text htext
          rw [← Option.some.inj htext]
          exact ⟨now, hnow, rfl⟩
      | completes => exact hs.actions a ha
      | ends => exact hs.actions a ha
  | messages _ f hf =>
      refine ⟨?_, hs.actions⟩
      intro b hb
      obtain ⟨m, hm, rfl⟩ := List.mem_map.1 hb
      rw [(hf m).kept]
      exact hs.messages m hm
  | newMessage c role content _ =>
      refine ⟨?_, hs.actions⟩
      intro m hm
      rcases List.mem_append.1 hm with hm | hm
      · exact hs.messages m hm
      · rw [List.mem_singleton.1 hm]
        exact ⟨now, hnow, rfl⟩
  | newAction m kind parameters _ =>
      refine ⟨hs.messages, ?_⟩
      intro a ha
      rcases List.mem_append.1 ha with ha | ha
      · exact hs.actions a ha
      · rw [List.mem_singleton.1 ha]
        exact ⟨⟨now, hnow, rfl⟩, fun _ h => (by cases h)⟩

theorem replay_dated {calls : List (Instant × Call)} (hcalls : ∀ e ∈ calls, e.1.Possible) :
    (Store.empty.replay calls).Dated :=
  replay_induction (fun s e he hs => (s.perform_change e.1 e.2).dated (hcalls e he) hs)
    empty_dated

/-! ## What is answered -/

theorem time_ok {column : Nat} {raw : String} {t : Instant} (h : Row.time column raw = .ok t) :
    Stamp.read raw = .ok t := by
  unfold Row.time at h
  split at h
  next i hread => rw [hread, Except.ok.inj h]
  next => cases h

/-- A message that was read has the time of creation that its row names. -/
theorem read_createdAt {column : Nat} {r : MessageRow} {v : Message} (h : r.read column = .ok v) :
    Stamp.read r.createdAt = .ok v.createdAt := by
  obtain ⟨role, -, h⟩ := bind_ok h
  obtain ⟨createdAt, htime, h⟩ := bind_ok h
  cases h
  exact time_ok htime

/-- The clock of an action that was read started when its row says. -/
theorem read_clockStart {a : ActionRow} {v : Action} (h : a.read = .ok v) :
    Stamp.read a.clockStart = .ok (v.startedAt.getD v.createdAt) := by
  obtain ⟨_, _, createdAt, startedAt, _, _, hcreated, hstarted, rfl⟩ := read_action_columns h
  unfold ActionRow.clockStart
  cases hclock : a.startedAt with
  | none =>
      rw [hclock, Row.time?] at hstarted
      cases hstarted
      exact time_ok hcreated
  | some text =>
      rw [hclock, Row.time?] at hstarted
      cases htime : Row.time 13 text with
      | error flaw =>
          rw [htime] at hstarted
          cases hstarted
      | ok t =>
          rw [htime] at hstarted
          cases hstarted
          exact time_ok htime

/-- The clock of an action starts at a time of the calendar. -/
theorem Dated.clockStart (hs : s.Dated) {a : ActionRow} (ha : a ∈ s.actions) :
    Stamp.IsWritten a.clockStart := by
  unfold ActionRow.clockStart
  cases hstarted : a.startedAt with
  | none => exact (hs.actions a ha).1
  | some text => exact (hs.actions a ha).2 text hstarted

/-- Messages that are answered were created before the cutoff. -/
theorem Dated.staleMessages (hs : s.Dated) {cutoff : Instant} (hcutoff : cutoff.Possible)
    {values : List Message} (h : s.staleMessages cutoff = .ok values) {v : Message}
    (hv : v ∈ values) :
    ∃ m ∈ s.messages, m.id = v.id ∧ m.conversationId = v.conversationId ∧
      Stamp.isBefore m.createdAt cutoff = true := by
  obtain ⟨m, hm, hread⟩ := exists_of_forall₂ (forall₂_of_readAll (answer_ok h)) hv
  obtain ⟨hmem, hstale⟩ := List.mem_filter.1 hm
  have hlt := of_decide_eq_true (Bool.and_eq_true_iff.1 hstale).1
  have ht := read_createdAt hread
  exact ⟨m, hmem, (read_message hread).1.symm, (read_message hread).2.symm,
    Stamp.isBefore_of_lt (hs.messages m hmem) hcutoff ht hlt⟩

/-- The clocks of actions that are answered started before the cutoff. -/
theorem Dated.staleActions (hs : s.Dated) {cutoff : Instant} (hcutoff : cutoff.Possible)
    {values : List Action} (h : s.staleActions cutoff = .ok values) {v : Action}
    (hv : v ∈ values) :
    ∃ a ∈ s.actions, a.id = v.id ∧ a.isOpen = true ∧
      Stamp.isBefore a.clockStart cutoff = true := by
  obtain ⟨a, ha, hread⟩ := exists_of_forall₂ (forall₂_of_readAll (answer_ok h)) hv
  obtain ⟨hmem, hstale⟩ := List.mem_filter.1 ha
  obtain ⟨hopen, hearly⟩ := Bool.and_eq_true_iff.1 hstale
  have ht := read_clockStart hread
  exact ⟨a, hmem, (read_action hread).1.symm, hopen,
    Stamp.isBefore_of_lt (hs.clockStart hmem) hcutoff ht (of_decide_eq_true hearly)⟩

/-! ## What is spared -/

/-- Some message that serves as a reason was created before a time. -/
def Late (s : Store) (cutoff : Instant) (p : MessageRow → Prop) : Prop :=
  ∃ m ∈ s.messages, p m ∧ Stamp.isBefore m.createdAt cutoff = true

/-- What may become of an action in a sweep with two cutoffs. -/
inductive Spared (s : Store) (messageCutoff actionCutoff : Instant) (a : ActionRow) :
    ActionRow → Prop where
  /-- It stays. -/
  | stays : Spared s messageCutoff actionCutoff a a
  /-- It was open, its message was created before the message cutoff, and it is skipped. -/
  | skipped (hopen : a.isOpen = true) (hlate : s.Late messageCutoff fun m => m.id = a.messageId)
      (t : Instant) :
      Spared s messageCutoff actionCutoff a (forced t .skipped Sweep.messageReason a)
  /-- It was open, its clock started before the action cutoff, and it has failed. -/
  | failed (hopen : a.isOpen = true) (hlate : Stamp.isBefore a.clockStart actionCutoff = true)
      (t : Instant) :
      Spared s messageCutoff actionCutoff a (forced t .failed Sweep.actionReason a)

/-- What may become of a conversation in a sweep with a cutoff for messages. -/
inductive SparedConversation (s : Store) (messageCutoff : Instant) (c : ConversationRow) :
    ConversationRow → Prop where
  /-- It stays. -/
  | stays : SparedConversation s messageCutoff c c
  /-- It was running, one of its messages was created before the cutoff, and it is stopped. -/
  | stopped (hrunning : c.isRunning = true)
      (hlate : s.Late messageCutoff fun m => m.conversationId = c.id) (t : Instant) :
      SparedConversation s messageCutoff c
        { c with state := Conversation.State.error.name, updatedAt := t.storedText }

/-- A store on the way of a sweep: nothing is ended that is not overdue. -/
structure Spares (s : Store) (messageCutoff actionCutoff : Instant) (s' : Store) : Prop where
  /-- Actions are spared. -/
  actions : List.Forall₂ (s.Spared messageCutoff actionCutoff) s.actions s'.actions
  /-- Conversations are spared. -/
  conversations : List.Forall₂ (s.SparedConversation messageCutoff) s.conversations
    s'.conversations
  /-- The rest is as it was. -/
  kept : s' = { s with actions := s'.actions, conversations := s'.conversations }

theorem Spares.start (s : Store) (messageCutoff actionCutoff : Instant) :
    s.Spares messageCutoff actionCutoff s :=
  ⟨List.forall₂_same.2 fun _ _ => .stays, List.forall₂_same.2 fun _ _ => .stays, rfl⟩

section Calls

variable {messageCutoff actionCutoff : Instant}

/-- An action that is open still has stayed. -/
theorem Spared.eq_of_isOpen {a a' : ActionRow}
    (h : s.Spared messageCutoff actionCutoff a a') (hopen : a'.isOpen = true) : a' = a := by
  cases h with
  | stays => rfl
  | skipped _ _ t =>
      rw [forced_isOpen .skipped rfl] at hopen
      cases hopen
  | failed _ _ t =>
      rw [forced_isOpen .failed rfl] at hopen
      cases hopen

/-- A conversation that is running still has stayed. -/
theorem SparedConversation.eq_of_isRunning {c c' : ConversationRow}
    (h : s.SparedConversation messageCutoff c c') (hrunning : c'.isRunning = true) : c' = c := by
  cases h with
  | stays => rfl
  | stopped => cases hrunning

/-- The calls that a sweep may make: about messages and actions that were there before it and
are late. -/
def Rightful (s : Store) (messageCutoff actionCutoff : Instant) : Call → Prop
  | .staleMessages _ => True
  | .staleActions _ => True
  | .getMessage _ => True
  | .skipOpenActions message reason =>
    reason = Sweep.messageReason ∧ s.Late messageCutoff fun m => m.id = message
  | .endConversation conversation state =>
    state = .error ∧ s.Late messageCutoff fun m => m.conversationId = conversation
  | .forceAction action status reason =>
    status = .failed ∧ reason = Sweep.actionReason ∧
      ∃ a ∈ s.actions, a.id = action ∧ Stamp.isBefore a.clockStart actionCutoff = true
  | _ => False

/-- **Rightful calls spare the rest.** -/
theorem Spares.called (h : s.Spares messageCutoff actionCutoff s') (hs : s.Ordered)
    (hs' : s'.Ordered) {call : Call} (hcall : s.Rightful messageCutoff actionCutoff call)
    (t : Instant) : s.Spares messageCutoff actionCutoff (s'.perform t call).2 := by
  cases call with
  | staleMessages | staleActions | getMessage => exact h
  | skipOpenActions message reason =>
      obtain ⟨rfl, hlate⟩ := hcall
      obtain ⟨f, hf, hstore⟩ := skipEach_change t Sweep.messageReason (s'.openIds message) s'
      have hstore' : (s'.perform t (.skipOpenActions message Sweep.messageReason)).2 =
          { s' with actions := s'.actions.map f } := hstore
      rw [hstore']
      refine ⟨forall₂_map_right h.actions ?_, h.conversations,
        congrArg (fun x : Store => { x with actions := s'.actions.map f }) h.kept⟩
      intro a _ a' ha' hspared
      rcases hf a' with hsame | ⟨hopen, hid, hforced⟩
      · rwa [hsame]
      · -- what is skipped is open, so it is as it was, and it serves the message
        obtain ⟨b, hb, hmessage, -, hbid⟩ := mem_openIds.1 hid
        have hserves : a'.messageId = message := by
          rw [← hs'.actions.eq_of_id_eq hb ha' hbid, hmessage]
        have hstayed := hspared.eq_of_isOpen hopen
        rw [hforced]
        rw [hstayed] at hopen hserves ⊢
        exact .skipped hopen (hserves ▸ hlate) t
  | endConversation conversation state =>
      obtain ⟨rfl, hlate⟩ := hcall
      refine ⟨h.actions, forall₂_map_right h.conversations ?_,
        congrArg (fun x : Store => { x with
          conversations := (s'.endConversation t conversation .error).2.conversations }) h.kept⟩
      intro c _ c' _ hspared
      split
      next hhit =>
        obtain ⟨hid, hrunning⟩ := Bool.and_eq_true_iff.1 hhit
        have hstayed := hspared.eq_of_isRunning hrunning
        rw [hstayed] at hid hrunning ⊢
        exact .stopped hrunning ((beq_iff_eq.1 hid).symm ▸ hlate) t
      next => exact hspared
  | forceAction action status reason =>
      obtain ⟨rfl, rfl, b, hb, hbid, hlate⟩ := hcall
      refine ⟨forall₂_map_right h.actions ?_, h.conversations,
        congrArg (fun x : Store => { x with
          actions := (s'.forceAction t action .failed Sweep.actionReason).2.actions }) h.kept⟩
      intro a ha a' _ hspared
      split
      next hhit =>
        obtain ⟨hid, hopen⟩ := Bool.and_eq_true_iff.1 hhit
        have hstayed := hspared.eq_of_isOpen hopen
        rw [hstayed] at hid hopen ⊢
        have hsame : b = a := hs.actions.eq_of_id_eq hb ha (hbid.trans (beq_iff_eq.1 hid).symm)
        exact .failed hopen (hsame ▸ hlate) t
      next => exact hspared
  | _ => exact hcall.elim

/-- The times from which budgets count stay. -/
theorem Spares.dated (h : s.Spares messageCutoff actionCutoff s') (hs : s.Dated) : s'.Dated := by
  have hmessages : s'.messages = s.messages := by rw [h.kept]
  refine ⟨hmessages ▸ hs.messages, ?_⟩
  intro a' ha'
  obtain ⟨a, ha, hspared⟩ := exists_of_forall₂ h.actions ha'
  cases hspared with
  | stays => exact hs.actions a' ha
  | skipped => exact hs.actions a ha
  | failed => exact hs.actions a ha

end Calls

end Store

namespace Sweep

open Store Procedure

variable {s : Store} {settings : Settings.Sweeper} {now messageCutoff actionCutoff : Instant}

/-! ## The contract of a sweep -/

/-- The store spares what is not overdue, and its tables are numbered. -/
def Sparing (s : Store) (messageCutoff actionCutoff : Instant) (h : Past) : Prop :=
  s.Spares messageCutoff actionCutoff h.store ∧ h.store.Ordered

/-- A sweep by itself makes rightful calls only, and asks for no decision. -/
def rightfully (s : Store) (messageCutoff actionCutoff : Instant) :
    Contract (Sparing s messageCutoff actionCutoff) where
  rely h h' := h' = h
  rely_refl := fun _ => rfl
  rely_trans := fun _ _ _ h h' => h'.trans h
  allows _ c := s.Rightful messageCutoff actionCutoff c
  asks _ _ := False

/-- Where a sweep ends, it was not the calendar that broke it off. -/
def Unbroken {α : Type} (r : Except Fault α) (_ : Past) : Prop := r ≠ .error .beyondCalendar

theorem unbroken_error {α : Type} (e : Fault) (h : Past) (hne : e ≠ .beyondCalendar) :
    Unbroken (.error e : Except Fault α) h :=
  fun heq => hne (Except.error.inj heq)

/-- A rightful call may be made, and what follows is seen from its answer. -/
theorem meets_rightful {c : Store.Call} (hc : s.Rightful messageCutoff actionCutoff c)
    {β : Type} {post : Except Fault β → Past → Prop} {f : c.Answer → Procedure β} {h : Past}
    (hpost : ∀ e h, e ≠ .beyondCalendar → post (.error e) h)
    (hf : ∀ h' t a, Sparing s messageCutoff actionCutoff h' → (h'.store.perform t c).1 = .ok a →
      (f a).Meets (rightfully s messageCutoff actionCutoff) .sweeper post
        (h'.called .sweeper t c)) :
    (call c >>= f).Meets (rightfully s messageCutoff actionCutoff) .sweeper post h := by
  refine meets_bind (meets_call fun h' _ hinv => ⟨hc, fun t => ?_⟩)
  cases hanswer : (h'.store.perform t c).1 with
  | ok a => exact hf h' t a hinv hanswer
  | error e =>
      -- a fault of a call is one of the store, and this one is not
      refine hpost e _ ?_
      rintro rfl
      exact perform_fault hanswer

/-- The first pass makes rightful calls, if its messages are late. -/
theorem expireMessages_meets {messages : List Message}
    (hlate : ∀ v ∈ messages, ∃ m ∈ s.messages, m.id = v.id ∧
      m.conversationId = v.conversationId ∧ Stamp.isBefore m.createdAt messageCutoff = true)
    (report : Report) (h : Past) :
    (expireMessages report messages).Meets (rightfully s messageCutoff actionCutoff) .sweeper
      Unbroken h := by
  induction messages generalizing report h with
  | nil => exact meets_pure fun hfault => by cases hfault
  | cons v rest ih =>
      obtain ⟨m, hm, hid, hconversation, hbefore⟩ := hlate v List.mem_cons_self
      have hrest := ih fun w hw => hlate w (List.mem_cons_of_mem v hw)
      unfold expireMessages
      refine meets_rightful (c := .skipOpenActions v.id messageReason)
        ⟨rfl, m, hm, hid, hbefore⟩ unbroken_error fun h' t skipped _ _ => ?_
      refine meets_rightful (c := .endConversation v.conversationId .error)
        ⟨rfl, m, hm, hconversation, hbefore⟩ unbroken_error fun h'' u ended _ _ => ?_
      split
      · exact hrest report _
      · exact hrest _ _

/-- The second pass makes rightful calls, if its actions are late. -/
theorem timeOutActions_meets {actions : List Action}
    (hlate : ∀ v ∈ actions, ∃ a ∈ s.actions, a.id = v.id ∧
      Stamp.isBefore a.clockStart actionCutoff = true)
    (report : Report) (h : Past) :
    (timeOutActions report actions).Meets (rightfully s messageCutoff actionCutoff) .sweeper
      Unbroken h := by
  induction actions generalizing report h with
  | nil => exact meets_pure fun hfault => by cases hfault
  | cons v rest ih =>
      have hrest := ih fun w hw => hlate w (List.mem_cons_of_mem v hw)
      unfold timeOutActions
      refine meets_rightful (c := .forceAction v.id .failed actionReason)
        ⟨rfl, rfl, hlate v List.mem_cons_self⟩ unbroken_error fun h' t changed _ _ => ?_
      cases changed with
      | false => exact hrest report _
      | true =>
          refine meets_rightful (c := .getMessage v.messageId) trivial unbroken_error
            fun h'' u found _ _ => ?_
          exact hrest _ _

/-! ## Budgets taken at their word -/

/-- Going back does not lead into a later year. -/
theorem year_minusSeconds_le (now : Instant) (seconds : Nat) :
    (now.minusSeconds seconds).date.year ≤ now.date.year := by
  by_contra hlater
  have hsecond := Instant.second_lt_of_year_lt (Int.not_le.1 hlater)
  have hle := second_minusSeconds_le now seconds
  omega

theorem possible_minusSeconds (hnow : now.Possible) {seconds : Nat}
    (h : calendarStart ≤ (now.minusSeconds seconds).second) :
    (now.minusSeconds seconds).Possible := by
  refine ⟨⟨Instant.firstYear_le h, Int.le_trans (year_minusSeconds_le now seconds) hnow.year.2⟩, ?_⟩
  have hnano := hnow.nano
  unfold Instant.minusSeconds
  split
  · exact hnano
  · split
    next hsmooth => exact Or.inl hsmooth
    next hleap =>
      refine Or.inl ?_
      simp only
      unfold Instant.nanosPerSecond at hnano hleap ⊢
      omega

/-- Of budgets that are not too long the cutoff is the time less the budget, if the calendar goes
back so far. -/
theorem cutoff?_of_le {seconds : Nat} (h : seconds ≤ longestBudget) :
    cutoff? now seconds =
      if (now.minusSeconds seconds).second < calendarStart then none
      else some (now.minusSeconds seconds) := by
  rw [cutoff?, effectiveBudget, if_neg (Nat.not_lt.2 h)]

/-- The whole sweep makes rightful calls, and is broken off by the calendar only where a cutoff
lies before its beginning. -/
theorem sweepAt_meets (hs : s.Dated) (hnow : now.Possible)
    (hmessage : settings.messageMaxDuration ≤ longestBudget)
    (haction : settings.actionMaxDuration ≤ longestBudget) :
    (sweepAt settings now).Meets
      (rightfully s (now.minusSeconds settings.messageMaxDuration)
        (now.minusSeconds settings.actionMaxDuration)) .sweeper
      (fun r _ => r = .error .beyondCalendar →
        (now.minusSeconds settings.messageMaxDuration).second < calendarStart ∨
          (now.minusSeconds settings.actionMaxDuration).second < calendarStart)
      (.start s) := by
  have hfault : ∀ (e : Fault) (h : Past), e ≠ .beyondCalendar →
      ((.error e : Except Fault Report) = .error .beyondCalendar →
        (now.minusSeconds settings.messageMaxDuration).second < calendarStart ∨
          (now.minusSeconds settings.actionMaxDuration).second < calendarStart) :=
    fun e _ hne heq => absurd (Except.error.inj heq) hne
  unfold sweepAt
  rw [cutoff?_of_le hmessage, cutoff?_of_le haction]
  by_cases hfirst : (now.minusSeconds settings.messageMaxDuration).second < calendarStart
  · rw [if_pos hfirst]
    exact meets_bind (meets_fail fun _ => Or.inl hfirst)
  rw [if_neg hfirst]
  have hpossible := possible_minusSeconds hnow (Int.not_lt.1 hfirst)
  refine meets_bind (meets_pure ?_)
  refine meets_rightful (c := .staleMessages _) trivial hfault fun h₁ t messages hinv hanswer => ?_
  have hlate : ∀ v ∈ messages, ∃ m ∈ s.messages, m.id = v.id ∧
      m.conversationId = v.conversationId ∧
      Stamp.isBefore m.createdAt (now.minusSeconds settings.messageMaxDuration) = true := by
    intro v hv
    have hsame : h₁.store.messages = s.messages := by rw [hinv.1.kept]
    obtain ⟨m, hm, hrest⟩ := (hinv.1.dated hs).staleMessages hpossible hanswer hv
    exact ⟨m, hsame ▸ hm, hrest⟩
  refine meets_bind ((expireMessages_meets hlate .empty _).mono fun r h hr => ?_)
  cases r with
  | error e => exact fun heq => absurd heq hr
  | ok report =>
      by_cases hsecond : (now.minusSeconds settings.actionMaxDuration).second < calendarStart
      · rw [if_pos hsecond]
        exact meets_bind (meets_fail fun _ => Or.inr hsecond)
      rw [if_neg hsecond]
      have hpossible' := possible_minusSeconds hnow (Int.not_lt.1 hsecond)
      refine meets_bind (meets_pure ?_)
      refine meets_rightful (c := .staleActions _) trivial hfault
        fun h₂ u actions hinv' hanswer' => ?_
      have hlate' : ∀ v ∈ actions, ∃ a ∈ s.actions, a.id = v.id ∧
          Stamp.isBefore a.clockStart (now.minusSeconds settings.actionMaxDuration) = true := by
        intro v hv
        obtain ⟨a', ha', hid, hopen, hbefore⟩ :=
          (hinv'.1.dated hs).staleActions hpossible' hanswer' hv
        -- what is open on the way was open before, and its clock started then
        obtain ⟨a, ha, hspared⟩ := exists_of_forall₂ hinv'.1.actions ha'
        have hstayed := hspared.eq_of_isOpen hopen
        exact ⟨a, ha, hstayed ▸ hid, hstayed ▸ hbefore⟩
      exact (timeOutActions_meets hlate' report _).mono fun r _ hr heq => absurd heq hr

/-- Where the calendar does not go back as far as the budget for messages, the sweep is broken off
before it has begun. -/
theorem sweepAlone_broken (hmessage : settings.messageMaxDuration ≤ longestBudget) (k : Course)
    (s : Store) (h : (now.minusSeconds settings.messageMaxDuration).second < calendarStart) :
    (sweepAlone settings now k s).1 = .error .beyondCalendar ∧
      (sweepAlone settings now k s).2.store = s := by
  rw [sweepAlone, sweepAt, cutoff?_of_le hmessage, if_pos h]
  exact ⟨rfl, rfl⟩

/-- **What a sweep spares.** -/
theorem sweepAlone_spares (hs : s.Dated) (hordered : s.Ordered) (hnow : now.Possible)
    (hmessage : settings.messageMaxDuration ≤ longestBudget)
    (haction : settings.actionMaxDuration ≤ longestBudget) (k : Course) :
    ((sweepAlone settings now k s).1 = .error .beyondCalendar →
      (now.minusSeconds settings.messageMaxDuration).second < calendarStart ∨
        (now.minusSeconds settings.actionMaxDuration).second < calendarStart) ∧
      s.Spares (now.minusSeconds settings.messageMaxDuration)
        (now.minusSeconds settings.actionMaxDuration) (sweepAlone settings now k s).2.store := by
  have hmeets := sweepAt_meets hs hnow hmessage haction
  have hcalled : ∀ h t c, Sparing s (now.minusSeconds settings.messageMaxDuration)
      (now.minusSeconds settings.actionMaxDuration) h →
      s.Rightful (now.minusSeconds settings.messageMaxDuration)
        (now.minusSeconds settings.actionMaxDuration) c →
      Sparing s (now.minusSeconds settings.messageMaxDuration)
        (now.minusSeconds settings.actionMaxDuration) (h.called .sweeper t c) :=
    fun h t c hinv hc => ⟨hinv.1.called hordered hinv.2 hc t,
      (h.store.perform_change t c).ordered hinv.2⟩
  obtain ⟨hpost, hinv⟩ := hmeets.follow_allowed hcalled (fun _ _ _ hinv => hinv) k
    ⟨.start s _ _, hordered⟩
  exact ⟨hpost, hinv.1⟩

/-! ## Raised budgets -/

/-- A longer budget has no later cutoff. -/
theorem minusSeconds_antitone (now : Instant) {seconds more : Nat} (h : seconds ≤ more) :
    (now.minusSeconds seconds).before (now.minusSeconds more) = false := by
  rw [Instant.before_eq_false_iff]
  unfold Instant.minusSeconds
  by_cases hzero : seconds = 0
  · by_cases hzero' : more = 0
    · rw [if_pos hzero, if_pos hzero']
      exact Or.inr ⟨rfl, Nat.le_refl _⟩
    · rw [if_pos hzero, if_neg hzero']
      split
      · simp only
        omega
      · simp only
        omega
  · have hzero' : more ≠ 0 := by omega
    rw [if_neg hzero, if_neg hzero']
    split
    · simp only
      omega
    · simp only
      omega

/-- With a later cutoff no fewer messages are overdue. -/
theorem overdue_of_overdue {cutoff cutoff' : Instant} (hle : cutoff.before cutoff' = false)
    {m : MessageRow} (hm : m ∈ s.overdue cutoff') : m ∈ s.overdue cutoff := by
  obtain ⟨hmem, hoverdue⟩ := List.mem_filter.1 hm
  obtain ⟨hbefore, hwork⟩ := Bool.and_eq_true_iff.1 hoverdue
  refine List.mem_filter.2 ⟨hmem, ?_⟩
  rw [isOverdue, hwork, Stamp.isBefore_of_isBefore hbefore hle]
  rfl

section Raised

variable {s' s'' : Store} {messageCutoff' actionCutoff' : Instant} {report report' : Report}

/-- What a sweep leaves as it is, a sweep with earlier cutoffs leaves as it is. -/
theorem Swept.action_stays (hs : s.Ordered) (h : Swept s messageCutoff actionCutoff s' report)
    (h' : Swept s messageCutoff' actionCutoff' s'' report')
    (hmessage : messageCutoff.before messageCutoff' = false)
    (haction : actionCutoff.before actionCutoff' = false) {a : ActionRow} (ha : a ∈ s.actions)
    (hstays : a ∈ s'.actions) : a ∈ s''.actions := by
  obtain ⟨b, hb, hlapses⟩ := exists_of_forall₂ h.actions hstays
  -- had it been ended it would not be open, and it was open before
  have hmissed : skippedWith (s.overdue messageCutoff) a = false ∧
      s.isOvertime messageCutoff actionCutoff a = false := by
    cases hlapses with
    | skipped hskipped t =>
        have hsame := hs.actions.eq_of_id_eq ha hb rfl
        have hopen := (Bool.and_eq_true_iff.1 hskipped).2
        rw [← hsame, forced_isOpen .skipped rfl] at hopen
        cases hopen
    | failed hfailed t =>
        have hsame := hs.actions.eq_of_id_eq ha hb rfl
        have hopen := (Bool.and_eq_true_iff.1 (Bool.and_eq_true_iff.1 hfailed).1).1
        rw [← hsame, forced_isOpen .failed rfl] at hopen
        cases hopen
    | stays hmissed hmissed' => exact ⟨hmissed, hmissed'⟩
  obtain ⟨a'', ha'', hlapses'⟩ := exists_of_forall₂ (List.Forall₂.flip h'.actions) ha
  cases hlapses' with
  | skipped hskipped t =>
      obtain ⟨hany, hopen⟩ := Bool.and_eq_true_iff.1 hskipped
      obtain ⟨m, hm, hserves⟩ := List.any_eq_true.1 hany
      have hthen : skippedWith (s.overdue messageCutoff) a = true := by
        rw [skippedWith, hopen, Bool.and_true]
        exact List.any_eq_true.2 ⟨m, overdue_of_overdue hmessage hm, hserves⟩
      rw [hmissed.1] at hthen
      cases hthen
  | failed hfailed t =>
      obtain ⟨hopen, hbefore⟩ := Bool.and_eq_true_iff.1 hfailed
      have hthen : s.isOvertime messageCutoff actionCutoff a = true := by
        rw [isOvertime, (Bool.and_eq_true_iff.1 hopen).1, hmissed.1,
          Stamp.isBefore_of_isBefore hbefore haction]
        rfl
      rw [hmissed.2] at hthen
      cases hthen
  | stays => exact ha''

theorem Swept.conversation_stays (hs : s.Ordered)
    (h : Swept s messageCutoff actionCutoff s' report)
    (h' : Swept s messageCutoff' actionCutoff' s'' report')
    (hmessage : messageCutoff.before messageCutoff' = false) {c : ConversationRow}
    (hc : c ∈ s.conversations) (hstays : c ∈ s'.conversations) : c ∈ s''.conversations := by
  have hmissed : stoppedWith (s.overdue messageCutoff) c = false := by
    obtain ⟨b, hb, ⟨hstopped, t, rfl⟩ | ⟨hmissed, rfl⟩⟩ :=
      exists_of_forall₂ h.conversations hstays
    · have hsame := hs.conversations.eq_of_id_eq hc hb rfl
      have hrunning := (Bool.and_eq_true_iff.1 hstopped).2
      rw [← hsame] at hrunning
      cases hrunning
    · exact hmissed
  refine h'.conversations.mem_of_not_hit hc ?_
  rw [Bool.eq_false_iff]
  intro hstopped
  obtain ⟨hany, hrunning⟩ := Bool.and_eq_true_iff.1 hstopped
  obtain ⟨m, hm, howns⟩ := List.any_eq_true.1 hany
  have hthen : stoppedWith (s.overdue messageCutoff) c = true := by
    rw [stoppedWith, hrunning, Bool.and_true]
    exact List.any_eq_true.2 ⟨m, overdue_of_overdue hmessage hm, howns⟩
  rw [hmissed] at hthen
  cases hthen

end Raised

/-- **Budgets are honoured**, if they are not longer than a signed 64-bit number of milliseconds
holds. Take a store that calls have made of the empty one, at any times of the calendar, and a
sweep as if it were any such time. It is broken off by the calendar only where that does not go
back as far as a budget, and it is where that does not go back as far as the budget for messages.
Whether it ends or not, an action has failed only if its clock started more than its budget before
that time, and an action was skipped or a conversation stopped only if the message was created more
than the budget for messages before it. And up to the year 9999, where all times can be read and
the calendar goes back far enough, the sweep is answered, and whatever it leaves as it is, a sweep
with larger budgets leaves as it is. -/
theorem sweepAt_within_budget {calls : List (Instant × Store.Call)} (settings : Settings.Sweeper)
    (now : Instant) (hcalls : ∀ e ∈ calls, e.1.Possible) (hnow : now.Possible)
    (hmessage : settings.messageMaxDuration ≤ longestBudget)
    (haction : settings.actionMaxDuration ≤ longestBudget) (k : Course) :
    let s := Store.empty.replay calls
    let outcome := sweepAlone settings now k s
    (outcome.1 = .error .beyondCalendar →
      (now.minusSeconds settings.messageMaxDuration).second < calendarStart ∨
        (now.minusSeconds settings.actionMaxDuration).second < calendarStart) ∧
      ((now.minusSeconds settings.messageMaxDuration).second < calendarStart →
        outcome.1 = .error .beyondCalendar ∧ outcome.2.store = s) ∧
      s.Spares (now.minusSeconds settings.messageMaxDuration)
        (now.minusSeconds settings.actionMaxDuration) outcome.2.store ∧
      ∀ (raised : Settings.Sweeper) (k' : Course),
        settings.messageMaxDuration ≤ raised.messageMaxDuration →
        settings.actionMaxDuration ≤ raised.actionMaxDuration →
        calendarStart ≤ (now.minusSeconds raised.messageMaxDuration).second →
        calendarStart ≤ (now.minusSeconds raised.actionMaxDuration).second →
        now.date.year ≤ 9999 → s.Legible → k.Legible → k'.Legible →
        let outcome' := sweepAlone raised now k' s
        (∃ report, outcome.1 = .ok report) ∧ (∃ report, outcome'.1 = .ok report) ∧
          (∀ a ∈ s.actions, a ∈ outcome.2.store.actions → a ∈ outcome'.2.store.actions) ∧
          ∀ c ∈ s.conversations, c ∈ outcome.2.store.conversations →
            c ∈ outcome'.2.store.conversations := by
  intro s outcome
  have hordered := Store.replay_ordered Store.empty_ordered calls
  obtain ⟨hbroken, hspares⟩ :=
    sweepAlone_spares (replay_dated hcalls) hordered hnow hmessage haction k
  refine ⟨hbroken, sweepAlone_broken hmessage k s, hspares, ?_⟩
  intro raised k' hmore hmore' hcalendar hcalendar' hyear hlegible hk hk'
  -- the calendar goes back as far as the larger budgets, so it does as far as the others
  have hcutoff : ∀ {seconds more : Nat}, seconds ≤ more →
      calendarStart ≤ (now.minusSeconds more).second →
      (now.minusSeconds seconds).Possible ∧ (now.minusSeconds seconds).date.year ≤ 9999 := by
    intro seconds more hle hstart
    have hnot := (Instant.before_eq_false_iff _ _).1 (minusSeconds_antitone now hle)
    exact ⟨possible_minusSeconds hnow (by omega),
      Int.le_trans (year_minusSeconds_le now seconds) hyear⟩
  obtain ⟨report, h, hrun, hswept⟩ := sweepAlone_swept hordered hlegible hnow
    (hcutoff hmore hcalendar) (hcutoff hmore' hcalendar') hk
  obtain ⟨report', h', hrun', hswept'⟩ := sweepAlone_swept hordered hlegible hnow
    (hcutoff (Nat.le_refl raised.messageMaxDuration) hcalendar)
    (hcutoff (Nat.le_refl raised.actionMaxDuration) hcalendar') hk'
  simp only [outcome]
  rw [hrun, hrun']
  exact ⟨⟨report, rfl⟩, ⟨report', rfl⟩,
    fun a ha hstays => hswept.action_stays hordered hswept' (minusSeconds_antitone now hmore)
      (minusSeconds_antitone now hmore') ha hstays,
    fun c hc hstays => hswept.conversation_stays hordered hswept'
      (minusSeconds_antitone now hmore) hc hstays⟩

end Sweep

namespace Sample

/-- The usual sweep with other budgets. -/
def within (actionMaxDuration messageMaxDuration : Nat) : Settings.Sweeper :=
  { Settings.Sweeper.standard with
    actionMaxDuration := actionMaxDuration, messageMaxDuration := messageMaxDuration }

/-- Twice the usual budgets. -/
def patient : Settings.Sweeper := within 1200 7200

end Sample

namespace Sweep

/-- With twice the usual budgets no message is overdue, and only the first action has taken too
long. -/
theorem sweepAt_within_budget_patient :
    (∀ e ∈ Sample.abandoned, e.1.Possible) ∧ Sample.overdueTime.Possible ∧
      3600 ≤ longestBudget ∧ 600 ≤ longestBudget ∧
      calendarStart ≤ (Sample.overdueTime.minusSeconds 7200).second ∧
      calendarStart ≤ (Sample.overdueTime.minusSeconds 1200).second ∧
      Sample.overdueTime.date.year ≤ 9999 ∧ (Store.empty.replay Sample.abandoned).Legible ∧
      (Sample.still Sample.overdueTime).Legible ∧
      let s := Store.empty.replay Sample.abandoned
      let outcome := sweepAlone .standard Sample.overdueTime (Sample.still Sample.overdueTime) s
      let outcome' := sweepAlone Sample.patient Sample.overdueTime
        (Sample.still Sample.overdueTime) s
      s.Spares (Sample.overdueTime.minusSeconds 3600) (Sample.overdueTime.minusSeconds 600)
          outcome.2.store ∧
        (∃ report, outcome.1 = .ok report) ∧
        outcome'.1 = .ok ⟨1, 0, 0, [], [(1, "action 1 (click) timed out without a result")]⟩ ∧
        (∀ a ∈ s.actions, a ∈ outcome.2.store.actions → a ∈ outcome'.2.store.actions) ∧
        ∀ c ∈ s.conversations, c ∈ outcome.2.store.conversations →
          c ∈ outcome'.2.store.conversations := by
  have hcalls : ∀ e ∈ Sample.abandoned, e.1.Legible := by decide +kernel
  have hstore := Store.replay_legible hcalls Store.empty_legible
  have hpossible : ∀ e ∈ Sample.abandoned, e.1.Possible := fun e he => (hcalls e he).possible
  have hlegible : Sample.overdueTime.Legible := by decide +kernel
  have hmessage : 3600 ≤ longestBudget := by decide
  have haction : 600 ≤ longestBudget := by decide
  have hmore : calendarStart ≤ (Sample.overdueTime.minusSeconds 7200).second := by decide +kernel
  have hmore' : calendarStart ≤ (Sample.overdueTime.minusSeconds 1200).second := by
    decide +kernel
  have hk : (Sample.still Sample.overdueTime).Legible := Course.legible_constant hlegible _
  have hreport : (sweepAlone Sample.patient Sample.overdueTime (Sample.still Sample.overdueTime)
      (Store.empty.replay Sample.abandoned)).1 =
        .ok ⟨1, 0, 0, [], [(1, "action 1 (click) timed out without a result")]⟩ := by
    decide +kernel
  obtain ⟨-, -, hspares, hraised⟩ := sweepAt_within_budget .standard Sample.overdueTime hpossible
    hlegible.possible hmessage haction (Sample.still Sample.overdueTime)
  obtain ⟨hended, -, hactions, hconversations⟩ := hraised Sample.patient
    (Sample.still Sample.overdueTime) (by decide) (by decide) hmore hmore' hlegible.year.2 hstore
    hk hk
  exact ⟨hpossible, hlegible.possible, hmessage, haction, hmore, hmore', hlegible.year.2, hstore,
    hk, hspares, hended, hreport, hactions, hconversations⟩

/-- A second after an action was handed out it has failed if the longest budget was configured,
and it has not if the usual one was. So it is with the conversation and the budget for messages.
And a budget that leads out of the calendar breaks the sweep off. -/
theorem sweepAt_overlong :
    let s := Store.empty.replay Sample.calls
    let now : Instant := ⟨Sample.moment.second + 1, 0⟩
    let outcome := fun (action message : Nat) =>
      sweepAlone (Sample.within action message) now (Sample.still now) s
    (outcome 600 3600).1 = .ok .empty ∧
      (outcome 18446744073709551615 3600).1 =
        .ok ⟨1, 0, 0, [], [(1, "action 1 (click) timed out without a result")]⟩ ∧
      (outcome 600 18446744073709551615).1 =
        .ok ⟨0, 1, 1, [1], [(1, "message 1 timed out; the conversation was stopped")]⟩ ∧
      (outcome 9000000000000 3600).1 = .error .beyondCalendar := by
  decide +kernel

end Sweep

end ControlPlane
