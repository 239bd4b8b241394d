/-
Frames that are rejected.

A frame is rejected when it is answered with an error before a decision was asked for. There are
eight ways (`Coordinator.Rejects`), and on seven of them the store is as it was. On the last one
the frame brings the text of a new message and a page without elements: the message is added
before the page is looked at, and stays (`rejected_untouched`, `rejected_touched`).

The proof goes along the approach with the store in hand. What is to hold in the end is taken back
from the end, one call at a time (`Program.Ends`).
-/
import ControlPlane.Proofs.Agreement
import ControlPlane.Proofs.Ending
import ControlPlane.Proofs.HandlerPhases
import ControlPlane.Proofs.Report

set_option autoImplicit false

namespace ControlPlane

/-! ## Stores that calls at legible times have made -/

namespace Store

variable {s : Store} {now : Instant}

/-- Calls at legible times have made the store of the empty one. -/
def Reached (s : Store) : Prop :=
  ∃ history : List (Instant × Call), (∀ e ∈ history, e.1.Legible) ∧ s = Store.empty.replay history

namespace Reached

theorem sound (hs : s.Reached) : s.Sound := by
  obtain ⟨history, hlegible, rfl⟩ := hs
  exact replay_sound hlegible

theorem readable (hs : s.Reached) : s.Readable := by
  obtain ⟨history, hlegible, rfl⟩ := hs
  exact replay_readable hlegible empty_readable

/-- A call at a legible time reaches another such store. -/
theorem perform (hs : s.Reached) (hnow : now.Legible) (call : Call) :
    (s.perform now call).2.Reached := by
  obtain ⟨history, hlegible, rfl⟩ := hs
  refine ⟨history ++ [(now, call)], ?_, ?_⟩
  · exact List.forall_mem_append.2 ⟨hlegible, List.forall_mem_singleton.2 hnow⟩
  · rw [replay_append]
    rfl

/-- A conversation is found as its row says, or is missing. -/
theorem getConversation (hs : s.Reached) (c : Int) :
    (s.conversation? c = none ∧ s.getConversation c = .ok none) ∨
      ∃ r v, s.conversation? c = some r ∧ s.getConversation c = .ok (some v) ∧
        v.id = c ∧ r.state = v.state.name := by
  obtain ⟨o, ho⟩ : ∃ o, s.getConversation c = .ok o := answer?_ok hs.sound.conversations _
  cases o with
  | none => exact Or.inl ⟨answer?_none ho, ho⟩
  | some v =>
      obtain ⟨hid, r, hr, hstate⟩ := getConversation_some ho
      exact Or.inr ⟨r, v, hr, ho, hid, Conversation.State.name_of_ofName? hstate⟩

/-- A message is found as its row says, or is missing. -/
theorem getMessage (hs : s.Reached) (m : Int) :
    (s.message? m = none ∧ s.getMessage m = .ok none) ∨
      ∃ r v, s.message? m = some r ∧ s.getMessage m = .ok (some v) ∧
        v.id = m ∧ v.conversationId = r.conversationId := by
  obtain ⟨o, ho⟩ : ∃ o, s.getMessage m = .ok o := answer?_ok hs.sound.messages _
  cases o with
  | none => exact Or.inl ⟨answer?_none ho, ho⟩
  | some v =>
      obtain ⟨r, hr, hread⟩ := answer?_some ho
      obtain ⟨hid, hc⟩ := read_message hread
      exact Or.inr ⟨r, v, hr, ho, hid.trans (message?_id hr), hc⟩

/-- An action is found as its row says, or is missing. -/
theorem getAction (hs : s.Reached) (i : Int) :
    (s.action? i = none ∧ s.getAction i = .ok none) ∨
      ∃ a v, s.action? i = some a ∧ s.getAction i = .ok (some v) ∧
        v.id = a.id ∧ v.messageId = a.messageId := by
  obtain ⟨o, ho⟩ : ∃ o, s.getAction i = .ok o := answer?_ok hs.sound.actions _
  cases o with
  | none => exact Or.inl ⟨answer?_none ho, ho⟩
  | some v =>
      obtain ⟨a, ha, hread⟩ := answer?_some ho
      obtain ⟨hid, hm⟩ := read_action hread
      exact Or.inr ⟨a, v, ha, ho, hid, hm⟩

/-- The actions of a message can be listed. -/
theorem listActions (hs : s.Reached) (m : Int) : ∃ actions, s.listActions m = .ok actions :=
  answer_readAll fun a ha => hs.sound.actions a (mem_actionsOf.1 ha).1

/-- The conversation of a message is there. -/
theorem conversation?_of_message (hs : s.Reached) {m : Int} {r : MessageRow}
    (hr : s.message? m = some r) : ∃ x, s.conversation? r.conversationId = some x := by
  obtain ⟨x, hx, hid⟩ := hs.sound.rooted r (List.mem_of_find?_eq_some hr)
  exact ⟨x, hs.sound.regular.ordered.conversations.find?_eq hx hid⟩

end Reached

end Store

namespace Coordinator

open Procedure Store

variable {c : Int} {s : Store}

/-! ## The ways to be rejected -/

/-- Why a frame is rejected, and the store afterwards. -/
inductive Rejects (c : Int) (s : Store) : ClientFrame → Fault → Store → Prop where
  /-- There is no such conversation. -/
  | unknownConversation {t : TaskFrame} (h : s.conversation? c = none) :
      Rejects c s (.task t) (.missing .conversation c) s
  /-- The conversation has ended. -/
  | endedConversation {t : TaskFrame} {r : ConversationRow} {st : Conversation.State}
      (hr : s.conversation? c = some r) (hstate : r.state = st.name)
      (hst : st.isTerminal = true) : Rejects c s (.task t) (.ended c st) s
  /-- The message belongs to another conversation. -/
  | foreignMessage {t : TaskFrame} {r : MessageRow} (hc : s.isRunning c = true)
      (hr : s.message? t.messageId = some r) (hother : r.conversationId ≠ c) :
      Rejects c s (.task t) (.foreign .message t.messageId c) s
  /-- There is no such message, and no text for it. -/
  | unknownMessage {t : TaskFrame} (hc : s.isRunning c = true)
      (hr : s.message? t.messageId = none) (htext : t.task.bind Text.nonBlank? = none) :
      Rejects c s (.task t) (.missing .message t.messageId) s
  /-- The page has no elements. -/
  | emptyPage {t : TaskFrame} {r : MessageRow} (hc : s.isRunning c = true)
      (hr : s.message? t.messageId = some r) (hown : r.conversationId = c)
      (hpage : t.page.isEmpty = true) : Rejects c s (.task t) .emptyPage s
  /-- The page has no elements, but the message is new: it was added. -/
  | emptyPageAfter {t : TaskFrame} {text : String} {now : Instant} (hc : s.isRunning c = true)
      (hr : s.message? t.messageId = none) (htext : t.task.bind Text.nonBlank? = some text)
      (hpage : t.page.isEmpty = true) :
      Rejects c s (.task t) .emptyPage
        { s with
          messages := s.messages ++ [s.messageRow now c .user text]
          lastMessage := s.lastMessage + 1 }
  /-- There is no such action. -/
  | unknownAction {r : ResultFrame} (h : s.action? r.actionId = none) :
      Rejects c s (.result r) (.missing .action r.actionId) s
  /-- The action serves a message of another conversation. -/
  | foreignAction {r : ResultFrame} {a : ActionRow} {m : MessageRow}
      (ha : s.action? r.actionId = some a) (hm : s.message? a.messageId = some m)
      (hother : m.conversationId ≠ c) : Rejects c s (.result r) (.foreign .action a.id c) s

/-! ## The approach, call by call -/

/-- What comes of the look at the conversation. -/
def Stands (c : Int) (s : Store) : Except Fault Conversation → Store → Prop
  | .ok v, s' => s' = s ∧ v.id = c ∧ s.isRunning c = true
  | .error f, s' => s' = s ∧ ((s.conversation? c = none ∧ f = .missing .conversation c) ∨
      ∃ r st, s.conversation? c = some r ∧ r.state = st.name ∧ st.isTerminal = true ∧
        f = .ended c st)

/-- The check finds a running conversation, or there is a reason to reject. -/
theorem runningConversation_ends (hs : s.Reached) (c : Int) :
    (runningConversation c).Ends Instant.Legible s (Stands c s) := by
  unfold runningConversation
  refine ends_answered fun now _ => ?_
  rcases hs.getConversation c with ⟨hnone, hanswer⟩ | ⟨r, v, hr, hanswer, hid, hstate⟩
  · exact ⟨none, hanswer, rfl, Or.inl ⟨hnone, rfl⟩⟩
  · refine ⟨some v, hanswer, ?_⟩
    change Procedure.Ends (if v.state.isTerminal then _ else _) Instant.Legible s
      (Stands c s)
    by_cases hterminal : v.state.isTerminal = true
    · rw [if_pos hterminal]
      exact ⟨rfl, Or.inr ⟨r, v.state, hr, hstate, hterminal, rfl⟩⟩
    · rw [if_neg hterminal]
      exact ⟨rfl, hid, isRunning_of_found hanswer hterminal⟩

theorem conversation?_of_isRunning (h : s.isRunning c = true) :
    (s.conversation? c).isSome = true := by
  unfold Store.isRunning at h
  split at h
  next hr => rw [hr, Option.isSome_some]
  next => cases h

theorem not_ended_of_isRunning (h : s.isRunning c = true) {r : ConversationRow}
    (hr : s.conversation? c = some r) {st : Conversation.State} (hstate : r.state = st.name)
    (hst : st.isTerminal = true) : False := by
  have hname : st.name = Conversation.State.running.name := by
    simpa only [Store.isRunning, hr, hstate, beq_iff_eq] using h
  cases st with
  | running => cases hst
  | finished => exact absurd hname (by decide)
  | error => exact absurd hname (by decide)

/-- The message of a task frame is there, and belongs to the conversation. -/
def Placed (c : Int) (s : Store) (t : TaskFrame) : Prop :=
  ∃ r, s.message? t.messageId = some r ∧ r.conversationId = c

/-- The task frame brings the text of a message that is not there. -/
def Brings (s : Store) (t : TaskFrame) (text : String) : Prop :=
  s.message? t.messageId = none ∧ t.task.bind Text.nonBlank? = some text

/-- What comes of the search for the message of a task frame. -/
def Resolves (c : Int) (s : Store) (t : TaskFrame) : Except Fault Message → Store → Prop
  | .ok _, s' => (s' = s ∧ Placed c s t) ∨
      ∃ now text, now.Legible ∧ Brings s t text ∧ s' = (s.createMessage now c .user text).2
  | .error f, s' => s' = s ∧
      ((f = .foreign .message t.messageId c ∧
          ∃ r, s.message? t.messageId = some r ∧ r.conversationId ≠ c) ∨
        (f = .missing .message t.messageId ∧ s.message? t.messageId = none ∧
          t.task.bind Text.nonBlank? = none))

/-- The message of a task is found or added, or there is a reason to reject. -/
theorem resolveMessage_ends (hs : s.Reached) {v : Conversation} (hv : v.id = c)
    (hrunning : s.isRunning c = true) (t : TaskFrame) :
    (resolveMessage v t).Ends Instant.Legible s (Resolves c s t) := by
  unfold resolveMessage
  rw [hv]
  refine ends_answered fun now _ => ?_
  rcases hs.getMessage t.messageId with ⟨hnone, hanswer⟩ | ⟨r, m, hr, hanswer, -, hc⟩
  · refine ⟨none, hanswer, ?_⟩
    cases htext : t.task.bind Text.nonBlank? with
    | none => exact ⟨rfl, Or.inr ⟨rfl, hnone, htext⟩⟩
    | some text =>
        intro now hnow
        obtain ⟨m, hm⟩ := hs.sound.regular.ordered.createMessage_ok hnow
          (conversation?_of_isRunning hrunning) .user text
        change Resolves c s t (s.createMessage now c .user text).1 _
        rw [hm]
        exact Or.inr ⟨now, text, hnow, ⟨hnone, htext⟩, rfl⟩
  · refine ⟨some m, hanswer, ?_⟩
    change Procedure.Ends (if m.conversationId = c then _ else _) Instant.Legible s
      (Resolves c s t)
    by_cases hown : m.conversationId = c
    · rw [if_pos hown]
      exact Or.inl ⟨rfl, r, hr, hc.symm.trans hown⟩
    · rw [if_neg hown]
      exact ⟨rfl, Or.inl ⟨rfl, r, hr, fun h => hown (hc.trans h)⟩⟩

/-- A task frame for a running conversation with a message and a page is not rejected. -/
theorem not_rejects_task {t : TaskFrame} (hrunning : s.isRunning c = true)
    (hmessage : Placed c s t ∨ ∃ text, Brings s t text) (hpage : ¬ t.page.isEmpty = true)
    (f : Fault) (s' : Store) : ¬ Rejects c s (.task t) f s' := by
  intro h
  cases h with
  | unknownConversation h =>
      have hfound := conversation?_of_isRunning hrunning
      rw [h] at hfound
      cases hfound
  | endedConversation hr hstate hst => exact not_ended_of_isRunning hrunning hr hstate hst
  | foreignMessage _ hr hother =>
      obtain ⟨r', hr', hown⟩ | ⟨text, hnone, -⟩ := hmessage
      · rw [hr] at hr'
        exact hother (Option.some.inj hr' ▸ hown)
      · exact Option.some_ne_none _ (hr.symm.trans hnone)
  | unknownMessage _ hr htext =>
      obtain ⟨r', hr', -⟩ | ⟨text, -, hbrings⟩ := hmessage
      · exact Option.some_ne_none _ (hr'.symm.trans hr)
      · exact Option.some_ne_none _ (hbrings.symm.trans htext)
  | emptyPage _ _ _ hempty => exact hpage hempty
  | emptyPageAfter _ _ _ hempty => exact hpage hempty

/-- A task is rejected for a reason, or there is none. -/
theorem approachTask_ends (hs : s.Reached) (c : Int) (t : TaskFrame) :
    (approachTask c t).Ends Instant.Legible s fun r s' =>
      (∀ f, r = .error f → Rejects c s (.task t) f s') ∧
        ∀ errand, r = .ok errand → ∀ f s'', ¬ Rejects c s (.task t) f s'' := by
  refine ends_bind (runningConversation_ends hs c) ?_ ?_
  · -- the conversation is not there or has ended
    rintro f _ ⟨rfl, hfound⟩
    refine ⟨?_, fun _ h => by cases h⟩
    rintro _ ⟨⟩
    rcases hfound with ⟨hnone, rfl⟩ | ⟨r, st, hr, hstate, hst, rfl⟩
    · exact .unknownConversation hnone
    · exact .endedConversation hr hstate hst
  rintro v s ⟨rfl, hv, hrunning⟩
  refine ends_bind (resolveMessage_ends hs hv hrunning t) ?_ ?_
  · -- the message belongs elsewhere, or is not there and has no text
    rintro f _ ⟨rfl, hfault⟩
    refine ⟨?_, fun _ h => by cases h⟩
    rintro _ ⟨⟩
    rcases hfault with ⟨rfl, r, hr, hother⟩ | ⟨rfl, hnone, htext⟩
    · exact .foreignMessage hrunning hr hother
    · exact .unknownMessage hrunning hnone htext
  intro m s' hresolved
  by_cases hpage : t.page.isEmpty = true
  · rw [if_pos hpage]
    refine ⟨?_, fun _ h => by cases h⟩
    rintro _ ⟨⟩
    rcases hresolved with ⟨rfl, r, hr, hown⟩ | ⟨now, text, hnow, ⟨hnone, htext⟩, rfl⟩
    · exact .emptyPage hrunning hr hown hpage
    · rw [hs.sound.regular.ordered.createMessage_eq now (conversation?_of_isRunning hrunning)]
      exact .emptyPageAfter hrunning hnone htext hpage
  · rw [if_neg hpage]
    -- from here on every call is answered
    obtain ⟨hs', hmessage⟩ : s'.Reached ∧ (Placed c s t ∨ ∃ text, Brings s t text) := by
      rcases hresolved with ⟨rfl, hplaced⟩ | ⟨now, text, hnow, hbrings, rfl⟩
      · exact ⟨hs, Or.inl hplaced⟩
      · exact ⟨hs.perform hnow (.createMessage c .user text), Or.inr ⟨text, hbrings⟩⟩
    refine ends_answered fun now hnow => ?_
    obtain ⟨skipped, hskipped⟩ := skipOpenActions_answers hnow hs'.readable m.id supersededReason
    refine ⟨skipped, hskipped, ends_answered fun _ _ => ?_⟩
    obtain ⟨actions, hactions⟩ :=
      (hs'.perform hnow (.skipOpenActions m.id supersededReason)).listActions m.id
    refine ⟨actions, hactions, fun _ h => (by cases h), ?_⟩
    exact fun _ _ => not_rejects_task hrunning hmessage hpage

/-- What comes of the search for the action of a result frame. -/
def Traces (c : Int) (s : Store) (r : ResultFrame) : Except Fault (Action × Message) → Store → Prop
  | .ok _, s' => s' = s ∧ ∃ a m, s.action? r.actionId = some a ∧
      s.message? a.messageId = some m ∧ m.conversationId = c
  | .error f, s' => Rejects c s (.result r) f s'

/-- The action of a result is found, or there is a reason to reject. -/
theorem resolveAction_ends (hs : s.Reached) (c : Int) (r : ResultFrame) :
    (resolveAction c r).Ends Instant.Legible s (Traces c s r) := by
  unfold resolveAction
  refine ends_answered fun now _ => ?_
  rcases hs.getAction r.actionId with ⟨hnone, hanswer⟩ | ⟨a, v, ha, hanswer, hid, hmessage⟩
  · exact ⟨none, hanswer, .unknownAction hnone⟩
  refine ⟨some v, hanswer, ?_⟩
  change Procedure.Ends (call (.getMessage v.messageId) >>= _) Instant.Legible s
    (Traces c s r)
  refine ends_answered fun now _ => ?_
  -- the message of an action is always there
  obtain ⟨x, hx, hxid⟩ := hs.sound.regular.anchored a (List.mem_of_find?_eq_some ha)
  have hfound : s.message? a.messageId = some x :=
    hs.sound.regular.ordered.messages.find?_eq hx hxid
  rcases hs.getMessage v.messageId with ⟨hnone, -⟩ | ⟨row, m, hrow, hanswer', -, hc⟩
  · rw [hmessage, hfound] at hnone
    cases hnone
  rw [hmessage] at hrow
  refine ⟨some m, hanswer', ?_⟩
  change Procedure.Ends (if m.conversationId = c then _ else _) Instant.Legible s
      (Traces c s r)
  by_cases hown : m.conversationId = c
  · rw [if_pos hown]
    exact ⟨rfl, a, row, ha, hrow, hc.symm.trans hown⟩
  · rw [if_neg hown, hid]
    exact .foreignAction ha hrow fun h => hown (hc.trans h)

/-- A result is a success or a failure, so it can be recorded. -/
theorem completeAction_verdict (s : Store) (now : Instant) (id : Int) (r : ResultFrame) :
    ∃ recorded,
      (s.completeAction now id (verdict r).1 (verdict r).2 r.executionTime).1 = .ok recorded := by
  have hstatus : (verdict r).1 = .success ∨ (verdict r).1 = .failed := by
    unfold verdict
    split
    · exact Or.inl rfl
    · exact Or.inr rfl
  simp only [completeAction, if_pos hstatus]
  exact ⟨_, rfl⟩

theorem completeAction_conversations (s : Store) (now : Instant) (id : Int)
    (status : Action.Status) (e : Option String) (x : Option Int) :
    (s.completeAction now id status e x).2.conversations = s.conversations := by
  unfold completeAction
  split <;> rfl

/-- A result frame for an action of the conversation is not rejected. -/
theorem not_rejects_result {r : ResultFrame} {a : ActionRow} {m : MessageRow}
    (ha : s.action? r.actionId = some a) (hm : s.message? a.messageId = some m)
    (hown : m.conversationId = c) (f : Fault) (s' : Store) : ¬ Rejects c s (.result r) f s' := by
  intro h
  cases h with
  | unknownAction h => exact Option.some_ne_none _ (ha.symm.trans h)
  | foreignAction ha' hm' hother =>
      rw [ha] at ha'
      obtain rfl := Option.some.inj ha'
      rw [hm] at hm'
      exact hother (Option.some.inj hm' ▸ hown)

/-- What comes of the approach: a reason to reject the frame, or anything but an error. -/
def Approached (c : Int) (s : Store) (frame : ClientFrame) :
    Except Fault (Option ServerFrame ⊕ Errand) → Store → Prop
  | .error f, s' => Rejects c s frame f s'
  | .ok rest, _ => (∀ f s'', ¬ Rejects c s frame f s'') ∧ ∀ text, rest ≠ .inl (some (.error text))

/-- A result is rejected for a reason, or there is none. -/
theorem approachResult_ends (hs : s.Reached) (c : Int) (r : ResultFrame) :
    (approachResult c r).Ends Instant.Legible s (Approached c s (.result r)) := by
  refine ends_bind (resolveAction_ends hs c r) (fun f s' h => h) ?_
  rintro ⟨action, message⟩ s ⟨rfl, a, m, ha, hm, hown⟩
  have hfits := not_rejects_result ha hm hown
  refine ends_answered fun now hnow => ?_
  obtain ⟨recorded, hrecorded⟩ := completeAction_verdict s now action.id r
  refine ⟨recorded, hrecorded, ?_⟩
  have hs' := hs.perform hnow
    (.completeAction action.id (verdict r).1 (verdict r).2 r.executionTime)
  cases recorded with
  | false => exact ⟨hfits, fun _ h => by cases h⟩
  | true =>
      refine ends_bind (ends_attempt (runningConversation_ends hs' c)) ?_ ?_
      · rintro e _ ⟨r', hr', -⟩
        cases hr'
      rintro found s' ⟨_, ⟨⟩, hfound⟩
      cases found with
      | ok v =>
          -- all that is looked up now is there, so there will be an errand
          obtain ⟨rfl, -⟩ := hfound
          obtain ⟨o, ho⟩ : ∃ o, Store.getAction _ action.id = .ok o :=
            answer?_ok hs'.sound.actions _
          obtain ⟨actions, hactions⟩ := hs'.listActions message.id
          have herrand : (errandAfter v message action r).Ends Instant.Legible _
              fun r' _ => ∃ e, r' = .ok e :=
            ends_answered fun _ _ => ⟨o, ho, ends_answered fun _ _ => ⟨actions, hactions, _, rfl⟩⟩
          dsimp only
          rw [map_eq_pure_bind]
          refine ends_bind herrand ?_ fun _ _ _ => ⟨hfits, fun _ h => by cases h⟩
          rintro _ _ ⟨_, ⟨⟩⟩
      | error f =>
          obtain ⟨rfl, ⟨hnone, -⟩ | ⟨x, st, -, -, -, rfl⟩⟩ := hfound
          · -- the conversation of the message is there, whether it is running or not
            obtain ⟨x, hx⟩ := hs.conversation?_of_message hm
            have hsame := completeAction_conversations s now action.id (verdict r).1
              (verdict r).2 r.executionTime
            rw [conversation?, perform, hsame, ← hown] at hnone
            exact absurd (hx.symm.trans hnone) (Option.some_ne_none _)
          · exact ⟨hfits, fun _ h => by cases h⟩

/-- A frame is rejected for a reason, or there is none. -/
theorem approach_ends (hs : s.Reached) (c : Int) (frame : ClientFrame) :
    (approach c frame).Ends Instant.Legible s (Approached c s frame) := by
  cases frame with
  | task t =>
      rw [approach, map_eq_pure_bind]
      refine ends_bind (approachTask_ends hs c t) (fun f _ h => h.1 f rfl) ?_
      exact fun errand _ h => ⟨h.2 errand rfl, fun _ h => by cases h⟩
  | result r => exact approachResult_ends hs c r

/-! ## What a rejected frame leaves -/

/-- A frame with the text of a new message for a running conversation, and a page without
elements. -/
def BringsEmptyPage (c : Int) (s : Store) (frame : ClientFrame) (text : String) : Prop :=
  ∃ t, frame = .task t ∧ s.isRunning c = true ∧ Brings s t text ∧ t.page.isEmpty = true

variable {frame : ClientFrame} {f : Fault} {s' : Store}

/-- A reason to reject a frame is told. -/
theorem Rejects.reported (h : Rejects c s frame f s') : reportOf f = some (.error f.message) := by
  cases h <;> rfl

/-- Where the message is not new, or there is a page, nothing is left. -/
theorem Rejects.untouched (h : Rejects c s frame f s')
    (hpage : ∀ text, ¬ BringsEmptyPage c s frame text) : s' = s := by
  cases h with
  | emptyPageAfter hc hr htext hempty => exact absurd ⟨_, rfl, hc, ⟨hr, htext⟩, hempty⟩ (hpage _)
  | _ => rfl

/-- Else the new message is left, and nothing else. -/
theorem Rejects.founded (h : Rejects c s frame f s') {text : String}
    (hbrings : BringsEmptyPage c s frame text) :
    f = .emptyPage ∧ ∃ now, s' = { s with
      messages := s.messages ++ [s.messageRow now c .user text]
      lastMessage := s.lastMessage + 1 } := by
  obtain ⟨t, rfl, hc, ⟨hnone, htext⟩, -⟩ := hbrings
  cases h with
  | unknownConversation h =>
      have hfound := conversation?_of_isRunning hc
      rw [h] at hfound
      cases hfound
  | endedConversation hr hstate hst => exact (not_ended_of_isRunning hc hr hstate hst).elim
  | foreignMessage _ hr _ => exact absurd (hr.symm.trans hnone) (Option.some_ne_none _)
  | unknownMessage _ _ hno => exact absurd (htext.symm.trans hno) (Option.some_ne_none _)
  | emptyPage _ hr _ _ => exact absurd (hr.symm.trans hnone) (Option.some_ne_none _)
  | @emptyPageAfter _ text' now _ _ htext' _ =>
      rw [htext] at htext'
      obtain rfl := Option.some.inj htext'
      exact ⟨rfl, now, rfl⟩

/-! ## Rejected frames -/

/-- A question that was asked stays asked. -/
theorem asked_follow {α : Type} (p : Program α) (who : Actor) (k : Course) {h : Past}
    (hasked : h.questions ≠ []) : (p.follow who k h).2.questions ≠ [] := by
  refine Program.follow_induction (I := fun h => h.questions ≠ []) ?_ ?_ p k hasked
  · intro h now call hquestions
    rwa [Past.questions_called]
  · intro h context answer _
    rw [Past.questions_asked]
    exact List.append_ne_nil_of_right_ne_nil _ (List.cons_ne_nil _ _)

/-- When nobody else is at work, what comes of a frame is what comes of its approach, or it has
been asked for a decision. -/
theorem handleAlone_approach (hs : s.Reached) (d : Settings.Decision) (c : Int)
    (frame : ClientFrame) {course : Course} (hcourse : course.Legible) :
    (∃ f, (handleAlone d c frame course s).1 = some (.error f.message) ∧
        (handleAlone d c frame course s).2.questions = [] ∧
        Rejects c s frame f (handleAlone d c frame course s).2.store) ∨
      ((∀ f s', ¬ Rejects c s frame f s') ∧
        ((∀ text, (handleAlone d c frame course s).1 ≠ some (.error text)) ∨
          (handleAlone d c frame course s).2.questions ≠ [])) := by
  have hends : ((approach c frame).run).Ends Instant.Legible (Past.start s).store
      (Approached c s frame) :=
    approach_ends hs c frame
  obtain ⟨hpost, hquestions⟩ := hends.follow (.handler c) hcourse
  obtain ⟨k', -, hrun⟩ := Program.follow_bind (approach c frame).run (settle d) (.handler c) course
    (.start s)
  rw [handleAlone, handle_eq, hrun]
  rw [Past.questions_start] at hquestions
  generalize (approach c frame).run.follow (.handler c) course (.start s) = made
    at hpost hquestions ⊢
  obtain ⟨outcome, h⟩ := made
  match outcome, hpost with
  -- a fault of the approach is told; with an errand a decision is asked for
  | .error f, hrejects => exact Or.inl ⟨f, hrejects.reported, hquestions, hrejects⟩
  | .ok (.inl reply), ⟨hfits, hreply⟩ =>
      exact Or.inr ⟨hfits, Or.inl fun text heq => hreply text (congrArg Sum.inl heq)⟩
  | .ok (.inr errand), ⟨hfits, _⟩ =>
      obtain ⟨next, hnext⟩ := settle_asks d errand
      refine Or.inr ⟨hfits, Or.inr ?_⟩
      dsimp only
      rw [hnext]
      refine asked_follow _ (.handler c) k'.rest ?_
      rw [Past.questions_asked]
      exact List.append_ne_nil_of_right_ne_nil _ (List.cons_ne_nil _ _)

/-- **Rejected frames leave no trace, but for one.** Take any store that calls at legible times
have made of the empty one, and answer any frame at legible times. The answer is an error before
any decision was asked for exactly if there is a reason to reject the frame: an unknown
conversation or one that has ended, a message or an action that is unknown or belongs elsewhere,
or a page without elements. The error names the reason, and the store is as it was; unless the
frame brings the text of a new message to a running conversation, together with a page without
elements. Then this message has been added, and nothing else. -/
theorem rejected_untouched {history : List (Instant × Store.Call)}
    (hhistory : ∀ e ∈ history, e.1.Legible) (d : Settings.Decision) (c : Int)
    (frame : ClientFrame) {course : Course} (hcourse : course.Legible) :
    let s := Store.empty.replay history
    let result := handleAlone d c frame course s
    ((∃ f s', Rejects c s frame f s') →
      (∃ text, result.1 = some (.error text)) ∧ result.2.questions = []) ∧
    ∀ text, result.1 = some (.error text) → result.2.questions = [] →
      (∃ f, text = f.message ∧ Rejects c s frame f result.2.store) ∧
      ((∀ content, ¬ BringsEmptyPage c s frame content) → result.2.store = s) ∧
      ∀ content, BringsEmptyPage c s frame content → text = Fault.message .emptyPage ∧
        ∃ now, result.2.store = { s with
          messages := s.messages ++ [s.messageRow now c .user content]
          lastMessage := s.lastMessage + 1 } := by
  intro s result
  have hs : s.Reached := ⟨history, hhistory, rfl⟩
  rcases handleAlone_approach hs d c frame hcourse with
    ⟨f, hreply, hquestions, hrejects⟩ | ⟨hfits, hother⟩
  · refine ⟨fun _ => ⟨⟨_, hreply⟩, hquestions⟩, ?_⟩
    intro text htext _
    have hmessage : text = f.message :=
      (ServerFrame.error.inj (Option.some.inj (hreply.symm.trans htext))).symm
    refine ⟨⟨f, hmessage, hrejects⟩, hrejects.untouched, ?_⟩
    intro content hbrings
    obtain ⟨rfl, hstore⟩ := hrejects.founded hbrings
    exact ⟨hmessage, hstore⟩
  · refine ⟨fun ⟨f, s', hrejects⟩ => absurd hrejects (hfits f s'), ?_⟩
    intro text htext hquestions
    rcases hother with hreply | hasked
    · exact absurd htext (hreply text)
    · exact absurd hquestions hasked

end Coordinator

namespace Sample

/-- A new message, with a page. -/
def newTask (page : Page) : ClientFrame := .task ⟨9999, page, some " Sign up as Bob "⟩

/-- A page without elements. -/
def blankPage : Page := ⟨"", "", [], none⟩

/-- The result of an action that there is not. -/
def strayResult : ClientFrame := .result ⟨7, true, none, none, none⟩

/-- Answers a frame while the clock stands still, without any decision. -/
def undecided (now : Instant) (frame : ClientFrame) : Option ServerFrame × Past :=
  Coordinator.handleAlone .standard 1 frame (.constant now (.error .emptyPage))
    (Store.empty.replay calls)

end Sample

namespace Coordinator

/-- The result of an unknown action leaves no trace; a new message with a blank page is left. -/
theorem rejected_untouched_stray :
    let s := Store.empty.replay Sample.calls
    let stray := Sample.undecided Sample.moment Sample.strayResult
    let blank := Sample.undecided Sample.moment (Sample.newTask Sample.blankPage)
    (∀ e ∈ Sample.calls, e.1.Legible) ∧
      ((∃ text, stray.1 = some (.error text)) ∧ stray.2.questions = [] ∧ stray.2.store = s) ∧
      (blank.1 = some (.error (Fault.message .emptyPage)) ∧ blank.2.questions = [] ∧
        ∃ now, blank.2.store = { s with
          messages := s.messages ++ [s.messageRow now 1 .user "Sign up as Bob"]
          lastMessage := s.lastMessage + 1 }) := by
  have hhistory : ∀ e ∈ Sample.calls, e.1.Legible := by decide +kernel
  have hcourse : (Course.constant Sample.moment (.error .emptyPage)).Legible :=
    Course.legible_constant (by decide +kernel) _
  refine ⟨hhistory, ?_, ?_⟩
  · obtain ⟨hrejected, htrace⟩ := rejected_untouched hhistory .standard 1 Sample.strayResult hcourse
    have hunknown : (Store.empty.replay Sample.calls).action? 7 = none := by decide +kernel
    obtain ⟨⟨text, htext⟩, hquestions⟩ := hrejected ⟨_, _, .unknownAction hunknown⟩
    refine ⟨⟨text, htext⟩, hquestions, (htrace text htext hquestions).2.1 ?_⟩
    rintro content ⟨t, h, -⟩
    cases h
  · obtain ⟨hrejected, htrace⟩ := rejected_untouched hhistory .standard 1
      (Sample.newTask Sample.blankPage) hcourse
    have hrunning : (Store.empty.replay Sample.calls).isRunning 1 = true := by decide +kernel
    have hbrings : Brings (Store.empty.replay Sample.calls)
        ⟨9999, Sample.blankPage, some " Sign up as Bob "⟩ "Sign up as Bob" := by
      unfold Brings
      decide +kernel
    obtain ⟨⟨text, htext⟩, hquestions⟩ := hrejected
      ⟨_, _, @Rejects.emptyPageAfter _ _ _ _ Sample.moment hrunning hbrings.1 hbrings.2 rfl⟩
    obtain ⟨rfl, hstore⟩ := (htrace text htext hquestions).2.2 "Sign up as Bob"
      ⟨_, rfl, hrunning, hbrings, rfl⟩
    exact ⟨htext, hquestions, hstore⟩

/-- A frame that is answered with an error without a decision, and leaves a message: the message
is new, and the page has no elements. -/
theorem rejected_touched :
    let s := Store.empty.replay Sample.calls
    let blank := Sample.undecided Sample.moment (Sample.newTask Sample.blankPage)
    blank.1.map ServerFrame.type = some "error" ∧ blank.2.questions.length = 0 ∧
      blank.2.store ≠ s := by
  decide +kernel

end Coordinator

end ControlPlane
