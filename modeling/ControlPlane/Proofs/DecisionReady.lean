/-
What an errand stands on.

When the approach sets an errand, all is ready for the decision: the conversation is running, the
message is one of its own, and what was done to the store so far was a preparation
(`Coordinator.approach_ready`). This is so whatever the clock reads, because a fault on the way
only means that no errand is set.
-/
import ControlPlane.Proofs.Ending
import ControlPlane.Proofs.HandlerPhases
import ControlPlane.Proofs.Prepared

set_option autoImplicit false

namespace ControlPlane

namespace Coordinator

open Procedure Store

variable {c : Int} {s s' : Store}

/-- The clock may read anything. -/
def anytime (_ : Instant) : Prop := True

/-- All is ready for the decision that an errand is about. -/
structure Ready (c : Int) (s : Store) (e : Errand) (s' : Store) : Prop where
  /-- The decision is about the message of the errand. -/
  about : e.context.message = e.message
  /-- All is ready for a decision about it. -/
  attends : Attends c s e.message.id s'

/-! ## Guards -/

/-- The conversation that was found is the one, and is running. -/
def Finds (c : Int) (s : Store) (r : Except Fault Conversation) (s' : Store) : Prop :=
  ∀ v, r = .ok v → s' = s ∧ v.id = c ∧ s.isRunning c = true

/-- A conversation that is found running is running. -/
theorem runningConversation_finds (c : Int) (s : Store) :
    (runningConversation c).Ends anytime s (Finds c s) := by
  unfold runningConversation
  refine ends_called (fun _ _ _ h => by cases h) ?_
  intro now _ found hanswer
  cases found with
  | none => exact fun _ h => by cases h
  | some v =>
      change Procedure.Ends (if v.state.isTerminal then _ else _) anytime s (Finds c s)
      by_cases hterminal : v.state.isTerminal = true
      · rw [if_pos hterminal]
        exact fun _ h => by cases h
      · rw [if_neg hterminal]
        rintro _ ⟨⟩
        exact ⟨rfl, (getConversation_some hanswer).1, isRunning_of_found hanswer hterminal⟩

/-- When the message of a task is found or added, all is ready for a decision about it. -/
theorem resolveMessage_attends (hs : s.Regular) {v : Conversation} (hv : v.id = c)
    (hrunning : s.isRunning c = true) (t : TaskFrame) :
    (resolveMessage v t).Ends anytime s fun r s' => ∀ m, r = .ok m → Attends c s m.id s' := by
  unfold resolveMessage
  rw [hv]
  refine ends_called (fun _ _ _ h => by cases h) ?_
  intro now _ found hanswer
  cases found with
  | some m =>
      change Procedure.Ends (if m.conversationId = c then _ else _) anytime s _
      by_cases hown : m.conversationId = c
      · rw [if_pos hown]
        rintro _ ⟨⟩
        obtain ⟨hid, howns⟩ := getMessage_some hanswer
        rw [hown, ← hid] at howns
        exact ⟨Prepared.refl c s, hrunning, howns, hs⟩
      · rw [if_neg hown]
        exact fun _ h => by cases h
  | none =>
      cases t.task.bind Text.nonBlank? with
      | none => exact fun _ h => by cases h
      | some text =>
          intro now _ m hm
          exact attends_perform now (.createMessage c .user text) hs
            (prepared_createMessage s now c .user text) hrunning (fun hf => hf) (fun he => he)
            (createMessage_ok hm)

/-! ## Tasks -/

/-- So it is when a task has come to its errand. -/
theorem approachTask_ready (hs : s.Regular) (c : Int) (t : TaskFrame) :
    (approachTask c t).Ends anytime s fun r s' => ∀ e, r = .ok e → Ready c s e s' := by
  refine ends_bind (runningConversation_finds c s) (fun _ _ _ _ h => by cases h) ?_
  intro v s' hfinds
  obtain ⟨rfl, hv, hrunning⟩ := hfinds v rfl
  refine ends_bind (resolveMessage_attends hs hv hrunning t)
    (fun _ _ _ _ h => by cases h) ?_
  intro m s'' hresolved
  have hattends := hresolved m rfl
  by_cases hpage : t.page.isEmpty = true
  · rw [if_pos hpage]
    exact fun _ h => by cases h
  rw [if_neg hpage]
  refine ends_called (fun _ _ _ h => by cases h) ?_
  intro now _ skipped _
  refine ends_called (fun _ _ _ h => by cases h) ?_
  rintro _ _ history _ _ ⟨⟩
  -- the open actions of the message are skipped, and the actions are read
  refine ⟨rfl, attends_perform now (.skipOpenActions m.id supersededReason) hattends.regular
    (hattends.prepared.trans
      (prepared_skipOpenActions hattends.regular.ordered hattends.owns supersededReason))
    hattends.running (fun hf => hf) (fun he => he) ?_⟩
  exact (s''.perform_change now (.skipOpenActions m.id supersededReason)).owns hattends.owns

/-! ## Results -/

/-- The action that was found serves the message, and the message belongs to the
conversation. -/
theorem resolveAction_serves (c : Int) (s : Store) (r : ResultFrame) :
    (resolveAction c r).Ends anytime s fun found s' => ∀ a m, found = .ok (a, m) →
      s' = s ∧ s.Serves a.id m.id ∧ s.Owns c m.id := by
  unfold resolveAction
  refine ends_called (fun _ _ _ _ h => by cases h) ?_
  intro now _ found hanswer
  cases found with
  | none => exact fun _ _ h => by cases h
  | some a =>
      refine ends_called (fun _ _ _ _ h => by cases h) ?_
      intro now _ owner howner
      cases owner with
      | none => exact fun _ _ h => by cases h
      | some m =>
          change Procedure.Ends (if m.conversationId = c then _ else _) anytime s _
          by_cases hown : m.conversationId = c
          · rw [if_pos hown]
            rintro _ _ ⟨⟩
            obtain ⟨hid, howns⟩ := getMessage_some howner
            obtain ⟨haid, hserves⟩ := getAction_some hanswer
            rw [hown, ← hid] at howns
            rw [← haid, ← hid] at hserves
            exact ⟨rfl, hserves, howns⟩
          · rw [if_neg hown]
            exact fun _ _ h => by cases h

/-- After a result that was recorded the store is only read. -/
theorem errandAfter_reads (v : Conversation) (m : Message) (a : Action) (r : ResultFrame)
    (s : Store) :
    (errandAfter v m a r).Ends anytime s fun found s' => ∀ e, found = .ok e →
      e.context.message = m ∧ e.message = m ∧ s' = s := by
  unfold errandAfter
  refine ends_called (fun _ _ _ h => by cases h) ?_
  intro now _ completed _
  refine ends_called (fun _ _ _ h => by cases h) ?_
  rintro _ _ history _ _ ⟨⟩
  exact ⟨rfl, rfl, rfl⟩

/-- And so it is when a result has. -/
theorem approachResult_ready (hs : s.Regular) (c : Int) (r : ResultFrame) :
    (approachResult c r).Ends anytime s fun found s' =>
      ∀ e, found = .ok (.inr e) → Ready c s e s' := by
  refine ends_bind (resolveAction_serves c s r) (fun _ _ _ _ h => by cases h) ?_
  rintro ⟨a, m⟩ s' hfound
  obtain ⟨rfl, hserves, howns⟩ := hfound a m rfl
  refine ends_called (fun _ _ _ h => by cases h) ?_
  intro now _ recorded _
  cases recorded with
  | false => exact fun _ h => by cases h
  | true =>
      -- the result is recorded, and the conversation is looked up once more
      have hprepared : Prepared c s'
          (s'.completeAction now a.id (verdict r).1 (verdict r).2 r.executionTime).2 :=
        prepared_completeAction hs.ordered hserves howns _ _ _
      have hchange := s'.perform_change now
        (.completeAction a.id (verdict r).1 (verdict r).2 r.executionTime)
      refine ends_bind (ends_attempt (runningConversation_finds c _))
        (fun _ _ _ _ h => by cases h) ?_
      rintro found s'' ⟨found', hsame, hfinds⟩
      obtain rfl := Except.ok.inj hsame
      cases found with
      | error e =>
          dsimp only
          split
          · exact fun _ h => by cases h
          · exact fun _ h => by cases h
      | ok v =>
          obtain ⟨rfl, -, hrunning⟩ := hfinds v rfl
          refine ends_bind (errandAfter_reads v m a r _) (fun _ _ _ _ h => by cases h) ?_
          rintro e s'' hreads _ ⟨⟩
          obtain ⟨hcontext, hmessage, rfl⟩ := hreads e rfl
          refine ⟨hcontext.trans hmessage.symm, ⟨hprepared, hrunning, ?_, hchange.regular hs⟩⟩
          rw [hmessage]
          exact hchange.owns howns

/-- **What an errand stands on.** If an errand is set, all is ready for the decision. -/
theorem approach_ready (hs : s.Regular) (c : Int) (frame : ClientFrame) :
    (approach c frame).Ends anytime s fun r s' =>
      ∀ e, r = .ok (.inr e) → Ready c s e s' := by
  cases frame with
  | result r => exact approachResult_ready hs c r
  | task t =>
      refine ends_bind (approachTask_ready hs c t) (fun _ _ _ _ h => by cases h) ?_
      rintro e s' hready _ ⟨⟩
      exact hready e rfl

end Coordinator

end ControlPlane
