/-
The way to a decision.

What the coordinator does for a frame falls into two parts. The *approach* looks up the
conversation and the message, records a result and skips what is open; it ends with a fault, with
a reply for which nothing has to be decided, or with an errand (`Coordinator.Errand`). An errand
is then carried out: a decision is asked for, and applied. That the coordinator does just one
after the other is `handle_eq`.

On its approach the coordinator asks for no decision, waits for nothing and adds no action
(`approach_only`). On an errand the first thing that happens is that a decision is asked for
(`proceed_asks`).
-/
import ControlPlane.Proofs.Dispatch
import ControlPlane.Proofs.Requesting

set_option autoImplicit false

namespace ControlPlane

/-! ## Programs one after the other -/

namespace Program

variable {α β γ : Type}

theorem bind_done (p : Program α) : p.bind done = p := by
  induction p with
  | done a => rfl
  | call c next ih => exact congrArg _ (funext ih)
  | decide context next ih => exact congrArg _ (funext ih)
  | pause ms next ih => exact congrArg _ (funext ih)
  | clock next ih => exact congrArg _ (funext ih)

/-- Three programs in a row are the first one, and then the other two. -/
theorem bind_bind (p : Program α) (f : α → Program β) (g : β → Program γ) :
    (p.bind f).bind g = p.bind fun a => (f a).bind g := by
  induction p with
  | done a => rfl
  | call c next ih => exact congrArg _ (funext ih)
  | decide context next ih => exact congrArg _ (funext ih)
  | pause ms next ih => exact congrArg _ (funext ih)
  | clock next ih => exact congrArg _ (funext ih)

instance : LawfulMonad Program :=
  LawfulMonad.mk' Program bind_done (fun _ _ => rfl) bind_bind

end Program

namespace Coordinator

/-- What is to be decided on. -/
structure Errand where
  /-- The conversation, which was running. -/
  conversation : Conversation
  /-- The message. -/
  message : Message
  /-- What the decision is to be made from. -/
  context : Decision.Context

/-! ## The approach -/

/-- The approach for a task frame. -/
def approachTask (c : Int) (frame : TaskFrame) : Procedure Errand := do
  let conversation ← runningConversation c
  let message ← resolveMessage conversation frame
  if frame.page.isEmpty then Procedure.fail .emptyPage
  else
    let _ ← Procedure.call (.skipOpenActions message.id supersededReason)
    let history ← Procedure.call (.listActions message.id)
    pure ⟨conversation, message, .task ⟨message, frame.page, history⟩⟩

/-- The errand that follows a result that was recorded. -/
def errandAfter (conversation : Conversation) (message : Message) (action : Action)
    (frame : ResultFrame) : Procedure Errand := do
  let completed ← Procedure.call (.getAction action.id)
  let history ← Procedure.call (.listActions message.id)
  let outcome : Decision.Outcome :=
    ⟨completed.getD action, frame.success, (verdict frame).2, frame.executionTime⟩
  pure ⟨conversation, message, .result ⟨message, outcome, frame.page, history⟩⟩

/-- The approach for a result frame. -/
def approachResult (c : Int) (frame : ResultFrame) :
    Procedure (Option ServerFrame ⊕ Errand) := do
  let (action, message) ← resolveAction c frame
  let (status, error) := verdict frame
  if ← Procedure.call (.completeAction action.id status error frame.executionTime) then
    match ← (runningConversation c).attempt with
    | .ok conversation => .inr <$> errandAfter conversation message action frame
    | .error e =>
      if e.kind = .conflict then pure (.inl (some (.finish e.detail))) else Procedure.fail e
  else pure (.inl none)

/-- What is done before a decision is asked for: it ends with a reply, or with an errand. -/
def approach (c : Int) : ClientFrame → Procedure (Option ServerFrame ⊕ Errand)
  | .task frame => .inr <$> approachTask c frame
  | .result frame => approachResult c frame

/-- Carries out what is left to do after the approach. -/
def carryOut (d : Settings.Decision) :
    Option ServerFrame ⊕ Errand → Procedure (Option ServerFrame)
  | .inl reply => pure reply
  | .inr errand => some <$> proceed d errand.conversation errand.message errand.context

/-- Reports a fault. -/
def told : Except Fault (Option ServerFrame) → Program (Option ServerFrame)
  | .ok reply => .done reply
  | .error e => .done (reportOf e)

/-- What follows the approach, whatever has come of it. -/
def settle (d : Settings.Decision) :
    Except Fault (Option ServerFrame ⊕ Errand) → Program (Option ServerFrame)
  | .ok rest => (carryOut d rest).run.bind told
  | .error e => .done (reportOf e)

/-! ## One after the other -/

/-- A task is answered by its approach, and by what follows the errand. -/
theorem handleTask_eq (d : Settings.Decision) (c : Int) (frame : TaskFrame) :
    handleTask d c frame = approachTask c frame >>= fun errand =>
      proceed d errand.conversation errand.message errand.context := by
  unfold handleTask approachTask
  simp only [bind_assoc]
  refine bind_congr fun conversation => bind_congr fun message => ?_
  split
  · rfl
  · simp only [bind_assoc, pure_bind]

/-- What follows a result that was recorded is an errand, and what follows that. -/
theorem afterResult_eq (d : Settings.Decision) (conversation : Conversation) (message : Message)
    (action : Action) (frame : ResultFrame) :
    afterResult d conversation message action frame =
      errandAfter conversation message action frame >>= fun errand =>
        proceed d errand.conversation errand.message errand.context := by
  unfold afterResult errandAfter
  simp only [bind_assoc, pure_bind]

/-- A result is answered by its approach, and by what is left to do. -/
theorem handleResult_eq (d : Settings.Decision) (c : Int) (frame : ResultFrame) :
    handleResult d c frame = approachResult c frame >>= carryOut d := by
  unfold handleResult approachResult
  simp only [bind_assoc]
  refine bind_congr fun found => bind_congr fun recorded => ?_
  cases recorded with
  | false => rfl
  | true =>
      simp only [if_true, bind_assoc]
      refine bind_congr fun running => ?_
      cases running with
      | ok conversation =>
          simp only [afterResult_eq, map_eq_pure_bind, bind_assoc, pure_bind, carryOut]
      | error e =>
          dsimp only
          split <;> rfl

/-- So is every frame. -/
theorem answer_eq (d : Settings.Decision) (c : Int) (frame : ClientFrame) :
    answer d c frame = approach c frame >>= carryOut d := by
  cases frame with
  | task frame =>
      simp only [answer, approach, handleTask_eq, map_eq_pure_bind, bind_assoc, pure_bind, carryOut]
  | result frame => exact handleResult_eq d c frame

/-- **The two parts of an answer.** To answer a frame is to make the approach, and then to settle
what has come of it. -/
theorem handle_eq (d : Settings.Decision) (c : Int) (frame : ClientFrame) :
    handle d c frame = (approach c frame).run.bind (settle d) := by
  have hrun : (answer d c frame).run =
      (approach c frame).run.bind (ExceptT.bindCont (carryOut d)) := by
    rw [answer_eq]
    rfl
  have htold : handle d c frame = (answer d c frame).run.bind told := rfl
  rw [htold, hrun, Program.bind_bind]
  congr 1
  funext r
  cases r <;> rfl

/-! ## What the parts do -/

open Procedure

/-- To find a running conversation is to look it up. -/
theorem runningConversation_only {P : Store.Call → Prop} {c : Int} (hP : P (.getConversation c)) :
    (runningConversation c).Only P := by
  unfold runningConversation
  refine only_bind (only_call hP) fun found => only_bind (only_orFail _ _) ?_
  intro conversation
  split
  · exact only_fail _
  · exact only_pure _

/-- To find the message of a task creates no action. -/
theorem resolveMessage_only (conversation : Conversation) (frame : TaskFrame) :
    (resolveMessage conversation frame).Only Store.Call.Plain := by
  unfold resolveMessage
  refine only_bind (only_call fun _ _ _ => Store.Call.noConfusion) ?_
  intro found
  split
  · split
    · exact only_pure _
    · exact only_fail _
  · split
    · exact only_call fun _ _ _ => Store.Call.noConfusion
    · exact only_fail _

/-- On the approach no decision is asked for and no action is added. -/
theorem approach_only (c : Int) (frame : ClientFrame) :
    (approach c frame).Only Store.Call.Plain := by
  have hrunning : (runningConversation c).Only Store.Call.Plain :=
    runningConversation_only fun _ _ _ => Store.Call.noConfusion
  cases frame with
  | task frame =>
      refine only_bind (only_bind hrunning fun conversation => ?_) fun _ => only_pure _
      refine only_bind (resolveMessage_only conversation frame) fun message => ?_
      split
      · exact only_fail _
      · refine only_bind (only_call fun _ _ _ => Store.Call.noConfusion) fun _ => ?_
        exact only_bind (only_call fun _ _ _ => Store.Call.noConfusion) fun _ => only_pure _
  | result frame =>
      refine only_bind ?_ ?_
      · -- the action and its message are looked up
        refine only_bind (only_call fun _ _ _ => Store.Call.noConfusion) fun found => ?_
        refine only_bind (only_orFail _ _) fun action => ?_
        refine only_bind (only_call fun _ _ _ => Store.Call.noConfusion) fun owner => ?_
        refine only_bind (only_orFail _ _) fun message => ?_
        split
        · exact only_pure _
        · exact only_fail _
      · rintro ⟨action, message⟩
        refine only_bind (only_call fun _ _ _ => Store.Call.noConfusion) fun recorded => ?_
        split
        · refine only_bind (only_attempt hrunning) fun running => ?_
          split
          · refine only_bind (only_bind ?_ fun completed => ?_) fun _ => only_pure _
            · exact only_call fun _ _ _ => Store.Call.noConfusion
            · exact only_bind (only_call fun _ _ _ => Store.Call.noConfusion) fun _ => only_pure _
          · split
            · exact only_pure _
            · exact only_fail _
        · exact only_pure _

/-- An errand begins with the question for a decision. -/
theorem proceed_asks (d : Settings.Decision) (errand : Errand) :
    ∃ next, (proceed d errand.conversation errand.message errand.context).run =
      .decide errand.context next := by
  unfold proceed decideRound
  cases d.maxRetries with
  | zero => exact ⟨_, rfl⟩
  | succ left => exact ⟨_, rfl⟩

/-- With an errand, a decision is asked for at once. -/
theorem settle_asks (d : Settings.Decision) (errand : Errand) :
    ∃ next, settle d (.ok (.inr errand)) = .decide errand.context next := by
  obtain ⟨next, hnext⟩ := proceed_asks d errand
  have hrun : settle d (.ok (.inr errand)) =
      ((proceed d errand.conversation errand.message errand.context).run.bind
        (ExceptT.bindCont fun reply => pure (some reply))).bind told := by
    rw [settle, carryOut, map_eq_pure_bind]
    rfl
  rw [hrun, hnext]
  exact ⟨_, rfl⟩

end Coordinator

end ControlPlane
