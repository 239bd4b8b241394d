/-
Clearing a message.

Before the coordinator adds an action to a message it clears the message: it skips what is
open, or it records how the running action went. What an answer to a frame knows from then
on until it adds the action depends on who else is at work; where on the way it knows it
does not. So the outline is given here once for any such knowledge (`Outline.clears`), and
`Clearing` says what a contract has to grant for the outline to be valid.
-/
import ControlPlane.Proofs.Answer
import ControlPlane.Proofs.Outline

set_option autoImplicit false

namespace ControlPlane

/-- A call that neither clears a message nor adds an action to one. -/
def Store.Call.Neutral : Store.Call → Prop
  | .createAction _ _ _ => False
  | .completeAction _ _ _ _ => False
  | .skipOpenActions _ _ => False
  | _ => True

namespace Coordinator

namespace Outline

variable {inv : Past → Prop} {k : Contract inv} {c : Int} {known : Int → Past → Prop}

/-- What makes it possible to know something of a message from when it is cleared until an
action is added to it. -/
structure Clearing (k : Contract inv) (c : Int) (known : Int → Past → Prop) : Prop where
  /-- The messages of the conversation stay its own. -/
  owns : ∀ m, k.Lasts fun h => h.store.Owns c m
  /-- Actions keep their messages. -/
  serves : ∀ i m, k.Lasts fun h => h.store.Serves i m
  /-- What is known lasts while others are at work. -/
  lasts : ∀ m, k.Lasts (known m)
  /-- A call that does not touch actions is allowed. -/
  neutral : ∀ h call, call.Neutral → k.allows h call
  /-- What is known lasts through it. -/
  kept : ∀ m h now call, call.Neutral → known m h → known m (h.called (.handler c) now call)
  /-- To skip the open actions of an own message is allowed. -/
  skip : ∀ h m reason, inv h → h.store.Owns c m → k.allows h (.skipOpenActions m reason)
  /-- Then the message is cleared. -/
  skipped : ∀ h now m reason skipped, inv h → h.store.Owns c m →
    (h.store.skipOpenActions now m reason).1 = .ok skipped →
    known m (h.called (.handler c) now (.skipOpenActions m reason))
  /-- To record how an action of an own message went is allowed. -/
  complete : ∀ h i m status e x, inv h → h.store.Owns c m → h.store.Serves i m →
    k.allows h (.completeAction i status e x)
  /-- If the action was running, the message is cleared. -/
  completed : ∀ h now i m status e x, inv h → h.store.Owns c m → h.store.Serves i m →
    (h.store.completeAction now i status e x).1 = .ok true →
    known m (h.called (.handler c) now (.completeAction i status e x))
  /-- To add an action to a message of which it is known is allowed. -/
  create : ∀ h m kind parameters, inv h → known m h → k.allows h (.createAction m kind parameters)
  /-- To ask for a decision about it is allowed. -/
  ask : ∀ h context, known context.message.id h → k.asks h context
  /-- What is known lasts through the decision. -/
  asked : ∀ m h context r, known m h → known m (h.asked (.handler c) context r)

/-- From when the message of a frame is cleared on, something is known of it. -/
def clears (k : Contract inv) (c : Int) (known : Int → Past → Prop) : Outline k c where
  begun _ := True
  running v _ := v.id = c
  resolved _ m h := h.store.Owns c m.id
  cleared _ m h := known m.id h
  named a h := h.store.Serves a.id a.messageId
  found a m h := h.store.Owns c m.id ∧ h.store.Serves a.id m.id
  recorded _ m h := known m.id h
  resumed _ _ m h := known m.id h
  ready _ m _ h := known m.id h
  decided _ m _ h := known m.id h
  accepted _ m _ h := known m.id h
  created _ _ := True
  started _ _ := True
  counted _ _ := True
  replied _ _ := True

theorem ite_trivial {p : Prop} [Decidable p] : if p then True else True := by
  split <;> exact trivial

theorem clears_refused (f : Fault) (h : Past) : (clears k c known).refused f h := trivial

/-- A call about which nothing is to be known. -/
theorem Clearing.step_any (hk : Clearing k c known) {call : Store.Call}
    (hcall : call.Neutral) {before : Past → Prop} {after : Except Fault call.Answer → Past → Prop}
    (hafter : ∀ (h : Past) (now : Instant),
      after (h.store.perform now call).1 (h.called (.handler c) now call)) :
    Step k c before call after :=
  fun _ h' _ _ _ => ⟨hk.neutral h' call hcall, hafter h'⟩

/-- A call between the clearing of a message and the new action. -/
theorem Clearing.step_known (hk : Clearing k c known) {m : Int} {call : Store.Call}
    (hcall : call.Neutral) {after : Except Fault call.Answer → Past → Prop}
    (hafter : ∀ r h, known m h → after r h) : Step k c (known m) call after := by
  intro h h' hknown hrely hinv
  refine ⟨hk.neutral h' call hcall, ?_⟩
  intro now
  exact hafter _ _ (hk.kept m h' now call hcall (hk.lasts m h h' hrely hknown))

/-! ## The points of the way -/

section Points

variable (hk : Clearing k c known)

include hk

/-- The conversation of a task has the number it was looked for under. -/
theorem clears_checks : (clears k c known).Checks := by
  refine hk.step_any (by trivial) ?_
  intro h now
  refine orRefused_of_ok clears_refused fun found hfound => elim_of_some trivial fun v hv => ?_
  rw [hv] at hfound
  split
  · exact trivial
  · exact (Store.getConversation_some hfound).1

/-- A message that is answered to is the conversation's own. -/
theorem clears_looksUp : (clears k c known).LooksUp := by
  intro v id h h' hv _ _
  refine ⟨hk.neutral h' _ trivial, ?_⟩
  intro now
  refine orRefused_of_ok clears_refused fun found hfound => ?_
  cases found with
  | none => exact ⟨hv, trivial⟩
  | some m =>
      obtain ⟨hid, howns⟩ := Store.getMessage_some hfound
      simp only [Option.elim_some]
      split
      next hown =>
        rw [hown, show v.id = c from hv, ← hid] at howns
        exact howns
      next => exact trivial

/-- So is a message that was added. -/
theorem clears_adds : (clears k c known).Adds := by
  intro v text h h' hv _ _
  rw [show v.id = c from hv]
  exact ⟨hk.neutral h' _ trivial, fun now =>
    orRefused_of_ok clears_refused fun m hm => Store.createMessage_ok hm⟩

/-- A message whose open actions are skipped is cleared. -/
theorem clears_skips : (clears k c known).Skips := by
  intro v m h h' howns hrely hinv
  have howns' := hk.owns m.id h h' hrely howns
  exact ⟨hk.skip h' m.id _ hinv howns', fun now =>
    orRefused_of_ok clears_refused fun skipped hskipped =>
      hk.skipped h' now m.id _ skipped hinv howns' hskipped⟩

/-- The action of a result serves the message that it names. -/
theorem clears_finds (r : ResultFrame) : (clears k c known).Finds r := by
  refine hk.step_any (by trivial) ?_
  intro h now
  refine orRefused_of_ok clears_refused fun found hfound => elim_of_some trivial fun a ha => ?_
  rw [ha] at hfound
  obtain ⟨hid, hserves⟩ := Store.getAction_some hfound
  rw [← hid] at hserves
  exact hserves

/-- A message of the conversation is its own, and the action serves it still. -/
theorem clears_owns : (clears k c known).Owns := by
  intro a h h' hserves hrely _
  have hserves' := hk.serves a.id a.messageId h h' hrely hserves
  refine ⟨hk.neutral h' _ trivial, ?_⟩
  intro now
  refine orRefused_of_ok clears_refused fun found hfound => elim_of_some trivial fun m hm => ?_
  rw [hm] at hfound
  obtain ⟨hid, howns⟩ := Store.getMessage_some hfound
  split
  next hown =>
    rw [hown, ← hid] at howns
    rw [← hid] at hserves'
    exact ⟨howns, hserves'⟩
  next => exact trivial

/-- A message whose running action has got its result is cleared. -/
theorem clears_records (r : ResultFrame) : (clears k c known).Records r := by
  intro a m h h' hfound hrely hinv
  have howns := hk.owns m.id h h' hrely hfound.1
  have hserves := hk.serves a.id m.id h h' hrely hfound.2
  refine ⟨hk.complete h' a.id m.id _ _ _ hinv howns hserves, ?_⟩
  intro now
  refine orRefused_of_ok clears_refused fun done hdone => ?_
  split
  next htrue =>
    rw [htrue] at hdone
    exact hk.completed h' now a.id m.id _ _ _ hinv howns hserves hdone
  next => exact trivial

/-- It stays cleared while the conversation is looked up again. -/
theorem clears_rechecks : (clears k c known).Rechecks := by
  intro a m
  refine hk.step_known (by trivial) ?_
  intro r h hknown
  cases r with
  | error f =>
      simp only [OrElse]
      split
      · exact trivial
      · exact trivial
  | ok found =>
      refine elim_of_some trivial fun v _ => ?_
      split
      · exact trivial
      · exact hknown

/-- It stays cleared while a decision about it is made. -/
theorem clears_asks (s : Settings.Decision) : (clears k c known).Asks s := by
  intro v m n context hm _ h h' hknown hrely _
  -- what is known lasts while the decision is asked for
  have hknown' := hk.lasts m.id h h' hrely hknown
  refine ⟨hk.ask h' context (by rw [hm]; exact hknown'), ?_⟩
  intro r
  have hasked := hk.asked m.id h' context r hknown'
  cases r with
  | error e => exact hasked
  | ok d =>
      simp only [OrElse]
      split
      · exact hasked
      · exact hasked

/-- The action is added to a message that is cleared. -/
theorem clears_creates : (clears k c known).Creates := by
  intro v m kind parameters h h' hknown hrely hinv
  have hknown' := hk.lasts m.id h h' hrely hknown
  exact ⟨hk.create h' m.id kind parameters hinv hknown', fun now =>
    orRefused_of_ok clears_refused fun _ _ => trivial⟩

end Points

/-- The outline is valid. -/
theorem Clearing.valid (hk : Clearing k c known) (s : Settings.Decision) (frame : ClientFrame) :
    (clears k c known).Valid s frame where
  checks _ _ := clears_checks hk
  looksUp := clears_looksUp hk
  adds := clears_adds hk
  blank _ _ _ _ := trivial
  skips := clears_skips hk
  reads _ _ := hk.step_known (by trivial) fun _ _ hknown =>
    orRefused_of_ok clears_refused fun _ _ => hknown
  finds r _ := clears_finds hk r
  owns := clears_owns hk
  records r _ := clears_records hk r
  rechecks := clears_rechecks hk
  looksAgain _ _ _ := hk.step_known (by trivial) fun _ _ hknown =>
    orRefused_of_ok clears_refused fun _ _ => hknown
  readsAgain _ _ _ := hk.step_known (by trivial) fun _ _ hknown =>
    orRefused_of_ok clears_refused fun _ _ => hknown
  asks := clears_asks hk s
  breaks _ _ _ _ _ _ _ _ := trivial
  resets _ _ _ := hk.step_known (by trivial) fun _ _ hknown =>
    orElse_of (fun _ _ => hknown) fun _ _ => hknown
  counts _ _ _ := hk.step_any (by trivial) fun _ _ =>
    orRefused_of_ok clears_refused fun _ _ => ite_trivial
  stops _ _ _ := hk.step_any (by trivial) fun _ _ =>
    orRefused_of_ok clears_refused fun _ _ => trivial
  creates := clears_creates hk
  starts _ := hk.step_any (by trivial) fun _ _ =>
    orRefused_of_ok clears_refused fun _ _ => ite_trivial
  sends _ := hk.step_any (by trivial) fun _ _ =>
    orRefused_of_ok clears_refused fun _ _ => elim_of_some trivial fun _ _ => trivial
  finishes _ _ _ := hk.step_any (by trivial) fun _ _ =>
    orRefused_of_ok clears_refused fun _ _ => trivial

/-- Whoever answers a frame keeps to the contract. -/
theorem Clearing.handling (hk : Clearing k c known) (s : Settings.Decision) (frame : ClientFrame)
    (h : Past) :
    Program.Meets k (.handler c) (fun _ _ => True) (Worker.handling s c frame).program h :=
  ((hk.valid s frame).handling trivial).mono fun _ _ _ => trivial

end Outline

end Coordinator

end ControlPlane
