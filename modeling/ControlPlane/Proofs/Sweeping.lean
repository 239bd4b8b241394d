/-
The calls of a sweep.

Whatever the store answers, a sweep makes calls of a few forms only (`Sweep.Makes`): it
reads, it skips open actions, it stops conversations with an error, and it lets actions
fail. `Program.Only` says of a program that all its calls are of some form and that it
asks for no decision. It does not look at the store, so it holds beside whatever others
do, and a program that has it keeps to every contract that allows those calls.
-/
import ControlPlane.Proofs.Contract

set_option autoImplicit false

namespace ControlPlane

variable {α β : Type} {P : Store.Call → Prop}

namespace Program

/-- All calls of a program are of some form, and it asks for no decision. -/
def Only (P : Store.Call → Prop) : Program α → Prop
  | done _ => True
  | call c next => P c ∧ ∀ r, Only P (next r)
  | decide _ _ => False
  | pause _ next => Only P (next ())
  | clock next => ∀ t, Only P (next t)

theorem Only.bind {p : Program α} {f : α → Program β} (hp : p.Only P)
    (hf : ∀ a, (f a).Only P) : (p.bind f).Only P := by
  induction p with
  | done a => exact hf a
  | call c next ih => exact ⟨hp.1, fun r => ih r (hp.2 r)⟩
  | decide context next => exact hp.elim
  | pause _ next ih => exact ih () hp
  | clock next ih => exact fun t => ih t (hp t)

/-- Such a program keeps to every contract that allows its calls. -/
theorem Only.meets {inv : Past → Prop} {k : Contract inv} {who : Actor}
    (hallows : ∀ c, P c → ∀ h, inv h → k.allows h c) {p : Program α} (hp : p.Only P)
    (h : Past) : Program.Meets k who (fun _ _ => True) p h := by
  induction p generalizing h with
  | done a => exact trivial
  | call c next ih =>
      intro h' _ hinv
      exact ⟨hallows c hp.1 h' hinv, fun now => ih _ (hp.2 _) _⟩
  | decide context next => exact hp.elim
  | pause _ next ih => exact ih () hp h
  | clock next ih => exact fun t => ih t (hp t) h

end Program

namespace Procedure

/-- All calls of a procedure are of some form, and it asks for no decision. -/
def Only (P : Store.Call → Prop) (p : Procedure α) : Prop := Program.Only P p.run

theorem only_pure (a : α) : (pure a : Procedure α).Only P := trivial

theorem only_call {c : Store.Call} (hc : P c) : (call c).Only P := ⟨hc, fun _ => trivial⟩

theorem only_bind {p : Procedure α} {f : α → Procedure β} (hp : p.Only P)
    (hf : ∀ a, (f a).Only P) : (p >>= f).Only P := by
  refine Program.Only.bind hp ?_
  intro r
  cases r with
  | ok a => exact hf a
  | error e => exact trivial

theorem only_orFail (f : Fault) (o : Option α) : (orFail f o).Only P := by
  cases o with
  | some a => exact trivial
  | none => exact trivial

end Procedure

namespace Sweep

open Procedure

/-- The forms of the calls that a sweep makes. -/
def Makes : Store.Call → Prop
  | .staleMessages _ => True
  | .staleActions _ => True
  | .getMessage _ => True
  | .skipOpenActions _ reason => reason = messageReason
  | .endConversation _ state => state = .error
  | .forceAction _ status reason => status = .failed ∧ reason = actionReason
  | _ => False

theorem expireMessages_only (messages : List Message) (report : Report) :
    (expireMessages report messages).Only Makes := by
  induction messages generalizing report with
  | nil => exact only_pure report
  | cons m rest ih =>
      unfold expireMessages
      refine only_bind (only_call rfl) ?_
      intro skipped
      refine only_bind (only_call rfl) ?_
      intro ended
      split
      · exact ih report
      · exact ih _

theorem timeOutActions_only (actions : List Action) (report : Report) :
    (timeOutActions report actions).Only Makes := by
  induction actions generalizing report with
  | nil => exact only_pure report
  | cons a rest ih =>
      unfold timeOutActions
      refine only_bind (only_call ⟨rfl, rfl⟩) ?_
      intro forced
      -- an action that has ended meanwhile is passed over
      cases forced with
      | false => exact ih report
      | true =>
          refine only_bind (only_call trivial) ?_
          intro found
          exact ih _

/-- **The calls of a sweep** are of these forms, whatever is answered. -/
theorem sweepAt_only (s : Settings.Sweeper) (time : Instant) : (sweepAt s time).Only Makes := by
  unfold sweepAt
  refine only_bind (only_orFail _ _) ?_
  intro messageCutoff
  refine only_bind (only_call trivial) ?_
  intro messages
  refine only_bind (expireMessages_only messages .empty) ?_
  intro report
  refine only_bind (only_orFail _ _) ?_
  intro actionCutoff
  refine only_bind (only_call trivial) ?_
  intro actions
  exact timeOutActions_only actions report

/-- A worker that sweeps makes no other calls. -/
theorem sweeping_only (s : Settings.Sweeper) (time : Instant) :
    (Worker.sweeping s time).program.Only Makes :=
  (sweepAt_only s time).bind fun _ => trivial

end Sweep

end ControlPlane
