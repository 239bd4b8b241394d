/-
At most one action is under way.

The coordinator creates an action for a message only when the message is idle. It made
it idle itself, by skipping what was open or by recording a result, and then it asked
for a decision, which may take long. Nobody else makes the message busy in the
meantime: sweeps create no actions, and the frames of a conversation are answered one
after the other.

Here this is a contract (`dispatching`): the answer to a frame relies on being left
alone (`Store.Quiet`), and creates actions for idle messages of its own conversation
only. Its outline (`Coordinator.Outline.dispatches`) says where on the way the message is
idle. What the contract is good for is the last theorem (`single_open`).
-/
import ControlPlane.Proofs.Clearing
import ControlPlane.Proofs.Sweeping
import ControlPlane.Proofs.Tidy

set_option autoImplicit false

namespace ControlPlane

/-! ## The contract -/

/-- The store is tidy. -/
def Past.Tidy (h : Past) : Prop := h.store.Tidy

/-- Who creates an action is answering a frame of the conversation, and the message is
idle; in return the others do not disturb the conversation. -/
def dispatching (p : Actor) : Contract Past.Tidy where
  rely h h' := ∀ c, p = .handler c → Store.Quiet c h.store h'.store
  rely_refl := fun h c _ => Store.Quiet.refl c h.store
  rely_trans := fun _ _ _ hr hr' c hc => (hr c hc).trans (hr' c hc)
  allows h call := ∀ m kind parameters, call = .createAction m kind parameters →
    ∃ c, p = .handler c ∧ h.store.Owns c m ∧ h.store.Idle m
  asks h context := h.store.Idle context.message.id

/-- A call that creates no action. -/
def Store.Call.Plain (call : Store.Call) : Prop :=
  ∀ m kind parameters, call ≠ .createAction m kind parameters

/-- A call that creates no action is free to all. -/
theorem dispatching_allows_plain {p : Actor} {call : Store.Call} (hcall : call.Plain)
    (h : Past) : (dispatching p).allows h call :=
  fun m kind parameters heq => absurd heq (hcall m kind parameters)

/-- A message of a conversation is idle. -/
def Past.Ready (c m : Int) (h : Past) : Prop := h.store.Owns c m ∧ h.store.Idle m

/-! ## The outline -/

namespace Coordinator

namespace Outline

variable {c : Int}

/-- How the message of a frame becomes idle, and stays so while a decision is asked
for. -/
def dispatches (c : Int) : Outline (dispatching (.handler c)) c where
  begun _ := True
  running v _ := v.id = c
  resolved _ m h := h.store.Owns c m.id
  cleared _ m h := h.Ready c m.id
  named a h := h.store.Serves a.id a.messageId
  found a m h := h.store.Owns c m.id ∧ h.store.Serves a.id m.id
  recorded _ m h := h.Ready c m.id
  resumed _ _ m h := h.Ready c m.id
  ready _ m _ h := h.Ready c m.id
  decided _ m _ h := h.Ready c m.id
  accepted _ m _ h := h.Ready c m.id
  created _ _ := True
  started _ _ := True
  counted _ _ := True
  replied _ _ := True

/-- A message that is ready for an action stays ready, whatever others do. -/
theorem lasts_ready (c m : Int) : (dispatching (.handler c)).Lasts (Past.Ready c m) :=
  fun _ _ hrely hm => ⟨(hrely c rfl).owns m hm.1, (hrely c rfl).idle m hm.1 hm.2⟩

/-- A message stays with its conversation, whatever others do. -/
theorem lasts_owns (c m : Int) : (dispatching (.handler c)).Lasts fun h => h.store.Owns c m :=
  fun _ _ hrely hm => (hrely c rfl).owns m hm

/-- A call that creates no action disturbs nobody. -/
theorem harmless_of_plain {call : Store.Call} (hcall : call.Plain) :
    Harmless (dispatching (.handler c)) c call where
  allows := dispatching_allows_plain hcall
  rely := by
    intro h now c' _
    refine (h.store.perform_change now call).quiet ?_
    intro m kind parameters heq
    exact absurd heq (hcall m kind parameters)

/-- A call that neither clears a message nor adds an action creates none. -/
theorem plain_of_neutral {call : Store.Call} (hcall : call.Neutral) : call.Plain := by
  rintro m kind parameters rfl
  exact hcall

/-- From when a message is cleared on, it is known to be idle. -/
theorem dispatching_clearing (c : Int) :
    Clearing (dispatching (.handler c)) c (Past.Ready c) where
  owns := lasts_owns c
  serves := fun i m _ _ hrely hi => (hrely c rfl).serves i m hi
  lasts := lasts_ready c
  neutral := fun h _ hcall => dispatching_allows_plain (plain_of_neutral hcall) h
  kept := by
    intro m h now call hcall hready
    exact lasts_ready c m h _ ((harmless_of_plain (plain_of_neutral hcall)).rely h now) hready
  skip := fun h _ _ _ _ => dispatching_allows_plain (fun _ _ _ => Store.Call.noConfusion) h
  skipped := by
    intro h now m reason skipped hinv howns hskipped
    exact ⟨(h.store.perform_change now _).owns howns, Store.idle_of_skipped hinv.ordered hskipped⟩
  complete := fun h _ _ _ _ _ _ _ _ =>
    dispatching_allows_plain (fun _ _ _ => Store.Call.noConfusion) h
  completed := by
    intro h now i m status e x hinv howns hserves hdone
    exact ⟨(h.store.perform_change now _).owns howns, Store.idle_of_completed hinv hserves hdone⟩
  create := by
    intro h m kind parameters _ hready m' kind' parameters' heq
    cases heq
    exact ⟨c, rfl, hready⟩
  ask := fun _ _ hready => hready.2
  asked := fun _ _ _ _ hready => hready

/-- The outline is valid: of all calls on the way one creates an action, and its message
is idle. -/
theorem dispatches_valid (c : Int) (s : Settings.Decision) (frame : ClientFrame) :
    (dispatches c).Valid s frame :=
  (dispatching_clearing c).valid s frame

end Outline

/-- Whoever answers a frame keeps to the contract. -/
theorem handling_dispatches (s : Settings.Decision) (c : Int) (frame : ClientFrame) (h : Past) :
    Program.Meets (dispatching (.handler c)) (.handler c) (fun _ _ => True)
      (Worker.handling s c frame).program h :=
  ((Outline.dispatches_valid c s frame).handling trivial).mono fun _ _ _ => trivial

end Coordinator

/-! ## Every schedule -/

/-- A sweep creates no action. -/
theorem Sweep.Makes.plain {call : Store.Call} (h : Sweep.Makes call) : call.Plain := by
  rintro m kind parameters rfl
  exact h

/-- Neither does a client. -/
theorem Rules.plain_of_isRequest {call : Store.Call} (h : Rules.isRequest call = true) :
    call.Plain := by
  rintro m kind parameters rfl
  cases h

/-- The contracts fit together: whoever is at work beside the answer to a frame does
not disturb its conversation. -/
theorem dispatching_discipline :
    Discipline .oneInbound dispatching (fun _ _ _ => True) where
  call_inv := by
    intro p h now call hinv hallows
    refine (h.store.perform_change now call).tidy hinv ?_
    intro m kind parameters hcall
    obtain ⟨_, _, _, hidle⟩ := hallows m kind parameters hcall
    exact hidle
  call_rely := by
    intro p q h now call hinv hallows happart c hq
    refine (h.store.perform_change now call).quiet ?_
    intro m kind parameters hcall howns
    obtain ⟨c', hp, howns', _⟩ := hallows m kind parameters hcall
    -- a message belongs to one conversation, so the two answer frames of the same one
    have hc : c' = c := hinv.ordered.owner_unique howns' howns
    have hpq : p = q := by rw [hp, hq, hc]
    rw [happart hpq] at hp
    cases hp
  asked_inv := fun _ _ _ _ hinv => hinv
  asked_rely := fun _ _ h _ _ _ c _ => Store.Quiet.refl c h.store
  request := fun h call hcall => dispatching_allows_plain (Rules.plain_of_isRequest hcall) h
  admitted := by
    intro ws p hclient hadmits w hw hwp
    cases p with
    | sweeper => exact hwp
    | client => exact absurd rfl hclient
    | handler c =>
        have hnone : ws.any (fun w => w.actor == .handler c) = false := by
          simpa only [Rules.oneInbound, Bool.not_eq_true'] using hadmits
        have hany : ws.any (fun w => w.actor == .handler c) = true :=
          List.any_eq_true.2 ⟨w, hw, beq_iff_eq.2 hwp⟩
        rw [hany] at hnone
        cases hnone
  handling := fun _ s c frame h _ _ => Coordinator.handling_dispatches s c frame h
  sweeping := by
    intro s t h _
    refine Program.Only.meets ?_ (Sweep.sweeping_only s t) h
    intro call hcall h' _
    exact dispatching_allows_plain hcall.plain h'
  lasting := fun _ _ _ _ _ _ _ => trivial

namespace Scene

/-- Nobody is at work on an empty store, and it is tidy. -/
theorem start_dispatching : (Scene.start .empty).Sound dispatching (fun _ _ _ => True) :=
  sound_start Store.empty_tidy

/-- **At most one action is under way.** Take the empty store and any schedule: clients
create and rename conversations and create messages, frames arrive at any conversation
and are answered one after the other for each of them, sweeps begin at any time with
any budgets, everybody takes the steps in any order and with any decisions, anybody is
broken off after any step, and the store is opened anew at any time. Then an open
action is the only open one of its message, it has the highest sequence, and all others
of the message have ended. And whoever is about to ask for a decision, no action of the
message is open. -/
theorem single_open (schedule : List Choice) :
    (∀ a ∈ ((start .empty).play .oneInbound schedule).store.actions, a.isOpen = true →
      ∀ b ∈ ((start .empty).play .oneInbound schedule).store.actions,
        b.messageId = a.messageId →
          b = a ∨ (b.isEnded = true ∧ b.isOpen = false ∧ b.sequence < a.sequence)) ∧
    ∀ w ∈ ((start .empty).play .oneInbound schedule).workers, ∀ context next,
      w.program = .decide context next →
        ∀ a ∈ ((start .empty).play .oneInbound schedule).store.actions,
          a.messageId = context.message.id → a.isOpen = false := by
  have hsound := play_sound dispatching_discipline start_dispatching schedule
  constructor
  · intro a ha hopen b hb hmessage
    rcases hsound.inv.single a ha hopen b hb hmessage with hsame | ⟨hend, hlt⟩
    · exact Or.inl hsame
    · exact Or.inr ⟨hend, ActionRow.isOpen_eq_false_of_isEnded hend, hlt⟩
  · intro w hw context next hprogram
    exact hsound.asks hw hprogram

end Scene

end ControlPlane
