/-
Who is due to add an action.

A worker is *due* to add an action to a message when there is a way for it to go on,
whatever others do in between, on which it adds one before it clears any message
(`Program.Due`). This is a matter of its program and of the store alone.

When it is due follows from what it has done itself. The answer to a frame holds a message
from when it has cleared it until it adds an action (`Past.held`); it clears messages of its
own conversation only, and adds actions only to the one it holds. Here this is a contract
(`holding`) that relies on next to nothing: any number of answers to frames of one
conversation may be under way. The past of a worker is made of its own steps, so what it
holds is nobody else's matter.
-/
import ControlPlane.Proofs.Clearing
import ControlPlane.Proofs.Sweeping

set_option autoImplicit false

namespace ControlPlane

/-! ## Calls and messages -/

namespace Store.Call

/-- The call adds an action to a message. -/
def AddsTo (m : Int) : Store.Call → Prop
  | .createAction m' _ _ => m' = m
  | _ => False

/-- The call clears a message. -/
def Clears : Store.Call → Prop
  | .skipOpenActions _ _ => True
  | .completeAction _ _ _ _ => True
  | _ => False

/-- The message that is held after a call: one that was cleared by it, or the one that was
held before, if no action was added. -/
def holds (s : Store) (now : Instant) (held : Option Int) : Store.Call → Option Int
  | .skipOpenActions m reason =>
    match (s.skipOpenActions now m reason).1 with
    | .ok _ => some m
    | .error _ => none
  | .completeAction i status e x =>
    match (s.completeAction now i status e x).1 with
    | .ok true => (s.action? i).map (·.messageId)
    | _ => none
  | .createAction _ _ _ => none
  | _ => held

/-- A call that neither clears a message nor adds an action leaves the message that is held. -/
theorem holds_neutral {call : Store.Call} (hcall : call.Neutral) (s : Store) (now : Instant)
    (held : Option Int) : call.holds s now held = held := by
  cases call with
  | createAction => exact hcall.elim
  | completeAction => exact hcall.elim
  | skipOpenActions => exact hcall.elim
  | _ => rfl

end Store.Call

/-- The message that somebody has cleared, if no action was added since. -/
def Past.held (h : Past) : Option Int :=
  h.log.foldl
    (fun held entry =>
      match entry with
      | .called _ now call before => call.holds before now held
      | .asked _ _ _ => held)
    none

@[simp] theorem Past.held_called (h : Past) (who : Actor) (now : Instant) (call : Store.Call) :
    (h.called who now call).held = call.holds h.store now h.held := by
  simp only [Past.held, Past.called_log, List.foldl_append, List.foldl_cons, List.foldl_nil]

@[simp] theorem Past.held_asked (h : Past) (who : Actor) (context : Decision.Context)
    (answer : Except Fault Decision) : (h.asked who context answer).held = h.held := by
  simp only [Past.held, Past.asked_log, List.foldl_append, List.foldl_cons, List.foldl_nil]

/-! ## The contract -/

/-- Everything that is known of owners stays so. -/
structure Store.Retains (s s' : Store) : Prop where
  /-- Messages keep their conversations. -/
  owns : ∀ c m, s.Owns c m → s'.Owns c m
  /-- Actions keep their messages. -/
  serves : ∀ i m, s.Serves i m → s'.Serves i m

/-- No call takes an owner away. -/
theorem Store.retains_perform (s : Store) (now : Instant) (call : Store.Call) :
    s.Retains (s.perform now call).2 :=
  ⟨fun _ _ h => (s.perform_change now call).owns h,
    fun _ _ h => (s.perform_change now call).serves h⟩

/-- Nor do many. -/
theorem Store.retains_replay (s : Store) (calls : List (Instant × Store.Call)) :
    s.Retains (s.replay calls) :=
  Store.replay_induction (P := fun s' => s.Retains s')
    (fun s' e _ h => ⟨fun c m hm => (s'.retains_perform e.1 e.2).owns c m (h.owns c m hm),
      fun i m hi => (s'.retains_perform e.1 e.2).serves i m (h.serves i m hi)⟩)
    ⟨fun _ _ h => h, fun _ _ h => h⟩

/-- The tables are numbered. -/
def Past.Ordered (h : Past) : Prop := h.store.Ordered

/-- Only the answer to a frame adds an action, and only to the message that it holds; and it
clears messages of its own conversation only. -/
def holding (p : Actor) : Contract Past.Ordered where
  rely h h' := h'.log = h.log ∧ h.store.Retains h'.store
  rely_refl := fun _ => ⟨rfl, fun _ _ h => h, fun _ _ h => h⟩
  rely_trans := fun _ _ _ hr hr' => ⟨hr'.1.trans hr.1,
    fun c m hm => hr'.2.owns c m (hr.2.owns c m hm),
    fun i m hi => hr'.2.serves i m (hr.2.serves i m hi)⟩
  allows h call :=
    (∀ m, call.AddsTo m → (∃ c, p = .handler c) ∧ h.held = some m) ∧
      ∀ c, p = .handler c → ∀ now m, call.Clears →
        call.holds h.store now h.held = some m → h.store.Owns c m
  asks _ _ := True

/-- What is held stays held while others are at work. -/
theorem held_of_rely {p : Actor} {h h' : Past} (hrely : (holding p).rely h h') :
    h'.held = h.held := by
  rw [Past.held, Past.held, hrely.1]

/-- A call that neither clears a message nor adds an action is free to all. -/
theorem holding_allows_neutral {p : Actor} {call : Store.Call} (hcall : call.Neutral) (h : Past) :
    (holding p).allows h call := by
  refine ⟨?_, ?_⟩
  · intro m hadds
    cases call with
    | createAction => exact hcall.elim
    | _ => exact hadds.elim
  · intro c _ now m hclears
    cases call with
    | skipOpenActions => exact hcall.elim
    | completeAction => exact hcall.elim
    | _ => exact hclears.elim

/-- The action with the number of one that serves a message is that one. -/
theorem Store.Ordered.messageId_of_serves {s : Store} (hs : s.Ordered) {i m : Int}
    (hi : s.Serves i m) : (s.action? i).map (·.messageId) = some m := by
  obtain ⟨a, ha, hid, hm⟩ := hi
  cases hfind : s.action? i with
  | none => exact absurd (beq_iff_eq.2 hid) (List.find?_eq_none.1 hfind a ha)
  | some b =>
      have hb := List.mem_of_find?_eq_some hfind
      have hbid : b.id = i := by simpa using List.find?_some hfind
      rw [hs.actions.eq_of_id_eq hb ha (hbid.trans hid.symm), Option.map_some, hm]

namespace Coordinator

/-- The answer to a frame holds the message of the frame from when it is cleared on. -/
theorem holding_clearing (c : Int) :
    Outline.Clearing (holding (.handler c)) c fun m h => h.held = some m where
  owns := fun m _ _ hrely hm => hrely.2.owns c m hm
  serves := fun i m _ _ hrely hi => hrely.2.serves i m hi
  lasts := fun _ _ _ hrely hheld => (held_of_rely hrely).trans hheld
  neutral := fun h _ hcall => holding_allows_neutral hcall h
  kept := by
    intro m h now call hcall hheld
    rw [Past.held_called, Store.Call.holds_neutral hcall, hheld]
  skip := by
    intro h m reason _ howns
    refine ⟨fun _ hadds => hadds.elim, ?_⟩
    intro c' hc' now m' _ hholds
    cases hc'
    -- what is held after the call is the message that was cleared
    simp only [Store.Call.holds] at hholds
    split at hholds
    · cases hholds
      exact howns
    · cases hholds
  skipped := by
    intro h now m reason skipped _ _ hskipped
    rw [Past.held_called, Store.Call.holds, hskipped]
  complete := by
    intro h i m status e x hinv howns hserves
    refine ⟨fun _ hadds => hadds.elim, ?_⟩
    intro c' hc' now m' _ hholds
    cases hc'
    simp only [Store.Call.holds] at hholds
    split at hholds
    · rw [hinv.messageId_of_serves hserves] at hholds
      cases hholds
      exact howns
    · cases hholds
  completed := by
    intro h now i m status e x hinv _ hserves hdone
    rw [Past.held_called, Store.Call.holds, hdone]
    exact hinv.messageId_of_serves hserves
  create := by
    intro h m kind parameters _ hheld
    refine ⟨?_, fun _ _ _ _ hclears => hclears.elim⟩
    intro m' hadds
    cases hadds
    exact ⟨⟨c, rfl⟩, hheld⟩
  ask := fun _ _ _ => trivial
  asked := by
    intro m h context r hheld
    rw [Past.held_asked, hheld]

end Coordinator

/-- A sweep adds no action, and holds nothing. -/
theorem Sweep.Makes.holding {call : Store.Call} (hcall : Sweep.Makes call) (h : Past) :
    (holding .sweeper).allows h call := by
  refine ⟨?_, fun c hc => Actor.noConfusion hc⟩
  intro m hadds
  cases call with
  | createAction => exact hcall.elim
  | _ => exact hadds.elim

/-! ## Being due -/

namespace Program

variable {α : Type}

/-- Whatever others do in between, there is a way to go on to a call that adds an action to
a message, and no message is cleared before it. -/
def Due (m : Int) : Program α → Store → Prop
  | done _, _ => False
  | call c next, s => c.AddsTo m ∨ ¬ c.Clears ∧ ∃ others now,
      Due m (next ((s.replay others).perform now c).1) ((s.replay others).perform now c).2
  | decide _ next, s => ∃ answer, Due m (next answer) s
  | pause _ next, s => Due m (next ()) s
  | clock next, s => ∃ now, Due m (next now) s

noncomputable instance (m : Int) (p : Program α) (s : Store) : Decidable (p.Due m s) :=
  Classical.propDecidable _

/-- Who is due after a call of somebody else was due before it. -/
theorem due_before {m : Int} {p : Program α} {s : Store} {now : Instant} {c : Store.Call}
    (h : p.Due m (s.perform now c).2) : p.Due m s := by
  induction p with
  | done a => exact h
  | call c' next ih =>
      rcases h with hadds | ⟨hclears, others, now', hdue⟩
      · exact Or.inl hadds
      · exact Or.inr ⟨hclears, (now, c) :: others, now', hdue⟩
  | decide context next ih =>
      obtain ⟨answer, hdue⟩ := h
      exact ⟨answer, ih answer hdue⟩
  | pause ms next ih => exact ih () h
  | clock next ih =>
      obtain ⟨now', hdue⟩ := h
      exact ⟨now', ih now' hdue⟩

/-- **Who is due holds the message**, and is answering a frame. -/
theorem Due.held {m : Int} {p : Program α} {who : Actor} {post : α → Past → Prop} {h : Past}
    (hdue : p.Due m h.store) (hmeets : p.Meets (holding who) who post h) (hinv : h.Ordered) :
    (∃ c, who = .handler c) ∧ h.held = some m := by
  induction p generalizing h with
  | done a => exact hdue.elim
  | call c next ih =>
      rcases hdue with hadds | ⟨hclears, others, now, hdue⟩
      · exact (hmeets h ((holding who).rely_refl h) hinv).1.1 m hadds
      · -- the others are at work, and then the call is made
        have hordered := Store.replay_ordered hinv others
        obtain ⟨_, hnext⟩ := hmeets ⟨h.store.replay others, h.log⟩
          ⟨rfl, h.store.retains_replay others⟩ hordered
        obtain ⟨hwho, hheld⟩ := ih _ hdue (hnext now)
          (((h.store.replay others).perform_change now c).ordered hordered)
        refine ⟨hwho, ?_⟩
        rw [Past.held_called] at hheld
        cases c with
        | createAction => cases hheld
        | skipOpenActions => exact absurd trivial hclears
        | completeAction => exact absurd trivial hclears
        | _ => exact hheld
  | decide context next ih =>
      obtain ⟨answer, hdue⟩ := hdue
      obtain ⟨_, hnext⟩ := hmeets h ((holding who).rely_refl h) hinv
      have hdue' : (next answer).Due m (h.asked who context answer).store := hdue
      obtain ⟨hwho, hheld⟩ := ih answer hdue' (hnext answer) hinv
      rw [Past.held_asked] at hheld
      exact ⟨hwho, hheld⟩
  | pause ms next ih => exact ih () hdue hmeets hinv
  | clock next ih =>
      obtain ⟨now, hdue⟩ := hdue
      exact ih now hdue (hmeets now) hinv

end Program

end ControlPlane
