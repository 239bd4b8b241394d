/-
Several answers to frames of one conversation at once.

When a connection is replaced, an answer that waits for its decision may still be on its way
while frames of the new connection are answered. Each answer clears its message before it
adds an action, but it does not look again: between the two another answer may have done the
same, and then two actions of a message are running (`two_running`).

How many there can be is counted here. To the open actions of a message are added the
workers that are due to add one; this is the *load* of the message. An answer that records a
result takes an open action away and becomes due, and one that adds an action is due no
more, so neither changes the load. Only who skips the open actions of a message may raise
it: no action is open then, and the load is made of those who are due. If none of the others
is, it is one at most; and in any case it is not more than the answers to frames of the
conversation that are under way (`Scene.load_step`, `open_per_connection`).
-/
import Mathlib.Data.List.Induction
import Mathlib.Data.List.Perm.Basic
import ControlPlane.Proofs.Dispatch
import ControlPlane.Proofs.Due
import ControlPlane.Proofs.Stopping

set_option autoImplicit false

namespace ControlPlane

/-! ## Open actions -/

namespace Store

variable {s s' : Store} {now : Instant} {call : Call} {m : Int}

/-- How many actions of a message are open. -/
def openOf (s : Store) (m : Int) : Nat :=
  s.actions.countP fun a => a.messageId == m && a.isOpen

/-- How many actions of a message are running. -/
def runningOf (s : Store) (m : Int) : Nat :=
  s.actions.countP fun a => a.messageId == m && a.status == Action.Status.running.name

/-- Of the open actions of a message some are running. -/
theorem runningOf_le (s : Store) (m : Int) : s.runningOf m ≤ s.openOf m := by
  refine List.countP_mono_left ?_
  intro a _ hrunning
  obtain ⟨hmessage, hstatus⟩ := Bool.and_eq_true_iff.1 hrunning
  rw [hmessage, (ActionRow.isOpen_iff a).2 (Or.inr (beq_iff_eq.1 hstatus))]
  rfl

/-- An idle message has no open action. -/
theorem openOf_of_idle (h : s.Idle m) : s.openOf m = 0 := by
  rw [openOf, List.countP_eq_zero]
  intro a ha hopen
  obtain ⟨hmessage, hopen⟩ := Bool.and_eq_true_iff.1 hopen
  rw [h a ha (beq_iff_eq.1 hmessage)] at hopen
  cases hopen

/-- An action that is open after a change was open before it. -/
theorem open_before {f : ActionRow → ActionRow} (hf : ∀ a : ActionRow, a.Becomes (f a))
    {a : ActionRow} (h : ((f a).messageId == m && (f a).isOpen) = true) :
    (a.messageId == m && a.isOpen) = true := by
  obtain ⟨hmessage, hopen⟩ := Bool.and_eq_true_iff.1 h
  rw [(hf a).messageId] at hmessage
  rw [hmessage, (hf a).isOpen_of_isOpen hopen]
  rfl

/-- A call opens one action of a message at most, and none but by adding it. -/
theorem Change.openOf_le (h : s.Change now call s') (m : Int) :
    s'.openOf m ≤ s.openOf m ∨ call.AddsTo m ∧ s'.openOf m ≤ s.openOf m + 1 := by
  cases h with
  | actions _ f hf =>
      refine Or.inl ?_
      rw [openOf, openOf, List.countP_map]
      exact List.countP_mono_left fun a _ => open_before fun a => (hf a).becomes
  | newAction m' kind parameters _ =>
      by_cases hm : m' = m
      · refine Or.inr ⟨hm, ?_⟩
        rw [openOf, openOf, List.countP_append]
        exact Nat.add_le_add_left List.countP_le_length _
      · -- the new action belongs to another message
        refine Or.inl ?_
        rw [openOf, openOf, List.countP_append, List.countP_singleton, if_neg]
        · exact Nat.le_refl _
        · rw [show (s.pendingRow now m' kind parameters).messageId = m' from rfl,
            beq_eq_false_iff_ne.2 hm, Bool.false_and]
          exact Bool.false_ne_true
  | _ => exact Or.inl (Nat.le_refl _)

/-- A count is less, if nothing new is counted and something is not counted any more. -/
theorem countP_lt {α : Type} {p q : α → Bool} {l : List α}
    (hle : ∀ a ∈ l, q a = true → p a = true) {x : α} (hx : x ∈ l) (hp : p x = true)
    (hq : q x = false) : l.countP q + 1 ≤ l.countP p := by
  obtain ⟨front, back, rfl⟩ := List.append_of_mem hx
  have hfront : front.countP q ≤ front.countP p :=
    List.countP_mono_left fun a ha => hle a (List.mem_append_left _ ha)
  have hback : back.countP q ≤ back.countP p :=
    List.countP_mono_left fun a ha => hle a (List.mem_append_right _ (List.mem_cons_of_mem x ha))
  rw [List.countP_append, List.countP_append, List.countP_cons_of_pos hp,
    List.countP_cons_of_neg (by rw [hq]; decide)]
  omega

/-- A result that is recorded leaves one open action less. -/
theorem Ordered.openOf_completed (hs : s.Ordered) {i : Int} {status : Action.Status}
    {e : Option String} {x : Option Int}
    (hmessage : (s.action? i).map (·.messageId) = some m)
    (h : (s.completeAction now i status e x).1 = .ok true) :
    (s.completeAction now i status e x).2.openOf m + 1 ≤ s.openOf m := by
  unfold completeAction at h ⊢
  split
  next hstatus =>
    rw [if_pos hstatus] at h
    have hterminal : status.isTerminal = true := by
      rcases hstatus with rfl | rfl <;> rfl
    obtain ⟨a, ha, hhit⟩ := List.any_eq_true.1 (Except.ok.inj h)
    obtain ⟨hid, hrunning⟩ := Bool.and_eq_true_iff.1 hhit
    have hopen : a.isOpen = true := (ActionRow.isOpen_iff a).2 (Or.inr (beq_iff_eq.1 hrunning))
    -- the row with the number is the one that was found, so it belongs to the message
    have hown : a.messageId = m := by
      obtain ⟨b, hfind, hb⟩ := Option.map_eq_some_iff.1 hmessage
      have hbid : b.id = i := by simpa using List.find?_some hfind
      rw [← hb, hs.actions.eq_of_id_eq ha (List.mem_of_find?_eq_some hfind)
        ((beq_iff_eq.1 hid).trans hbid.symm)]
    simp only [openOf, modify, List.countP_map]
    refine countP_lt ?_ ha ?_ ?_
    · intro b _ hbopen
      rw [Function.comp_apply] at hbopen
      split at hbopen
      next hbhit =>
        obtain ⟨hbmessage, _⟩ := Bool.and_eq_true_iff.1 hbopen
        have hbrunning := beq_iff_eq.1 (Bool.and_eq_true_iff.1 hbhit).2
        rw [Bool.and_eq_true_iff]
        exact ⟨hbmessage, (ActionRow.isOpen_iff b).2 (Or.inr hbrunning)⟩
      next => exact hbopen
    · rw [hown, hopen, beq_self_eq_true]
      rfl
    · rw [Function.comp_apply, if_pos hhit, Bool.and_eq_false_iff]
      exact Or.inr
          (ActionRow.isOpen_eq_false_of_isEnded (ActionRow.isEnded_of_terminal hterminal rfl))
  next hstatus =>
    rw [if_neg hstatus] at h
    cases h

end Store

/-! ## Workers -/

namespace Worker

/-- Somebody is about to skip the open actions of a message to add one itself. -/
def skips (m : Int) (w : Worker) : Bool :=
  match w.actor, w.program with
  | .handler _, .call (.skipOpenActions m' _) _ => m' == m
  | _, _ => false

/-- A worker has kept to the contract so far, and what it holds belongs to its
conversation. -/
def Sound (w : Worker) (s : Store) : Prop :=
  ∃ log, w.program.Meets (holding w.actor) w.actor (fun _ _ => True) ⟨s, log⟩ ∧
    ∀ c, w.actor = .handler c → ∀ m, Past.held ⟨s, log⟩ = some m → s.Owns c m

variable {w : Worker} {s : Store}

/-- Who begins to answer a frame has kept to the contract. -/
theorem sound_handling (settings : Settings.Decision) (c : Int) (frame : ClientFrame) (s : Store) :
    (handling settings c frame).Sound s := by
  refine ⟨[], (Coordinator.holding_clearing c).handling settings frame _, ?_⟩
  intro _ _ m hheld
  cases hheld

/-- So has who begins a sweep. -/
theorem sound_sweeping (settings : Settings.Sweeper) (time : Instant) (s : Store) :
    (sweeping settings time).Sound s := by
  refine ⟨[], ?_, fun _ hactor => Actor.noConfusion hactor⟩
  exact (Sweep.sweeping_only settings time).meets (fun _ hcall h _ => hcall.holding h) _

/-- A call of somebody else does not matter. -/
theorem Sound.beside (hw : w.Sound s) (hs : s.Ordered) (now : Instant) (call : Store.Call) :
    w.Sound (s.perform now call).2 := by
  obtain ⟨log, hmeets, howns⟩ := hw
  have hretains := s.retains_perform now call
  refine ⟨log, ?_, fun c hc m hheld => hretains.owns c m (howns c hc m hheld)⟩
  exact hmeets.stable (fun _ _ _ _ _ _ => trivial) ⟨rfl, hretains⟩
    ((s.perform_change now call).ordered hs)

/-- Only the answer to a frame is due, and to a message of its conversation. -/
theorem Sound.owns_of_due (hw : w.Sound s) (hs : s.Ordered) {m : Int}
    (hdue : w.program.Due m s) : ∃ c, w.actor = .handler c ∧ s.Owns c m := by
  obtain ⟨log, hmeets, howns⟩ := hw
  obtain ⟨⟨c, hc⟩, hheld⟩ := Program.Due.held (h := ⟨s, log⟩) hdue hmeets hs
  exact ⟨c, hc, howns c hc m hheld⟩

/-- Who begins to answer a frame is not due yet. -/
theorem not_due_handling (settings : Settings.Decision) (c : Int) (frame : ClientFrame)
    (hs : s.Ordered) (m : Int) : ¬ (handling settings c frame).program.Due m s := by
  intro hdue
  have hmeets := (Coordinator.holding_clearing c).handling settings frame (.start s)
  obtain ⟨_, hheld⟩ := Program.Due.held (h := .start s) hdue hmeets hs
  cases hheld

/-- A sweep is never due to add an action. -/
theorem not_due_sweeping (settings : Settings.Sweeper) (time : Instant) (hs : s.Ordered)
    (m : Int) : ¬ (sweeping settings time).program.Due m s := by
  intro hdue
  obtain ⟨c, hc, _⟩ := (sound_sweeping settings time s).owns_of_due hs hdue
  cases hc

/-- How many of some workers are due to add an action to a message. -/
noncomputable def due (s : Store) (m : Int) (workers : List Worker) : Nat :=
  workers.countP fun w => decide (w.program.Due m s)

/-- One worker who is due counts once. -/
theorem due_single {m : Int} (h : w.program.Due m s) : due s m [w] = 1 := by
  rw [due, List.countP_singleton, decide_eq_true h, if_pos rfl]

/-- A worker that is due only if another one was counts for no more. -/
theorem due_single_le {w' : Worker} {s' : Store} {m : Int}
    (h : w'.program.Due m s' → w.program.Due m s) : due s' m [w'] ≤ due s m [w] := by
  by_cases hdue : w'.program.Due m s'
  · rw [due_single (h hdue)]
    exact List.countP_le_length
  · rw [due, List.countP_singleton, decide_eq_false hdue]
    exact Nat.zero_le _

/-- Workers of whom none is due do not count. -/
theorem due_none {m : Int} {workers : List Worker} (h : ∀ w ∈ workers, ¬ w.program.Due m s) :
    due s m workers = 0 := by
  rw [due, List.countP_eq_zero]
  intro w hw hdue
  exact h w hw (of_decide_eq_true hdue)

/-- A call makes nobody else due. -/
theorem due_perform_le (s : Store) (now : Instant) (call : Store.Call) (m : Int)
    (workers : List Worker) : due (s.perform now call).2 m workers ≤ due s m workers := by
  refine List.countP_mono_left ?_
  intro w _ hdue
  exact decide_eq_true (Program.due_before (of_decide_eq_true hdue))

/-- One worker and the others. -/
theorem countP_eraseIdx (p : Worker → Bool) {workers : List Worker} {i : Nat}
    (hi : workers[i]? = some w) :
    workers.countP p = [w].countP p + (workers.eraseIdx i).countP p := by
  obtain ⟨hlt, hget⟩ := List.getElem?_eq_some_iff.1 hi
  have hperm := List.getElem_cons_eraseIdx_perm hlt
  rw [hget] at hperm
  rw [← hperm.countP_eq p, ← List.countP_append]
  rfl

/-- A worker in the place of another, and the others. -/
theorem countP_set (p : Worker → Bool) {workers : List Worker} {i : Nat}
    (hi : workers[i]? = some w) (w' : Worker) :
    (workers.set i w').countP p = [w'].countP p + (workers.eraseIdx i).countP p := by
  obtain ⟨hlt, _⟩ := List.getElem?_eq_some_iff.1 hi
  rw [countP_eraseIdx p (List.getElem?_set_self hlt), List.eraseIdx_set_eq]

/-- A step makes one call, or leaves the store as it is. -/
theorem act_store (w : Worker) (now : Instant) (answer : Except Fault Decision) (h : Past) :
    (w.act now answer h).2.store = h.store ∨
      ∃ call, (w.act now answer h).2.store = (h.store.perform now call).2 := by
  unfold Worker.act
  split
  · exact Or.inl rfl
  next call next _ => exact Or.inr ⟨call, rfl⟩
  · exact Or.inl rfl
  · exact Or.inl rfl
  · exact Or.inl rfl

/-- A step of a worker that keeps to the contract is another such. -/
theorem Sound.act {h : Past} (hw : w.Sound h.store) (hs : h.store.Ordered) (now : Instant)
    (answer : Except Fault Decision) :
    (w.act now answer h).1.Sound (w.act now answer h).2.store := by
  obtain ⟨log, hmeets, howns⟩ := hw
  obtain ⟨actor, program⟩ := w
  cases program with
  | done a => exact ⟨log, hmeets, howns⟩
  | call call next =>
      obtain ⟨hallows, hnext⟩ := hmeets ⟨h.store, log⟩ ((holding actor).rely_refl _) hs
      refine ⟨log ++ [Entry.called actor now call h.store], hnext now, ?_⟩
      intro c hc m hheld
      have hheld' : call.holds h.store now (Past.held ⟨h.store, log⟩) = some m := by
        rw [← hheld]
        exact (Past.held_called ⟨h.store, log⟩ actor now call).symm
      refine (h.store.retains_perform now call).owns c m ?_
      -- what is held was cleared by this call, or was held before
      by_cases hclears : call.Clears
      · exact hallows.2 c hc now m hclears hheld'
      · cases call with
        | createAction => cases hheld'
        | skipOpenActions => exact absurd trivial hclears
        | completeAction => exact absurd trivial hclears
        | _ => exact howns c hc m hheld'
  | decide context next =>
      obtain ⟨_, hnext⟩ := hmeets ⟨h.store, log⟩ ((holding actor).rely_refl _) hs
      refine ⟨log ++ [Entry.asked actor context answer], hnext answer, ?_⟩
      intro c hc m hheld
      refine howns c hc m ?_
      rw [← hheld]
      exact (Past.held_asked ⟨h.store, log⟩ actor context answer).symm
  | pause ms next => exact ⟨log, hmeets, howns⟩
  | clock next => exact ⟨log, hmeets now, howns⟩

/-- What a call does to the load of a message, if who makes it is due after it. -/
theorem act_load_due {h : Past} (hs : h.store.Ordered) {now : Instant} {actor : Actor}
    {call : Store.Call} {next : Except Fault call.Answer → Program Outcome} {log : List Entry}
    {m : Int}
    (hnext : (next (h.store.perform now call).1).Meets (holding actor) actor (fun _ _ => True)
      ((Past.mk h.store log).called actor now call))
    (hdue : (next (h.store.perform now call).1).Due m (h.store.perform now call).2) :
    (h.store.perform now call).2.openOf m +
        due (h.store.perform now call).2 m [⟨actor, next (h.store.perform now call).1⟩] ≤
      h.store.openOf m + due h.store m [⟨actor, .call call next⟩] ∨
    skips m ⟨actor, .call call next⟩ = true ∧ (h.store.perform now call).2.openOf m = 0 := by
  have hchange := h.store.perform_change now call
  obtain ⟨⟨c, rfl⟩, hheld⟩ := Program.Due.held
    (h := (Past.mk h.store log).called actor now call) hdue hnext (hchange.ordered hs)
  rw [Past.held_called] at hheld
  cases call with
  | createAction => cases hheld
  | skipOpenActions m' reason =>
      simp only [Store.Call.holds] at hheld
      split at hheld
      next skipped hskipped =>
        -- the message that is held is the one that was skipped
        cases hheld
        exact Or.inr ⟨beq_self_eq_true _, Store.openOf_of_idle (Store.idle_of_skipped hs hskipped)⟩
      next => cases hheld
  | completeAction i status e x =>
      simp only [Store.Call.holds] at hheld
      split at hheld
      next hdone =>
        -- the action that was running makes up for the one to come
        have hless := hs.openOf_completed hheld hdone
        have hone := due_single (w := ⟨.handler c, next _⟩) hdue
        refine Or.inl ?_
        simp only [Store.perform] at hone ⊢
        omega
      next => cases hheld
  | _ =>
      -- who is due after any other call was due before it
      refine Or.inl (Nat.add_le_add ?_ (due_single_le fun _ => Or.inr ⟨id, [], now, hdue⟩))
      exact (hchange.openOf_le m).elim id fun h => h.1.elim

/-- **What a step does to the load of a message**: it does not raise it, unless the open
actions of the message are skipped, and then none is open. -/
theorem Sound.act_load {h : Past} (hw : w.Sound h.store) (hs : h.store.Ordered) (now : Instant)
    (answer : Except Fault Decision) (m : Int) :
    (w.act now answer h).2.store.openOf m +
        due (w.act now answer h).2.store m [(w.act now answer h).1] ≤
      h.store.openOf m + due h.store m [w] ∨
    w.skips m = true ∧ (w.act now answer h).2.store.openOf m = 0 := by
  obtain ⟨actor, program⟩ := w
  cases program with
  | done a => exact Or.inl (Nat.le_refl _)
  | call call next =>
      obtain ⟨log, hmeets, _⟩ := hw
      obtain ⟨_, hnext⟩ := hmeets ⟨h.store, log⟩ ((holding actor).rely_refl _) hs
      have hchange := h.store.perform_change now call
      simp only [Worker.act, Past.called_store]
      by_cases hdue : (next (h.store.perform now call).1).Due m (h.store.perform now call).2
      · exact act_load_due hs (hnext now) hdue
      · have hnone : due (h.store.perform now call).2 m
            [⟨actor, next (h.store.perform now call).1⟩] = 0 :=
          due_none fun v hv => by rwa [List.mem_singleton.1 hv]
        rw [hnone]
        refine Or.inl ?_
        rcases hchange.openOf_le m with hle | ⟨hadds, hle⟩
        · omega
        · -- who adds an action was due to
          have hbefore : (Program.call call next).Due m h.store := Or.inl hadds
          have hone := due_single (w := ⟨actor, .call call next⟩) hbefore
          omega
  | decide context next =>
      refine Or.inl (Nat.add_le_add_left (due_single_le ?_) _)
      exact fun hdue => ⟨answer, hdue⟩
  | pause ms next => exact Or.inl (Nat.add_le_add_left (due_single_le fun hdue => hdue) _)
  | clock next =>
      refine Or.inl (Nat.add_le_add_left (due_single_le ?_) _)
      exact fun hdue => ⟨now, hdue⟩

end Worker

/-! ## Scenes -/

/-- So many frames of a conversation may be answered at once. -/
def Rules.inbound (most : Nat) : Rules where
  admits workers actor :=
    match actor with
    | .handler c => workers.countP (fun w => w.actor == .handler c) < most
    | _ => true
  accepts := Rules.isRequest

namespace Scene

variable {σ : Scene} {most : Nat} {m : Int}

/-- Somebody skips the open actions of a message to add one, while somebody else is due to
add one. -/
def Crosses (σ : Scene) (m : Int) : Choice → Prop
  | .act index _ _ => (∃ w, σ.workers[index]? = some w ∧ w.skips m = true) ∧
      ∃ v ∈ σ.workers.eraseIdx index, v.program.Due m σ.store
  | _ => False

/-- The load of a message: its open actions, and the workers due to add one. -/
noncomputable def load (σ : Scene) (m : Int) : Nat :=
  σ.store.openOf m + Worker.due σ.store m σ.workers

/-- The tables are numbered, everybody keeps to the contract, and not too many frames of a
conversation are answered at once. -/
structure Attended (most : Nat) (σ : Scene) : Prop where
  /-- The tables are numbered. -/
  ordered : σ.store.Ordered
  /-- Everybody is at work as the contract has it. -/
  sound : ∀ w ∈ σ.workers, w.Sound σ.store
  /-- At most so many frames of a conversation are answered at once. -/
  few : ∀ c, σ.workers.countP (fun w => w.actor == .handler c) ≤ most

/-- A scene in which nobody is at work is attended. -/
theorem attended_start (most : Nat) : (start .empty).Attended most where
  ordered := Store.empty_ordered
  sound := fun _ h => absurd h List.not_mem_nil
  few := fun _ => Nat.zero_le most

/-- Those who are due to add an action to a message answer frames of its conversation. -/
theorem Attended.due_le (hσ : σ.Attended most) (m : Int) :
    Worker.due σ.store m σ.workers ≤ most := by
  by_cases hdue : ∃ w ∈ σ.workers, w.program.Due m σ.store
  · obtain ⟨w, hw, hdue⟩ := hdue
    obtain ⟨c, _, howns⟩ := (hσ.sound w hw).owns_of_due hσ.ordered hdue
    refine Nat.le_trans (List.countP_mono_left ?_) (hσ.few c)
    intro v hv hvdue
    obtain ⟨c', hc', howns'⟩ :=
      (hσ.sound v hv).owns_of_due hσ.ordered (of_decide_eq_true hvdue)
    rw [hc', hσ.ordered.owner_unique howns' howns]
    exact beq_self_eq_true _
  · rw [Worker.due_none fun w hw h => hdue ⟨w, hw, h⟩]
    exact Nat.zero_le most

/-- A worker that begins joins those at work. -/
theorem Attended.enter (hσ : σ.Attended most) {w : Worker} (hw : w.Sound σ.store) :
    (σ.enter (.inbound most) w).Attended most := by
  unfold Scene.enter
  split
  next hadmits =>
    refine ⟨hσ.ordered, ?_, ?_⟩
    · intro v hv
      rcases List.mem_append.1 hv with hv | hv
      · exact hσ.sound v hv
      · rw [List.mem_singleton.1 hv]
        exact hw
    · intro c
      simp only [List.countP_append, List.countP_singleton]
      have hfew := hσ.few c
      split
      next hactor =>
        simp only [Rules.inbound, beq_iff_eq.1 hactor, decide_eq_true_eq] at hadmits
        omega
      next => exact hfew
  next => exact hσ

/-- **Every choice leaves a scene attended.** -/
theorem Attended.step (hσ : σ.Attended most) (choice : Choice) :
    (σ.step (.inbound most) choice).Attended most := by
  cases choice with
  | request now call =>
      simp only [Scene.step]
      split
      · exact ⟨(σ.store.perform_change now call).ordered hσ.ordered,
          fun w hw => (hσ.sound w hw).beside hσ.ordered now call, hσ.few⟩
      · exact hσ
  | frame settings c frame => exact hσ.enter (Worker.sound_handling settings c frame σ.store)
  | sweep settings time => exact hσ.enter (Worker.sound_sweeping settings time σ.store)
  | act index now answer =>
      simp only [Scene.step]
      split
      next => exact hσ
      next w hw =>
        have hact := (hσ.sound w (List.mem_of_getElem? hw)).act (h := σ.past) hσ.ordered now answer
        -- everybody else meets at most one call of somebody else
        have hothers : (w.act now answer σ.past).2.store.Ordered ∧
            ∀ v ∈ σ.workers, v.Sound (w.act now answer σ.past).2.store := by
          rcases w.act_store now answer σ.past with hstore | ⟨call, hstore⟩
          · rw [hstore]
            exact ⟨hσ.ordered, hσ.sound⟩
          · rw [hstore]
            exact ⟨(σ.store.perform_change now call).ordered hσ.ordered,
              fun v hv => (hσ.sound v hv).beside hσ.ordered now call⟩
        refine ⟨hothers.1, ?_, ?_⟩
        · intro v hv
          rcases List.mem_or_eq_of_mem_set hv with hv | rfl
          · exact hothers.2 v hv
          · exact hact
        · intro c
          refine Nat.le_trans (Nat.le_of_eq ?_) (hσ.few c)
          rw [Worker.countP_set _ hw, Worker.countP_eraseIdx _ hw, List.countP_singleton,
            List.countP_singleton, w.act_actor now answer σ.past]
  | leave index =>
      have hsub := List.eraseIdx_sublist σ.workers index
      exact ⟨hσ.ordered, fun w hw => hσ.sound w (hsub.subset hw),
        fun c => Nat.le_trans hsub.countP_le (hσ.few c)⟩
  | reopen => exact ⟨hσ.ordered, fun _ h => absurd h List.not_mem_nil, fun _ => Nat.zero_le most⟩

/-- A worker that is not due leaves the load as it is. -/
theorem load_enter_le (rules : Rules) {w : Worker} (hw : ¬ w.program.Due m σ.store) :
    (σ.enter rules w).load m ≤ σ.load m := by
  unfold Scene.enter
  split
  · have hnone : Worker.due σ.store m [w] = 0 :=
      Worker.due_none fun v hv => by rwa [List.mem_singleton.1 hv]
    rw [load, load, Worker.due, List.countP_append]
    exact Nat.add_le_add_left (Nat.add_le_add_left (Nat.le_of_eq hnone) _) _
  · exact Nat.le_refl _

/-- What a step of a worker does to the load of a message. -/
theorem act_load_le (hσ : σ.Attended most) {index : Nat} {w : Worker}
    (hw : σ.workers[index]? = some w) (now : Instant) (answer : Except Fault Decision) (m : Int) :
    let σ' : Scene :=
      ⟨(w.act now answer σ.past).2, σ.workers.set index (w.act now answer σ.past).1⟩
    σ'.load m ≤ σ.load m ∨ σ'.store.openOf m = 0 ∧
      (¬ σ.Crosses m (.act index now answer) → σ'.load m ≤ 1) := by
  intro σ'
  have hbefore : σ.load m =
      σ.store.openOf m +
          (Worker.due σ.store m [w] + Worker.due σ.store m (σ.workers.eraseIdx index)) :=
    congrArg _ (Worker.countP_eraseIdx _ hw)
  have hafter : σ'.load m =
      σ'.store.openOf m + (Worker.due σ'.store m [(w.act now answer σ.past).1] +
        Worker.due σ'.store m (σ.workers.eraseIdx index)) :=
    congrArg _ (Worker.countP_set _ hw _)
  have hothers : Worker.due σ'.store m (σ.workers.eraseIdx index) ≤
      Worker.due σ.store m (σ.workers.eraseIdx index) := by
    rcases w.act_store now answer σ.past with hstore | ⟨call, hstore⟩
    · exact Nat.le_of_eq (congrArg (Worker.due · m _) hstore)
    · have hle := Worker.due_perform_le σ.store now call m (σ.workers.eraseIdx index)
      exact Nat.le_trans (Nat.le_of_eq (congrArg (Worker.due · m _) hstore)) hle
  have hsound := hσ.sound w (List.mem_of_getElem? hw)
  rcases hsound.act_load (h := σ.past) hσ.ordered now answer m with hle | ⟨hskips, hzero⟩
  · have hle' : σ'.store.openOf m + Worker.due σ'.store m [(w.act now answer σ.past).1] ≤
        σ.store.openOf m + Worker.due σ.store m [w] := hle
    omega
  · have hzero' : σ'.store.openOf m = 0 := hzero
    refine Or.inr ⟨hzero', ?_⟩
    intro hcrosses
    -- none of the others is due, so the load is that of the worker alone
    have hnone : Worker.due σ.store m (σ.workers.eraseIdx index) = 0 :=
      Worker.due_none fun v hv hdue => hcrosses ⟨⟨w, hw, hskips⟩, v, hv, hdue⟩
    have hone : Worker.due σ'.store m [(w.act now answer σ.past).1] ≤ 1 := List.countP_le_length
    omega

/-- **What a choice does to the load of a message**: it does not raise it, unless the open
actions of the message are skipped, and then none is open. -/
theorem Attended.load_step (hσ : σ.Attended most) (choice : Choice) (m : Int) :
    (σ.step (.inbound most) choice).load m ≤ σ.load m ∨
      (σ.step (.inbound most) choice).store.openOf m = 0 ∧
        (¬ σ.Crosses m choice → (σ.step (.inbound most) choice).load m ≤ 1) := by
  cases choice with
  | request now call =>
      refine Or.inl ?_
      simp only [Scene.step]
      split
      next haccepts =>
        have hopen := ((σ.store.perform_change now call).openOf_le m).resolve_right fun h => by
          cases call with
          | createAction => cases haccepts
          | _ => exact h.1.elim
        exact Nat.add_le_add hopen (Worker.due_perform_le σ.store now call m σ.workers)
      next => exact Nat.le_refl _
  | frame settings c frame =>
      exact Or.inl (load_enter_le _ (Worker.not_due_handling settings c frame hσ.ordered m))
  | sweep settings time =>
      exact Or.inl (load_enter_le _ (Worker.not_due_sweeping settings time hσ.ordered m))
  | act index now answer =>
      cases hw : σ.workers[index]? with
      | none =>
          simp only [Scene.step, hw]
          exact Or.inl (Nat.le_refl _)
      | some w =>
          simp only [Scene.step, hw]
          exact act_load_le hσ hw now answer m
  | leave index =>
      have hsub := List.eraseIdx_sublist σ.workers index
      exact Or.inl (Nat.add_le_add_left hsub.countP_le _)
  | reopen => exact Or.inl (Nat.add_le_add_left (Nat.zero_le _) _)

/-- So does every schedule. -/
theorem attended_play (most : Nat) (schedule : List Choice) :
    ((start .empty).play (.inbound most) schedule).Attended most :=
  play_induction (fun _ choice _ hσ => hσ.step choice) (attended_start most)

/-- The load of a message is not more than the frames of its conversation that may be answered
at once. -/
theorem load_le (most : Nat) (schedule : List Choice) (m : Int) :
    ((start .empty).play (.inbound most) schedule).load m ≤ most := by
  have hstep : ∀ σ : Scene, ∀ choice ∈ schedule, σ.Attended most ∧ σ.load m ≤ most →
      (σ.step (.inbound most) choice).Attended most ∧
        (σ.step (.inbound most) choice).load m ≤ most := by
    rintro σ choice _ ⟨hσ, hload⟩
    refine ⟨hσ.step choice, ?_⟩
    rcases hσ.load_step choice m with hle | ⟨hzero, _⟩
    · exact Nat.le_trans hle hload
    · -- no action is open, so the load is made of those who are due
      rw [load, hzero, Nat.zero_add]
      exact (hσ.step choice).due_le m
  have hstart : (start .empty).Attended most ∧ (start .empty).load m ≤ most :=
    ⟨attended_start most, Nat.zero_le most⟩
  exact (play_induction (I := fun σ => σ.Attended most ∧ σ.load m ≤ most) hstep hstart).2

/-- Who is alone crosses nobody. -/
theorem not_crosses_of_alone (h : σ.workers.length ≤ 1) (m : Int) (choice : Choice) :
    ¬ σ.Crosses m choice := by
  cases choice with
  | act index now answer =>
      rintro ⟨⟨w, hw, _⟩, v, hv, _⟩
      obtain ⟨hlt, _⟩ := List.getElem?_eq_some_iff.1 hw
      have hpos := List.length_pos_of_mem hv
      rw [List.length_eraseIdx_of_lt hlt] at hpos
      omega
  | _ => exact id

/-- As long as nobody crosses another, it is one at most. -/
theorem load_le_one (most : Nat) (m : Int) (schedule : List Choice)
    (huncrossed : ∀ before choice after, schedule = before ++ choice :: after →
      ¬ ((start .empty).play (.inbound most) before).Crosses m choice) :
    ((start .empty).play (.inbound most) schedule).load m ≤ 1 := by
  -- from the right: the last choice is made in the scene that the others lead to
  induction schedule using List.reverseRecOn with
  | nil => exact Nat.zero_le 1
  | append_singleton schedule choice ih =>
      have hload := ih fun before earlier after heq =>
        huncrossed before earlier (after ++ [choice])
            (by rw [heq, List.append_assoc, List.cons_append])
      rw [play, List.foldl_append]
      rcases (attended_play most schedule).load_step choice m with hle | ⟨_, hone⟩
      · exact Nat.le_trans hle hload
      · exact hone (huncrossed schedule choice [] rfl)

/-- **How many actions of a message are running.** Take the empty store and any schedule in
which so many frames of a conversation may be answered at once: as many as there are
connections of which each answers one frame after the other, those included that were
replaced and still wait for a decision. Then no more actions of a message are open, let alone
running. And it is one at most, as long as no answer skips the open actions of the message to
add one of its own, while another answer has cleared the message and is still to add one. -/
theorem open_per_connection (most : Nat) (schedule : List Choice) (m : Int) :
    let play := (start .empty).play (.inbound most)
    (play schedule).store.runningOf m ≤ (play schedule).store.openOf m ∧
      (play schedule).store.openOf m ≤ most ∧
      ((∀ before choice after, schedule = before ++ choice :: after →
          ¬ (play before).Crosses m choice) →
        (play schedule).store.openOf m ≤ 1) := by
  refine ⟨Store.runningOf_le _ m, ?_, ?_⟩
  · exact Nat.le_trans (Nat.le_add_right _ _) (load_le most schedule m)
  · intro huncrossed
    exact Nat.le_trans (Nat.le_add_right _ _) (load_le_one most m schedule huncrossed)

end Scene

namespace Sample

/-- A conversation with a message. -/
def prepared : List Choice := (calls.take 2).map fun e => .request e.1 e.2

/-- A task arrives, and its answer gets to where it waits for a decision. -/
def begins (index : Nat) : List Choice :=
  .frame .standard 1 task :: List.replicate 4 (act index moment)

/-- The decision is there, and the answer goes on to its end. -/
def clicks (index : Nat) : List Choice :=
  .act index moment (.ok click) :: List.replicate 4 (act index moment)

/-- The connection is replaced while an answer waits for its decision. A task of the new
connection is answered, and then the decision is there after all. -/
def replaced : List Choice := prepared ++ begins 0 ++ begins 1 ++ clicks 1 ++ clicks 0

/-- The task of the new connection arrives when the answer of the old one has gone. -/
def relieved : List Choice :=
  prepared ++ begins 0 ++ clicks 0 ++ [.leave 0] ++ begins 0 ++ clicks 0

end Sample

namespace Scene

/-- Two answers for one message that cross each other leave two running actions. -/
theorem two_running : ((start .empty).play (.inbound 2) Sample.replaced).store.runningOf 1 = 2 := by
  decide +kernel

/-- Answers one after the other leave one: the first action was superseded. -/
theorem open_per_connection_relieved :
    let play := (start .empty).play (.inbound 2)
    (play Sample.relieved).store.actions.length = 2 ∧
      (play Sample.relieved).store.runningOf 1 = 1 ∧
      (play Sample.relieved).store.openOf 1 ≤ 2 ∧ (play Sample.relieved).store.openOf 1 ≤ 1 := by
  have halone : ∀ n < Sample.relieved.length,
      ((start .empty).play (.inbound 2) (Sample.relieved.take n)).workers.length ≤ 1 := by
    decide +kernel
  have hbound := open_per_connection 2 Sample.relieved 1
  refine ⟨by decide +kernel, by decide +kernel, hbound.2.1, hbound.2.2 ?_⟩
  -- there is one worker at a time, and who is alone crosses nobody
  intro before choice after heq
  have hlength := congrArg List.length heq
  rw [List.length_append, List.length_cons] at hlength
  have hbefore : Sample.relieved.take before.length = before := by
    rw [heq, List.take_left]
  have hone := halone before.length (by omega)
  rw [hbefore] at hone
  exact not_crosses_of_alone hone 1 choice

end Scene

end ControlPlane
