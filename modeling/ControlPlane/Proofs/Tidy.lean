/-
One open action for each message.

A store is *tidy* (`Store.Tidy`) when of the actions of a message at most one is open,
and that one comes after all others, which have ended. The only call that can break
this is `createAction`, and it cannot when the message is idle (`Change.tidy`).

So whoever creates an action has to know that its message is idle, and has to go on
knowing it while others call the store. `Quiet` says what the others leave alone: what
belongs to a conversation stays idle, unless somebody creates an action in it
(`Change.quiet`). The last section has the two ways to make a message idle: to skip its
open actions, and to record how its running action went.
-/
import ControlPlane.Proofs.Skip

set_option autoImplicit false

namespace ControlPlane

namespace Store

variable {s s' s'' : Store} {now : Instant} {call : Call}

/-- A store that calls have made of the empty one, and in which a message has at most
one open action, its last one. -/
structure Tidy (s : Store) : Prop where
  /-- The tables are numbered. -/
  ordered : s.Ordered
  /-- Every action is open or has ended. -/
  settled : s.Settled
  /-- Beside an open action, all actions of the message have ended and come before it. -/
  single : ∀ a ∈ s.actions, a.isOpen = true → ∀ b ∈ s.actions, b.messageId = a.messageId →
    b = a ∨ (b.isEnded = true ∧ b.sequence < a.sequence)

theorem empty_tidy : Store.empty.Tidy :=
  ⟨empty_ordered, empty_settled, fun _ h => absurd h List.not_mem_nil⟩

/-! ## What keeps a store tidy -/

/-- Actions that change in place stay tidy: none of them opens. -/
theorem Tidy.single_map (hs : s.Tidy) {f : ActionRow → ActionRow}
    (hf : ∀ a : ActionRow, a.Becomes (f a)) :
    ∀ a ∈ s.actions.map f, a.isOpen = true → ∀ b ∈ s.actions.map f,
      b.messageId = a.messageId → b = a ∨ (b.isEnded = true ∧ b.sequence < a.sequence) := by
  intro a' ha' hopen b' hb' hmessage
  obtain ⟨a, ha, rfl⟩ := List.mem_map.1 ha'
  obtain ⟨b, hb, rfl⟩ := List.mem_map.1 hb'
  rw [(hf a).messageId, (hf b).messageId] at hmessage
  rcases hs.single a ha ((hf a).isOpen_of_isOpen hopen) b hb hmessage with rfl | ⟨hend, hlt⟩
  · exact Or.inl rfl
  · refine Or.inr ⟨(hf b).isEnded_of_isEnded hend, ?_⟩
    rwa [(hf a).sequence, (hf b).sequence]

/-- A pending action may be added to a message that is idle: it comes after all the
others, which have ended. -/
theorem Tidy.single_append (hs : s.Tidy) {m : Int} (hidle : s.Idle m) (kind : Action.Kind)
    (parameters : Action.Parameters) :
    ∀ a ∈ s.actions ++ [s.pendingRow now m kind parameters], a.isOpen = true →
      ∀ b ∈ s.actions ++ [s.pendingRow now m kind parameters],
        b.messageId = a.messageId → b = a ∨ (b.isEnded = true ∧ b.sequence < a.sequence) := by
  intro a ha hopen b hb hmessage
  rcases List.mem_append.1 ha with ha | ha
  · -- an action that was open belongs to another message than the new one
    have hother : a.messageId ≠ m := by
      intro h
      rw [hidle a ha h] at hopen
      cases hopen
    rcases List.mem_append.1 hb with hb | hb
    · exact hs.single a ha hopen b hb hmessage
    · rw [List.mem_singleton.1 hb] at hmessage
      exact absurd hmessage.symm hother
  · have hnew := List.mem_singleton.1 ha
    rcases List.mem_append.1 hb with hb | hb
    · have hm : b.messageId = m := by rw [hmessage, hnew]; rfl
      refine Or.inr ⟨ActionRow.isEnded_of_isSettled (hs.settled.actions b hb)
        (hidle b hb hm), ?_⟩
      have hle := sequence_le_lastSequence hb
      rw [hm] at hle
      rw [hnew]
      exact Int.lt_add_one_of_le hle
    · exact Or.inl ((List.mem_singleton.1 hb).trans hnew.symm)

/-- **What keeps a store tidy.** A call keeps it tidy, if it does not create an action
beside an open one. -/
theorem Change.tidy (h : s.Change now call s') (hs : s.Tidy)
    (hidle : ∀ m kind parameters, call = .createAction m kind parameters → s.Idle m) :
    s'.Tidy := by
  refine ⟨h.ordered hs.ordered, h.settled hs.settled, ?_⟩
  cases h with
  | nothing => exact hs.single
  | actions _ f hf => exact hs.single_map fun a => (hf a).becomes
  | messages => exact hs.single
  | conversations => exact hs.single
  | newConversation => exact hs.single
  | newMessage => exact hs.single
  | newAction m kind parameters _ => exact hs.single_append (hidle m kind parameters rfl) _ _

/-! ## What others leave alone -/

/-- What can be relied on about the messages of a conversation, as long as nobody
creates an action for one of them. -/
structure Quiet (conversation : Int) (s s' : Store) : Prop where
  /-- Its messages stay its own. -/
  owns : ∀ m, s.Owns conversation m → s'.Owns conversation m
  /-- Actions keep their messages. -/
  serves : ∀ i m, s.Serves i m → s'.Serves i m
  /-- Its idle messages stay idle. -/
  idle : ∀ m, s.Owns conversation m → s.Idle m → s'.Idle m

theorem Quiet.refl (c : Int) (s : Store) : Quiet c s s :=
  ⟨fun _ h => h, fun _ _ h => h, fun _ _ h => h⟩

theorem Quiet.trans {c : Int} (h : Quiet c s s') (h' : Quiet c s' s'') : Quiet c s s'' where
  owns := fun m hm => h'.owns m (h.owns m hm)
  serves := fun i m hi => h'.serves i m (h.serves i m hi)
  idle := fun m hm hidle => h'.idle m (h.owns m hm) (h.idle m hm hidle)

/-- An idle message stays idle, if no action is created for it. -/
theorem Change.idle (h : s.Change now call s') {m : Int}
    (hcreate : ∀ kind parameters, call ≠ .createAction m kind parameters) (hm : s.Idle m) :
    s'.Idle m := by
  cases h with
  | nothing => exact hm
  | actions _ f hf =>
      intro b hb hbm
      obtain ⟨a, ha, rfl⟩ := List.mem_map.1 hb
      rw [(hf a).becomes.messageId] at hbm
      -- an action that is open now was open before
      cases hopen : (f a).isOpen with
      | false => rfl
      | true =>
          have hbefore := (hf a).becomes.isOpen_of_isOpen hopen
          rw [hm a ha hbm] at hbefore
          cases hbefore
  | messages => exact hm
  | conversations => exact hm
  | newConversation => exact hm
  | newMessage => exact hm
  | newAction m' kind parameters _ =>
      intro b hb hbm
      rcases List.mem_append.1 hb with hb | hb
      · exact hm b hb hbm
      · rw [List.mem_singleton.1 hb] at hbm
        have heq : m' = m := hbm
        subst heq
        exact absurd rfl (hcreate kind parameters)

/-- Nobody disturbs a conversation who creates no action in it. -/
theorem Change.quiet (h : s.Change now call s') {c : Int}
    (hcreate : ∀ m kind parameters, call = .createAction m kind parameters → ¬ s.Owns c m) :
    Quiet c s s' where
  owns := fun _ hm => h.owns hm
  serves := fun _ _ hi => h.serves hi
  idle := by
    intro m hm hidle
    refine h.idle ?_ hidle
    intro kind parameters hcall
    exact hcreate m kind parameters hcall hm

/-! ## How a message becomes idle -/

/-- A message is idle when its open actions have been skipped. -/
theorem idle_of_skipped (hs : s.Ordered) {m : Int} {reason : String} {skipped : List Action}
    (h : (s.skipOpenActions now m reason).1 = .ok skipped) :
    (s.skipOpenActions now m reason).2.Idle m := by
  rw [skipOpenActions_store hs h]
  intro b hb hbm
  obtain ⟨a, _, rfl⟩ := List.mem_map.1 hb
  -- an open action of the message was skipped, every other one was not open
  by_cases hit : (a.messageId == m && a.isOpen) = true
  · rw [if_pos hit]
    exact forced_isOpen .skipped rfl a
  · rw [if_neg hit] at hbm ⊢
    rw [hbm, beq_self_eq_true, Bool.true_and] at hit
    exact Bool.eq_false_iff.2 hit

/-- A message is idle when it was recorded how its running action went. -/
theorem idle_of_completed (hs : s.Tidy) {i m : Int} (hi : s.Serves i m)
    {status : Action.Status} {e : Option String} {x : Option Int}
    (h : (s.completeAction now i status e x).1 = .ok true) :
    (s.completeAction now i status e x).2.Idle m := by
  unfold completeAction at h ⊢
  split
  next hstatus =>
    rw [if_pos hstatus] at h
    have hterminal : status.isTerminal = true := by
      rcases hstatus with rfl | rfl <;> rfl
    have hany : (s.actions.any fun a =>
        a.id == i && a.status == Action.Status.running.name) = true := Except.ok.inj h
    obtain ⟨r, hr, hhit⟩ := List.any_eq_true.1 hany
    obtain ⟨a, ha, hai, ham⟩ := hi
    have hrid : r.id = i := by simpa using (Bool.and_eq_true_iff.1 hhit).1
    have hrun : r.status = Action.Status.running.name := by
      simpa using (Bool.and_eq_true_iff.1 hhit).2
    -- the running action is the one that serves the message
    have hra : r = a := hs.ordered.actions.eq_of_id_eq hr ha (hrid.trans hai.symm)
    subst hra
    have hropen : r.isOpen = true := (ActionRow.isOpen_iff r).2 (Or.inr hrun)
    intro b' hb' hbm
    obtain ⟨b, hb, rfl⟩ := List.mem_map.1 hb'
    -- it has ended itself, or it is another action beside the one that was running
    by_cases hit : (b.id == i && b.status == Action.Status.running.name) = true
    · rw [if_pos hit]
      exact ActionRow.isOpen_eq_false_of_isEnded (ActionRow.isEnded_of_terminal hterminal rfl)
    · rw [if_neg hit] at hbm ⊢
      rcases hs.single r hr hropen b hb (hbm.trans ham.symm) with rfl | ⟨hend, _⟩
      · exact absurd hhit hit
      · exact ActionRow.isOpen_eq_false_of_isEnded hend
  next hstatus =>
    rw [if_neg hstatus] at h
    cases h

end Store

end ControlPlane
