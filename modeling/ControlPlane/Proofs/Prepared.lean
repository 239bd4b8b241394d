/-
What comes before a decision.

Before the coordinator asks for a decision it may add a message, skip the open actions of a
message, or record how an action went. What all this makes of a store is said once
(`Store.Prepared`): conversations stay, messages are only added, and only to the conversation
of the frame, and only actions of its messages change. When a decision is asked for, the
conversation is running and the message is its own (`Store.Attends`).

After a decision an action is added and handed out. The last section is about a store with
such an action at its end (`Store.added`).
-/
import ControlPlane.Proofs.ConversationState
import ControlPlane.Proofs.Readable
import ControlPlane.Proofs.Regular

set_option autoImplicit false

namespace ControlPlane

namespace Store

variable {s s' s'' : Store} {c : Int} {now : Instant}

/-! ## Before a decision -/

/-- What may become of a store for a frame of a conversation, before there is a decision. -/
structure Prepared (c : Int) (s s' : Store) : Prop where
  /-- All conversations stay. -/
  conversations : s'.conversations = s.conversations
  /-- Messages are added to the conversation. -/
  messages : ∃ new : List MessageRow, s'.messages = s.messages ++ new ∧
    ∀ r ∈ new, r.conversationId = c ∧ r.failures = 0
  /-- Actions of its messages change in place. -/
  actions : ∃ f : ActionRow → ActionRow, s'.actions = s.actions.map f ∧
    (∀ a : ActionRow, a.Becomes (f a)) ∧
    ∀ a ∈ s.actions, f a = a ∨ s'.Owns c a.messageId

/-- Nothing has been done. -/
theorem Prepared.refl (c : Int) (s : Store) : Prepared c s s where
  conversations := rfl
  messages := ⟨[], (List.append_nil _).symm, fun _ h => absurd h List.not_mem_nil⟩
  actions := ⟨fun a => a, (List.map_id' _).symm, ActionRow.Becomes.refl, fun _ _ => Or.inl rfl⟩

/-- A preparation takes no message from its conversation. -/
theorem Prepared.owns (h : Prepared c s s') {c' m : Int} (hm : s.Owns c' m) : s'.Owns c' m := by
  obtain ⟨r, hr, hid, hc⟩ := hm
  obtain ⟨new, hnew, _⟩ := h.messages
  exact ⟨r, hnew ▸ List.mem_append_left new hr, hid, hc⟩

/-- Two preparations after one another are one. -/
theorem Prepared.trans (h : Prepared c s s') (h' : Prepared c s' s'') : Prepared c s s'' where
  conversations := h'.conversations.trans h.conversations
  messages := by
    obtain ⟨new, hnew, hown⟩ := h.messages
    obtain ⟨new', hnew', hown'⟩ := h'.messages
    refine ⟨new ++ new', ?_, List.forall_mem_append.2 ⟨hown, hown'⟩⟩
    rw [hnew', hnew, List.append_assoc]
  actions := by
    obtain ⟨f, hf, hbecomes, hown⟩ := h.actions
    obtain ⟨f', hf', hbecomes', hown'⟩ := h'.actions
    refine ⟨fun a => f' (f a), ?_, fun a => (hbecomes a).trans (hbecomes' (f a)), ?_⟩
    · rw [hf', hf, List.map_map]
      rfl
    · intro a ha
      -- a row that neither of the two touches stays
      rcases hown a ha with hstays | hmine
      · have hfa : f a ∈ s'.actions := hf ▸ List.mem_map_of_mem ha
        rcases hown' (f a) hfa with hstays' | hmine'
        · exact Or.inl (hstays'.trans hstays)
        · rw [(hbecomes a).messageId] at hmine'
          exact Or.inr hmine'
      · exact Or.inr (h'.owns hmine)

/-- The actions of a message are as many as before. -/
theorem Prepared.servants_length (h : Prepared c s s') (m : Int) :
    (s'.servants m).length = (s.servants m).length := by
  obtain ⟨f, hf, hbecomes, _⟩ := h.actions
  have hmap := congrArg List.length (servants_map (s := s) hbecomes m)
  rw [List.length_map] at hmap
  rw [← hmap, servants, servants, hf]

/-- To add a message to the conversation is a preparation. -/
theorem prepared_createMessage (s : Store) (now : Instant) (c : Int) (role : Message.Role)
    (content : String) : Prepared c s (s.createMessage now c role content).2 := by
  unfold createMessage
  split
  · refine ⟨rfl, ⟨[s.messageRow now c role content], rfl, ?_⟩, (Prepared.refl c s).actions.imp ?_⟩
    · intro r hr
      rw [List.mem_singleton.1 hr]
      exact ⟨rfl, rfl⟩
    · rintro f ⟨hf, hbecomes, hown⟩
      refine ⟨hf, hbecomes, fun a ha => (hown a ha).imp_right ?_⟩
      rintro ⟨r, hr, hid⟩
      exact ⟨r, List.mem_append_left _ hr, hid⟩
  · exact Prepared.refl c s

/-- Actions of one message of the conversation change in place. -/
theorem prepared_actions {m : Int} (hm : s.Owns c m) {f : ActionRow → ActionRow}
    (hbecomes : ∀ a : ActionRow, a.Becomes (f a))
    (hserves : ∀ a ∈ s.actions, f a = a ∨ a.messageId = m) :
    Prepared c s { s with actions := s.actions.map f } where
  conversations := rfl
  messages := (Prepared.refl c s).messages
  actions := by
    refine ⟨f, rfl, hbecomes, fun a ha => (hserves a ha).imp_right ?_⟩
    rintro rfl
    exact hm

/-- To skip the open actions of its message is one. -/
theorem prepared_skipOpenActions (hs : s.Ordered) {m : Int} (hm : s.Owns c m)
    (reason : String) : Prepared c s (s.skipOpenActions now m reason).2 := by
  obtain ⟨f, hf, hstore⟩ := skipEach_change now reason (s.openIds m) s
  have hskip : (s.skipOpenActions now m reason).2 = { s with actions := s.actions.map f } := hstore
  rw [hskip]
  refine prepared_actions hm ?_ ?_
  · intro a
    rcases hf a with hstays | ⟨hopen, _, hforced⟩
    · rw [hstays]
      exact ActionRow.Becomes.refl a
    · rw [hforced]
      exact ActionRow.becomes_forced hopen rfl now reason
  · intro a ha
    refine (hf a).imp_right ?_
    rintro ⟨_, hid, _⟩
    obtain ⟨b, hb, hserves, _, hba⟩ := mem_openIds.1 hid
    -- the row with this number is the row itself
    rw [← hs.actions.eq_of_id_eq hb ha hba]
    exact hserves

/-- To complete an action of its message is one. -/
theorem prepared_completeAction (hs : s.Ordered) {i m : Int} (hi : s.Serves i m)
    (hm : s.Owns c m) (status : Action.Status) (e : Option String) (x : Option Int) :
    Prepared c s (s.completeAction now i status e x).2 := by
  unfold completeAction
  split
  next hstatus =>
    refine prepared_actions hm (becomes_ite ActionRow.Becomes.refl ?_) ?_
    · intro a hhit
      have hrunning : a.status = Action.Status.running.name :=
        beq_iff_eq.1 (Bool.and_eq_true_iff.1 hhit).2
      have hterminal : status.isTerminal = true := by
        rcases hstatus with rfl | rfl <;> rfl
      exact ActionRow.becomes_ended ((ActionRow.isOpen_iff a).2 (Or.inr hrunning)) hterminal _ _ _
    · intro a ha
      by_cases hhit : (a.id == i && a.status == Action.Status.running.name) = true
      · obtain ⟨b, hb, hid, hserves⟩ := hi
        have hab : b = a := hs.actions.eq_of_id_eq hb ha
          (hid.trans (beq_iff_eq.1 (Bool.and_eq_true_iff.1 hhit).1).symm)
        exact Or.inr (hab ▸ hserves)
      · exact Or.inl (if_neg hhit)
  next => exact Prepared.refl c s

/-- To count a failure changes no conversation. -/
theorem recordFailure_conversations (s : Store) (m : Int) :
    (s.recordFailure m).2.conversations = s.conversations := by
  unfold recordFailure
  split
  · rfl
  · rfl

/-- Nor does it change an action. -/
theorem recordFailure_actions (s : Store) (m : Int) :
    (s.recordFailure m).2.actions = s.actions := by
  unfold recordFailure
  split
  · rfl
  · rfl

/-- The end of a conversation changes no action. -/
theorem endConversation_actions (s : Store) (now : Instant) (c : Int)
    (st : Conversation.State) : (s.endConversation now c st).2.actions = s.actions := by
  unfold endConversation
  split
  · rfl
  · rfl

/-- Nor does it change a message. -/
theorem endConversation_messages (s : Store) (now : Instant) (c : Int)
    (st : Conversation.State) : (s.endConversation now c st).2.messages = s.messages := by
  unfold endConversation
  split
  · rfl
  · rfl

/-- All is ready for a decision about a message. -/
structure Attends (c : Int) (s : Store) (m : Int) (s' : Store) : Prop where
  /-- What came before was a preparation. -/
  prepared : Prepared c s s'
  /-- The conversation is running. -/
  running : s'.isRunning c = true
  /-- The message is one of its own. -/
  owns : s'.Owns c m
  /-- The store is one that calls have made. -/
  regular : s'.Regular

/-- A conversation of which all is ready stays so while preparations go on. -/
theorem attends_perform {m : Int} (now : Instant) (call : Call) (hs' : s'.Regular)
    (hp : Prepared c s (s'.perform now call).2) (hrunning : s'.isRunning c = true)
    (hfounds : ¬ call.Founds) (hends : ¬ call.Ends c) (howns : (s'.perform now call).2.Owns c m) :
    Attends c s m (s'.perform now call).2 := by
  have hchange := s'.perform_change now call
  refine ⟨hp, ?_, howns, hchange.regular hs'⟩
  rw [isRunning_iff, hchange.stateOf hfounds fun hboth => hends hboth.1]
  exact isRunning_iff.1 hrunning

/-! ## An action that is added -/

/-- The store with one more action, which has the next number. -/
def added (s : Store) (row : ActionRow) : Store :=
  { s with actions := s.actions ++ [row], lastAction := s.lastAction + 1 }

/-- Where no row is to be changed, none is. -/
theorem modify_of_forall_not {ρ : Type} {p : ρ → Bool} {f : ρ → ρ} {rows : List ρ}
    (h : ∀ r ∈ rows, p r = false) : modify p f rows = rows := by
  rw [modify, List.map_congr_left (g := id), List.map_id]
  intro r hr
  rw [h r hr]
  rfl

/-- The next number is not given out yet. -/
theorem Ordered.id_ne_next (hs : s.Ordered) {a : ActionRow} (ha : a ∈ s.actions) :
    a.id ≠ s.lastAction + 1 := by
  have hbounded := hs.actions.bounded a ha
  omega

/-- The action that was added is found under its number. -/
theorem action?_added (hs : s.Ordered) {row : ActionRow} (hid : row.id = s.lastAction + 1) :
    (s.added row).action? row.id = some row := by
  have hnone : s.actions.find? (·.id == row.id) = none := by
    rw [List.find?_eq_none]
    intro a ha
    rw [beq_iff_eq, hid]
    exact hs.id_ne_next ha
  rw [action?, added, List.find?_append, hnone, Option.none_or, List.find?_singleton,
    beq_self_eq_true, if_pos rfl]

/-- A message that a conversation owns is there. -/
theorem Owns.message? {m : Int} (h : s.Owns c m) : (s.message? m).isSome = true := by
  obtain ⟨r, hr, hid, _⟩ := h
  exact List.find?_isSome.2 ⟨r, hr, beq_iff_eq.2 hid⟩

/-- An action of a message that is there is added, and then looked up. -/
theorem createAction_added {m : Int} (hm : s.Owns c m) (now : Instant) (kind : Action.Kind)
    (parameters : Action.Parameters) :
    s.createAction now m kind parameters =
      (present .action (s.pendingRow now m kind parameters).id
          ((s.added (s.pendingRow now m kind parameters)).getAction
            (s.pendingRow now m kind parameters).id),
        s.added (s.pendingRow now m kind parameters)) := by
  rw [createAction, if_pos hm.message?]
  rfl

/-- An action that was added is handed out, and nothing else. -/
theorem startAction_added (hs : s.Ordered) {row : ActionRow} (hid : row.id = s.lastAction + 1)
    (hpending : row.status = Action.Status.pending.name) (now : Instant) :
    (s.added row).startAction now row.id =
      (.ok true, s.added
        { row with
          status := Action.Status.running.name, startedAt := some now.storedText }) := by
  have hmiss : ∀ a ∈ s.actions,
      (a.id == row.id && a.status == Action.Status.pending.name) = false := by
    intro a ha
    rw [beq_eq_false_iff_ne.2 (hid ▸ hs.id_ne_next ha), Bool.false_and]
  have hhit : (row.id == row.id && row.status == Action.Status.pending.name) = true := by
    rw [beq_self_eq_true, hpending, beq_self_eq_true, Bool.and_self]
  have hany : ((s.added row).actions.any fun a =>
      a.id == row.id && a.status == Action.Status.pending.name) = true :=
    List.any_eq_true.2 ⟨row, List.mem_append_right _ (List.mem_singleton.2 rfl), hhit⟩
  rw [startAction, hany]
  simp only [added, modify, List.map_append, List.map_singleton, if_pos hhit]
  rw [← modify, modify_of_forall_not hmiss]

/-- An action that was added is read, if it can be read at all. -/
theorem getAction_added (hs : s.Ordered) {row : ActionRow} (hid : row.id = s.lastAction + 1)
    (hrow : row.Readable) : ∃ v, (s.added row).getAction row.id = .ok (some v) := by
  obtain ⟨v, hv⟩ := hrow.read
  exact ⟨v, by rw [getAction, action?_added hs hid, answer?, hv]; rfl⟩

end Store

end ControlPlane
