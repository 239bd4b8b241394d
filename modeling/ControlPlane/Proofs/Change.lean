/-
What one call does to the store.

Of the calls some only read, some change rows of one table in place, and three add
a row at the end of one. `Store.Change` has one constructor for each of these, and
`perform_change` is the only place where all calls are taken apart: what holds of
every change is derived from it by cases. A change in place is a map over the rows
of a table that takes each row to something it may become.
-/
import ControlPlane.Proofs.Row
import ControlPlane.Proofs.Table
import ControlPlane.Store.Call

set_option autoImplicit false

namespace ControlPlane

/-! ## Single rows -/

namespace ActionRow

/-- A pending action may be handed out. -/
theorem becomes_started {a : ActionRow} (h : a.status = Action.Status.pending.name)
    (t : Option String) :
    a.Becomes { a with status := Action.Status.running.name, startedAt := t } where
  id := rfl
  messageId := rfl
  kind := rfl
  sequence := rfl
  parameters := rfl
  createdAt := rfl
  status := Or.inr (Or.inl ⟨h, rfl⟩)
  frozen := by
    intro hend
    rw [isEnded_eq_false_of_isOpen ((isOpen_iff a).2 (Or.inl h))] at hend
    cases hend

/-- An open action may come to an end. -/
theorem becomes_ended {a : ActionRow} (h : a.isOpen = true) {st : Action.Status}
    (hst : st.isTerminal = true) (e : Option String) (x : Option Int) (t : Option String) :
    a.Becomes
      { a with status := st.name, errorMessage := e, executionTime := x, finishedAt := t } where
  id := rfl
  messageId := rfl
  kind := rfl
  sequence := rfl
  parameters := rfl
  createdAt := rfl
  status := Or.inr (Or.inr ⟨h, isEnded_of_terminal hst rfl⟩)
  frozen := by
    intro hend
    rw [isEnded_eq_false_of_isOpen h] at hend
    cases hend

/-- An open action that is forced to an end has come to an end. -/
theorem becomes_forced {a : ActionRow} (h : a.isOpen = true) {st : Action.Status}
    (hst : st.isTerminal = true) (now : Instant) (reason : String) :
    a.Becomes (Store.forced now st reason a) :=
  becomes_ended h hst (some reason) a.executionTime (some now.storedText)

/-- What one call at a time makes of an action. -/
inductive Moves (now : Instant) (a : ActionRow) : ActionRow → Prop where
  /-- It stays as it is. -/
  | stays : Moves now a a
  /-- It was pending and is handed out. -/
  | starts (h : a.status = Action.Status.pending.name) :
      Moves now a
        { a with status := Action.Status.running.name, startedAt := some now.storedText }
  /-- It was running and has succeeded or failed. -/
  | completes (h : a.status = Action.Status.running.name) (st : Action.Status)
      (hst : st = .success ∨ st = .failed) (e : Option String) (x : Option Int) :
      Moves now a
        { a with
          status := st.name, errorMessage := e, executionTime := x,
          finishedAt := some now.storedText }
  /-- It was open and is ended from outside. -/
  | ends (h : a.isOpen = true) (st : Action.Status) (hst : st.isTerminal = true)
      (reason : String) : Moves now a (Store.forced now st reason a)

/-- What one call makes of an action is what may become of it. -/
theorem Moves.becomes {now : Instant} {a b : ActionRow} (h : a.Moves now b) : a.Becomes b := by
  cases h with
  | stays => exact Becomes.refl a
  | starts h => exact becomes_started h _
  | completes h st hst e x =>
      have hterminal : st.isTerminal = true := by
        rcases hst with rfl | rfl <;> rfl
      exact becomes_ended ((isOpen_iff a).2 (Or.inr h)) hterminal e x _
  | ends h st hst reason => exact becomes_forced h hst now reason

end ActionRow

namespace ConversationRow

/-- What one call makes of a conversation. -/
inductive Moves (c : Store.Call) (r : ConversationRow) : ConversationRow → Prop where
  /-- It stays as it is. -/
  | stays : Moves c r r
  /-- It gets another title. -/
  | renames (title t : String) : Moves c r { r with title := title, updatedAt := t }
  /-- It was running and comes to the end that the call is for. -/
  | ends (st : Conversation.State) (hst : st.isTerminal = true)
      (hc : c = .endConversation r.id st) (h : r.isRunning = true) (t : String) :
      Moves c r { r with state := st.name, updatedAt := t }

/-- A row with the name of a state in which a conversation ends has ended. -/
theorem isEnded_of_terminal {r : ConversationRow} {st : Conversation.State}
    (hst : st.isTerminal = true) (h : r.state = st.name) : r.isEnded = true := by
  rw [isEnded, h]
  cases st with
  | running => cases hst
  | finished => rfl
  | error => rfl

/-- What one call makes of a conversation is what may become of it. -/
theorem Moves.becomes {c : Store.Call} {a b : ConversationRow} (h : a.Moves c b) :
    a.Becomes b := by
  cases h with
  | stays => exact Becomes.refl a
  | renames title t => exact ⟨rfl, rfl, rfl, rfl, Or.inl rfl⟩
  | ends st hst _ h t =>
      exact ⟨rfl, rfl, rfl, rfl, Or.inr ⟨h, isEnded_of_terminal hst rfl⟩⟩

end ConversationRow

namespace Store

/-- A change of the rows for which something holds is a change of every row. -/
theorem becomes_ite {ρ : Type} {R : ρ → ρ → Prop} (hrefl : ∀ r, R r r) {p : ρ → Bool}
    {f : ρ → ρ} (h : ∀ r, p r = true → R r (f r)) (r : ρ) :
    R r (if p r then f r else r) := by
  by_cases hp : p r = true
  · rw [if_pos hp]
    exact h r hp
  · rw [if_neg hp]
    exact hrefl r

/-- Skipping actions one after the other is one change of the actions in place: what
was skipped is not open any more, so it is not skipped again. -/
theorem skipEach_change (now : Instant) (reason : String) (ids : List Int) (s : Store) :
    ∃ f : ActionRow → ActionRow,
      (∀ a : ActionRow,
        f a = a ∨ (a.isOpen = true ∧ a.id ∈ ids ∧ f a = forced now .skipped reason a)) ∧
      (skipEach now reason ids s).2 = { s with actions := s.actions.map f } := by
  -- on the numbers: the change of the first one, and after it the change of the others
  induction ids generalizing s with
  | nil =>
      refine ⟨fun a => a, fun a => Or.inl rfl, ?_⟩
      rw [List.map_id' s.actions]
      rfl
  | cons id rest ih =>
      have hone : ∀ a : ActionRow,
          (if (a.id == id && a.isOpen) then forced now .skipped reason a else a) = a ∨
            (a.isOpen = true ∧ a.id ∈ id :: rest ∧
              (if (a.id == id && a.isOpen) then forced now .skipped reason a else a) =
                forced now .skipped reason a) := by
        intro a
        by_cases ha : (a.id == id && a.isOpen) = true
        · obtain ⟨hid, hopen⟩ := Bool.and_eq_true_iff.1 ha
          rw [if_pos ha]
          exact Or.inr ⟨hopen, List.mem_cons.2 (Or.inl (beq_iff_eq.1 hid)), rfl⟩
        · rw [if_neg ha]
          exact Or.inl rfl
      simp only [skipEach]
      split
      · exact ⟨_, hone, rfl⟩
      · obtain ⟨f, hf, hs⟩ := ih
          { s with actions := modify (fun a => a.id == id && a.isOpen)
                                (forced now .skipped reason) s.actions }
        refine ⟨fun a => f (if (a.id == id && a.isOpen) then forced now .skipped reason a else a),
          ?_, ?_⟩
        · intro a
          -- a row that the first number has ended is not open, so the others leave it alone
          rcases hone a with hsame | ⟨hopen, hid, hforced⟩
          · simp only [hsame]
            exact (hf a).imp_right fun ⟨hopen, hid, hforced⟩ =>
              ⟨hopen, List.mem_cons_of_mem _ hid, hforced⟩
          · simp only [hforced]
            rcases hf (forced now .skipped reason a) with hstays | ⟨hagain, _⟩
            · exact Or.inr ⟨hopen, hid, hstays⟩
            · have hended : (forced now .skipped reason a).isEnded = true :=
                (ActionRow.isEnded_iff _).2 ⟨.skipped, rfl, rfl⟩
              rw [ActionRow.isOpen_eq_false_of_isEnded hended] at hagain
              cases hagain
        · have hmaps : (s.actions.map fun a =>
                f (if (a.id == id && a.isOpen) then forced now .skipped reason a else a)) =
              (modify (fun a => a.id == id && a.isOpen) (forced now .skipped reason)
                s.actions).map f := by
            rw [modify, List.map_map]
            rfl
          rw [hmaps]
          split
          next hrest => rw [hrest] at hs; exact hs
          next hrest => rw [hrest] at hs; exact hs

/-! ## The store -/

/-- The call counts a failed round of a message, or starts the count over. -/
def Call.Counts : Call → Prop
  | .recordFailure _ => True
  | .resetFailures _ => True
  | _ => False

/-- The row of a conversation that is added. -/
def runningRow (s : Store) (now : Instant) (title browserType : String)
    (userId : Option Int) : ConversationRow :=
  ⟨s.lastConversation + 1, title, Conversation.State.running.name, browserType, userId,
    now.storedText, now.storedText⟩

/-- The row of a message that is added. -/
def messageRow (s : Store) (now : Instant) (conversationId : Int) (role : Message.Role)
    (content : String) : MessageRow :=
  ⟨s.lastMessage + 1, conversationId, role.name, content, 0, now.storedText⟩

/-- The row of an action that is added. -/
def pendingRow (s : Store) (now : Instant) (messageId : Int) (kind : Action.Kind)
    (parameters : Action.Parameters) : ActionRow :=
  ⟨s.lastAction + 1, messageId, kind.name, s.lastSequence messageId + 1,
    Action.Status.pending.name, parameters, none, none, now.storedText, none, none⟩

/-- What a call at a time may make of a store. -/
inductive Change (s : Store) (now : Instant) : Call → Store → Prop where
  /-- The store stays. -/
  | nothing (c : Call) : Change s now c s
  /-- Actions change in place. -/
  | actions (c : Call) (f : ActionRow → ActionRow) (hf : ∀ a : ActionRow, a.Moves now (f a)) :
      Change s now c { s with actions := s.actions.map f }
  /-- Messages change in place. -/
  | messages (c : Call) (f : MessageRow → MessageRow) (hf : ∀ m : MessageRow, m.Becomes (f m))
      (hc : c.Counts) :
      Change s now c { s with messages := s.messages.map f }
  /-- Conversations change in place. -/
  | conversations (c : Call) (f : ConversationRow → ConversationRow)
      (hf : ∀ r : ConversationRow, r.Moves c (f r)) :
      Change s now c { s with conversations := s.conversations.map f }
  /-- A conversation is added. -/
  | newConversation (title browserType : String) (userId : Option Int) :
      Change s now (.createConversation title browserType userId)
        { s with
          conversations := s.conversations ++ [s.runningRow now title browserType userId]
          lastConversation := s.lastConversation + 1 }
  /-- A message is added to a conversation that is there. -/
  | newMessage (conversationId : Int) (role : Message.Role) (content : String)
      (h : (s.conversation? conversationId).isSome = true) :
      Change s now (.createMessage conversationId role content)
        { s with
          messages := s.messages ++ [s.messageRow now conversationId role content]
          lastMessage := s.lastMessage + 1 }
  /-- An action is added to a message that is there. -/
  | newAction (messageId : Int) (kind : Action.Kind) (parameters : Action.Parameters)
      (h : (s.message? messageId).isSome = true) :
      Change s now (.createAction messageId kind parameters)
        { s with
          actions := s.actions ++ [s.pendingRow now messageId kind parameters]
          lastAction := s.lastAction + 1 }

/-- Changing rows in place is a change of the conversations. -/
theorem change_modify_conversations (s : Store) (now : Instant) (c : Call)
    {p : ConversationRow → Bool} {f : ConversationRow → ConversationRow}
    (h : ∀ r, p r = true → r.Moves c (f r)) :
    s.Change now c { s with conversations := modify p f s.conversations } :=
  .conversations c _ (becomes_ite (fun _ => .stays) h)

/-- To count for messages in place is a change. -/
theorem change_modify_messages (s : Store) (now : Instant) (c : Call)
    {p : MessageRow → Bool} {f : MessageRow → MessageRow}
    (h : ∀ m, p m = true → m.Becomes (f m)) (hc : c.Counts) :
    s.Change now c { s with messages := modify p f s.messages } :=
  .messages c _ (becomes_ite MessageRow.Becomes.refl h) hc

/-- To move actions in place is a change. -/
theorem change_modify_actions (s : Store) (now : Instant) (c : Call)
    {p : ActionRow → Bool} {f : ActionRow → ActionRow}
    (h : ∀ a, p a = true → a.Moves now (f a)) :
    s.Change now c { s with actions := modify p f s.actions } :=
  .actions c _ (becomes_ite (fun _ => .stays) h)

/-- A running conversation may come to an end. -/
theorem change_endConversation (s : Store) (now : Instant) (id : Int)
    (state : Conversation.State) :
    s.Change now (.endConversation id state) (s.endConversation now id state).2 := by
  unfold endConversation
  split
  next hstate =>
    refine change_modify_conversations s now _ ?_
    intro r hr
    obtain ⟨hid, hrunning⟩ := Bool.and_eq_true_iff.1 hr
    exact .ends state hstate (by rw [beq_iff_eq.1 hid]) hrunning _
  next => exact .nothing _

/-- A running action may succeed or fail. -/
theorem change_completeAction (s : Store) (now : Instant) (id : Int) (status : Action.Status)
    (e : Option String) (x : Option Int) :
    s.Change now (.completeAction id status e x) (s.completeAction now id status e x).2 := by
  unfold completeAction
  split
  next hstatus =>
    refine change_modify_actions s now _ ?_
    intro a ha
    have hrunning : a.status = Action.Status.running.name := by
      simpa only [Bool.and_eq_true, beq_iff_eq] using (Bool.and_eq_true_iff.1 ha).2
    exact .completes hrunning status hstatus e x
  next => exact .nothing _

/-- An open action may be ended from outside. -/
theorem change_forceAction (s : Store) (now : Instant) (id : Int) (status : Action.Status)
    (reason : String) :
    s.Change now (.forceAction id status reason) (s.forceAction now id status reason).2 := by
  unfold forceAction
  split
  next hstatus =>
    refine change_modify_actions s now _ ?_
    intro a ha
    exact .ends (Bool.and_eq_true_iff.1 ha).2 status hstatus reason
  next => exact .nothing _

/-- **What a call does.** Every call, at every time and with every argument, makes
one of the changes of the list. -/
theorem perform_change (s : Store) (now : Instant) (c : Call) :
    s.Change now c (s.perform now c).2 := by
  cases c with
  | createConversation title browserType userId => exact .newConversation title browserType userId
  | renameConversation id title =>
      refine change_modify_conversations s now _ ?_
      intro r _
      exact .renames title _
  | endConversation id state => exact change_endConversation s now id state
  | createMessage conversationId role content =>
      simp only [perform, createMessage]
      split
      next h => exact .newMessage conversationId role content h
      next => exact .nothing _
  | recordFailure messageId =>
      simp only [perform, recordFailure]
      split
      next => exact .nothing _
      next =>
        refine change_modify_messages s now _ ?_ trivial
        intro m _
        exact ⟨rfl⟩
  | resetFailures messageId =>
      refine change_modify_messages s now _ ?_ trivial
      intro m _
      exact ⟨rfl⟩
  | createAction messageId kind parameters =>
      simp only [perform, createAction]
      split
      next h => exact .newAction messageId kind parameters h
      next => exact .nothing _
  | startAction id =>
      refine change_modify_actions s now _ ?_
      intro a ha
      exact .starts (by simpa using (Bool.and_eq_true_iff.1 ha).2)
  | completeAction id status e x => exact change_completeAction s now id status e x
  | forceAction id status reason => exact change_forceAction s now id status reason
  | skipOpenActions messageId reason =>
      obtain ⟨f, hf, hs⟩ := skipEach_change now reason
        (((s.actionsOf messageId).filter (·.isOpen)).map (·.id)) s
      have hperform : (s.perform now (.skipOpenActions messageId reason)).2 =
          { s with actions := s.actions.map f } := hs
      rw [hperform]
      refine .actions _ f ?_
      intro a
      rcases hf a with hsame | ⟨hopen, _, hforced⟩
      · rw [hsame]
        exact .stays
      · rw [hforced]
        exact .ends hopen .skipped rfl reason
  | getConversation id => exact .nothing _
  | listConversations userId limit offset => exact .nothing _
  | getMessage id => exact .nothing _
  | listMessages conversationId => exact .nothing _
  | failures messageId => exact .nothing _
  | getAction id => exact .nothing _
  | listActions messageId => exact .nothing _
  | staleActions cutoff => exact .nothing _
  | staleMessages cutoff => exact .nothing _
  | stats => exact .nothing _
  | countMessages window => exact .nothing _
  | countActions window status => exact .nothing _
  | dailyActivity userId first days => exact .nothing _

end Store

end ControlPlane
