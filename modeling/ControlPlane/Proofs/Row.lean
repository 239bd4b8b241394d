/-
What may become of a row.

A row is never taken away, and most of its fields are written once, when it is
added. What an operation may do to it afterwards is one relation for each table:
`ConversationRow.Becomes`, `MessageRow.Becomes` and `ActionRow.Becomes`. The three
are reflexive and transitive, so they say the same about one operation and about
any number of them.

An action is *open* (`ActionRow.isOpen`) while there is no result, and *ended*
(`ActionRow.isEnded`) afterwards. The two exclude each other, and the rows that
operations add and change are always one of the two; a row of any other origin may
carry a status that is neither.
-/
import ControlPlane.Store.Row

set_option autoImplicit false

namespace ControlPlane

/-! ## Actions -/

namespace ActionRow

/-- Whether there is a result, or the action was given up. -/
def isEnded (r : ActionRow) : Bool :=
  r.status == Action.Status.success.name || r.status == Action.Status.failed.name ||
    r.status == Action.Status.skipped.name

/-- Whether the status is one that there is. -/
def isSettled (r : ActionRow) : Bool := r.isOpen || r.isEnded

/-- What may become of an action: what it is stays, its status moves forward, and
after its end nothing moves any more. -/
structure Becomes (a b : ActionRow) : Prop where
  /-- Its number stays. -/
  id : b.id = a.id
  /-- It serves the same message. -/
  messageId : b.messageId = a.messageId
  /-- It stays of one kind. -/
  kind : b.kind = a.kind
  /-- Its place among the actions of the message stays. -/
  sequence : b.sequence = a.sequence
  /-- Its parameters stay. -/
  parameters : b.parameters = a.parameters
  /-- The time of its creation stays. -/
  createdAt : b.createdAt = a.createdAt
  /-- Its status stays, or goes from pending to running, or from open to ended. -/
  status : b.status = a.status ∨
    (a.status = Action.Status.pending.name ∧ b.status = Action.Status.running.name) ∨
    (a.isOpen = true ∧ b.isEnded = true)
  /-- When it has ended, the whole row stays. -/
  frozen : a.isEnded = true → b = a

theorem isOpen_iff (r : ActionRow) :
    r.isOpen = true ↔ r.status = Action.Status.pending.name ∨
      r.status = Action.Status.running.name := by
  simp only [isOpen, Bool.or_eq_true, beq_iff_eq]

theorem isEnded_iff (r : ActionRow) :
    r.isEnded = true ↔ ∃ st : Action.Status, st.isTerminal = true ∧ r.status = st.name := by
  simp only [isEnded, Bool.or_eq_true, beq_iff_eq]
  constructor
  · rintro ((h | h) | h)
    · exact ⟨.success, rfl, h⟩
    · exact ⟨.failed, rfl, h⟩
    · exact ⟨.skipped, rfl, h⟩
  · rintro ⟨st, hst, h⟩
    cases st with
    | pending => cases hst
    | running => cases hst
    | success => exact Or.inl (Or.inl h)
    | failed => exact Or.inl (Or.inr h)
    | skipped => exact Or.inr h

/-- A row with the name of a status in which an action ends has ended. -/
theorem isEnded_of_terminal {r : ActionRow} {st : Action.Status} (hst : st.isTerminal = true)
    (h : r.status = st.name) : r.isEnded = true :=
  (isEnded_iff r).2 ⟨st, hst, h⟩

/-- No action is open and ended. -/
theorem isOpen_eq_false_of_isEnded {r : ActionRow} (h : r.isEnded = true) :
    r.isOpen = false := by
  obtain ⟨st, hst, hname⟩ := (isEnded_iff r).1 h
  rw [isOpen, hname]
  cases st with
  | pending => cases hst
  | running => cases hst
  | success => rfl
  | failed => rfl
  | skipped => rfl

theorem isEnded_eq_false_of_isOpen {r : ActionRow} (h : r.isOpen = true) :
    r.isEnded = false := by
  cases hend : r.isEnded with
  | false => rfl
  | true => rw [isOpen_eq_false_of_isEnded hend] at h; cases h

/-- A settled action that is not open has ended. -/
theorem isEnded_of_isSettled {r : ActionRow} (hs : r.isSettled = true)
    (h : r.isOpen = false) : r.isEnded = true := by
  rwa [isSettled, h, Bool.false_or] at hs

namespace Becomes

theorem refl (a : ActionRow) : a.Becomes a :=
  ⟨rfl, rfl, rfl, rfl, rfl, rfl, Or.inl rfl, fun _ => rfl⟩

theorem trans {a b c : ActionRow} (h : a.Becomes b) (h' : b.Becomes c) : a.Becomes c where
  id := h'.id.trans h.id
  messageId := h'.messageId.trans h.messageId
  kind := h'.kind.trans h.kind
  sequence := h'.sequence.trans h.sequence
  parameters := h'.parameters.trans h.parameters
  createdAt := h'.createdAt.trans h.createdAt
  status := by
    rcases h.status with hsame | ⟨hpending, hrunning⟩ | ⟨hopen, hended⟩
    · rcases h'.status with hsame' | ⟨hpending', hrunning'⟩ | ⟨hopen', hended'⟩
      · exact Or.inl (hsame'.trans hsame)
      · exact Or.inr (Or.inl ⟨hsame ▸ hpending', hrunning'⟩)
      · refine Or.inr (Or.inr ⟨?_, hended'⟩)
        rw [isOpen_iff] at hopen' ⊢
        rwa [← hsame]
    · rcases h'.status with hsame' | ⟨hpending', _⟩ | ⟨_, hended'⟩
      · exact Or.inr (Or.inl ⟨hpending, hsame'.trans hrunning⟩)
      · -- nothing that is running was pending at the same time
        exact absurd (hrunning.symm.trans hpending') (by decide)
      · exact Or.inr (Or.inr ⟨(isOpen_iff a).2 (Or.inl hpending), hended'⟩)
    · -- what has ended in the first step stays in the second
      rw [h'.frozen hended]
      exact Or.inr (Or.inr ⟨hopen, hended⟩)
  frozen := by
    intro hend
    have hb : b = a := h.frozen hend
    rw [h'.frozen (hb ▸ hend), hb]

/-- An action that is open now has been open all along. -/
theorem isOpen_of_isOpen {a b : ActionRow} (h : a.Becomes b) (hb : b.isOpen = true) :
    a.isOpen = true := by
  rcases h.status with hsame | ⟨hpending, _⟩ | ⟨_, hended⟩
  · rw [isOpen_iff] at hb ⊢
    rwa [← hsame]
  · exact (isOpen_iff a).2 (Or.inl hpending)
  · rw [isEnded_eq_false_of_isOpen hb] at hended; cases hended

theorem isEnded_of_isEnded {a b : ActionRow} (h : a.Becomes b) (ha : a.isEnded = true) :
    b.isEnded = true := by
  rwa [h.frozen ha]

theorem isSettled {a b : ActionRow} (h : a.Becomes b) (ha : a.isSettled = true) :
    b.isSettled = true := by
  rcases h.status with hsame | ⟨_, hrunning⟩ | ⟨_, hended⟩
  · rw [ActionRow.isSettled, isOpen, isEnded, hsame]
    exact ha
  · rw [ActionRow.isSettled, (isOpen_iff b).2 (Or.inr hrunning), Bool.true_or]
  · rw [ActionRow.isSettled, hended, Bool.or_true]

end Becomes

end ActionRow

/-! ## Messages -/

namespace MessageRow

/-- What may become of a message: nothing but its counter of failures moves. -/
structure Becomes (a b : MessageRow) : Prop where
  /-- All of it but the counter stays. -/
  kept : b = { a with failures := b.failures }

namespace Becomes

theorem refl (a : MessageRow) : a.Becomes a := ⟨rfl⟩

theorem trans {a b c : MessageRow} (h : a.Becomes b) (h' : b.Becomes c) : a.Becomes c := by
  refine ⟨?_⟩
  calc c = { b with failures := c.failures } := h'.kept
    _ = { ({ a with failures := b.failures } : MessageRow) with failures := c.failures } := by
        rw [← h.kept]
    _ = { a with failures := c.failures } := rfl

theorem id {a b : MessageRow} (h : a.Becomes b) : b.id = a.id := by
  rw [h.kept]

theorem conversationId {a b : MessageRow} (h : a.Becomes b) :
    b.conversationId = a.conversationId := by
  rw [h.kept]

end Becomes

end MessageRow

/-! ## Conversations -/

namespace ConversationRow

/-- Whether the conversation is running. -/
def isRunning (r : ConversationRow) : Bool := r.state == Conversation.State.running.name

/-- Whether the conversation has come to an end. -/
def isEnded (r : ConversationRow) : Bool :=
  r.state == Conversation.State.finished.name || r.state == Conversation.State.error.name

/-- What may become of a conversation: whose it is and where it runs stays, and a
running one may come to an end. Its title and the time of its last change move
freely. -/
structure Becomes (a b : ConversationRow) : Prop where
  /-- Its number stays. -/
  id : b.id = a.id
  /-- It runs in the same browser. -/
  browserType : b.browserType = a.browserType
  /-- It belongs to the same user. -/
  userId : b.userId = a.userId
  /-- The time of its creation stays. -/
  createdAt : b.createdAt = a.createdAt
  /-- Its state stays, or goes from running to an end. -/
  state : b.state = a.state ∨ (a.isRunning = true ∧ b.isEnded = true)

theorem isRunning_eq_false_of_isEnded {r : ConversationRow} (h : r.isEnded = true) :
    r.isRunning = false := by
  simp only [isEnded, Bool.or_eq_true, beq_iff_eq] at h
  rcases h with h | h <;> rw [isRunning, h] <;> rfl

namespace Becomes

theorem refl (a : ConversationRow) : a.Becomes a := ⟨rfl, rfl, rfl, rfl, Or.inl rfl⟩

theorem trans {a b c : ConversationRow} (h : a.Becomes b) (h' : b.Becomes c) :
    a.Becomes c where
  id := h'.id.trans h.id
  browserType := h'.browserType.trans h.browserType
  userId := h'.userId.trans h.userId
  createdAt := h'.createdAt.trans h.createdAt
  state := by
    rcases h.state with hsame | ⟨hrunning, hended⟩
    · rcases h'.state with hsame' | ⟨hrunning', hended'⟩
      · exact Or.inl (hsame'.trans hsame)
      · refine Or.inr ⟨?_, hended'⟩
        rwa [isRunning, ← hsame]
    · rcases h'.state with hsame' | ⟨hrunning', _⟩
      · refine Or.inr ⟨hrunning, ?_⟩
        rwa [isEnded, hsame']
      · rw [isRunning_eq_false_of_isEnded hended] at hrunning'; cases hrunning'

/-- A conversation that has come to an end keeps its state. -/
theorem state_of_isEnded {a b : ConversationRow} (h : a.Becomes b) (ha : a.isEnded = true) :
    b.state = a.state := by
  rcases h.state with hsame | ⟨hrunning, _⟩
  · exact hsame
  · rw [isRunning_eq_false_of_isEnded ha] at hrunning; cases hrunning

end Becomes

end ConversationRow

end ControlPlane
