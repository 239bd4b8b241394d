/-
Conversations are isolated.

The numbers in a frame are the client's choice, and it may name messages and actions of any
conversation. Still the answer to a frame of one conversation leaves everything else as it
is: the other conversations, their messages with the counts of failures, and the actions of
their messages (`Store.Isolates`). What it adds belongs to its own conversation.

Every way to answer a frame is made of a preparation and of writes about one message of the
conversation; each of these isolates, and what isolates may follow each other.
-/
import ControlPlane.Proofs.Handling

set_option autoImplicit false

namespace ControlPlane

namespace Store

variable {s s' s'' : Store} {c : Int} {now : Instant}

/-- A change in place of rows that a filter leaves out is not seen behind the filter. -/
theorem filter_map_eq {ρ : Type} {f : ρ → ρ} {q q' : ρ → Bool} {rows : List ρ}
    (h : ∀ r ∈ rows, (q r = false ∧ q' (f r) = false) ∨ (f r = r ∧ q' r = q r)) :
    (rows.map f).filter q' = rows.filter q := by
  induction rows with
  | nil => rfl
  | cons r rest ih =>
      have htail := ih fun x hx => h x (List.mem_cons_of_mem r hx)
      rw [List.map_cons, List.filter_cons, List.filter_cons, htail]
      rcases h r List.mem_cons_self with ⟨hq, hq'⟩ | ⟨hstays, hsame⟩
      · rw [hq, hq', if_neg Bool.false_ne_true, if_neg Bool.false_ne_true]
      · rw [hstays, hsame]

/-- Where only rows are changed that a filter leaves out before and after, it finds the same. -/
theorem filter_modify {ρ : Type} {p q : ρ → Bool} {f : ρ → ρ} {rows : List ρ}
    (h : ∀ r ∈ rows, p r = true → q r = false ∧ q (f r) = false) :
    (modify p f rows).filter q = rows.filter q := by
  refine filter_map_eq ?_
  intro r hr
  by_cases hp : p r = true
  · rw [if_pos hp]
    exact Or.inl (h r hr hp)
  · rw [if_neg hp]
    exact Or.inr ⟨rfl, rfl⟩

/-- New rows that a filter leaves out are not found. -/
theorem filter_append_false {ρ : Type} {q : ρ → Bool} {rows new : List ρ}
    (h : ∀ r ∈ new, q r = false) : (rows ++ new).filter q = rows.filter q := by
  have hnone : new.filter q = [] := by
    rw [List.filter_eq_nil_iff]
    intro r hr
    rw [h r hr]
    exact Bool.false_ne_true
  rw [List.filter_append, hnone, List.append_nil]

/-! ## What does not belong to a conversation -/

/-- The other conversations. -/
def otherConversations (s : Store) (c : Int) : List ConversationRow :=
  s.conversations.filter fun r => r.id != c

/-- The messages that belong to other conversations. -/
def otherMessages (s : Store) (c : Int) : List MessageRow :=
  s.messages.filter fun r => r.conversationId != c

/-- The actions whose message does not belong to the conversation. -/
def otherActions (s : Store) (c : Int) : List ActionRow :=
  s.actions.filter fun a => !decide (s.Owns c a.messageId)

/-- What does not belong to a conversation is the same in two stores, row by row. -/
structure Isolates (c : Int) (s s' : Store) : Prop where
  /-- The other conversations are the same. -/
  conversations : s'.otherConversations c = s.otherConversations c
  /-- Their messages are. -/
  messages : s'.otherMessages c = s.otherMessages c
  /-- And the actions of their messages are. -/
  actions : s'.otherActions c = s.otherActions c

/-- Nothing has changed. -/
theorem Isolates.refl (c : Int) (s : Store) : Isolates c s s := ⟨rfl, rfl, rfl⟩

/-- Two changes after one another leave alone what each of them does. -/
theorem Isolates.trans (h : Isolates c s s') (h' : Isolates c s' s'') : Isolates c s s'' :=
  ⟨h'.conversations.trans h.conversations, h'.messages.trans h.messages,
    h'.actions.trans h.actions⟩

/-- A message that was not there before belongs to the conversation. -/
theorem Isolates.newMessage (h : Isolates c s s') {r : MessageRow} (hr : r ∈ s'.messages)
    (hnew : r ∉ s.messages) : r.conversationId = c := by
  by_contra hother
  have hrest : r ∈ s'.otherMessages c := List.mem_filter.2 ⟨hr, bne_iff_ne.2 hother⟩
  rw [h.messages] at hrest
  exact hnew (List.mem_filter.1 hrest).1

/-- An action that was not there before has a message of the conversation. -/
theorem Isolates.newAction (h : Isolates c s s') {a : ActionRow} (ha : a ∈ s'.actions)
    (hnew : a ∉ s.actions) : s'.Owns c a.messageId := by
  by_contra hother
  have hrest : a ∈ s'.otherActions c :=
    List.mem_filter.2 ⟨ha, by rw [decide_eq_false hother]; rfl⟩
  rw [h.actions] at hrest
  exact hnew (List.mem_filter.1 hrest).1

/-! ## What isolates -/

/-- Whether a conversation owns the message of an action does not change, because every
action has a message that is there, and messages stay with their conversations. -/
theorem owns_iff (hs : s.Anchored) (hs' : s'.Ordered)
    (hmono : ∀ c' m, s.Owns c' m → s'.Owns c' m) {a : ActionRow} (ha : a ∈ s.actions) :
    s'.Owns c a.messageId ↔ s.Owns c a.messageId := by
  refine ⟨fun howns => ?_, hmono c _⟩
  obtain ⟨r, hr, hid⟩ := hs a ha
  have hparent : s.Owns r.conversationId a.messageId := ⟨r, hr, hid, rfl⟩
  rwa [hs'.owner_unique howns (hmono _ _ hparent)]

/-- Actions that stay keep their owners. -/
theorem otherActions_eq (hs : s.Anchored) (hs' : s'.Ordered)
    (hmono : ∀ c' m, s.Owns c' m → s'.Owns c' m) (hactions : s'.actions = s.actions) (c : Int) :
    s'.otherActions c = s.otherActions c := by
  rw [otherActions, otherActions, hactions]
  refine List.filter_congr ?_
  intro a ha
  rw [decide_eq_decide.2 (owns_iff hs hs' hmono ha)]

/-- To prepare for a frame leaves the other conversations alone. -/
theorem Prepared.isolates (h : Prepared c s s') (hs : s.Anchored) (hs' : s'.Ordered) :
    Isolates c s s' where
  conversations := by rw [otherConversations, otherConversations, h.conversations]
  messages := by
    obtain ⟨new, hnew, hown⟩ := h.messages
    rw [otherMessages, otherMessages, hnew]
    refine filter_append_false ?_
    intro r hr
    rw [(hown r hr).1, bne_self_eq_false]
  actions := by
    obtain ⟨f, hf, hbecomes, hown⟩ := h.actions
    rw [otherActions, otherActions, hf]
    refine filter_map_eq ?_
    intro a ha
    have hiff := owns_iff (c := c) hs hs' (fun _ _ hm => h.owns hm) ha
    -- a row that changed belongs to the conversation before and after
    rcases hown a ha with hstays | hmine
    · exact Or.inr ⟨hstays, by rw [decide_eq_decide.2 hiff]⟩
    · refine Or.inl ⟨?_, ?_⟩
      · rw [decide_eq_true (hiff.1 hmine)]
        rfl
      · rw [(hbecomes a).messageId, decide_eq_true hmine]
        rfl

/-- Of a message of the conversation nothing but its counter changes. -/
theorem isolates_messages (hs : s.Regular) {m : Int} (hm : s.Owns c m) {p : MessageRow → Bool}
    (hp : ∀ r, p r = true → r.id = m) {f : MessageRow → MessageRow}
    (hf : ∀ r : MessageRow, r.Becomes (f r)) :
    Isolates c s { s with messages := modify p f s.messages } := by
  have hchange : s.Change default (.recordFailure m)
      { s with messages := modify p f s.messages } :=
    change_modify_messages s default _ (fun r _ => hf r) trivial
  refine ⟨rfl, ?_, otherActions_eq hs.anchored (hchange.ordered hs.ordered)
    (fun _ _ hm => hchange.owns hm) rfl c⟩
  refine filter_modify ?_
  intro r hr hit
  obtain ⟨x, hx, hid, hown⟩ := hm
  have hrow : x = r := hs.ordered.messages.eq_of_id_eq hx hr (hid.trans (hp r hit).symm)
  rw [(hf r).conversationId, ← hrow, hown, bne_self_eq_false]
  exact ⟨rfl, rfl⟩

/-- To count a failure for a message of the conversation leaves the others alone. -/
theorem isolates_recordFailure (hs : s.Regular) {m : Int} (hm : s.Owns c m) :
    Isolates c s (s.recordFailure m).2 := by
  unfold recordFailure
  split
  · exact Isolates.refl c s
  · exact isolates_messages hs hm (fun r hr => beq_iff_eq.1 hr) fun _ => ⟨rfl⟩

/-- So does the count back to nothing. -/
theorem isolates_resetFailures (hs : s.Regular) {m : Int} (hm : s.Owns c m) :
    Isolates c s (s.resetFailures m).2 :=
  isolates_messages hs hm (fun _ hr => beq_iff_eq.1 (Bool.and_eq_true_iff.1 hr).1) fun _ => ⟨rfl⟩

/-- The end of the conversation leaves the others alone. -/
theorem isolates_endConversation (s : Store) (now : Instant) (c : Int)
    (st : Conversation.State) : Isolates c s (s.endConversation now c st).2 := by
  unfold endConversation
  split
  · refine ⟨?_, rfl, rfl⟩
    refine filter_modify ?_
    intro r _ hit
    have hid : r.id = c := beq_iff_eq.1 (Bool.and_eq_true_iff.1 hit).1
    rw [hid, bne_self_eq_false]
    exact ⟨rfl, rfl⟩
  · exact Isolates.refl c s

/-- An action for a message of the conversation leaves the others alone. -/
theorem isolates_added {row : ActionRow} (hm : s.Owns c row.messageId) :
    Isolates c s (s.added row) := by
  refine ⟨rfl, rfl, filter_append_false ?_⟩
  intro a ha
  rw [List.mem_singleton.1 ha]
  have hown : (s.added row).Owns c row.messageId := hm
  rw [decide_eq_true hown]
  rfl

end Store

/-! ## Frames -/

namespace Coordinator

open Store

variable {d : Settings.Decision} {c : Int} {s : Store}

/-- What comes of a frame is a store that calls have made. -/
theorem handleAlone_regular (hs : s.Regular) (d : Settings.Decision) (c : Int)
    (frame : ClientFrame) (course : Course) :
    (handleAlone d c frame course s).2.store.Regular :=
  Program.follow_induction (I := fun h => h.store.Regular)
    (fun h now call hh => (h.store.perform_change now call).regular hh) (fun _ _ _ hh => hh)
    (handle d c frame) course hs

/-- After a decision only rows of the conversation change. -/
theorem Handled.isolates {reply : Option ServerFrame} {h : Past} (hh : Handled d c s reply h)
    (hs : s.Regular) (hs' : h.store.Regular) : Isolates c s h.store := by
  -- what was prepared isolates, and so does the count of failures that follows it
  have hprepared : ∀ {m s₁}, Attends c s m s₁ → Isolates c s s₁ :=
    fun ha => ha.prepared.isolates hs.anchored ha.regular.ordered
  have hreset : ∀ {m s₁}, Attends c s m s₁ → Isolates c s (s₁.resetFailures m).2 :=
    fun ha => (hprepared ha).trans (isolates_resetFailures ha.regular ha.owns)
  have hrecord : ∀ {m s₁}, Attends c s m s₁ → Isolates c s (s₁.recordFailure m).2 :=
    fun ha => (hprepared ha).trans (isolates_recordFailure ha.regular ha.owns)
  have hadded : ∀ {m s₁ now kind parameters row}, Attends c s m s₁ →
      (s₁.pendingRow now m kind parameters).Becomes row →
      Isolates c s ((s₁.resetFailures m).2.added row) := by
    intro m s₁ now kind parameters row ha hrow
    refine (hreset ha).trans (isolates_added ?_)
    rw [hrow.messageId]
    exact (s₁.perform_change now (.resetFailures m)).owns ha.owns
  cases hh with
  | unasked hp => exact hp.isolates hs.anchored hs'.ordered
  | broken ha => exact hprepared ha
  | failed ha _ hstore => exact hstore ▸ hrecord ha
  | stopped ha _ _ _ hstore =>
      rw [hstore]
      exact (hrecord ha).trans (isolates_endConversation ..)
  | finished ha _ hstore =>
      rw [hstore]
      exact (hreset ha).trans (isolates_endConversation ..)
  | acted ha _ hrow _ hstore => exact hstore ▸ hadded ha hrow
  | unsent ha _ hrow hstore => exact hstore ▸ hadded ha hrow

/-- **Conversations are isolated.** Take any store that calls make of the empty one, and
answer any frame of a conversation, along any course. Then every other conversation, every
message of another one and every action of such a message is in the new store as it was,
and there is no more of them; so what was added belongs to the conversation. -/
theorem isolated (history : List (Instant × Store.Call)) (d : Settings.Decision) (c : Int)
    (frame : ClientFrame) (course : Course) :
    let s := Store.empty.replay history
    let s' := (handleAlone d c frame course s).2.store
    Isolates c s s' ∧ (∀ r ∈ s'.messages, r ∉ s.messages → r.conversationId = c) ∧
      ∀ a ∈ s'.actions, a ∉ s.actions → s'.Owns c a.messageId := by
  have hs := replay_regular history
  have hisolates := (handled hs d c frame course).isolates hs
    (handleAlone_regular hs d c frame course)
  exact ⟨hisolates, fun _ hr hnew => hisolates.newMessage hr hnew,
    fun _ ha hnew => hisolates.newAction ha hnew⟩

end Coordinator

end ControlPlane
