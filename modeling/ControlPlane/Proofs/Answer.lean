/-
What an answer tells.

The coordinator learns about the store from answers alone. The lemmas of this file say
what an answer means for the rows: whose number a row that was read has, and what holds
of the store after a write that succeeded. The predicates in which they are stated are
`Owns`, `Serves` and `Idle`; they are about numbers and not about rows, so they outlive
the changes of a row in place. An answer that is a fault is one of a few that the store
reports (`perform_fault`).
-/
import ControlPlane.Proofs.History

set_option autoImplicit false

namespace ControlPlane

/-- The faults that the store reports: it cannot do something, something is not there, or what is
asked for is no end. -/
def Fault.OfStore : Fault → Prop
  | .store _ _ => True
  | .missing _ _ => True
  | .cannotMove _ _ => True
  | .cannotComplete _ _ => True
  | .cannotForce _ _ => True
  | _ => False

/-- The store reports no conflict. -/
theorem Fault.OfStore.kind_ne_conflict {f : Fault} (h : f.OfStore) : f.kind ≠ .conflict := by
  cases f with
  | store | missing | cannotMove | cannotComplete | cannotForce =>
      exact fun hkind => by cases hkind
  | _ => exact h.elim

namespace Store

variable {s s' : Store} {now : Instant}

/-- A message belongs to a conversation. -/
def Owns (s : Store) (conversation message : Int) : Prop :=
  ∃ r ∈ s.messages, r.id = message ∧ r.conversationId = conversation

instance (s : Store) (c m : Int) : Decidable (s.Owns c m) :=
  inferInstanceAs (Decidable (∃ r ∈ s.messages, r.id = m ∧ r.conversationId = c))

/-- An action serves a message. -/
def Serves (s : Store) (action message : Int) : Prop :=
  ∃ a ∈ s.actions, a.id = action ∧ a.messageId = message

/-- No action of a message is open. -/
def Idle (s : Store) (message : Int) : Prop :=
  ∀ a ∈ s.actions, a.messageId = message → a.isOpen = false

/-- A change leaves every message with its conversation. -/
theorem Change.owns {call : Call} (h : s.Change now call s') {c m : Int} (ho : s.Owns c m) :
    s'.Owns c m := by
  obtain ⟨r, hr, hid, hc⟩ := ho
  cases h with
  | nothing => exact ⟨r, hr, hid, hc⟩
  | actions => exact ⟨r, hr, hid, hc⟩
  | messages _ f hf =>
      exact ⟨f r, List.mem_map_of_mem hr, (hf r).id.trans hid, (hf r).conversationId.trans hc⟩
  | conversations => exact ⟨r, hr, hid, hc⟩
  | newConversation => exact ⟨r, hr, hid, hc⟩
  | newMessage => exact ⟨r, List.mem_append_left _ hr, hid, hc⟩
  | newAction => exact ⟨r, hr, hid, hc⟩

/-- A change leaves every action with its message. -/
theorem Change.serves {call : Call} (h : s.Change now call s') {i m : Int}
    (hi : s.Serves i m) : s'.Serves i m := by
  obtain ⟨a, ha, hid, hm⟩ := hi
  cases h with
  | nothing => exact ⟨a, ha, hid, hm⟩
  | actions _ f hf =>
      exact ⟨f a, List.mem_map_of_mem ha, (hf a).becomes.id.trans hid,
        (hf a).becomes.messageId.trans hm⟩
  | messages => exact ⟨a, ha, hid, hm⟩
  | conversations => exact ⟨a, ha, hid, hm⟩
  | newConversation => exact ⟨a, ha, hid, hm⟩
  | newMessage => exact ⟨a, ha, hid, hm⟩
  | newAction => exact ⟨a, List.mem_append_left _ ha, hid, hm⟩

/-- A message belongs to one conversation. -/
theorem Ordered.owner_unique (hs : s.Ordered) {c c' m : Int} (h : s.Owns c m)
    (h' : s.Owns c' m) : c = c' := by
  obtain ⟨r, hr, hid, hc⟩ := h
  obtain ⟨r', hr', hid', hc'⟩ := h'
  have hrow : r = r' := hs.messages.eq_of_id_eq hr hr' (hid.trans hid'.symm)
  rw [← hc, ← hc', hrow]

/-! ## Reading -/

/-- What is found by number was read from a row with that number. -/
theorem answer?_some {ρ α : Type} {doing : String} {read : ρ → Except Fault.StoreFlaw α}
    {o : Option ρ} {a : α} (h : answer? doing read o = .ok (some a)) :
    ∃ r, o = some r ∧ read r = .ok a := by
  cases o with
  | none => cases h
  | some r =>
      refine ⟨r, rfl, ?_⟩
      cases hread : read r with
      | ok b =>
          simp only [answer?, answer, hread, Except.map] at h
          cases h
          rfl
      | error flaw =>
          simp only [answer?, answer, failure, hread, Except.map] at h
          cases h

/-- Where nothing is found there is no row. -/
theorem answer?_none {ρ α : Type} {doing : String} {read : ρ → Except Fault.StoreFlaw α}
    {o : Option ρ} (h : answer? doing read o = .ok none) : o = none := by
  cases o with
  | none => rfl
  | some r =>
      cases hread : read r with
      | ok b =>
          simp only [answer?, answer, hread, Except.map] at h
          cases h
      | error flaw =>
          simp only [answer?, answer, failure, hread, Except.map] at h
          cases h

/-- What succeeds in two steps succeeds in each of them. -/
theorem bind_ok {ε α β : Type} {x : Except ε α} {f : α → Except ε β} {b : β}
    (h : (x >>= f) = .ok b) : ∃ a, x = .ok a ∧ f a = .ok b := by
  cases x with
  | ok a => exact ⟨a, rfl, h⟩
  | error e => cases h

/-- A name that was read is the name of what was read. -/
theorem named_ok {α : Type} {ofName? : String → Option α} {what : String} {column : Nat}
    {raw : String} {a : α} (h : Row.named ofName? what column raw = .ok a) :
    ofName? raw = some a := by
  unfold Row.named at h
  split at h
  next hname => rw [hname, Except.ok.inj h]
  next => cases h

/-- A row that was read gave its own number and the state that it names. -/
theorem read_conversation {r : ConversationRow} {v : Conversation} (h : r.read = .ok v) :
    v.id = r.id ∧ Conversation.State.ofName? r.state = some v.state := by
  obtain ⟨state, hstate, h⟩ := bind_ok h
  obtain ⟨createdAt, _, h⟩ := bind_ok h
  obtain ⟨updatedAt, _, h⟩ := bind_ok h
  cases h
  exact ⟨rfl, named_ok hstate⟩

/-- A message has the number and the conversation of its row. -/
theorem read_message {column : Nat} {r : MessageRow} {v : Message}
    (h : r.read column = .ok v) : v.id = r.id ∧ v.conversationId = r.conversationId := by
  obtain ⟨role, _, h⟩ := bind_ok h
  obtain ⟨createdAt, _, h⟩ := bind_ok h
  cases h
  exact ⟨rfl, rfl⟩

/-- An action that was read has the columns of its row; its kind and its times are what the row
names. -/
theorem read_action_columns {r : ActionRow} {v : Action} (h : r.read = .ok v) :
    ∃ kind status createdAt startedAt finishedAt,
      Action.Kind.ofName? r.kind = some kind ∧ Row.time 12 r.createdAt = .ok createdAt ∧
      Row.time? 13 r.startedAt = .ok startedAt ∧
      v = ⟨r.id, r.messageId, kind, r.sequence, status, r.parameters, r.errorMessage,
        r.executionTime, createdAt, startedAt, finishedAt⟩ := by
  obtain ⟨kind, hkind, h⟩ := bind_ok h
  obtain ⟨status, _, h⟩ := bind_ok h
  obtain ⟨createdAt, hcreated, h⟩ := bind_ok h
  obtain ⟨startedAt, hstarted, h⟩ := bind_ok h
  obtain ⟨finishedAt, _, h⟩ := bind_ok h
  exact ⟨kind, status, createdAt, startedAt, finishedAt, named_ok hkind, hcreated, hstarted,
    (Except.ok.inj h).symm⟩

/-- An action has the number and the message of its row. -/
theorem read_action {r : ActionRow} {v : Action} (h : r.read = .ok v) :
    v.id = r.id ∧ v.messageId = r.messageId := by
  obtain ⟨_, _, _, _, _, _, _, _, rfl⟩ := read_action_columns h
  exact ⟨rfl, rfl⟩

/-- A conversation that was found has the number it was looked for under. -/
theorem getConversation_some {id : Int} {v : Conversation}
    (h : s.getConversation id = .ok (some v)) :
    v.id = id ∧ ∃ r, s.conversation? id = some r ∧
      Conversation.State.ofName? r.state = some v.state := by
  obtain ⟨r, hfind, hread⟩ := answer?_some h
  have hid : r.id = id := by simpa using List.find?_some hfind
  obtain ⟨hv, hstate⟩ := read_conversation hread
  exact ⟨hv.trans hid, r, hfind, hstate⟩

/-- A message that was answered is the one asked for, and belongs to its conversation. -/
theorem getMessage_some {id : Int} {v : Message} (h : s.getMessage id = .ok (some v)) :
    v.id = id ∧ s.Owns v.conversationId id := by
  obtain ⟨r, hfind, hread⟩ := answer?_some h
  have hid : r.id = id := by simpa using List.find?_some hfind
  obtain ⟨hv, hc⟩ := read_message hread
  exact ⟨hv.trans hid, r, List.mem_of_find?_eq_some hfind, hid, hc.symm⟩

/-- An action that was answered is the one asked for, and serves its message. -/
theorem getAction_some {id : Int} {v : Action} (h : s.getAction id = .ok (some v)) :
    v.id = id ∧ s.Serves id v.messageId := by
  obtain ⟨r, hfind, hread⟩ := answer?_some h
  have hid : r.id = id := by simpa using List.find?_some hfind
  obtain ⟨hv, hm⟩ := read_action hread
  exact ⟨hv.trans hid, r, List.mem_of_find?_eq_some hfind, hid, hm.symm⟩

/-- A message that was not found belongs to no conversation. -/
theorem getMessage_none {id : Int} (h : s.getMessage id = .ok none) (c : Int) :
    ¬ s.Owns c id := by
  rintro ⟨r, hr, hid, _⟩
  exact List.find?_eq_none.1 (answer?_none h) r hr (beq_iff_eq.2 hid)

/-- An action that was not found is no row's. -/
theorem getAction_none {id : Int} (h : s.getAction id = .ok none) :
    ∀ a ∈ s.actions, a.id ≠ id := by
  intro a ha hid
  exact List.find?_eq_none.1 (answer?_none h) a ha (beq_iff_eq.2 hid)

/-! ## Writing -/

/-- What is demanded to be there was found. -/
theorem present_ok {α : Type} {entity : Fault.Entity} {id : Int}
    {r : Except Fault (Option α)} {a : α} (h : present entity id r = .ok a) :
    r = .ok (some a) := by
  cases r with
  | error e => cases h
  | ok o =>
      cases o with
      | none => cases h
      | some b => cases h; rfl

/-- A message that was added belongs to the conversation it was added to. -/
theorem createMessage_ok {c : Int} {role : Message.Role} {content : String} {v : Message}
    (h : (s.createMessage now c role content).1 = .ok v) :
    (s.createMessage now c role content).2.Owns c v.id := by
  unfold createMessage at h ⊢
  split
  next hc =>
    rw [if_pos hc] at h
    obtain ⟨hid, _⟩ := getMessage_some (present_ok h)
    rw [hid]
    refine ⟨s.messageRow now c role content, ?_, rfl, rfl⟩
    exact List.mem_append_right _ (List.mem_singleton.2 rfl)
  next hc =>
    rw [if_neg hc] at h
    cases h

/-! ## Failing -/

section Failing

variable {α : Type} {f : Fault}

/-- An answer that cannot be read is a fault of the store. -/
theorem answer_fault {doing : String} {r : Except Fault.StoreFlaw α}
    (h : answer doing r = .error f) : f.OfStore := by
  cases r with
  | ok a => cases h
  | error flaw =>
      cases h
      trivial

/-- So is a row that was found and cannot be read. -/
theorem answer?_fault {ρ : Type} {doing : String} {read : ρ → Except Fault.StoreFlaw α}
    {o : Option ρ} (h : answer? doing read o = .error f) : f.OfStore := by
  cases o with
  | none => cases h
  | some r =>
      cases hread : answer doing (read r) with
      | ok a =>
          simp only [answer?, hread, Except.map] at h
          cases h
      | error e =>
          simp only [answer?, hread, Except.map] at h
          cases h
          exact answer_fault hread

/-- What is demanded and not there is a fault of the store. -/
theorem present_fault {entity : Fault.Entity} {id : Int} {r : Except Fault (Option α)}
    (h : present entity id r = .error f) (hr : r = .error f → f.OfStore) : f.OfStore := by
  cases r with
  | error e =>
      cases h
      exact hr rfl
  | ok o =>
      cases o with
      | none =>
          cases h
          trivial
      | some a => cases h

/-- So is a counter that is full. -/
theorem counter_fault {n : Int} (h : counter n = .error f) : f.OfStore := by
  unfold counter at h
  split at h
  · cases h
  · cases h
    trivial

/-- To skip actions one after the other fails only where one of them cannot be read. -/
theorem skipEach_fault {reason : String} {ids : List Int}
    (h : (skipEach now reason ids s).1 = .error f) : f.OfStore := by
  induction ids generalizing s with
  | nil => cases h
  | cons id rest ih =>
      simp only [skipEach] at h
      split at h
      next e hread =>
        cases h
        split at hread
        · exact answer?_fault hread
        · cases hread
      next found _ =>
        split at h
        next => cases h
        next e s' hrest =>
          cases h
          exact ih (congrArg Prod.fst hrest)

/-- **Whatever is called, a fault is one that the store reports.** -/
theorem perform_fault {call : Call} (h : (s.perform now call).1 = .error f) : f.OfStore := by
  cases call with
  | createConversation =>
      simp only [perform, createConversation, getConversation] at h
      exact present_fault h answer?_fault
  | getConversation | getMessage | getAction =>
      simp only [perform, getConversation, getMessage, getAction] at h
      exact answer?_fault h
  | listConversations | listMessages | listActions | staleActions | staleMessages =>
      simp only [perform, listConversations, listMessages, listActions, staleActions,
        staleMessages] at h
      exact answer_fault h
  | skipOpenActions => exact skipEach_fault h
  | failures | recordFailure =>
      simp only [perform, failures, recordFailure] at h
      split at h
      · cases h
        trivial
      · exact counter_fault h
  | createMessage | createAction =>
      simp only [perform, createMessage, createAction, getMessage, getAction] at h
      split at h
      · exact present_fault h answer?_fault
      · cases h
        trivial
  | endConversation | completeAction | forceAction =>
      simp only [perform, endConversation, completeAction, forceAction] at h
      split at h
      · cases h
      · cases h
        trivial
  | renameConversation | resetFailures | startAction | stats | countMessages | countActions
  | dailyActivity => cases h

end Failing

end Store

end ControlPlane
