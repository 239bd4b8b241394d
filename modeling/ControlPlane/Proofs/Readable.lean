/-
Rows that can be read.

A row is a row of texts, and an operation that answers rows reads them after it has
written. It is here that an operation can fail with its change made: `skipOpenActions`
ends actions and then cannot read one of them. It does not happen to rows whose names
are names that there are and whose times are legible (`ActionRow.Readable`). Every call
at a legible time leaves all actions readable, if they were so before
(`Change.readable`), and so skipping does not fail (`skipOpenActions_answers`). The same
goes for messages; a store is *legible* when all its actions and messages can be read
(`Store.Legible`).
-/
import ControlPlane.Proofs.Skip
import ControlPlane.Proofs.Stamp

set_option autoImplicit false

namespace ControlPlane

/-! ## Names and times -/

/-- A kind of actions is known by its name. -/
theorem Action.Kind.ofName?_name (kind : Action.Kind) :
    Action.Kind.ofName? kind.name = some kind := by
  cases kind <;> rfl

/-- So is a status. -/
theorem Action.Status.ofName?_name (status : Action.Status) :
    Action.Status.ofName? status.name = some status := by
  cases status <;> rfl

/-- So is a state of conversations. -/
theorem Conversation.State.ofName?_name (state : Conversation.State) :
    Conversation.State.ofName? state.name = some state := by
  cases state <;> rfl

/-- So is a role. -/
theorem Message.Role.ofName?_name (role : Message.Role) :
    Message.Role.ofName? role.name = some role := by
  cases role <;> rfl

/-- A text that the store wrote for a legible time. -/
def Stamp.IsStored (raw : String) : Prop := ∃ t : Instant, t.Legible ∧ raw = t.storedText

/-- The stored text of a legible time can be read. -/
theorem Stamp.isStored {t : Instant} (h : t.Legible) : Stamp.IsStored t.storedText :=
  ⟨t, h, rfl⟩

/-- A column with the name of something is read as it. -/
theorem Row.named_name {α : Type} {ofName? : String → Option α} {name : α → String}
    (hname : ∀ a, ofName? (name a) = some a) (what : String) (column : Nat) (a : α) :
    Row.named ofName? what column (name a) = .ok a := by
  rw [Row.named, hname]

/-- A column with a stored time is read. -/
theorem Row.time_stored {raw : String} (h : Stamp.IsStored raw) (column : Nat) :
    ∃ t, Row.time column raw = .ok t := by
  obtain ⟨t, ht, rfl⟩ := h
  exact ⟨t.micros, by rw [Row.time, Stamp.read_storedText ht]⟩

/-- So is one in which the time may be missing. -/
theorem Row.time?_stored {raw : Option String} (h : ∀ text ∈ raw, Stamp.IsStored text)
    (column : Nat) : ∃ t, Row.time? column raw = .ok t := by
  cases raw with
  | none => exact ⟨none, rfl⟩
  | some text =>
      obtain ⟨t, ht⟩ := Row.time_stored (h text rfl) column
      exact ⟨some t, by rw [Row.time?, ht]; rfl⟩

/-! ## Actions -/

namespace ActionRow

/-- The names of an action are names that there are, and its times are legible. -/
structure Readable (a : ActionRow) : Prop where
  /-- There is such a kind. -/
  kind : ∃ kind : Action.Kind, a.kind = kind.name
  /-- There is such a status. -/
  status : ∃ status : Action.Status, a.status = status.name
  /-- The time of its creation is legible. -/
  createdAt : Stamp.IsStored a.createdAt
  /-- The time when it was handed out is legible, if it was. -/
  startedAt : ∀ text ∈ a.startedAt, Stamp.IsStored text
  /-- The time when it ended is legible, if it has. -/
  finishedAt : ∀ text ∈ a.finishedAt, Stamp.IsStored text

/-- Such an action can be read. -/
theorem Readable.read {a : ActionRow} (h : a.Readable) : ∃ v, a.read = .ok v := by
  obtain ⟨kind, hkind⟩ := h.kind
  obtain ⟨status, hstatus⟩ := h.status
  obtain ⟨createdAt, hcreated⟩ := Row.time_stored h.createdAt 12
  obtain ⟨startedAt, hstarted⟩ := Row.time?_stored h.startedAt 13
  obtain ⟨finishedAt, hfinished⟩ := Row.time?_stored h.finishedAt 14
  unfold ActionRow.read
  rw [hkind, hstatus, hcreated, hstarted, hfinished,
    Row.named_name Action.Kind.ofName?_name, Row.named_name Action.Status.ofName?_name]
  exact ⟨_, rfl⟩

/-- A move at a legible time leaves an action readable. -/
theorem Moves.readable {now : Instant} (hnow : now.Legible) {a b : ActionRow}
    (h : a.Moves now b) (ha : a.Readable) : b.Readable := by
  have hstored : ∀ text ∈ some now.storedText, Stamp.IsStored text := by
    intro text htext
    rw [← Option.some.inj htext]
    exact Stamp.isStored hnow
  cases h with
  | stays => exact ha
  | starts => exact ⟨ha.kind, ⟨.running, rfl⟩, ha.createdAt, hstored, ha.finishedAt⟩
  | completes _ st _ _ _ => exact ⟨ha.kind, ⟨st, rfl⟩, ha.createdAt, ha.startedAt, hstored⟩
  | ends _ st _ _ => exact ⟨ha.kind, ⟨st, rfl⟩, ha.createdAt, ha.startedAt, hstored⟩

end ActionRow

/-! ## Messages -/

namespace MessageRow

/-- The role of the writer is one that there is, and the time is legible. -/
structure Readable (r : MessageRow) : Prop where
  /-- There is such a role. -/
  role : ∃ role : Message.Role, r.role = role.name
  /-- The time of its creation is legible. -/
  createdAt : Stamp.IsStored r.createdAt

/-- Such a message can be read, whatever the column of its time. -/
theorem Readable.read {r : MessageRow} (h : r.Readable) (column : Nat) :
    ∃ v, r.read column = .ok v := by
  obtain ⟨role, hrole⟩ := h.role
  obtain ⟨createdAt, hcreated⟩ := Row.time_stored h.createdAt column
  unfold MessageRow.read
  rw [hrole, hcreated, Row.named_name Message.Role.ofName?_name]
  exact ⟨_, rfl⟩

/-- A message that stays but for its counter stays readable. -/
theorem Becomes.readable {r r' : MessageRow} (h : r.Becomes r') (hr : r.Readable) :
    r'.Readable := by
  rw [h.kept]
  exact ⟨hr.role, hr.createdAt⟩

end MessageRow

/-! ## Conversations -/

namespace ConversationRow

/-- The state of a conversation is one that there is, and its times are legible. -/
structure Readable (r : ConversationRow) : Prop where
  /-- There is such a state. -/
  state : ∃ state : Conversation.State, r.state = state.name
  /-- The time of its creation is legible. -/
  createdAt : Stamp.IsStored r.createdAt
  /-- The time of its last change is legible. -/
  updatedAt : Stamp.IsStored r.updatedAt

/-- Such a conversation can be read. -/
theorem Readable.read {r : ConversationRow} (h : r.Readable) : ∃ v, r.read = .ok v := by
  obtain ⟨state, hstate⟩ := h.state
  obtain ⟨createdAt, hcreated⟩ := Row.time_stored h.createdAt 5
  obtain ⟨updatedAt, hupdated⟩ := Row.time_stored h.updatedAt 6
  unfold ConversationRow.read
  rw [hstate, hcreated, hupdated, Row.named_name Conversation.State.ofName?_name]
  exact ⟨_, rfl⟩

end ConversationRow

/-! ## The store -/

namespace Store

variable {s s' : Store} {now : Instant}

/-- All actions can be read. -/
def Readable (s : Store) : Prop := ∀ a ∈ s.actions, a.Readable

theorem empty_readable : Store.empty.Readable := fun _ h => absurd h List.not_mem_nil

theorem Readable.map {f : ActionRow → ActionRow} (hs : s.Readable)
    (hf : ∀ a, a.Readable → (f a).Readable) : ∀ a ∈ s.actions.map f, a.Readable := by
  intro b hb
  obtain ⟨a, ha, rfl⟩ := List.mem_map.1 hb
  exact hf a (hs a ha)

/-- Calls at legible times leave all actions readable. -/
theorem Change.readable {call : Call} (h : s.Change now call s') (hnow : now.Legible)
    (hs : s.Readable) : s'.Readable := by
  cases h with
  | nothing => exact hs
  | actions _ f hf => exact hs.map fun a ha => (hf a).readable hnow ha
  | messages => exact hs
  | conversations => exact hs
  | newConversation => exact hs
  | newMessage => exact hs
  | newAction m kind parameters _ =>
      intro a ha
      rcases List.mem_append.1 ha with ha | ha
      · exact hs a ha
      · rw [List.mem_singleton.1 ha]
        exact ⟨⟨kind, rfl⟩, ⟨.pending, rfl⟩, Stamp.isStored hnow, fun _ h => (by cases h),
          fun _ h => (by cases h)⟩

/-- After calls at legible times all actions are readable. -/
theorem replay_readable {calls : List (Instant × Call)} (hcalls : ∀ e ∈ calls, e.1.Legible)
    (hs : s.Readable) : (s.replay calls).Readable :=
  replay_induction (fun s e he hs => (s.perform_change e.1 e.2).readable (hcalls e he) hs) hs

/-- All actions and all messages can be read. -/
structure Legible (s : Store) : Prop where
  /-- The actions can be read. -/
  actions : s.Readable
  /-- The messages can be read. -/
  messages : ∀ r ∈ s.messages, r.Readable

theorem empty_legible : Store.empty.Legible :=
  ⟨empty_readable, fun _ h => absurd h List.not_mem_nil⟩

/-- A call at a legible time leaves a store legible. -/
theorem Change.legible {call : Call} (h : s.Change now call s') (hnow : now.Legible)
    (hs : s.Legible) : s'.Legible := by
  refine ⟨h.readable hnow hs.actions, ?_⟩
  cases h with
  | nothing => exact hs.messages
  | actions => exact hs.messages
  | messages _ f hf =>
      intro r' hr'
      obtain ⟨r, hr, rfl⟩ := List.mem_map.1 hr'
      exact (hf r).readable (hs.messages r hr)
  | conversations => exact hs.messages
  | newConversation => exact hs.messages
  | newMessage c role content _ =>
      intro r hr
      rcases List.mem_append.1 hr with hr | hr
      · exact hs.messages r hr
      · rw [List.mem_singleton.1 hr]
        exact ⟨⟨role, rfl⟩, Stamp.isStored hnow⟩
  | newAction => exact hs.messages

/-- So do any number of them. -/
theorem replay_legible {calls : List (Instant × Call)} (hcalls : ∀ e ∈ calls, e.1.Legible)
    (hs : s.Legible) : (s.replay calls).Legible :=
  replay_induction (fun s e he hs => (s.perform_change e.1 e.2).legible (hcalls e he) hs) hs

/-- A look at a message does not fail. -/
theorem Legible.getMessage (hs : s.Legible) (id : Int) : ∃ o, s.getMessage id = .ok o := by
  unfold Store.getMessage Store.message?
  cases hfind : s.messages.find? (·.id == id) with
  | none => exact ⟨none, rfl⟩
  | some r =>
      obtain ⟨v, hv⟩ := (hs.messages r (List.mem_of_find?_eq_some hfind)).read s.messageTimeColumn
      exact ⟨some v, by simp only [answer?, hv, answer, Except.map]⟩

/-- A look at an action does not fail. -/
theorem Readable.getAction (hs : s.Readable) (id : Int) : ∃ o, s.getAction id = .ok o := by
  unfold Store.getAction Store.action?
  cases hfind : s.actions.find? (·.id == id) with
  | none => exact ⟨none, rfl⟩
  | some a =>
      obtain ⟨v, hv⟩ := (hs a (List.mem_of_find?_eq_some hfind)).read
      exact ⟨some v, by simp only [answer?, hv, answer, Except.map]⟩

/-- Skipping actions one after the other does not fail. -/
theorem skipEach_answers (hnow : now.Legible) (hs : s.Readable) (reason : String)
    (ids : List Int) : ∃ skipped, (skipEach now reason ids s).1 = .ok skipped := by
  induction ids generalizing s with
  | nil => exact ⟨[], rfl⟩
  | cons id rest ih =>
      -- the row is readable after it was skipped, so the look at it does not fail
      have hone : (skipOne now reason id s).Readable := by
        refine hs.map ?_
        intro a ha
        have hmoves : a.Moves now
            (if (a.id == id && a.isOpen) then forced now .skipped reason a else a) := by
          by_cases hit : (a.id == id && a.isOpen) = true
          · rw [if_pos hit]
            exact .ends (Bool.and_eq_true_iff.1 hit).2 .skipped rfl reason
          · rw [if_neg hit]
            exact .stays
        exact hmoves.readable hnow ha
      obtain ⟨o, ho⟩ := hone.getAction id
      obtain ⟨tail, htail⟩ := ih hone
      have hread : ∃ found, (if (s.actions.any fun a => a.id == id && a.isOpen) then
          (skipOne now reason id s).getAction id else .ok none) = .ok found := by
        split
        · exact ⟨o, ho⟩
        · exact ⟨none, rfl⟩
      obtain ⟨found, hfound⟩ := hread
      -- the two ways to fail contradict what was found and what follows
      simp only [skipEach]
      split
      next e hfault =>
        have hclash := hfound.symm.trans hfault
        cases hclash
      next =>
        split
        next => exact ⟨_, rfl⟩
        next e _ hfault =>
          have hclash := htail.symm.trans (congrArg Prod.fst hfault)
          cases hclash

/-- At a legible time to skip the open actions of a message does not fail. -/
theorem skipOpenActions_answers (hnow : now.Legible) (hs : s.Readable) (m : Int)
    (reason : String) : ∃ skipped, (s.skipOpenActions now m reason).1 = .ok skipped :=
  skipEach_answers hnow hs reason _

/-! ## The conversations of a store -/

/-- A change in place leaves rows readable that stay so where it hits. -/
theorem forall_mem_modify {ρ : Type} {P : ρ → Prop} {p : ρ → Bool} {f : ρ → ρ} {rows : List ρ}
    (hrows : ∀ r ∈ rows, P r) (hf : ∀ r, P r → P (f r)) : ∀ r ∈ modify p f rows, P r := by
  intro r' hr'
  obtain ⟨r, hr, rfl⟩ := List.mem_map.1 hr'
  split
  · exact hf r (hrows r hr)
  · exact hrows r hr

/-- What holds of the conversations of a store holds of them after a call, if it holds of a row that
the call adds and stays so where the call changes a row. A look at the change alone does not tell
with what a row was changed, so the calls that touch conversations are gone through here. -/
theorem perform_conversations {P : ConversationRow → Prop} (call : Call)
    (hcreate : ∀ title browserType userId, call = .createConversation title browserType userId →
      P (s.runningRow now title browserType userId))
    (hrename : ∀ id title, call = .renameConversation id title →
      ∀ r, P r → P { r with title := title, updatedAt := now.storedText })
    (hend : ∀ id state, call = .endConversation id state →
      ∀ r, P r → P { r with state := state.name, updatedAt := now.storedText })
    (hs : ∀ r ∈ s.conversations, P r) :
    ∀ r ∈ (s.perform now call).2.conversations, P r := by
  cases call with
  | createConversation title browserType userId =>
      intro r hr
      rcases List.mem_append.1 hr with hr | hr
      · exact hs r hr
      · rw [List.mem_singleton.1 hr]
        exact hcreate title browserType userId rfl
  | renameConversation id title => exact forall_mem_modify hs (hrename id title rfl)
  | endConversation id state =>
      simp only [perform, endConversation]
      split
      · exact forall_mem_modify hs (hend id state rfl)
      · exact hs
  | skipOpenActions m reason =>
      obtain ⟨f, _, hskip⟩ := skipEach_change now reason
        (((s.actionsOf m).filter (·.isOpen)).map (·.id)) s
      have hsame : (s.perform now (.skipOpenActions m reason)).2 =
          { s with actions := s.actions.map f } := hskip
      rw [hsame]
      exact hs
  | createMessage =>
      simp only [perform, createMessage]
      split <;> exact hs
  | createAction =>
      simp only [perform, createAction]
      split <;> exact hs
  | recordFailure =>
      simp only [perform, recordFailure]
      split <;> exact hs
  | completeAction =>
      simp only [perform, completeAction]
      split <;> exact hs
  | forceAction =>
      simp only [perform, forceAction]
      split <;> exact hs
  | _ => exact hs

/-- Calls at legible times leave all conversations readable. -/
theorem perform_conversations_readable (hnow : now.Legible) (call : Call)
    (hs : ∀ r ∈ s.conversations, r.Readable) :
    ∀ r ∈ (s.perform now call).2.conversations, r.Readable := by
  have hstored := Stamp.isStored hnow
  refine perform_conversations call ?_ ?_ ?_ hs
  · exact fun _ _ _ _ => ⟨⟨.running, rfl⟩, hstored, hstored⟩
  · exact fun _ _ _ r hr => ⟨hr.state, hr.createdAt, hstored⟩
  · exact fun _ state _ r hr => ⟨⟨state, rfl⟩, hr.createdAt, hstored⟩

/-- After calls at legible times all conversations are readable. -/
theorem replay_conversations_readable {calls : List (Instant × Call)}
    (hcalls : ∀ e ∈ calls, e.1.Legible) :
    ∀ r ∈ (Store.empty.replay calls).conversations, r.Readable :=
  replay_induction (P := fun s => ∀ r ∈ s.conversations, r.Readable)
    (fun _ e he hs => perform_conversations_readable (hcalls e he) e.2 hs)
    fun _ h => absurd h List.not_mem_nil

end Store

end ControlPlane
