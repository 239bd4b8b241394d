/-
What belongs to a user.

A conversation belongs to the user whose number stands in its row, its messages and their
actions belong to the same user. The rows that belong to a user are that user's share of a
store, and all other rows are the rest (`Store.share`, `Store.besides`).

Two stores in which a user has the same share look the same to that user. There are three
ways to find this out: a filter by owner is a filter of the share; what is found by number is
looked for in the share, where numbers name the same rows; and a count that asks for the owner
counts in the share. What is found by number and belongs to somebody else is left out after it
was read, so it has to be readable (`Store.Screened`); of a store that calls have made at
legible times this holds (`screened_replay`).
-/
import ControlPlane.Proofs.Isolation

set_option autoImplicit false

namespace ControlPlane

namespace Store

variable {s t : Store} {u : Int} {now : Instant}

/-! ## Shares -/

/-- A conversation belongs to a user. -/
def Mine (s : Store) (u c : Int) : Prop :=
  ∃ r ∈ s.conversations, r.id = c ∧ r.userId = some u

instance (s : Store) (u c : Int) : Decidable (s.Mine u c) :=
  inferInstanceAs (Decidable (∃ r ∈ s.conversations, r.id = c ∧ r.userId = some u))

/-- A message is there and belongs to a user, by its conversation. -/
def MineToo (s : Store) (u m : Int) : Prop :=
  ∃ r ∈ s.messages, r.id = m ∧ s.Mine u r.conversationId

instance (s : Store) (u m : Int) : Decidable (s.MineToo u m) :=
  inferInstanceAs (Decidable (∃ r ∈ s.messages, r.id = m ∧ s.Mine u r.conversationId))

/-- Some rows of the three tables. -/
structure Share where
  /-- Those of conversations. -/
  conversations : List ConversationRow
  /-- Those of messages. -/
  messages : List MessageRow
  /-- Those of actions. -/
  actions : List ActionRow
deriving DecidableEq

/-- The rows that belong to a user. -/
def share (s : Store) (u : Int) : Share where
  conversations := s.conversations.filter fun r => r.userId == some u
  messages := s.messages.filter fun r => decide (s.Mine u r.conversationId)
  actions := s.actions.filter fun a => decide (s.MineToo u a.messageId)

/-- The rows that do not belong to a user. -/
def besides (s : Store) (u : Int) : Share where
  conversations := s.conversations.filter fun r => !(r.userId == some u)
  messages := s.messages.filter fun r => !decide (s.Mine u r.conversationId)
  actions := s.actions.filter fun a => !decide (s.MineToo u a.messageId)

theorem mine_iff (s : Store) (u c : Int) :
    s.Mine u c ↔ ∃ r ∈ (s.share u).conversations, r.id = c := by
  constructor
  · rintro ⟨r, hr, hid, hown⟩
    exact ⟨r, List.mem_filter.2 ⟨hr, beq_iff_eq.2 hown⟩, hid⟩
  · rintro ⟨r, hr, hid⟩
    obtain ⟨hr, hown⟩ := List.mem_filter.1 hr
    exact ⟨r, hr, hid, beq_iff_eq.1 hown⟩

theorem mineToo_iff (s : Store) (u m : Int) :
    s.MineToo u m ↔ ∃ r ∈ (s.share u).messages, r.id = m := by
  constructor
  · rintro ⟨r, hr, hid, hown⟩
    exact ⟨r, List.mem_filter.2 ⟨hr, decide_eq_true hown⟩, hid⟩
  · rintro ⟨r, hr, hid⟩
    obtain ⟨hr, hown⟩ := List.mem_filter.1 hr
    exact ⟨r, hr, hid, of_decide_eq_true hown⟩

/-- The same conversations belong to a user who has the same share. -/
theorem mine_congr (h : s.share u = t.share u) (c : Int) : s.Mine u c ↔ t.Mine u c := by
  rw [mine_iff, mine_iff, h]

theorem mineToo_congr (h : s.share u = t.share u) (m : Int) : s.MineToo u m ↔ t.MineToo u m := by
  rw [mineToo_iff, mineToo_iff, h]

/-! ## Looking up in a share -/

/-- What is found by number among chosen rows is what is found among all, if it was chosen. -/
theorem Numbered.find?_filter {ρ : Type} {id : ρ → Int} {rows : List ρ} {last : Int}
    (hrows : Numbered id rows last) (q : ρ → Bool) (i : Int) :
    (rows.filter q).find? (id · == i) = (rows.find? (id · == i)).filter q := by
  cases hfind : rows.find? (id · == i) with
  | none =>
      rw [Option.filter_none, List.find?_eq_none]
      intro r hr
      exact List.find?_eq_none.1 hfind r (List.mem_filter.1 hr).1
  | some r =>
      have hid : id r = i := by simpa using List.find?_some hfind
      have hr := List.mem_of_find?_eq_some hfind
      -- any other row that is found has the same number, so it is this one
      cases hfound : (rows.filter q).find? (id · == i) with
      | none =>
          cases hq : q r with
          | false => rw [Option.filter_some, hq]; rfl
          | true =>
              have hmissing := List.find?_eq_none.1 hfound r (List.mem_filter.2 ⟨hr, hq⟩)
              exact absurd (beq_iff_eq.2 hid) hmissing
      | some r' =>
          have hid' : id r' = i := by simpa using List.find?_some hfound
          obtain ⟨hr', hq⟩ := List.mem_filter.1 (List.mem_of_find?_eq_some hfound)
          rw [hrows.eq_of_id_eq hr hr' (hid.trans hid'.symm), Option.filter_some, hq]
          rfl

/-- The rows of others can be read, and times of messages stand where they do in a new table. -/
structure Screened (s : Store) (u : Int) : Prop where
  /-- The tables are numbered. -/
  ordered : s.Ordered
  /-- The conversations of others can be read. -/
  conversations : ∀ r ∈ s.conversations, r.userId ≠ some u → ∃ v, r.read = .ok v
  /-- So can their messages. -/
  messages : ∀ r ∈ s.messages, ¬ s.Mine u r.conversationId → ∃ v, r.read timeColumn = .ok v
  /-- The times of messages stand where they do in a new table. -/
  column : s.messageTimeColumn = timeColumn

/-- The conversation of a share with a number, as its user is answered. -/
def Share.conversation (own : Share) (id : Int) : Except Fault Conversation :=
  match own.conversations.find? (·.id == id) with
  | some r => answer "Get conversation error" r.read
  | none => .error (.missing .conversation id)

theorem read_userId {r : ConversationRow} {v : Conversation} (h : r.read = .ok v) :
    v.userId = r.userId := by
  obtain ⟨state, _, h⟩ := bind_ok h
  obtain ⟨createdAt, _, h⟩ := bind_ok h
  obtain ⟨updatedAt, _, h⟩ := bind_ok h
  cases h
  rfl

/-- **A look at a conversation** finds a row of the share, or something that its user is not to
see: nothing, or the conversation of somebody else. -/
theorem Screened.getConversation (hs : s.Screened u) (id : Int) :
    (∃ r : ConversationRow, r.userId = some u ∧
      s.getConversation id = (answer "Get conversation error" r.read).map some ∧
      (s.share u).conversation id = answer "Get conversation error" r.read) ∨
    ((s.share u).conversation id = .error (.missing .conversation id) ∧
      ∃ found, s.getConversation id = .ok found ∧ ∀ c ∈ found, c.userId ≠ some u) := by
  have hfound := hs.ordered.conversations.find?_filter (fun r => r.userId == some u) id
  unfold Store.getConversation Share.conversation Store.conversation?
  rw [share, hfound]
  cases hfind : s.conversations.find? (·.id == id) with
  | none =>
      refine Or.inr ⟨rfl, none, rfl, ?_⟩
      intro c hc
      cases hc
  | some r =>
      by_cases hown : r.userId = some u
      · rw [Option.filter_some, beq_iff_eq.2 hown]
        exact Or.inl ⟨r, hown, rfl, rfl⟩
      · have hforeign : (r.userId == some u) = false := beq_eq_false_iff_ne.2 hown
        obtain ⟨v, hv⟩ := hs.conversations r (List.mem_of_find?_eq_some hfind) hown
        rw [Option.filter_some, hforeign]
        refine Or.inr ⟨rfl, some v, by simp only [answer?, hv, answer, Except.map], ?_⟩
        intro c hc
        rw [← Option.some.inj hc, read_userId hv]
        exact hown

/-- The message of a share with a number. -/
def Share.message (own : Share) (id : Int) : Except Fault (Option Message) :=
  answer? "Get message error" (MessageRow.read timeColumn) (own.messages.find? (·.id == id))

/-- **A look at a message** finds what stands in the share, or a message of a conversation that
belongs to somebody else. -/
theorem Screened.getMessage (hs : s.Screened u) (id : Int) :
    s.getMessage id = (s.share u).message id ∨
      (s.share u).message id = .ok none ∧
        ∃ v, s.getMessage id = .ok (some v) ∧ ¬ s.Mine u v.conversationId := by
  have hfound := hs.ordered.messages.find?_filter (fun r => decide (s.Mine u r.conversationId)) id
  unfold Store.getMessage Share.message Store.message?
  rw [share, hfound, hs.column]
  cases hfind : s.messages.find? (·.id == id) with
  | none => exact Or.inl rfl
  | some r =>
      by_cases hown : s.Mine u r.conversationId
      · rw [Option.filter_some, decide_eq_true hown]
        exact Or.inl rfl
      · obtain ⟨v, hv⟩ := hs.messages r (List.mem_of_find?_eq_some hfind) hown
        rw [Option.filter_some, decide_eq_false hown]
        refine Or.inr ⟨rfl, v, by simp only [answer?, hv, answer, Except.map], ?_⟩
        rw [(read_message hv).2]
        exact hown

/-- A user who owns a conversation finds it in the share, and only such a user does. -/
theorem conversation_ok {id : Int} {v : Conversation} (h : (s.share u).conversation id = .ok v) :
    s.Mine u id := by
  unfold Share.conversation at h
  split at h
  next r hfind =>
    refine (mine_iff s u id).2 ⟨r, List.mem_of_find?_eq_some hfind, ?_⟩
    simpa using List.find?_some hfind
  next => cases h

theorem conversation_missing {id : Int} (h : ¬ s.Mine u id) :
    (s.share u).conversation id = .error (.missing .conversation id) := by
  unfold Share.conversation
  split
  next r hfind =>
    refine absurd ((mine_iff s u id).2 ⟨r, List.mem_of_find?_eq_some hfind, ?_⟩) h
    simpa using List.find?_some hfind
  next => rfl

theorem message_some {id : Int} {v : Message} (h : (s.share u).message id = .ok (some v)) :
    s.MineToo u id := by
  obtain ⟨r, hfind, _⟩ := answer?_some h
  refine (mineToo_iff s u id).2 ⟨r, List.mem_of_find?_eq_some hfind, ?_⟩
  simpa using List.find?_some hfind

/-! ## Lists and counts of a share -/

/-- A list of the user's conversations is a page of the share. -/
theorem listConversations_share (s : Store) (u : Int) (limit offset : Nat) :
    s.listConversations (some u) limit offset =
      answer "List conversations error" (readAll ConversationRow.read
        (page (WordRange.wrapSigned64 limit) (WordRange.wrapSigned64 offset)
          (s.share u).conversations.reverse)) := rfl

/-- The messages of a conversation that belongs to the user all stand in the share. -/
theorem messagesOf_share {c : Int} (h : s.Mine u c) :
    s.messagesOf c = (s.share u).messages.filter (·.conversationId == c) := by
  rw [messagesOf, share, List.filter_filter]
  refine List.filter_congr ?_
  intro r _
  by_cases hc : r.conversationId = c
  · rw [hc, beq_self_eq_true, decide_eq_true h]
    rfl
  · rw [beq_eq_false_iff_ne.2 hc]
    rfl

theorem actionsOf_share {m : Int} (h : s.MineToo u m) :
    s.actions.filter (·.messageId == m) = (s.share u).actions.filter (·.messageId == m) := by
  rw [share, List.filter_filter]
  refine List.filter_congr ?_
  intro a _
  by_cases hm : a.messageId = m
  · rw [hm, beq_self_eq_true, decide_eq_true h]
    rfl
  · rw [beq_eq_false_iff_ne.2 hm]
    rfl

/-- The owner of the conversation with a number. -/
theorem Ordered.conversation?_mine (hs : s.Ordered) (c : Int) :
    s.Mine u c ↔ ∃ r, s.conversation? c = some r ∧ r.userId = some u := by
  constructor
  · rintro ⟨r, hr, hid, hown⟩
    refine ⟨r, ?_, hown⟩
    cases hfind : s.conversation? c with
    | none => exact absurd (beq_iff_eq.2 hid) (List.find?_eq_none.1 hfind r hr)
    | some r' =>
        have hid' : r'.id = c := by simpa using List.find?_some hfind
        rw [hs.conversations.eq_of_id_eq (List.mem_of_find?_eq_some hfind) hr (hid'.trans hid.symm)]
  · rintro ⟨r, hfind, hown⟩
    exact ⟨r, List.mem_of_find?_eq_some hfind, by simpa using List.find?_some hfind, hown⟩

/-- The window of an owner takes what belongs to that owner. -/
theorem Ordered.inWindow_owner (hs : s.Ordered) {w : Window} (hw : w.userId = some u) (c : Int)
    (time : String) :
    (match s.conversation? c with
      | some r => inWindow w r.userId time
      | none => false) = (inWindow w (some u) time && decide (s.Mine u c)) := by
  have hmine := hs.conversation?_mine (u := u) c
  cases hfind : s.conversation? c with
  | none =>
      have hnot : ¬ s.Mine u c := fun h => by
        obtain ⟨r, hr, _⟩ := hmine.1 h
        rw [hfind] at hr
        cases hr
      rw [decide_eq_false hnot, Bool.and_false]
  | some r =>
      by_cases hown : r.userId = some u
      · rw [decide_eq_true (hmine.2 ⟨r, hfind, hown⟩), Bool.and_true, ← hown]
      · have hnot : ¬ s.Mine u c := fun h => by
          obtain ⟨r', hr', hown'⟩ := hmine.1 h
          rw [hfind] at hr'
          exact hown (Option.some.inj hr' ▸ hown')
        have hforeign : (r.userId == some u) = false := beq_eq_false_iff_ne.2 hown
        simp only [decide_eq_false hnot, Bool.and_false, inWindow, hw, hforeign, Option.isNone_some,
          Bool.false_or, Bool.false_and]

/-- The user's messages in a window are counted in the share. -/
theorem Ordered.messages_share (hs : s.Ordered) {w : Window} (hw : w.userId = some u) :
    s.messages.filter (s.messageCounts w) =
      (s.share u).messages.filter fun m => inWindow w (some u) m.createdAt := by
  rw [share, List.filter_filter]
  exact List.filter_congr fun m _ => hs.inWindow_owner hw m.conversationId m.createdAt

/-- The user's actions in a window are counted in the share. -/
theorem Ordered.actions_share (hs : s.Ordered) {w : Window} (hw : w.userId = some u) :
    s.actions.filter (s.actionCounts w) =
      (s.share u).actions.filter fun a => inWindow w (some u) a.createdAt := by
  rw [share, List.filter_filter]
  refine List.filter_congr ?_
  intro a _
  unfold actionCounts message?
  cases hfind : s.messages.find? (·.id == a.messageId) with
  | none =>
      have hnot : ¬ s.MineToo u a.messageId := by
        rintro ⟨r, hr, hid, _⟩
        exact List.find?_eq_none.1 hfind r hr (beq_iff_eq.2 hid)
      rw [decide_eq_false hnot, Bool.and_false]
  | some m =>
      have hm := List.mem_of_find?_eq_some hfind
      have hid : m.id = a.messageId := by simpa using List.find?_some hfind
      have hiff : s.MineToo u a.messageId ↔ s.Mine u m.conversationId := by
        refine ⟨?_, fun h => ⟨m, hm, hid, h⟩⟩
        rintro ⟨r, hr, hid', hown⟩
        rwa [hs.messages.eq_of_id_eq hm hr (hid.trans hid'.symm)]
      rw [decide_eq_decide.2 hiff]
      exact hs.inWindow_owner hw m.conversationId a.createdAt

/-! ## Stores with the same share -/

/-- Two stores in which a user has the same share, both screened. -/
structure Alike (u : Int) (s t : Store) : Prop where
  /-- The one is screened. -/
  left : s.Screened u
  /-- So is the other. -/
  right : t.Screened u
  /-- The user's rows are the same. -/
  same : s.share u = t.share u

theorem Alike.symm (h : Alike u s t) : Alike u t s := ⟨h.right, h.left, h.same.symm⟩

theorem Alike.listMessages (h : Alike u s t) {c : Int} (hc : s.Mine u c) :
    s.listMessages c = t.listMessages c := by
  rw [Store.listMessages, Store.listMessages, messagesOf_share hc,
    messagesOf_share ((mine_congr h.same c).1 hc), h.same, h.left.column, h.right.column]

theorem Alike.listActions (h : Alike u s t) {m : Int} (hm : s.MineToo u m) :
    s.listActions m = t.listActions m := by
  rw [Store.listActions, Store.listActions, actionsOf, actionsOf, actionsOf_share hm,
    actionsOf_share ((mineToo_congr h.same m).1 hm), h.same]

theorem Alike.listConversations (h : Alike u s t) (limit offset : Nat) :
    s.listConversations (some u) limit offset = t.listConversations (some u) limit offset := by
  rw [listConversations_share, listConversations_share, h.same]

theorem Alike.countMessages (h : Alike u s t) {w : Window} (hw : w.userId = some u) :
    s.countMessages w = t.countMessages w := by
  rw [Store.countMessages, Store.countMessages, h.left.ordered.messages_share hw,
    h.right.ordered.messages_share hw, h.same]

theorem Alike.countActions (h : Alike u s t) {w : Window} (hw : w.userId = some u)
    (status : Option Action.Status) : s.countActions w status = t.countActions w status := by
  -- the actions of one status are chosen from those that count
  have hstatus : ∀ s' : Store, s'.countActions w status =
      ((s'.actions.filter (s'.actionCounts w)).filter fun a =>
        status.elim true fun st => a.status == st.name).length := by
    intro s'
    rw [Store.countActions, List.filter_filter]
    congr 2
    funext a
    cases status with
    | none => exact Bool.and_comm _ _
    | some st => exact Bool.and_comm _ _
  rw [hstatus, hstatus, h.left.ordered.actions_share hw, h.right.ordered.actions_share hw, h.same]

theorem Alike.dailyActivity (h : Alike u s t) (first : Date) (days : Nat) :
    s.dailyActivity (some u) first days = t.dailyActivity (some u) first days := by
  simp only [Store.dailyActivity]
  cases (daysFrom first days).getLast? with
  | none => rfl
  | some last =>
    simp only
    rw [h.left.ordered.messages_share rfl, h.right.ordered.messages_share rfl,
      h.left.ordered.actions_share rfl, h.right.ordered.actions_share rfl, h.same]

/-! ## Screened stores -/

/-- Every message belongs to a conversation that is there. -/
def Rooted (s : Store) : Prop := ∀ r ∈ s.messages, ∃ c ∈ s.conversations, c.id = r.conversationId

theorem Change.rooted {call : Call} (h : s.Change now call t) (hs : s.Rooted) : t.Rooted := by
  cases h with
  | nothing => exact hs
  | actions => exact hs
  | newAction => exact hs
  | messages _ f hf =>
      intro r' hr'
      obtain ⟨r, hr, rfl⟩ := List.mem_map.1 hr'
      rw [(hf r).conversationId]
      exact hs r hr
  | conversations _ f hf =>
      intro r hr
      obtain ⟨c, hc, hid⟩ := hs r hr
      exact ⟨f c, List.mem_map_of_mem hc, (hf c).becomes.id.trans hid⟩
  | newConversation =>
      intro r hr
      obtain ⟨c, hc, hid⟩ := hs r hr
      exact ⟨c, List.mem_append_left _ hc, hid⟩
  | newMessage id role content hparent =>
      intro r hr
      rcases List.mem_append.1 hr with hr | hr
      · exact hs r hr
      · obtain ⟨c, hfind⟩ := Option.isSome_iff_exists.1 hparent
        have hid : c.id = id := by simpa using List.find?_some hfind
        rw [List.mem_singleton.1 hr]
        exact ⟨c, List.mem_of_find?_eq_some hfind, hid⟩

theorem Change.messageTimeColumn {call : Call} (h : s.Change now call t) :
    t.messageTimeColumn = s.messageTimeColumn := by
  cases h <;> rfl

/-- **What calls at legible times make of the empty store is screened**, for every user. -/
theorem screened_replay {history : List (Instant × Call)} (hlegible : ∀ e ∈ history, e.1.Legible)
    (u : Int) : (Store.empty.replay history).Screened u := by
  have hordered := replay_ordered empty_ordered history
  have hmessages := (replay_legible hlegible empty_legible).messages
  have hconversations := replay_conversations_readable hlegible
  have hcolumn : (Store.empty.replay history).messageTimeColumn = timeColumn :=
    replay_induction (P := fun s => s.messageTimeColumn = timeColumn)
      (fun s e _ hs => (s.perform_change e.1 e.2).messageTimeColumn.trans hs) rfl
  exact ⟨hordered, fun r hr _ => (hconversations r hr).read,
    fun r hr _ => (hmessages r hr).read timeColumn, hcolumn⟩

theorem replay_rooted (history : List (Instant × Call)) : (Store.empty.replay history).Rooted :=
  replay_induction (fun s e _ hs => (s.perform_change e.1 e.2).rooted hs)
    fun _ h => absurd h List.not_mem_nil

/-! ## Writes of a user -/

section Renamed

variable {f : ConversationRow → ConversationRow} (hf : ∀ r : ConversationRow, r.Becomes (f r))
include hf

/-- Conversations that keep their numbers and owners belong to the same users. -/
theorem mine_map (u c : Int) :
    Mine { s with conversations := s.conversations.map f } u c ↔ s.Mine u c := by
  constructor
  · rintro ⟨r', hr', hid, hown⟩
    obtain ⟨r, hr, rfl⟩ := List.mem_map.1 hr'
    exact ⟨r, hr, (hf r).id.symm.trans hid, (hf r).userId.symm.trans hown⟩
  · rintro ⟨r, hr, hid, hown⟩
    exact ⟨f r, List.mem_map_of_mem hr, (hf r).id.trans hid, (hf r).userId.trans hown⟩

theorem mineToo_map (u m : Int) :
    MineToo { s with conversations := s.conversations.map f } u m ↔ s.MineToo u m :=
  exists_congr fun _ => and_congr_right fun _ => and_congr_right fun _ => mine_map hf u _

/-- A change of conversations in place is one of the share. -/
theorem share_map (u : Int) :
    share { s with conversations := s.conversations.map f } u =
      { s.share u with conversations := (s.share u).conversations.map f } := by
  have howner : ((fun r : ConversationRow => r.userId == some u) ∘ f) =
      fun r => r.userId == some u := by
    funext r
    rw [Function.comp_apply, (hf r).userId]
  simp only [share, List.filter_map, howner, Share.mk.injEq, true_and]
  exact ⟨List.filter_congr fun r _ => decide_eq_decide.2 (mine_map hf u _),
    List.filter_congr fun a _ => decide_eq_decide.2 (mineToo_map hf u _)⟩

/-- The rest stays if the change leaves the conversations of others alone. -/
theorem besides_map (u : Int) (hothers : ∀ r ∈ s.conversations, r.userId ≠ some u → f r = r) :
    besides { s with conversations := s.conversations.map f } u = s.besides u := by
  simp only [besides, Share.mk.injEq]
  refine ⟨filter_map_eq fun r hr => ?_,
    List.filter_congr fun r _ => by rw [decide_eq_decide.2 (mine_map hf u _)],
    List.filter_congr fun a _ => by rw [decide_eq_decide.2 (mineToo_map hf u _)]⟩
  by_cases hown : r.userId = some u
  · refine Or.inl ⟨?_, ?_⟩
    · rw [beq_iff_eq.2 hown]
      rfl
    · rw [(hf r).userId, beq_iff_eq.2 hown]
      rfl
  · exact Or.inr ⟨hothers r hr hown, rfl⟩

theorem Screened.map (hs : s.Screened u)
    (hothers : ∀ r ∈ s.conversations, r.userId ≠ some u → f r = r) :
    Screened { s with conversations := s.conversations.map f } u where
  ordered := ⟨hs.ordered.conversations.map fun r => (hf r).id, hs.ordered.messages,
    hs.ordered.actions⟩
  conversations r' hr' hforeign := by
    obtain ⟨r, hr, rfl⟩ := List.mem_map.1 hr'
    rw [(hf r).userId] at hforeign
    rw [hothers r hr hforeign]
    exact hs.conversations r hr hforeign
  messages r hr hforeign := hs.messages r hr fun h => hforeign ((mine_map hf u _).2 h)
  column := hs.column

end Renamed

/-- A new title, and the time when it was given. -/
def retitled (now : Instant) (id : Int) (title : String) (r : ConversationRow) : ConversationRow :=
  if r.id == id then { r with title := title, updatedAt := now.storedText } else r

theorem retitled_becomes (now : Instant) (id : Int) (title : String) (r : ConversationRow) :
    r.Becomes (retitled now id title r) := by
  unfold retitled
  split
  · exact ⟨rfl, rfl, rfl, rfl, Or.inl rfl⟩
  · exact .refl r

/-- Only a conversation of the user has the number of one. -/
theorem retitled_other (hs : s.Ordered) {id : Int} (hown : s.Mine u id) (now : Instant)
    (title : String) : ∀ r ∈ s.conversations, r.userId ≠ some u → retitled now id title r = r := by
  intro r hr hforeign
  have hid : r.id ≠ id := by
    obtain ⟨r', hr', hid', hown'⟩ := hown
    intro hid
    rw [hs.conversations.eq_of_id_eq hr hr' (hid.trans hid'.symm)] at hforeign
    exact hforeign hown'
  rw [retitled, if_neg fun h => hid (beq_iff_eq.1 h)]

/-- A new title for a conversation of the user leaves the rest as it is. -/
theorem Ordered.besides_renameConversation (hs : s.Ordered) (now : Instant) {id : Int}
    (hown : s.Mine u id) (title : String) :
    (s.renameConversation now id title).2.besides u = s.besides u :=
  besides_map (retitled_becomes now id title) u (retitled_other hs hown now title)

/-- **A conversation of the user gets a title**: it is there, and the user's share changes in the
same way in both stores. -/
theorem Alike.renameConversation (h : Alike u s t) (now : Instant) {id : Int} (hown : s.Mine u id)
    (title : String) :
    (s.renameConversation now id title).1 = .ok true ∧
      Alike u (s.renameConversation now id title).2 (t.renameConversation now id title).2 := by
  have hbecomes := retitled_becomes now id title
  have hown' := (mine_congr h.same id).1 hown
  have hs := retitled_other h.left.ordered hown now title
  have ht := retitled_other h.right.ordered hown' now title
  refine ⟨?_, h.left.map hbecomes hs, h.right.map hbecomes ht, ?_⟩
  · obtain ⟨r, hr, hid, _⟩ := hown
    exact congrArg Except.ok (List.any_eq_true.2 ⟨r, hr, beq_iff_eq.2 hid⟩)
  · exact (share_map hbecomes u).trans (h.same ▸ (share_map hbecomes u).symm)

/-! ## Rows that a user adds -/

theorem present_map {α : Type} (entity : Fault.Entity) (id : Int) (r : Except Fault α) :
    present entity id (r.map some) = r := by
  cases r <;> rfl

/-- A row with the next number is found by it. -/
theorem Numbered.find?_append {ρ : Type} {id : ρ → Int} {rows : List ρ} {last : Int}
    (hrows : Numbered id rows last) {r : ρ} (hr : id r = last + 1) :
    (rows ++ [r]).find? (id · == last + 1) = some r := by
  have hnone : rows.find? (id · == last + 1) = none := by
    rw [List.find?_eq_none]
    intro x hx hit
    have := hrows.bounded x hx
    have := beq_iff_eq.1 hit
    omega
  rw [List.find?_append, hnone, Option.none_or, List.find?_singleton, hr, beq_self_eq_true,
    if_pos rfl]

/-- A conversation that is created is answered as its row is read. -/
theorem Ordered.createConversation_answer (hs : s.Ordered) (now : Instant)
    (title browserType : String) (userId : Option Int) :
    (s.createConversation now title browserType userId).1 =
      answer "Get conversation error" (s.runningRow now title browserType userId).read := by
  have hfind : (s.conversations ++ [s.runningRow now title browserType userId]).find?
      (·.id == s.lastConversation + 1) = some (s.runningRow now title browserType userId) :=
    hs.conversations.find?_append rfl
  have hsame : (s.createConversation now title browserType userId).1 =
      present .conversation (s.lastConversation + 1)
        (answer? "Get conversation error" ConversationRow.read
          ((s.conversations ++ [s.runningRow now title browserType userId]).find?
            (·.id == s.lastConversation + 1))) := rfl
  rw [hsame, hfind, answer?]
  exact present_map _ _ _

/-- A message that is added to a conversation is answered as its row is read. -/
theorem Ordered.createMessage_eq (hs : s.Ordered) (now : Instant) {c : Int}
    (hc : (s.conversation? c).isSome = true) (role : Message.Role) (content : String) :
    s.createMessage now c role content =
      (answer "Get message error" ((s.messageRow now c role content).read s.messageTimeColumn),
        { s with
          messages := s.messages ++ [s.messageRow now c role content]
          lastMessage := s.lastMessage + 1 }) := by
  have hfind : (s.messages ++ [s.messageRow now c role content]).find? (·.id == s.lastMessage + 1) =
      some (s.messageRow now c role content) := hs.messages.find?_append rfl
  have hsame : s.createMessage now c role content =
      (present .message (s.lastMessage + 1)
          (answer? "Get message error" (MessageRow.read s.messageTimeColumn)
            ((s.messages ++ [s.messageRow now c role content]).find? (·.id == s.lastMessage + 1))),
        { s with
          messages := s.messages ++ [s.messageRow now c role content]
          lastMessage := s.lastMessage + 1 }) := by
    rw [Store.createMessage, if_pos hc]
    rfl
  rw [hsame, hfind, answer?, present_map]

/-- A message that is created is answered as its row is read. -/
theorem Ordered.createMessage_answer (hs : s.Ordered) (now : Instant) {c : Int} (hc : s.Mine u c)
    (role : Message.Role) (content : String) :
    (s.createMessage now c role content).1 =
        answer "Get message error"
          ((s.messageRow now c role content).read s.messageTimeColumn) ∧
      (s.createMessage now c role content).2 =
        { s with
          messages := s.messages ++ [s.messageRow now c role content]
          lastMessage := s.lastMessage + 1 } := by
  have hparent : (s.conversation? c).isSome = true := by
    obtain ⟨r, hr, _⟩ := (hs.conversation?_mine c).1 hc
    rw [hr]
    rfl
  rw [hs.createMessage_eq now hparent]
  exact ⟨rfl, rfl⟩

/-- Whether a conversation can be read depends on its state and its times. -/
theorem read_conversation_kind {r r' : ConversationRow} (hstate : r.state = r'.state)
    (hcreated : r.createdAt = r'.createdAt) (hupdated : r.updatedAt = r'.updatedAt) :
    r.read.map (fun _ => ()) = r'.read.map fun _ => () := by
  unfold ConversationRow.read
  rw [hstate, hcreated, hupdated]
  cases Row.named Conversation.State.ofName? "conversation state" 2 r'.state with
  | error e => rfl
  | ok state =>
    cases Row.time 5 r'.createdAt with
    | error e => rfl
    | ok createdAt => cases Row.time 6 r'.updatedAt <;> rfl

theorem read_message_kind {r r' : MessageRow} (hrole : r.role = r'.role)
    (hcreated : r.createdAt = r'.createdAt) (column : Nat) :
    (r.read column).map (fun _ => ()) = (r'.read column).map fun _ => () := by
  unfold MessageRow.read
  rw [hrole, hcreated]
  cases Row.named Message.Role.ofName? "message role" 2 r'.role with
  | error e => rfl
  | ok role => cases Row.time column r'.createdAt <;> rfl

theorem answer_kind {α : Type} (doing : String) {r r' : Except Fault.StoreFlaw α}
    (h : r.map (fun _ => ()) = r'.map fun _ => ()) :
    (answer doing r).map (fun _ => ()) = (answer doing r').map fun _ => () := by
  cases r <;> cases r' <;> cases h <;> rfl

/-- **A conversation that the user creates** is answered in the same way in both stores, but
for its number. -/
theorem Alike.createConversation (h : Alike u s t) (now : Instant) (title browserType : String) :
    ((s.createConversation now title browserType (some u)).1.map fun _ => ()) =
      ((t.createConversation now title browserType (some u)).1.map fun _ => ()) := by
  rw [h.left.ordered.createConversation_answer, h.right.ordered.createConversation_answer]
  exact answer_kind _ (read_conversation_kind rfl rfl rfl)

/-- A new conversation of the user leaves the rest as it is: no message belongs to a conversation
that was not there. -/
theorem Ordered.besides_createConversation (hs : s.Ordered) (hrooted : s.Rooted) (now : Instant)
    (title browserType : String) :
    (s.createConversation now title browserType (some u)).2.besides u = s.besides u := by
  have hmine : ∀ r ∈ s.messages,
      (s.createConversation now title browserType (some u)).2.Mine u r.conversationId ↔
        s.Mine u r.conversationId := by
    intro r hr
    obtain ⟨c, hc, hid⟩ := hrooted r hr
    have hold := hs.conversations.bounded c hc
    constructor
    · rintro ⟨x, hx, hxid, hown⟩
      rcases List.mem_append.1 hx with hx | hx
      · exact ⟨x, hx, hxid, hown⟩
      · rw [List.mem_singleton.1 hx] at hxid
        simp only at hxid
        omega
    · rintro ⟨x, hx, hxid, hown⟩
      exact ⟨x, List.mem_append_left _ hx, hxid, hown⟩
  have htoo : ∀ a ∈ s.actions,
      (s.createConversation now title browserType (some u)).2.MineToo u a.messageId ↔
        s.MineToo u a.messageId := fun a _ =>
    exists_congr fun r => and_congr_right fun hr => and_congr_right fun _ => hmine r hr
  simp only [besides, Share.mk.injEq]
  refine ⟨filter_append_false fun r hr => ?_, ?_, ?_⟩
  · rw [List.mem_singleton.1 hr, beq_self_eq_true]
    rfl
  · exact List.filter_congr fun r hr => by rw [decide_eq_decide.2 (hmine r hr)]
  · exact List.filter_congr fun a ha => by rw [decide_eq_decide.2 (htoo a ha)]

/-- A new message of an own conversation leaves the rest as it is: no action serves a message
that was not there. -/
theorem besides_newMessage (hs : s.Ordered) (hanchored : s.Anchored) {row : MessageRow}
    (hid : row.id = s.lastMessage + 1) (hown : s.Mine u row.conversationId) (last : Int) :
    besides { s with messages := s.messages ++ [row], lastMessage := last } u = s.besides u := by
  have htoo : ∀ a ∈ s.actions,
      MineToo { s with messages := s.messages ++ [row], lastMessage := last } u a.messageId ↔
        s.MineToo u a.messageId := by
    intro a ha
    obtain ⟨r, hr, hparent⟩ := hanchored a ha
    have hold := hs.messages.bounded r hr
    constructor
    · rintro ⟨x, hx, hxid, hmine⟩
      rcases List.mem_append.1 hx with hx | hx
      · exact ⟨x, hx, hxid, hmine⟩
      · rw [List.mem_singleton.1 hx] at hxid
        omega
    · rintro ⟨x, hx, hxid, hmine⟩
      exact ⟨x, List.mem_append_left _ hx, hxid, hmine⟩
  simp only [besides, Share.mk.injEq, true_and]
  refine ⟨filter_append_false fun r hr => ?_, ?_⟩
  · have hmine : Mine { s with messages := s.messages ++ [row], lastMessage := last } u
        row.conversationId := hown
    rw [List.mem_singleton.1 hr, decide_eq_true hmine]
    rfl
  · exact List.filter_congr fun a ha => by rw [decide_eq_decide.2 (htoo a ha)]

theorem Ordered.besides_createMessage (hs : s.Ordered) (hanchored : s.Anchored) (now : Instant)
    {c : Int} (hc : s.Mine u c) (role : Message.Role) (content : String) :
    (s.createMessage now c role content).2.besides u = s.besides u := by
  rw [(hs.createMessage_answer now hc role content).2]
  exact besides_newMessage hs hanchored rfl hc _

/-- **A message that the user adds** to an own conversation is answered in the same way in both
stores, but for its number. -/
theorem Alike.createMessage (h : Alike u s t) (now : Instant) {c : Int} (hc : s.Mine u c)
    (role : Message.Role) (content : String) :
    ((s.createMessage now c role content).1.map fun _ => ()) =
      ((t.createMessage now c role content).1.map fun _ => ()) := by
  obtain ⟨hanswer, _⟩ := h.left.ordered.createMessage_answer now hc role content
  obtain ⟨hanswer', _⟩ :=
    h.right.ordered.createMessage_answer now ((mine_congr h.same c).1 hc) role content
  have hkind : ((s.messageRow now c role content).read timeColumn).map (fun _ => ()) =
      ((t.messageRow now c role content).read timeColumn).map fun _ => () := by
    apply read_message_kind
    · rfl
    · rfl
  rw [hanswer, hanswer', h.left.column, h.right.column]
  exact answer_kind _ hkind

end Store

end ControlPlane
