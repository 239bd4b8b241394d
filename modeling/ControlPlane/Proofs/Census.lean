/-
Who is counted.

A count goes through one table and looks up the conversation to which a row belongs. The row is
counted if the conversation is there and passes the filter by user, and if the row was created
within the window (`Ordered.messageCounts_eq`, `Ordered.actionCounts_eq`). Where numbers name one
row, no row is counted twice for it.

A conversation that is there belongs to one user, or to nobody. So what is counted over all users
is what is counted for each owner, added up, and what belongs to nobody (`countMessages_owners`,
`countActions_owners`).
-/
import ControlPlane.Proofs.Share
import ControlPlane.Proofs.Tally
import Mathlib.Data.List.Dedup

set_option autoImplicit false

namespace ControlPlane

/-- The conversation passes a filter by user; without a user, all do. -/
def ConversationRow.Passes (r : ConversationRow) (user : Option Int) : Prop :=
  user = none ∨ r.userId = user

instance (r : ConversationRow) (user : Option Int) : Decidable (r.Passes user) :=
  inferInstanceAs (Decidable (user = none ∨ r.userId = user))

/-- The window is open at the time that is stored. -/
def Window.covers (w : Window) (createdAt : String) : Bool :=
  Store.inWindow ⟨none, w.since, w.until_⟩ none createdAt

namespace Store

variable {s : Store}

/-! ## Looking up the conversation -/

/-- A conversation is there and passes a filter by user. -/
def Passing (s : Store) (user : Option Int) (c : Int) : Prop :=
  ∃ r ∈ s.conversations, r.id = c ∧ r.Passes user

instance (s : Store) (user : Option Int) (c : Int) : Decidable (s.Passing user c) :=
  inferInstanceAs (Decidable (∃ r ∈ s.conversations, r.id = c ∧ r.Passes user))

/-- A message is there, and its conversation passes a filter by user. -/
def PassingToo (s : Store) (user : Option Int) (m : Int) : Prop :=
  ∃ r ∈ s.messages, r.id = m ∧ s.Passing user r.conversationId

instance (s : Store) (user : Option Int) (m : Int) : Decidable (s.PassingToo user m) :=
  inferInstanceAs (Decidable (∃ r ∈ s.messages, r.id = m ∧ s.Passing user r.conversationId))

/-- A filter without a user lets all owners pass, and one with a user that user. -/
theorem filter_eq (user owner : Option Int) :
    (user.isNone || owner == user) = decide (user = none ∨ owner = user) := by
  rw [Bool.eq_iff_iff, Bool.or_eq_true, Option.isNone_iff_eq_none, beq_iff_eq, decide_eq_true_eq]

/-- What is in a window passes its filter and lies in its time. -/
theorem inWindow_eq (w : Window) (owner : Option Int) (createdAt : String) :
    inWindow w owner createdAt =
      (decide (w.userId = none ∨ owner = w.userId) && w.covers createdAt) := by
  unfold Window.covers inWindow
  rw [filter_eq, Option.isNone_none, Bool.true_or, Bool.true_and, Bool.and_assoc]

/-- Where numbers name one row, looking up a number finds the row with it. -/
theorem Numbered.find?_elim {ρ : Type} {id : ρ → Int} {rows : List ρ} {last : Int}
    (h : Numbered id rows last) (n : Int) (p : ρ → Bool) :
    (rows.find? (id · == n)).elim false p = decide (∃ r ∈ rows, id r = n ∧ p r = true) := by
  cases hfind : rows.find? (id · == n) with
  | none =>
      refine (decide_eq_false ?_).symm
      rintro ⟨r, hr, hid, -⟩
      exact List.find?_eq_none.1 hfind r hr (beq_iff_eq.2 hid)
  | some r =>
      have hr := List.mem_of_find?_eq_some hfind
      have hid : id r = n := by simpa using List.find?_some hfind
      rw [Option.elim_some, Bool.eq_iff_iff, decide_eq_true_eq]
      refine ⟨fun hp => ⟨r, hr, hid, hp⟩, ?_⟩
      rintro ⟨r', hr', hid', hp⟩
      rwa [h.eq_of_id_eq hr hr' (hid.trans hid'.symm)]

/-- A message counts in a window if its conversation passes, and it lies in the time. -/
theorem Ordered.messageCounts_eq (hs : s.Ordered) (w : Window) (m : MessageRow) :
    s.messageCounts w m =
      (decide (s.Passing w.userId m.conversationId) && w.covers m.createdAt) := by
  have hfind : s.messageCounts w m =
      (s.conversation? m.conversationId).elim false fun c => inWindow w c.userId m.createdAt := by
    unfold messageCounts
    cases s.conversation? m.conversationId with
    | none => rfl
    | some c => rfl
  rw [hfind, conversation?, hs.conversations.find?_elim]
  refine Bool.eq_iff_iff.2 ?_
  simp only [inWindow_eq, Bool.and_eq_true, decide_eq_true_eq]
  constructor
  · rintro ⟨r, hr, hid, howner, htime⟩
    exact ⟨⟨r, hr, hid, howner⟩, htime⟩
  · rintro ⟨⟨r, hr, hid, howner⟩, htime⟩
    exact ⟨r, hr, hid, howner, htime⟩

/-- An action counts in a window if its message passes, and it lies in the time. -/
theorem Ordered.actionCounts_eq (hs : s.Ordered) (w : Window) (a : ActionRow) :
    s.actionCounts w a = (decide (s.PassingToo w.userId a.messageId) && w.covers a.createdAt) := by
  -- an action is counted as a message of its own time would be
  have hfind : s.actionCounts w a =
      (s.message? a.messageId).elim false fun m =>
        s.messageCounts w { m with createdAt := a.createdAt } := by
    unfold actionCounts messageCounts
    cases s.message? a.messageId with
    | none => rfl
    | some m => rfl
  rw [hfind, message?, hs.messages.find?_elim]
  refine Bool.eq_iff_iff.2 ?_
  simp only [hs.messageCounts_eq, Bool.and_eq_true, decide_eq_true_eq]
  constructor
  · rintro ⟨m, hm, hid, hpasses, htime⟩
    exact ⟨⟨m, hm, hid, hpasses⟩, htime⟩
  · rintro ⟨⟨m, hm, hid, hpasses⟩, htime⟩
    exact ⟨m, hm, hid, hpasses, htime⟩

/-- The rows of a status, if one is asked for. -/
def ofStatus (status : Option Action.Status) (a : ActionRow) : Bool :=
  status.elim true fun st => a.status == st.name

/-- The messages in a window are those that lie in its time, of conversations that pass. -/
theorem Ordered.countMessages_eq (hs : s.Ordered) (w : Window) :
    s.countMessages w = (s.messages.filter fun m =>
      w.covers m.createdAt && decide (s.Passing w.userId m.conversationId)).length := by
  unfold countMessages
  congr 2
  funext m
  rw [hs.messageCounts_eq, Bool.and_comm]

/-- The actions in a window are those of a status that lie in its time, of messages that pass. -/
theorem Ordered.countActions_eq (hs : s.Ordered) (w : Window) (status : Option Action.Status) :
    s.countActions w status = (s.actions.filter fun a =>
      (w.covers a.createdAt && ofStatus status a) &&
        decide (s.PassingToo w.userId a.messageId)).length := by
  unfold countActions
  congr 2
  funext a
  rw [hs.actionCounts_eq, Bool.and_comm (decide _), Bool.and_assoc, Bool.and_assoc,
    Bool.and_comm (decide _)]
  cases status with
  | none => rfl
  | some st => rfl

/-! ## Owners -/

/-- A conversation is there and belongs to a user, or to nobody. -/
def Owned (s : Store) (owner : Option Int) (c : Int) : Prop :=
  ∃ r ∈ s.conversations, r.id = c ∧ r.userId = owner

instance (s : Store) (owner : Option Int) (c : Int) : Decidable (s.Owned owner c) :=
  inferInstanceAs (Decidable (∃ r ∈ s.conversations, r.id = c ∧ r.userId = owner))

/-- A message is there, and its conversation belongs to a user, or to nobody. -/
def OwnedToo (s : Store) (owner : Option Int) (m : Int) : Prop :=
  ∃ r ∈ s.messages, r.id = m ∧ s.Owned owner r.conversationId

instance (s : Store) (owner : Option Int) (m : Int) : Decidable (s.OwnedToo owner m) :=
  inferInstanceAs (Decidable (∃ r ∈ s.messages, r.id = m ∧ s.Owned owner r.conversationId))

/-- The users to whom conversations belong, each once. -/
def owners (s : Store) : List Int := (s.conversations.filterMap (·.userId)).dedup

/-- A conversation has one owner. -/
theorem Ordered.owned_unique (hs : s.Ordered) {c : Int} {o o' : Option Int} (h : s.Owned o c)
    (h' : s.Owned o' c) : o = o' := by
  obtain ⟨r, hr, hid, rfl⟩ := h
  obtain ⟨r', hr', hid', rfl⟩ := h'
  rw [hs.conversations.eq_of_id_eq hr hr' (hid.trans hid'.symm)]

/-- A message has one owner. -/
theorem Ordered.ownedToo_unique (hs : s.Ordered) {m : Int} {o o' : Option Int}
    (h : s.OwnedToo o m) (h' : s.OwnedToo o' m) : o = o' := by
  obtain ⟨r, hr, hid, howned⟩ := h
  obtain ⟨r', hr', hid', howned'⟩ := h'
  rw [hs.messages.eq_of_id_eq hr' hr (hid'.trans hid.symm)] at howned'
  exact hs.owned_unique howned howned'

/-- The filter of a user lets the conversations of that user pass. -/
theorem passing_some (s : Store) (u c : Int) : s.Passing (some u) c ↔ s.Owned (some u) c := by
  simp only [Passing, Owned, ConversationRow.Passes, reduceCtorEq, false_or]

/-- The filter of a user lets the messages of that user pass. -/
theorem passingToo_some (s : Store) (u m : Int) :
    s.PassingToo (some u) m ↔ s.OwnedToo (some u) m := by
  simp only [PassingToo, OwnedToo, passing_some]

/-- Who owns what is there: one of the owners, or nobody. -/
theorem passing_none (s : Store) (c : Int) :
    s.Passing none c ↔ ∃ o ∈ none :: s.owners.map some, s.Owned o c := by
  constructor
  · rintro ⟨r, hr, hid, -⟩
    refine ⟨r.userId, ?_, r, hr, hid, rfl⟩
    cases howner : r.userId with
    | none => exact List.mem_cons_self
    | some u =>
        refine List.mem_cons_of_mem _ (List.mem_map_of_mem (List.mem_dedup.2 ?_))
        exact List.mem_filterMap.2 ⟨r, hr, howner⟩
  · rintro ⟨o, -, r, hr, hid, -⟩
    exact ⟨r, hr, hid, Or.inl rfl⟩

/-- Without a filter a message passes whoever it belongs to, if only to somebody listed, or to
nobody. -/
theorem passingToo_none (s : Store) (m : Int) :
    s.PassingToo none m ↔ ∃ o ∈ none :: s.owners.map some, s.OwnedToo o m := by
  simp only [PassingToo, OwnedToo, passing_none]
  constructor
  · rintro ⟨r, hr, hid, o, ho, howned⟩
    exact ⟨o, ho, r, hr, hid, howned⟩
  · rintro ⟨o, ho, r, hr, hid, howned⟩
    exact ⟨r, hr, hid, o, ho, howned⟩

/-- No owner is listed twice. -/
theorem owners_nodup (s : Store) : (none :: s.owners.map some).Nodup := by
  refine List.nodup_cons.2 ⟨?_, (List.nodup_dedup _).map fun _ _ h => Option.some.inj h⟩
  intro h
  obtain ⟨u, -, hu⟩ := List.mem_map.1 h
  cases hu

/-- Rows of which each is under one owner, or under nobody, are counted owner by owner. -/
theorem total_owners {ρ : Type} {rows : List ρ} (s : Store) (p : ρ → Bool)
    {under : Option Int → ρ → Bool}
    (hone : ∀ r ∈ rows, ∀ o o', under o r = true → under o' r = true → o = o') :
    (rows.filter fun r => p r && (none :: s.owners.map some).any fun o => under o r).length =
      Integer.total (s.owners.map fun u => (rows.filter fun r => p r && under (some u) r).length) +
        (rows.filter fun r => p r && under none r).length := by
  rw [← total_filter_classes s.owners_nodup p hone, List.map_cons, Integer.total, List.map_map,
    Nat.add_comm]
  rfl

/-- **Messages by owner.** -/
theorem Ordered.countMessages_owners (hs : s.Ordered) (since until_ : Option Instant) :
    s.countMessages ⟨none, since, until_⟩ =
      Integer.total (s.owners.map fun u => s.countMessages ⟨some u, since, until_⟩) +
        (s.messages.filter fun m => Window.covers ⟨none, since, until_⟩ m.createdAt &&
          decide (s.Owned none m.conversationId)).length := by
  have hany : ∀ c, decide (s.Passing none c) =
      (none :: s.owners.map some).any fun o => decide (s.Owned o c) := by
    intro c
    refine Bool.eq_iff_iff.2 ?_
    simp only [decide_eq_true_eq, List.any_eq_true, passing_none]
  simp only [hs.countMessages_eq, hany, passing_some]
  exact total_owners s _ fun m _ o o' ho ho' =>
    hs.owned_unique (of_decide_eq_true ho) (of_decide_eq_true ho')

/-- **Actions by owner.** -/
theorem Ordered.countActions_owners (hs : s.Ordered) (since until_ : Option Instant)
    (status : Option Action.Status) :
    s.countActions ⟨none, since, until_⟩ status =
      Integer.total (s.owners.map fun u => s.countActions ⟨some u, since, until_⟩ status) +
        (s.actions.filter fun a =>
          (Window.covers ⟨none, since, until_⟩ a.createdAt && ofStatus status a) &&
            decide (s.OwnedToo none a.messageId)).length := by
  have hany : ∀ m, decide (s.PassingToo none m) =
      (none :: s.owners.map some).any fun o => decide (s.OwnedToo o m) := by
    intro m
    refine Bool.eq_iff_iff.2 ?_
    simp only [decide_eq_true_eq, List.any_eq_true, passingToo_none]
  simp only [hs.countActions_eq, hany, passingToo_some]
  exact total_owners s _ fun a _ o o' ho ho' =>
    hs.ownedToo_unique (of_decide_eq_true ho) (of_decide_eq_true ho')

end Store

end ControlPlane
