/-
What the store reports.

Whoever calls the store goes by its answers: on them depends whether a model is asked and whether
a client is told. An answer can be a fault, it can say that nothing was changed
(`Call.Denies`), or that something was (`Call.Affirms`). Here it is shown that answers are
true. A fault of a call that writes is one of a few refusals (`Refusal`), and a call that is
refused, or denies, has left the store as it was. A call that affirms has replaced one row, which
was in the state that the call needs, and nothing else (`Lands`). What is skipped is told
completely, by sequence, and as it now stands (`Skipped`).

Refusals are the only faults. Four calls read back the rows that they have written, and what was
written at a legible time can be read.
-/
import ControlPlane.Proofs.Budget
import ControlPlane.Proofs.Condition

set_option autoImplicit false

namespace ControlPlane

namespace Store

variable {s s' : Store} {now : Instant} {call : Call}

/-! ## One row is replaced -/

/-- One row of a table is another one afterwards, and the others stay where they are. -/
def Replaces {ρ : Type} (rows rows' : List ρ) (r r' : ρ) : Prop :=
  ∃ before after, rows = before ++ r :: after ∧ rows' = before ++ r' :: after

section Numbered

variable {ρ : Type} {id : ρ → Int} {rows rows' : List ρ} {last i : Int} {p : ρ → Bool} {f : ρ → ρ}

/-- A change of the rows with a number, of which there is but one, replaces this one. -/
theorem Numbered.modify_eq (h : Numbered id rows last) (hp : ∀ r, p r = true → id r = i) {r : ρ}
    {before after : List ρ} (hrows : rows = before ++ r :: after) (hr : p r = true) :
    modify p f rows = before ++ f r :: after := by
  subst hrows
  have hothers : ∀ x ∈ before ++ after, p x = false := by
    intro x hx
    rw [Bool.eq_false_iff]
    intro hit
    have hnodup : (id r :: (before ++ after).map id).Nodup := by
      have hperm : (before ++ r :: after).Perm (r :: (before ++ after)) := List.perm_middle
      exact (hperm.map id).nodup_iff.1 h.nodup
    refine (List.nodup_cons.1 hnodup).1 ?_
    rw [hp r hr, ← hp x hit]
    exact List.mem_map_of_mem hx
  have hbefore := modify_of_forall_not (f := f) fun x hx => hothers x (List.mem_append_left _ hx)
  have hafter := modify_of_forall_not (f := f) fun x hx => hothers x (List.mem_append_right _ hx)
  rw [modify] at hbefore hafter
  rw [modify, List.map_append, List.map_cons, hbefore, hafter, if_pos hr]

/-- A change of the row with a number, if it is in some state, replaces this row. -/
theorem Numbered.replaces (h : Numbered id rows last) {q : ρ → Bool}
    (hany : (rows.any fun r => id r == i && q r) = true) :
    ∃ r, id r = i ∧ q r = true ∧
      Replaces rows (modify (fun r => id r == i && q r) f rows) r (f r) := by
  obtain ⟨r, hr, hit⟩ := List.any_eq_true.1 hany
  obtain ⟨hid, hq⟩ := Bool.and_eq_true_iff.1 hit
  obtain ⟨before, after, hrows⟩ := List.append_of_mem hr
  have hp : ∀ x, (id x == i && q x) = true → id x = i :=
    fun x hx => beq_iff_eq.1 (Bool.and_eq_true_iff.1 hx).1
  exact ⟨r, beq_iff_eq.1 hid, hq, before, after, hrows, h.modify_eq hp hrows hit⟩

/-- What replaces the row with a number is what a change of it makes of it. -/
theorem Numbered.modify_of_replaces (h : Numbered id rows last) {q : ρ → Bool} {r : ρ}
    (hq : q r = true) (hrows : Replaces rows rows' r (f r)) :
    (rows.any fun x => id x == id r && q x) = true ∧
      modify (fun x => id x == id r && q x) f rows = rows' := by
  obtain ⟨before, after, rfl, rfl⟩ := hrows
  have hit : (id r == id r && q r) = true := by rw [beq_self_eq_true, Bool.true_and, hq]
  refine ⟨List.any_eq_true.2 ⟨r, List.mem_append_right _ List.mem_cons_self, hit⟩, ?_⟩
  exact h.modify_eq (fun x hx => beq_iff_eq.1 (Bool.and_eq_true_iff.1 hx).1) rfl hit

end Numbered

/-- A change that finds no row changes nothing. -/
theorem modify_of_any_eq_false {ρ : Type} {rows : List ρ} {p : ρ → Bool} (f : ρ → ρ)
    (h : rows.any p = false) : modify p f rows = rows :=
  modify_of_forall_not fun r hr => Bool.eq_false_iff.2 (List.any_eq_false.1 h r hr)

/-! ## What an answer says -/

/-- The answer says that nothing was changed. -/
def Call.Denies : (call : Call) → call.Answer → Prop
  | .renameConversation _ _, done => done = false
  | .endConversation _ _, done => done = false
  | .startAction _, done => done = false
  | .completeAction _ _ _ _, done => done = false
  | .forceAction _ _ _, done => done = false
  | .skipOpenActions _ _, skipped => skipped = []
  | _, _ => False

/-- The answer says that a row was changed. -/
def Call.Affirms : (call : Call) → call.Answer → Prop
  | .renameConversation _ _, done => done = true
  | .endConversation _ _, done => done = true
  | .startAction _, done => done = true
  | .completeAction _ _ _ _, done => done = true
  | .forceAction _ _ _, done => done = true
  | _, _ => False

/-- Why a call that writes is refused. -/
inductive Refusal (s : Store) : Call → Fault → Prop where
  /-- A message needs a conversation. -/
  | noConversation {c : Int} (role : Message.Role) (content : String)
      (h : s.conversation? c = none) :
      Refusal s (.createMessage c role content) (.store "Insert message error" .noParent)
  /-- An action needs a message. -/
  | noMessage {m : Int} (kind : Action.Kind) (parameters : Action.Parameters)
      (h : s.message? m = none) :
      Refusal s (.createAction m kind parameters) (.store "Insert action error" .noParent)
  /-- Nothing moves to a state in which a conversation goes on. -/
  | unended (id : Int) {st : Conversation.State} (h : st.isTerminal = false) :
      Refusal s (.endConversation id st) (.cannotMove id st)
  /-- A result is a success or a failure. -/
  | uncompleted (id : Int) {st : Action.Status} (h : ¬ (st = .success ∨ st = .failed))
      (e : Option String) (x : Option Int) :
      Refusal s (.completeAction id st e x) (.cannotComplete id st)
  /-- Nothing is forced to a status in which an action goes on. -/
  | unforced (id : Int) {st : Action.Status} (h : st.isTerminal = false) (reason : String) :
      Refusal s (.forceAction id st reason) (.cannotForce id st)
  /-- Failures are counted for a message that is there. -/
  | uncounted {m : Int} (h : s.message? m = none) :
      Refusal s (.recordFailure m) (.missing .message m)

/-- One row, in the state that a call needs, now holds what the call writes; nothing else has
changed. -/
inductive Lands (s : Store) (now : Instant) : Call → Store → Prop where
  /-- Any conversation can be renamed. -/
  | renames {r : ConversationRow} {rows : List ConversationRow} (title : String)
      (h : Replaces s.conversations rows r
        { r with title := title, updatedAt := now.storedText }) :
      Lands s now (.renameConversation r.id title) { s with conversations := rows }
  /-- A running conversation comes to an end. -/
  | ends {r : ConversationRow} {rows : List ConversationRow} {st : Conversation.State}
      (hst : st.isTerminal = true) (hr : r.isRunning = true)
      (h : Replaces s.conversations rows r
        { r with state := st.name, updatedAt := now.storedText }) :
      Lands s now (.endConversation r.id st) { s with conversations := rows }
  /-- A pending action is handed out. -/
  | starts {a : ActionRow} {rows : List ActionRow} (ha : a.status = Action.Status.pending.name)
      (h : Replaces s.actions rows a
        { a with
          status := Action.Status.running.name, startedAt := some now.storedText }) :
      Lands s now (.startAction a.id) { s with actions := rows }
  /-- A running action has its result. -/
  | completes {a : ActionRow} {rows : List ActionRow} {st : Action.Status}
      (hst : st = .success ∨ st = .failed) (ha : a.status = Action.Status.running.name)
      (e : Option String) (x : Option Int)
      (h : Replaces s.actions rows a
        { a with
          status := st.name, errorMessage := e, executionTime := x,
          finishedAt := some now.storedText }) :
      Lands s now (.completeAction a.id st e x) { s with actions := rows }
  /-- An open action is ended from outside. -/
  | forces {a : ActionRow} {rows : List ActionRow} {st : Action.Status}
      (hst : st.isTerminal = true) (ha : a.isOpen = true) (reason : String)
      (h : Replaces s.actions rows a
        { a with
          status := st.name, errorMessage := some reason, finishedAt := some now.storedText }) :
      Lands s now (.forceAction a.id st reason) { s with actions := rows }

/-! ## Refusals -/

/-- A call that is refused changes nothing. -/
theorem Refusal.perform {f : Fault} (h : Refusal s call f) (now : Instant) :
    s.perform now call = (.error f, s) := by
  cases h with
  | noConversation role content h =>
      simp only [Store.perform, createMessage, h, Option.isSome_none, Bool.false_eq_true, if_false,
        failure]
  | noMessage kind parameters h =>
      simp only [Store.perform, createAction, h, Option.isSome_none, Bool.false_eq_true, if_false,
        failure]
  | unended id h => simp only [Store.perform, endConversation, h, Bool.false_eq_true, if_false]
  | uncompleted id h e x => simp only [Store.perform, completeAction, if_neg h]
  | unforced id h reason =>
      simp only [Store.perform, forceAction, h, Bool.false_eq_true, if_false]
  | uncounted h => simp only [Store.perform, recordFailure, h]

/-- No counter is negative. -/
def Counting (s : Store) : Prop := ∀ r ∈ s.messages, 0 ≤ r.failures

/-- A call that counts no failure takes no counter below zero. -/
theorem Change.counting (h : s.Change now call s') (hcall : ¬ call.Counts) (hs : s.Counting) :
    s'.Counting := by
  cases h with
  | messages _ f hf hcounts => exact absurd hcounts hcall
  | newMessage c role content _ =>
      intro r hr
      rcases List.mem_append.1 hr with hr | hr
      · exact hs r hr
      · rw [List.mem_singleton.1 hr]
        exact Int.le_refl 0
  | _ => exact hs

/-- No call takes a counter below zero. -/
theorem perform_counting (hs : s.Counting) (now : Instant) (call : Call) :
    (s.perform now call).2.Counting := by
  cases call with
  | recordFailure m =>
      simp only [perform, recordFailure]
      split
      · exact hs
      · exact forall_mem_modify hs fun r hr => by dsimp only; omega
  | resetFailures m => exact forall_mem_modify hs fun r _ => Int.le_refl 0
  | _ => exact (s.perform_change now _).counting id hs

theorem replay_counting (calls : List (Instant × Call)) : (Store.empty.replay calls).Counting :=
  replay_induction (P := Counting) (fun _ e _ hs => perform_counting hs e.1 e.2)
    (List.forall_mem_nil _)

theorem Counting.failuresOf (hs : s.Counting) (m : Int) : 0 ≤ s.failuresOf m := by
  rw [Store.failuresOf]
  cases hr : s.message? m with
  | none => exact Int.le_refl 0
  | some r => exact hs r (List.mem_of_find?_eq_some hr)

/-- A failure of a message that is there is counted, unless its counter is full. -/
theorem Counting.recordFailure (hs : s.Counting) {m : Int} {r : MessageRow}
    (hr : s.message? m = some r) (hfew : r.failures < 4294967295) :
    (s.recordFailure m).1 = .ok (r.failures + 1).toNat := by
  have hpositive := hs r (List.mem_of_find?_eq_some hr)
  simp only [Store.recordFailure, hr, counter_succ hpositive hfew]

/-- What was just added at a legible time can be read. -/
theorem Ordered.createConversation_ok (hs : s.Ordered) (hnow : now.Legible)
    (title browserType : String) (userId : Option Int) :
    ∃ v, (s.createConversation now title browserType userId).1 = .ok v := by
  have hstored := Stamp.isStored hnow
  have hrow : (s.runningRow now title browserType userId).Readable :=
    ⟨⟨.running, rfl⟩, hstored, hstored⟩
  obtain ⟨v, hv⟩ := hrow.read
  exact ⟨v, by rw [hs.createConversation_answer, hv, answer]⟩

/-- At a legible time a message can be added to a conversation that is there. -/
theorem Ordered.createMessage_ok (hs : s.Ordered) (hnow : now.Legible) {c : Int}
    (hc : (s.conversation? c).isSome = true) (role : Message.Role) (content : String) :
    ∃ v, (s.createMessage now c role content).1 = .ok v := by
  have hrow : (s.messageRow now c role content).Readable := ⟨⟨role, rfl⟩, Stamp.isStored hnow⟩
  obtain ⟨v, hv⟩ := hrow.read s.messageTimeColumn
  exact ⟨v, by rw [hs.createMessage_eq now hc, hv, answer]⟩

/-- At a legible time an action can be added for a message that is there. -/
theorem Ordered.createAction_ok (hs : s.Ordered) (hnow : now.Legible) {m : Int} {r : MessageRow}
    (hr : s.message? m = some r) (kind : Action.Kind) (parameters : Action.Parameters) :
    ∃ v, (s.createAction now m kind parameters).1 = .ok v := by
  have howns : s.Owns r.conversationId m := ⟨r, List.mem_of_find?_eq_some hr, message?_id hr, rfl⟩
  have hrow : (s.pendingRow now m kind parameters).Readable :=
    ⟨⟨kind, rfl⟩, ⟨.pending, rfl⟩, Stamp.isStored hnow, fun _ h => (by cases h),
      fun _ h => (by cases h)⟩
  obtain ⟨v, hv⟩ := getAction_added hs rfl hrow
  exact ⟨v, by rw [createAction_added howns, hv, present]⟩

/-- If there is a reason to refuse, the fault that is answered is the one of that reason. -/
theorem Refusal.of_error {f g : Fault} (hrefusal : Refusal s call g)
    (h : (s.perform now call).1 = .error f) : Refusal s call f := by
  rw [hrefusal.perform] at h
  cases h
  exact hrefusal

/-- There is no fault of a call that writes but the refusals: what it reads back can be read. -/
theorem refused (hordered : s.Ordered) (hcounting : s.Counting)
    (hfew : ∀ r ∈ s.messages, r.failures < 4294967295) (hreadable : s.Readable)
    (hnow : now.Legible) (hwrites : ¬ call.Reads) {f : Fault}
    (h : (s.perform now call).1 = .error f) : Refusal s call f := by
  cases call with
  | createConversation title browserType userId =>
      obtain ⟨v, hv⟩ := hordered.createConversation_ok hnow title browserType userId
      have hclash := hv.symm.trans h
      cases hclash
  | createMessage c role content =>
      cases hparent : s.conversation? c with
      | none => exact (Refusal.noConversation role content hparent).of_error h
      | some r =>
          have hc : (s.conversation? c).isSome = true := by rw [hparent, Option.isSome_some]
          obtain ⟨v, hv⟩ := hordered.createMessage_ok hnow hc role content
          have hclash := hv.symm.trans h
          cases hclash
  | createAction m kind parameters =>
      cases hparent : s.message? m with
      | none => exact (Refusal.noMessage kind parameters hparent).of_error h
      | some r =>
          obtain ⟨v, hv⟩ := hordered.createAction_ok hnow hparent kind parameters
          have hclash := hv.symm.trans h
          cases hclash
  | skipOpenActions m reason =>
      obtain ⟨skipped, hskipped⟩ := skipOpenActions_answers hnow hreadable m reason
      have hclash := hskipped.symm.trans h
      cases hclash
  | recordFailure m =>
      cases hfound : s.message? m with
      | none => exact (Refusal.uncounted hfound).of_error h
      | some r =>
          have hcounted :=
            hcounting.recordFailure hfound (hfew r (List.mem_of_find?_eq_some hfound))
          have hclash := hcounted.symm.trans h
          cases hclash
  | endConversation id st =>
      cases hst : st.isTerminal with
      | true => simp only [perform, endConversation, hst, if_true, reduceCtorEq] at h
      | false => exact (Refusal.unended id hst).of_error h
  | completeAction id st e x =>
      by_cases hst : st = .success ∨ st = .failed
      · simp only [perform, completeAction, if_pos hst, reduceCtorEq] at h
      · exact (Refusal.uncompleted id hst e x).of_error h
  | forceAction id st reason =>
      cases hst : st.isTerminal with
      | true => simp only [perform, forceAction, hst, if_true, reduceCtorEq] at h
      | false => exact (Refusal.unforced id hst reason).of_error h
  | renameConversation => cases h
  | resetFailures => cases h
  | startAction => cases h
  | _ => exact absurd trivial hwrites

/-! ## Denials -/

/-- A call that denies has changed nothing. -/
theorem Ordered.denied (hs : s.Ordered) {a : call.Answer} (h : (s.perform now call).1 = .ok a)
    (hdenies : call.Denies a) : (s.perform now call).2 = s := by
  cases call with
  | renameConversation id title =>
      have hmiss := (Except.ok.inj h).trans hdenies
      exact congrArg (fun rows => { s with conversations := rows })
        (modify_of_any_eq_false _ hmiss)
  | endConversation id st =>
      simp only [perform, endConversation] at h ⊢
      split at h
      next hst =>
        have hmiss := (Except.ok.inj h).trans hdenies
        rw [if_pos hst, modify_of_any_eq_false _ hmiss]
      next => cases h
  | startAction id =>
      have hmiss := (Except.ok.inj h).trans hdenies
      exact congrArg (fun rows => { s with actions := rows }) (modify_of_any_eq_false _ hmiss)
  | completeAction id st e x =>
      simp only [perform, completeAction] at h ⊢
      split at h
      next hst =>
        have hmiss := (Except.ok.inj h).trans hdenies
        rw [if_pos hst, modify_of_any_eq_false _ hmiss]
      next => cases h
  | forceAction id st reason =>
      simp only [perform, forceAction] at h ⊢
      split at h
      next hst =>
        have hmiss := (Except.ok.inj h).trans hdenies
        rw [if_pos hst, modify_of_any_eq_false _ hmiss]
      next => cases h
  | skipOpenActions m reason =>
      -- no action was named, so there was none to go through
      have hnone : s.openIds m = [] := by
        rw [← skipOpenActions_ids hs h, show a = [] from hdenies, List.map_nil]
      have hsame : s.skipOpenActions now m reason = skipEach now reason (s.openIds m) s := rfl
      rw [perform, hsame, hnone, skipEach]
  | _ => exact hdenies.elim

/-! ## Changes of one row -/

/-- A call that affirms has changed the one row that it is about. -/
theorem Ordered.lands (hs : s.Ordered) {a : call.Answer} (h : (s.perform now call).1 = .ok a)
    (haffirms : call.Affirms a) : Lands s now call (s.perform now call).2 := by
  cases call with
  | renameConversation id title =>
      -- any state will do
      have hany : (s.conversations.any fun r => r.id == id && true) = true := by
        simpa only [Bool.and_true] using (Except.ok.inj h).trans haffirms
      obtain ⟨r, rfl, -, hrows⟩ := hs.conversations.replaces hany
      simp only [Bool.and_true] at hrows
      exact .renames title hrows
  | endConversation id st =>
      simp only [perform, endConversation] at h ⊢
      split at h
      next hst =>
        obtain ⟨r, rfl, hrunning, hrows⟩ :=
          hs.conversations.replaces ((Except.ok.inj h).trans haffirms)
        rw [if_pos hst]
        exact .ends hst hrunning hrows
      next => cases h
  | startAction id =>
      obtain ⟨r, rfl, hpending, hrows⟩ := hs.actions.replaces ((Except.ok.inj h).trans haffirms)
      exact .starts (beq_iff_eq.1 hpending) hrows
  | completeAction id st e x =>
      simp only [perform, completeAction] at h ⊢
      split at h
      next hst =>
        obtain ⟨r, rfl, hrunning, hrows⟩ := hs.actions.replaces ((Except.ok.inj h).trans haffirms)
        rw [if_pos hst]
        exact .completes hst (beq_iff_eq.1 hrunning) e x hrows
      next => cases h
  | forceAction id st reason =>
      simp only [perform, forceAction] at h ⊢
      split at h
      next hst =>
        obtain ⟨r, rfl, hopen, hrows⟩ := hs.actions.replaces ((Except.ok.inj h).trans haffirms)
        rw [if_pos hst]
        exact .forces hst hopen reason hrows
      next => cases h
  | _ => exact haffirms.elim

/-- Where there is the row that a call is about, in the state that it needs, the call affirms. -/
theorem Lands.affirmed (hs : s.Ordered) (h : Lands s now call s') :
    ∃ a, s.perform now call = (.ok a, s') ∧ call.Affirms a := by
  cases h with
  | @renames r rows title h =>
      obtain ⟨hany, hrows⟩ := hs.conversations.modify_of_replaces (q := fun _ => true)
        (f := fun r => { r with title := title, updatedAt := now.storedText }) rfl h
      simp only [Bool.and_true] at hany hrows
      exact ⟨true, by simp only [perform, renameConversation, hany, hrows], rfl⟩
  | @ends r rows st hst hr h =>
      obtain ⟨hany, hrows⟩ := hs.conversations.modify_of_replaces (q := ConversationRow.isRunning)
        (f := fun r => { r with state := st.name, updatedAt := now.storedText }) hr h
      simp only [ConversationRow.isRunning] at hany hrows
      exact ⟨true, by simp only [perform, endConversation, if_pos hst, hany, hrows], rfl⟩
  | @starts a rows ha h =>
      obtain ⟨hany, hrows⟩ := hs.actions.modify_of_replaces
        (q := fun a => a.status == Action.Status.pending.name)
        (f := fun a => { a with
          status := Action.Status.running.name, startedAt := some now.storedText })
        (beq_iff_eq.2 ha) h
      exact ⟨true, by simp only [perform, startAction, hany, hrows], rfl⟩
  | @completes a rows st hst ha e x h =>
      obtain ⟨hany, hrows⟩ := hs.actions.modify_of_replaces
        (q := fun a => a.status == Action.Status.running.name)
        (f := fun a => { a with
          status := st.name, errorMessage := e, executionTime := x,
          finishedAt := some now.storedText })
        (beq_iff_eq.2 ha) h
      exact ⟨true, by simp only [perform, completeAction, if_pos hst, hany, hrows], rfl⟩
  | @forces a rows st hst ha reason h =>
      obtain ⟨hany, hrows⟩ := hs.actions.modify_of_replaces (q := ActionRow.isOpen)
        (f := forced now st reason) ha h
      exact ⟨true, by simp only [perform, forceAction, if_pos hst, hany, hrows], rfl⟩

/-! ## Skipping -/

/-- What the answer to skipping says: which actions of the message were open, by sequence, and
what has become of each. They have all been skipped, and nothing else has changed. -/
structure Skipped (s s' : Store) (now : Instant) (m : Int) (reason : String)
    (skipped : List Action) : Prop where
  /-- Exactly the actions that were open are named. -/
  named : ∀ i, i ∈ skipped.map (·.id) ↔
    ∃ a ∈ s.actions, a.messageId = m ∧ a.isOpen = true ∧ a.id = i
  /-- They are named by sequence, each once. -/
  ascending : skipped.Pairwise fun v w => v.sequence < w.sequence
  /-- They are told as they now stand. -/
  current : ∀ v ∈ skipped, s'.getAction v.id = .ok (some v)
  /-- They were skipped, and nothing else has changed. -/
  store : s' = { s with
    actions := modify (fun a => a.messageId == m && a.isOpen) (forced now .skipped reason)
                 s.actions }

/-- The actions of a message stand in the order of their numbers. -/
theorem Sequenced.ascending (hs : s.Sequenced) (m : Int) :
    (s.servants m).Pairwise fun a b => a.sequence < b.sequence := by
  have hplaces : ((s.servants m).map (·.sequence)).Pairwise (· < ·) := by
    rw [hs m, List.pairwise_map]
    exact List.pairwise_lt_range.imp fun hij => by omega
  exact List.pairwise_map.1 hplaces

/-- A row with the greatest number goes to the end. -/
theorem insertBySequence_last {r : ActionRow} {rows : List ActionRow}
    (h : ∀ x ∈ rows, x.sequence ≤ r.sequence) : insertBySequence r rows = rows ++ [r] := by
  induction rows with
  | nil => rfl
  | cons x rest ih =>
      obtain ⟨hx, hrest⟩ := List.forall_mem_cons.1 h
      rw [insertBySequence, if_pos hx, ih hrest, List.cons_append]

/-- Rows that stand by sequence are not moved. -/
theorem foldl_insertBySequence {rows sorted : List ActionRow}
    (h : (sorted ++ rows).Pairwise fun a b => a.sequence ≤ b.sequence) :
    rows.foldl (fun sorted r => insertBySequence r sorted) sorted = sorted ++ rows := by
  induction rows generalizing sorted with
  | nil => rw [List.foldl_nil, List.append_nil]
  | cons r rest ih =>
      have hlast : ∀ x ∈ sorted, x.sequence ≤ r.sequence :=
        fun x hx => (List.pairwise_append.1 h).2.2 x hx r List.mem_cons_self
      have hmoved : sorted ++ r :: rest = (sorted ++ [r]) ++ rest := List.append_cons ..
      rw [hmoved] at h ⊢
      rw [List.foldl_cons, insertBySequence_last hlast, ih h]

/-- The actions of a message are listed as they stand. -/
theorem Sequenced.actionsOf_eq (hs : s.Sequenced) (m : Int) : s.actionsOf m = s.servants m := by
  have hsorted : ([] ++ s.servants m).Pairwise fun a b : ActionRow => a.sequence ≤ b.sequence :=
    (hs.ascending m).imp Int.le_of_lt
  exact foldl_insertBySequence hsorted

theorem action?_map {f : ActionRow → ActionRow} (hf : ∀ a, (f a).id = a.id) (i : Int) :
    action? { s with actions := s.actions.map f } i = (s.action? i).map f := by
  have hsame : ((fun a : ActionRow => a.id == i) ∘ f) = fun a => a.id == i := by
    funext a
    rw [Function.comp_apply, hf]
  rw [action?, List.find?_map, hsame]
  rfl

theorem skipOne_isOpen {reason : String} {id : Int} {r : ActionRow}
    (hr : r ∈ (skipOne now reason id s).actions) (hid : r.id = id) : r.isOpen = false := by
  obtain ⟨a, -, rfl⟩ := List.mem_map.1 hr
  by_cases hit : (a.id == id && a.isOpen) = true
  · rw [if_pos hit]
    exact forced_isOpen .skipped rfl a
  · rw [if_neg hit] at hid ⊢
    rw [hid, beq_self_eq_true, Bool.true_and] at hit
    exact Bool.eq_false_iff.2 hit

/-- What is skipped is told as it stands when all are skipped. -/
theorem skipEach_current {reason : String} {ids : List Int} {skipped : List Action}
    (h : (skipEach now reason ids s).1 = .ok skipped) :
    ∀ v ∈ skipped, (skipEach now reason ids s).2.getAction v.id = .ok (some v) := by
  induction ids generalizing s skipped with
  | nil =>
      cases h
      exact List.forall_mem_nil _
  | cons id rest ih =>
      obtain ⟨found, tail, hread, htail, rfl, hstore⟩ := skipEach_cons h
      rw [hstore]
      refine List.forall_mem_append.2 ⟨?_, ih htail⟩
      -- the first one was read when it was skipped, and the others leave it alone
      intro v hv
      obtain rfl := Option.mem_toList.1 hv
      split at hread
      · obtain ⟨r, hfind, hr⟩ := answer?_some hread
        have hrid : r.id = id := by simpa using List.find?_some hfind
        have hclosed := skipOne_isOpen (List.mem_of_find?_eq_some hfind) hrid
        have hkept : skipIn now reason rest r = r := by
          rw [skipIn, hclosed, Bool.and_false]
          rfl
        have hids : ∀ a, (skipIn now reason rest a).id = a.id := by
          intro a
          rw [skipIn]
          split <;> rfl
        rw [skipEach_store htail, (getAction_some hread).1, getAction, action?_map hids, hfind,
          Option.map_some, hkept, answer?, hr]
        rfl
      · cases hread

/-- An action that is read has the number of its row. -/
theorem read_action_sequence {r : ActionRow} {v : Action} (h : r.read = .ok v) :
    v.sequence = r.sequence := by
  obtain ⟨_, _, _, _, _, _, _, _, rfl⟩ := read_action_columns h
  rfl

/-- The answer to skipping says what was done. -/
theorem Regular.skipped (hs : s.Regular) {m : Int} {reason : String} {skipped : List Action}
    (h : (s.skipOpenActions now m reason).1 = .ok skipped) :
    Skipped s (s.skipOpenActions now m reason).2 now m reason skipped := by
  have hids := skipOpenActions_ids hs.ordered h
  have hstore := skipOpenActions_store hs.ordered h
  have hcurrent : ∀ v ∈ skipped,
      (s.skipOpenActions now m reason).2.getAction v.id = .ok (some v) := skipEach_current h
  refine ⟨fun i => by rw [hids, mem_openIds], ?_, hcurrent, hstore⟩
  -- what is told of an action has the sequence of its row
  have hrows : ∀ v ∈ skipped, ∃ a ∈ s.actions, a.id = v.id ∧ a.sequence = v.sequence := by
    intro v hv
    have hfound := hcurrent v hv
    rw [hstore] at hfound
    obtain ⟨r, hfind, hr⟩ := answer?_some hfound
    obtain ⟨a, ha, rfl⟩ := List.mem_map.1 (List.mem_of_find?_eq_some hfind)
    refine ⟨a, ha, ?_, ?_⟩
    · rw [(read_action hr).1]
      split <;> rfl
    · rw [read_action_sequence hr]
      split <;> rfl
  -- rows that stand by sequence are named in their order
  have hopen : (s.openIds m).Pairwise fun i j =>
      ∀ a ∈ s.actions, ∀ b ∈ s.actions, a.id = i → b.id = j → a.sequence < b.sequence := by
    rw [openIds, hs.sequenced.actionsOf_eq, List.pairwise_map]
    refine (((hs.sequenced.ascending m).filter (·.isOpen)).imp_of_mem ?_)
    intro x y hx hy hxy a ha b hb hax hby
    have hx' : x ∈ s.actions := List.mem_of_mem_filter (List.mem_of_mem_filter hx)
    have hy' : y ∈ s.actions := List.mem_of_mem_filter (List.mem_of_mem_filter hy)
    rwa [hs.ordered.actions.eq_of_id_eq ha hx' hax, hs.ordered.actions.eq_of_id_eq hb hy' hby]
  rw [← hids, List.pairwise_map] at hopen
  refine hopen.imp_of_mem ?_
  intro v w hv hw hvw
  obtain ⟨a, ha, haid, haseq⟩ := hrows v hv
  obtain ⟨b, hb, hbid, hbseq⟩ := hrows w hw
  rw [← haseq, ← hbseq]
  exact hvw a ha b hb haid hbid

/-! ## All calls -/

/-- **What the store reports is true.** Take any store that calls at legible times have made of
the empty one and in which no counter of failures is full, any legible time and any call. If the
call fails, the store is as it was, and unless the call only reads, it was refused for one of the
listed reasons. Whatever is refused changes nothing. If the call says that it has changed nothing,
the store is as it was. It says that it has changed a row exactly if there was the row that it is
about, in the state that it needs; this row is replaced, and nothing else. Skipping does not fail,
and names the actions that were open, by sequence and as they now stand. -/
theorem perform_reports {history : List (Instant × Call)}
    (hhistory : ∀ e ∈ history, e.1.Legible) (hnow : now.Legible)
    (hfew : ∀ r ∈ (Store.empty.replay history).messages, r.failures < 4294967295) :
    let s := Store.empty.replay history
    (∀ call f, (s.perform now call).1 = .error f →
        (s.perform now call).2 = s ∧ (call.Reads ∨ Refusal s call f)) ∧
      (∀ call f, Refusal s call f → s.perform now call = (.error f, s)) ∧
      (∀ call a, (s.perform now call).1 = .ok a → call.Denies a → (s.perform now call).2 = s) ∧
      (∀ call s', (∃ a, s.perform now call = (.ok a, s') ∧ call.Affirms a) ↔
        Lands s now call s') ∧
      ∀ m reason, ∃ skipped, (s.skipOpenActions now m reason).1 = .ok skipped ∧
        Skipped s (s.skipOpenActions now m reason).2 now m reason skipped := by
  intro s
  have hregular : s.Regular := replay_regular history
  have hreadable : s.Readable := replay_readable hhistory empty_readable
  refine ⟨?_, fun call f hrefused => hrefused.perform now,
    fun call a h hdenies => hregular.ordered.denied h hdenies, ?_, ?_⟩
  · intro call f h
    by_cases hreads : call.Reads
    · exact ⟨hreads.store s now, Or.inl hreads⟩
    · have hrefused := refused hregular.ordered (replay_counting history) hfew hreadable hnow
        hreads h
      exact ⟨congrArg Prod.snd (hrefused.perform now), Or.inr hrefused⟩
  · intro call s'
    constructor
    · rintro ⟨a, h, haffirms⟩
      have hlands := hregular.ordered.lands (congrArg Prod.fst h) haffirms
      rwa [h] at hlands
    · exact fun hlands => hlands.affirmed hregular.ordered
  · intro m reason
    obtain ⟨skipped, h⟩ := skipOpenActions_answers hnow hreadable m reason
    exact ⟨skipped, h, hregular.skipped h⟩

/-- The action of a small store is open until it is skipped, and then cannot be handed out; a
message for a conversation that is not there is refused. -/
theorem perform_reports_calls :
    let s := Store.empty.replay Sample.calls
    (∀ e ∈ Sample.calls, e.1.Legible) ∧ Sample.moment.Legible ∧
      (∀ r ∈ s.messages, r.failures < 4294967295) ∧
      (∃ skipped, (s.skipOpenActions Sample.moment 1 "superseded").1 = .ok skipped ∧
        skipped.map (·.id) = [1] ∧
        Skipped s (s.skipOpenActions Sample.moment 1 "superseded").2 Sample.moment 1 "superseded"
          skipped) ∧
      (s.perform Sample.moment (.startAction 1)).2 = s ∧
      s.perform Sample.moment (.createMessage 7 .user "Hello") =
        (.error (.store "Insert message error" .noParent), s) := by
  have hhistory : ∀ e ∈ Sample.calls, e.1.Legible := by decide +kernel
  have hnow : Sample.moment.Legible := by decide +kernel
  have hfew : ∀ r ∈ (Store.empty.replay Sample.calls).messages, r.failures < 4294967295 := by
    decide +kernel
  obtain ⟨-, hrefused, hdenied, -, hskips⟩ := perform_reports hhistory hnow hfew
  obtain ⟨skipped, h, hskipped⟩ := hskips 1 "superseded"
  refine ⟨hhistory, hnow, hfew, ⟨skipped, h, ?_, hskipped⟩,
    hdenied (.startAction 1) false ?_ rfl, ?_⟩
  · rw [skipOpenActions_ids (replay_regular Sample.calls).ordered h]
    decide +kernel
  · exact congrArg Except.ok (by decide +kernel)
  · exact hrefused _ _ (.noConversation .user "Hello" (by decide +kernel))

end Store

end ControlPlane
