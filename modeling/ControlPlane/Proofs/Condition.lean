/-
The condition of a store.

What calls at legible times make of the empty store is in a condition on which everything that
reads it may rely: rows have their parents, numbers ascend as rows are added, places are counted,
the columns of an action agree with its status (`ActionRow.Coherent`), and every row can be read.
So a call that only reads answers (`Sound.reads`). There is one question that such a store does
not answer: how often a message has failed that is not there (`failures_unknown`).

That the columns agree is proved from the ways in which an action moves
(`ActionRow.Moves.coherent`), and so for every call at once.
-/
import ControlPlane.Proofs.Share

set_option autoImplicit false

namespace ControlPlane

/-! ## Columns and status -/

namespace ActionRow

/-- The columns about the course of an action agree with its status. -/
structure Coherent (a : ActionRow) : Prop where
  /-- Nothing has happened to an action that is pending. -/
  pending : a.status = Action.Status.pending.name →
    a.startedAt = none ∧ a.finishedAt = none ∧ a.executionTime = none ∧ a.errorMessage = none
  /-- An action that is running was handed out, and nothing else. -/
  running : a.status = Action.Status.running.name →
    a.startedAt.isSome = true ∧ a.finishedAt = none ∧ a.executionTime = none ∧
      a.errorMessage = none
  /-- It is known when an action ended. -/
  ended : a.isEnded = true → a.finishedAt.isSome = true
  /-- What took its time was handed out, and succeeded or failed. -/
  timed : a.executionTime.isSome = true →
    (a.status = Action.Status.success.name ∨ a.status = Action.Status.failed.name) ∧
      a.startedAt.isSome = true

/-- An open action has no time of execution. -/
theorem Coherent.untimed {a : ActionRow} (ha : a.Coherent) (hopen : a.isOpen = true) :
    a.executionTime = none := by
  rcases (isOpen_iff a).1 hopen with hpending | hrunning
  · exact (ha.pending hpending).2.2.1
  · exact (ha.running hrunning).2.2.1

/-- A status in which actions end is neither of the two others. -/
theorem not_open_of_terminal {st : Action.Status} (hst : st.isTerminal = true) :
    st.name ≠ Action.Status.pending.name ∧ st.name ≠ Action.Status.running.name := by
  cases st with
  | pending => cases hst
  | running => cases hst
  | success => decide
  | failed => decide
  | skipped => decide

/-- What one call makes of an action keeps its columns in agreement. -/
theorem Moves.coherent {now : Instant} {a b : ActionRow} (h : a.Moves now b) (ha : a.Coherent) :
    b.Coherent := by
  cases h with
  | stays => exact ha
  | starts hpending =>
      obtain ⟨-, hfinished, htime, herror⟩ := ha.pending hpending
      have hopen : isOpen { a with
          status := Action.Status.running.name, startedAt := some now.storedText } = true :=
        (isOpen_iff _).2 (Or.inr rfl)
      have hname : Action.Status.running.name ≠ Action.Status.pending.name := by decide
      refine ⟨fun h => absurd h hname, fun _ => ⟨rfl, hfinished, htime, herror⟩, ?_, ?_⟩
      · intro hended
        rw [isEnded_eq_false_of_isOpen hopen] at hended
        cases hended
      · intro htimed
        rw [htime] at htimed
        cases htimed
  | completes hrunning st hst e x =>
      have hterminal : st.isTerminal = true := by
        rcases hst with rfl | rfl <;> rfl
      obtain ⟨hpending', hrunning'⟩ := not_open_of_terminal hterminal
      have hstarted := (ha.running hrunning).1
      refine ⟨fun h => absurd h hpending', fun h => absurd h hrunning', fun _ => rfl, ?_⟩
      intro _
      refine ⟨?_, hstarted⟩
      rcases hst with rfl | rfl
      · exact Or.inl rfl
      · exact Or.inr rfl
  | ends hopen st hst reason =>
      obtain ⟨hpending', hrunning'⟩ := not_open_of_terminal hst
      -- what is ended from outside had no time noted, and gets none
      have htime : (Store.forced now st reason a).executionTime = none := ha.untimed hopen
      refine ⟨fun h => absurd h hpending', fun h => absurd h hrunning', fun _ => rfl, ?_⟩
      intro htimed
      rw [htime] at htimed
      cases htimed

end ActionRow

namespace Store

variable {s s' : Store} {now : Instant}

/-- The columns of every action agree with its status. -/
def Coherent (s : Store) : Prop := ∀ a ∈ s.actions, a.Coherent

/-- So does what one call makes of a store. -/
theorem Change.coherent {call : Call} (h : s.Change now call s') (hs : s.Coherent) :
    s'.Coherent := by
  cases h with
  | nothing => exact hs
  | messages => exact hs
  | conversations => exact hs
  | newConversation => exact hs
  | newMessage => exact hs
  | actions _ f hf =>
      intro b hb
      obtain ⟨a, ha, rfl⟩ := List.mem_map.1 hb
      exact (hf a).coherent (hs a ha)
  | newAction m kind parameters _ =>
      intro a ha
      rcases List.mem_append.1 ha with ha | ha
      · exact hs a ha
      · rw [List.mem_singleton.1 ha]
        have hname : Action.Status.pending.name ≠ Action.Status.running.name := by decide
        refine ⟨fun _ => ⟨rfl, rfl, rfl, rfl⟩, fun h => absurd h hname, ?_, ?_⟩
        · intro hended
          rw [ActionRow.isEnded_eq_false_of_isOpen ((ActionRow.isOpen_iff _).2 (Or.inl rfl))]
            at hended
          cases hended
        · intro htimed
          cases htimed

/-- The columns of every action agree in every store that calls have made. -/
theorem replay_coherent (calls : List (Instant × Call)) : (Store.empty.replay calls).Coherent :=
  replay_induction (fun s e _ hs => (s.perform_change e.1 e.2).coherent hs)
    (List.forall_mem_nil _)

/-! ## Reading -/

/-- The call changes nothing. -/
def Call.Reads : Call → Prop
  | .getConversation _ => True
  | .listConversations _ _ _ => True
  | .getMessage _ => True
  | .listMessages _ => True
  | .failures _ => True
  | .getAction _ => True
  | .listActions _ => True
  | .staleActions _ => True
  | .staleMessages _ => True
  | .stats => True
  | .countMessages _ => True
  | .countActions _ _ => True
  | .dailyActivity _ _ _ => True
  | _ => False

/-- A call that only reads leaves the store as it is. -/
theorem Call.Reads.store {call : Call} (h : call.Reads) (s : Store) (now : Instant) :
    (s.perform now call).2 = s := by
  cases call with
  | createConversation | renameConversation | endConversation | createMessage => exact h.elim
  | recordFailure | resetFailures | createAction | startAction => exact h.elim
  | completeAction | forceAction | skipOpenActions => exact h.elim
  | _ => rfl

/-- Rows of which each can be read can all be read. -/
theorem readAll_ok {ρ α : Type} {read : ρ → Except Fault.StoreFlaw α} {rows : List ρ}
    (h : ∀ r ∈ rows, ∃ v, read r = .ok v) : ∃ vs, readAll read rows = .ok vs := by
  induction rows with
  | nil => exact ⟨[], rfl⟩
  | cons r rest ih =>
      obtain ⟨v, hv⟩ := h r List.mem_cons_self
      obtain ⟨vs, hvs⟩ := ih fun x hx => h x (List.mem_cons_of_mem r hx)
      exact ⟨v :: vs, by simp only [readAll, hv, hvs]⟩

/-- The rows that were read, and what was read from them. -/
theorem forall₂_of_readAll {ρ α : Type} {read : ρ → Except Fault.StoreFlaw α} {rows : List ρ}
    {values : List α} (h : readAll read rows = .ok values) :
    List.Forall₂ (fun r v => read r = .ok v) rows values := by
  induction rows generalizing values with
  | nil =>
      cases h
      exact List.Forall₂.nil
  | cons r rest ih =>
      rw [readAll] at h
      cases hr : read r with
      | error e =>
          rw [hr] at h
          cases h
      | ok v =>
          rw [hr] at h
          cases hrest : readAll read rest with
          | error e =>
              rw [hrest] at h
              cases h
          | ok vs =>
              rw [hrest] at h
              cases h
              exact List.Forall₂.cons hr (ih hrest)

/-- What was answered was read. -/
theorem answer_ok {α : Type} {doing : String} {x : Except Fault.StoreFlaw α} {a : α}
    (h : answer doing x = .ok a) : x = .ok a := by
  cases x with
  | ok b => rw [answer] at h; rw [Except.ok.inj h]
  | error flaw => cases h

/-- Rows of which each can be read are answered. -/
theorem answer_readAll {ρ α : Type} {doing : String} {read : ρ → Except Fault.StoreFlaw α}
    {rows : List ρ} (h : ∀ r ∈ rows, ∃ v, read r = .ok v) :
    ∃ vs, answer doing (readAll read rows) = .ok vs := by
  obtain ⟨vs, hvs⟩ := readAll_ok h
  exact ⟨vs, by rw [hvs, answer]⟩

/-- So is one that is looked up among them, if it is there. -/
theorem answer?_ok {ρ α : Type} {doing : String} {read : ρ → Except Fault.StoreFlaw α}
    {rows : List ρ} (h : ∀ r ∈ rows, ∃ v, read r = .ok v) (p : ρ → Bool) :
    ∃ o, answer? doing read (rows.find? p) = .ok o := by
  cases hfind : rows.find? p with
  | none => exact ⟨none, rfl⟩
  | some r =>
      obtain ⟨v, hv⟩ := h r (List.mem_of_find?_eq_some hfind)
      exact ⟨some v, by simp only [answer?, hv, answer, Except.map]⟩

/-- What is on a page is among the items. -/
theorem mem_of_mem_page {α : Type} {limit offset : Int} {items : List α} {a : α}
    (h : a ∈ page limit offset items) : a ∈ items := by
  unfold page at h
  split at h
  · exact List.mem_of_mem_drop h
  · exact List.mem_of_mem_drop (List.mem_of_mem_take h)

/-- Conversations that can be read are answered page by page. -/
theorem listConversations_ok {s : Store} (h : ∀ r ∈ s.conversations, ∃ v, r.read = .ok v)
    (userId : Option Int) (limit offset : Nat) :
    ∃ vs, s.listConversations userId limit offset = .ok vs := by
  unfold listConversations
  refine answer_readAll fun r hr => h r ?_
  exact List.mem_of_mem_filter (List.mem_reverse.1 (mem_of_mem_page hr))

/-- What a store is that calls at legible times have made of the empty one. -/
structure Sound (s : Store) : Prop where
  /-- Numbers ascend in each table, actions have their messages, places are counted. -/
  regular : s.Regular
  /-- Messages have their conversations. -/
  rooted : s.Rooted
  /-- Every action is open or has ended, every conversation is running or has ended. -/
  settled : s.Settled
  /-- The columns of actions agree with their status. -/
  coherent : s.Coherent
  /-- Every conversation can be read. -/
  conversations : ∀ r ∈ s.conversations, ∃ v, r.read = .ok v
  /-- Every message can be read. -/
  messages : ∀ r ∈ s.messages, ∃ v, r.read s.messageTimeColumn = .ok v
  /-- Every action can be read. -/
  actions : ∀ a ∈ s.actions, ∃ v, a.read = .ok v

/-- Calls at legible times make a store sound. -/
theorem replay_sound {calls : List (Instant × Call)} (hcalls : ∀ e ∈ calls, e.1.Legible) :
    (Store.empty.replay calls).Sound := by
  have hlegible := replay_legible hcalls empty_legible
  have hconversations := replay_conversations_readable hcalls
  exact ⟨replay_regular calls, replay_rooted calls, replay_settled empty_settled calls,
    replay_coherent calls, fun r hr => (hconversations r hr).read,
    fun r hr => (hlegible.messages r hr).read _, fun a ha => (hlegible.actions a ha).read⟩

/-- Counters fit their column. -/
def Counted (s : Store) : Prop := ∀ r ∈ s.messages, WordRange.unsigned32.holds r.failures = true

/-- The failures of a message that is there can be told. -/
theorem Counted.failures (hs : s.Counted) (id : Int) :
    (∃ n, s.failures id = .ok n) ∨
      (s.message? id = none ∧ s.failures id = .error (.missing .message id)) := by
  cases hfind : s.message? id with
  | none => exact Or.inr ⟨rfl, by simp only [Store.failures, hfind]⟩
  | some r =>
      have hword := hs r (List.mem_of_find?_eq_some hfind)
      exact Or.inl ⟨r.failures.toNat, by simp only [Store.failures, hfind, counter, if_pos hword]⟩

/-- A call that reads is answered, unless it asks for the failures of a message that is not
there. -/
theorem Sound.reads (hs : s.Sound) (hcounted : s.Counted) (now : Instant) {call : Call}
    (hreads : call.Reads) :
    (∃ a, (s.perform now call).1 = .ok a) ∨
      ∃ id, call = .failures id ∧ s.message? id = none ∧
        s.failures id = .error (.missing .message id) := by
  cases call with
  | getConversation id => exact Or.inl (answer?_ok hs.conversations _)
  | getMessage id => exact Or.inl (answer?_ok hs.messages _)
  | getAction id => exact Or.inl (answer?_ok hs.actions _)
  | listConversations userId limit offset =>
      obtain ⟨vs, hvs⟩ := listConversations_ok hs.conversations userId limit offset
      exact Or.inl ⟨vs, by unfold perform; with_reducible exact hvs⟩
  | listMessages c =>
      exact Or.inl (answer_readAll fun r hr => hs.messages r (List.mem_of_mem_filter hr))
  | listActions m =>
      exact Or.inl (answer_readAll fun a ha => hs.actions a (mem_actionsOf.1 ha).1)
  | staleActions cutoff =>
      exact Or.inl (answer_readAll fun a ha => hs.actions a (List.mem_of_mem_filter ha))
  | staleMessages cutoff =>
      exact Or.inl (answer_readAll fun r hr => hs.messages r (List.mem_of_mem_filter hr))
  | failures id =>
      rcases hcounted.failures id with hok | hmissing
      · exact Or.inl hok
      · exact Or.inr ⟨id, rfl, hmissing⟩
  | stats => exact Or.inl ⟨s.stats, rfl⟩
  | countMessages window => exact Or.inl ⟨s.countMessages window, rfl⟩
  | countActions window status => exact Or.inl ⟨s.countActions window status, rfl⟩
  | dailyActivity userId first days => exact Or.inl ⟨s.dailyActivity userId first days, rfl⟩
  | createConversation | renameConversation | endConversation | createMessage =>
      exact hreads.elim
  | recordFailure | resetFailures | createAction | startAction => exact hreads.elim
  | completeAction | forceAction | skipOpenActions => exact hreads.elim

/-- **What every store is like.** Take the store that any calls at legible times, in any order of
their times, have made of the empty one. Messages have their conversations and actions their
messages; numbers ascend in the order in which rows were added, so no two rows of a table share
one, and what was there after the first calls has smaller numbers than what was added later; the
actions of a message have the places 1, 2, 3 and so on; the columns of an action agree with its
status; and every row can be read. As long as the counters of failures fit their column, a call
that reads is therefore answered, with one exception: that a message is not there is the answer
to the question how often it has failed. -/
theorem replay_condition {calls : List (Instant × Call)} (hcalls : ∀ e ∈ calls, e.1.Legible) :
    (Store.empty.replay calls).Sound ∧
      (∀ first later, calls = first ++ later →
        (Store.empty.replay first).OneWay (Store.empty.replay calls)) ∧
      ((Store.empty.replay calls).Counted → ∀ now call, call.Reads →
        (∃ a, ((Store.empty.replay calls).perform now call).1 = .ok a) ∨
          ∃ id, call = .failures id ∧ (Store.empty.replay calls).message? id = none ∧
            (Store.empty.replay calls).failures id = .error (.missing .message id)) := by
  have hsound := replay_sound hcalls
  refine ⟨hsound, ?_, fun hcounted now call hreads => hsound.reads hcounted now hreads⟩
  intro first later hsplit
  rw [hsplit, replay_append]
  exact replay_oneWay (replay_ordered empty_ordered first) later

end Store

namespace Sample

/-- Two actions of one message, at times that go backwards: the first is superseded, the second
is carried out. -/
def worked : List (Instant × Store.Call) :=
  calls ++ [(moment, .recordFailure 1), (⟨moment.second - 60, 0⟩, .skipOpenActions 1 "superseded"),
    (moment, .createAction 1 .wait ⟨none, none, none, none, some 5⟩), (moment, .startAction 2),
    (⟨moment.second - 120, 0⟩, .completeAction 2 .success none (some 40))]

end Sample

namespace Store

/-- A store in which one action of a message was superseded and the next one carried out. -/
theorem replay_condition_worked :
    let s := Store.empty.replay Sample.worked
    (∀ e ∈ Sample.worked, e.1.Legible) ∧ s.Counted ∧ s.Sound ∧
      (s.servants 1).map (·.sequence) = [1, 2] ∧
      ∃ n, (s.perform Sample.moment (.failures 1)).1 = .ok n := by
  have hlegible : ∀ e ∈ Sample.worked, e.1.Legible := by decide +kernel
  have hcounted : (Store.empty.replay Sample.worked).Counted := by
    unfold Counted
    decide +kernel
  obtain ⟨hsound, -, hreads⟩ := replay_condition hlegible
  refine ⟨hlegible, hcounted, hsound, by decide +kernel, ?_⟩
  rcases hreads hcounted Sample.moment (.failures 1) trivial with hok | ⟨id, heq, hnone, -⟩
  · exact hok
  · have hfound : ((Store.empty.replay Sample.worked).message? 1).isSome = true := by
      decide +kernel
    rw [Call.failures.inj heq, hnone] at hfound
    cases hfound

/-- The store does not answer how often a message has failed that is not there. -/
theorem failures_unknown :
    Sample.moment.Legible ∧ (Call.failures 1).Reads ∧
      ∀ n, (Store.empty.perform Sample.moment (.failures 1)).1 ≠ .ok n := by
  refine ⟨by decide +kernel, trivial, ?_⟩
  intro n hn
  cases hn

end Store

end ControlPlane
