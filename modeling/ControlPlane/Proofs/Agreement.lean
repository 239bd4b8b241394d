/-
Replies and the store agree.

The client acts on replies, and the store is what is left of them. For every reply they are
to say the same (`Coordinator.Agrees`): with an action there is one more row, which is
handed out, is the last of its message and is what was decided on, and the conversation is
running; with the end of the work there is no new row, and the conversation has ended; with
an error or without a reply there is no new row, and the conversation stands as before.

That they do (`reply_agrees`) goes by the list of the ways in which a frame is answered. On one
of them an action is added that cannot be sent; it is taken at no legible time.
-/
import ControlPlane.Proofs.Handling
import ControlPlane.Proofs.Ledger
import ControlPlane.Proofs.Stopping

set_option autoImplicit false

namespace ControlPlane

namespace Store

variable {s s' : Store} {c : Int}

/-- Actions became what they may become, and some were added. -/
def Adds (s s' : Store) (new : List ActionRow) : Prop :=
  ∃ f : ActionRow → ActionRow, (∀ a : ActionRow, a.Becomes (f a)) ∧
    s'.actions = s.actions.map f ++ new

/-- To prepare for a decision adds no action. -/
theorem Prepared.adds (h : Prepared c s s') : s.Adds s' [] := by
  obtain ⟨f, hf, hbecomes, _⟩ := h.actions
  exact ⟨f, hbecomes, by rw [hf, List.append_nil]⟩

/-- What is added after nothing was added is all that is added. -/
theorem Adds.of_actions {s'' : Store} {new : List ActionRow} (h : s.Adds s' [])
    (hactions : s''.actions = s'.actions ++ new) : s.Adds s'' new := by
  obtain ⟨f, hbecomes, hf⟩ := h
  exact ⟨f, hbecomes, by rw [hactions, hf, List.append_nil]⟩

/-- To count a failure adds no action. -/
theorem Attends.adds_recordFailure {m : Int} {s₁ : Store} (ha : Attends c s m s₁)
    (h : s' = (s₁.recordFailure m).2) : s.Adds s' [] := by
  refine ha.prepared.adds.of_actions ?_
  rw [h, recordFailure_actions, List.append_nil]

end Store

namespace Coordinator

open Round Store

variable {d : Settings.Decision} {c : Int} {s : Store}

/-- An order names the one action that was added, as it was decided on. -/
structure Orders (c : Int) (s : Store) (order : ActionOrder) (row : ActionRow) (h : Past) :
    Prop where
  /-- One action was added. -/
  adds : s.Adds h.store [row]
  /-- Its number is new. -/
  fresh : ∀ a ∈ s.actions, a.id ≠ row.id
  /-- It was handed out. -/
  running : row.status = Action.Status.running.name
  /-- Its message belongs to the conversation. -/
  owns : h.store.Owns c row.messageId
  /-- It comes after the earlier actions of the message, and next to them. -/
  sequence : row.sequence = 1 + ((s.servants row.messageId).length : Int)
  /-- The order says its number, its kind and its parameters. -/
  told : order.actionId = row.id ∧ order.kind.name = row.kind ∧
    order.parameters = row.parameters
  /-- The parameters are what the kind needs. -/
  check : order.parameters.check order.kind = .ok ()
  /-- The last question was about the message, and the decision is the order. -/
  decision : ∃ earlier context, context.message.id = row.messageId ∧
    h.questions = earlier ++ [⟨context, .ok (.act order.kind order.parameters)⟩]
  /-- The conversation is running. -/
  conversation : h.store.isRunning c = true

/-- What a reply says about a store and the one before it. -/
def Agrees (c : Int) (s : Store) : Option ServerFrame → Past → Prop
  | some (.action order), h => ∃ row, Orders c s order row h
  | some (.finish _), h => s.Adds h.store [] ∧
      ∃ st : Conversation.State, st.isTerminal = true ∧ h.store.stateOf c = some st.name
  | some (.error _), h => s.Adds h.store [] ∧ h.store.stateOf c = s.stateOf c
  | none, h => s.Adds h.store [] ∧ h.store.stateOf c = s.stateOf c

/-- An action that was added after a decision, and handed out, is what its order says. -/
theorem orders_of_acted {m : Int} {s₁ : Store} {now : Instant} {kind : Action.Kind}
    {parameters : Action.Parameters} {row : ActionRow} {h : Past} (hattends : Attends c s m s₁)
    (hround : Decided d.maxRetries m (.act kind parameters) h.questions)
    (hrow : (s₁.pendingRow now m kind parameters).Becomes row)
    (hrunning : row.status = Action.Status.running.name)
    (hstore : h.store = (s₁.resetFailures m).2.added row) :
    Orders c s ⟨row.id, kind, parameters⟩ row h := by
  have hmessage : row.messageId = m := hrow.messageId
  refine ⟨?_, ?_, hrunning, ?_, ?_, ⟨rfl, hrow.kind.symm, hrow.parameters.symm⟩, ?_, ?_, ?_⟩
  · rw [hstore]
    exact hattends.prepared.adds.of_actions rfl
  · intro a ha hid
    obtain ⟨f, hf, hbecomes, _⟩ := hattends.prepared.actions
    have hlater : f a ∈ s₁.actions := hf ▸ List.mem_map_of_mem ha
    refine hattends.regular.ordered.id_ne_next hlater ?_
    rw [(hbecomes a).id, hid]
    exact hrow.id
  · rw [hstore, hmessage]
    exact (s₁.perform_change now (.resetFailures m)).owns hattends.owns
  · -- rows of a message are numbered from one on, so the last number is how many there are
    have hnext : row.sequence = s₁.lastSequence m + 1 := hrow.sequence
    rw [hnext, hmessage, lastSequence_eq hattends.regular.sequenced,
      hattends.prepared.servants_length, Int.add_comm]
  · obtain ⟨_, _, _, _, _, _, hcheck⟩ := hround
    exact hcheck
  · obtain ⟨failed, context, hquestions, _, _, habout, _⟩ := hround
    exact ⟨failed, context, habout.trans hmessage.symm, hquestions⟩
  · rw [hstore]
    exact hattends.running

/-- At legible times every way on which a frame is answered ends in agreement. -/
theorem Handled.agrees {reply : Option ServerFrame} {h : Past} (hh : Handled d c s reply h)
    (hlegible : s.Legible ∧ h.Legible) : Agrees c s reply h := by
  cases hh with
  | unasked hprepared _ haction hfinish =>
      -- the reply is not known here, but an order it is not
      have hstate := stateOf_congr hprepared.conversations c
      cases reply with
      | none => exact ⟨hprepared.adds, hstate⟩
      | some frame =>
          cases frame with
          | action order => exact absurd rfl (haction order)
          | finish text => exact ⟨hprepared.adds, hfinish text rfl⟩
          | error text => exact ⟨hprepared.adds, hstate⟩
  | broken hattends =>
      exact ⟨hattends.prepared.adds, stateOf_congr hattends.prepared.conversations c⟩
  | failed hattends _ hstore _ =>
      refine ⟨hattends.adds_recordFailure hstore, ?_⟩
      rw [hstore, stateOf_congr (recordFailure_conversations ..),
        stateOf_congr hattends.prepared.conversations]
  | @stopped m s₁ n now text _ hattends _ _ _ hstore =>
      have hrunning : (s₁.recordFailure m).2.isRunning c = true := by
        rw [isRunning_iff, stateOf_congr (recordFailure_conversations s₁ m), ← isRunning_iff]
        exact hattends.running
      refine ⟨hattends.prepared.adds.of_actions ?_, .error, rfl, ?_⟩
      · rw [hstore, endConversation_actions, recordFailure_actions, List.append_nil]
      · rw [hstore, stateOf_endConversation rfl hrunning]
  | @finished m s₁ now text _ hattends _ hstore =>
      have hrunning : (s₁.resetFailures m).2.isRunning c = true := hattends.running
      refine ⟨hattends.prepared.adds.of_actions ?_, .finished, rfl, ?_⟩
      · rw [hstore, endConversation_actions, List.append_nil]
        rfl
      · rw [hstore, stateOf_endConversation rfl hrunning]
  | acted hattends hround hrow hrunning hstore =>
      exact ⟨_, orders_of_acted hattends hround hrow hrunning hstore⟩
  | unsent _ _ _ _ hclock => exact absurd hlegible hclock

/-- A conversation is left only with the reply that the work is finished. -/
theorem Agrees.finish {reply : Option ServerFrame} {h : Past} (ha : Agrees c s reply h)
    (hbefore : s.isRunning c = true) (hafter : h.store.isRunning c = false) :
    ∃ text, reply = some (.finish text) := by
  have hmoved : h.store.stateOf c ≠ s.stateOf c := by
    intro hsame
    rw [isRunning_iff, ← hsame, ← isRunning_iff, hafter] at hbefore
    cases hbefore
  cases reply with
  | none => exact absurd ha.2 hmoved
  | some frame =>
      cases frame with
      | action order =>
          obtain ⟨row, horders⟩ := ha
          rw [horders.conversation] at hafter
          cases hafter
      | finish text => exact ⟨text, rfl⟩
      | error text => exact absurd ha.2 hmoved

/-- **Replies and the store agree.** Take any store that calls make of the empty one, and
answer any frame of a conversation along any course, with clocks that read legible times.
Then the reply says what has become of the store. In particular no action is added but the one
that is sent, and the conversation stops running only with the reply that the work is
finished. -/
theorem reply_agrees {history : List (Instant × Store.Call)}
    (hhistory : ∀ e ∈ history, e.1.Legible) (d : Settings.Decision) (c : Int)
    (frame : ClientFrame) {course : Course} (hcourse : course.Legible) :
    let s := Store.empty.replay history
    let result := handleAlone d c frame course s
    Agrees c s result.1 result.2 ∧
      (s.isRunning c = true → result.2.store.isRunning c = false →
        ∃ text, result.1 = some (.finish text)) := by
  intro s result
  have hs : s.Legible := replay_legible hhistory empty_legible
  have hlegible : result.2.Legible :=
    Program.follow_legible (handle d c frame) hcourse (Past.legible_start s)
  have hagrees : Agrees c s result.1 result.2 :=
    (handled (replay_regular history) d c frame course).agrees ⟨hs, hlegible⟩
  exact ⟨hagrees, hagrees.finish⟩

end Coordinator

namespace Sample

/-- The calls that lead to a message without an action. -/
def freshCalls : List (Instant × Store.Call) := calls.take 2

end Sample

namespace Coordinator

/-- A task with the decision to act, and one for which all calls fail. -/
theorem reply_agrees_click :
    let s := Store.empty.replay Sample.freshCalls
    let acted := handleAlone .standard 1 Sample.task
      (.constant Sample.moment (.ok Sample.click)) s
    let failed := handleAlone .standard 1 Sample.task
      (.constant Sample.moment (.error .emptyPage)) s
    acted.1 = some (.action ⟨1, .click, ⟨none, some "#a", none, none, none⟩⟩) ∧
      Agrees 1 s acted.1 acted.2 ∧ failed.1.map ServerFrame.type = some "error" ∧
      Agrees 1 s failed.1 failed.2 := by
  have hhistory : ∀ e ∈ Sample.freshCalls, e.1.Legible := by decide +kernel
  have hcourse (answer : Except Fault Decision) : (Course.constant Sample.moment answer).Legible :=
    Course.legible_constant (by decide +kernel) answer
  exact ⟨by decide +kernel,
    (reply_agrees hhistory .standard 1 Sample.task (hcourse (.ok Sample.click))).1,
    by decide +kernel,
    (reply_agrees hhistory .standard 1 Sample.task (hcourse (.error .emptyPage))).1⟩

end Coordinator

end ControlPlane
