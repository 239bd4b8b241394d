/-
What comes of a frame.

When nobody else is at work, the answer to a frame goes one of a few ways, and each way
leaves the store in a state that can be written down. `Coordinator.Handled` lists them: the
frame is answered before a decision is asked for; the round of questions is broken off where
a pause does not fit its word, and there is no reply; it is exhausted, and the failure is
counted or stops the conversation; or there is a decision, and the work is finished, or an
action is added and handed out. The last way, on which an action is added but cannot be sent,
is taken only where a time is not legible.

That there is no other way (`Coordinator.handled`) is proved by an outline. What a frame
does to replies, to other conversations or to the count of failures is then a matter of
going through the list.
-/
import ControlPlane.Proofs.Alone
import ControlPlane.Proofs.DecisionRound
import ControlPlane.Proofs.Prepared

set_option autoImplicit false

namespace ControlPlane

namespace Store

/-- The text of a stored kind is the name of the kind that is read from it. -/
theorem read_action_order {r : ActionRow} {v : Action} (h : r.read = .ok v) {kind : Action.Kind}
    (hkind : r.kind = kind.name) : v.kind = kind ∧ v.parameters = r.parameters := by
  obtain ⟨kind', _, _, _, _, hname, _, _, rfl⟩ := read_action_columns h
  rw [hkind, Action.Kind.ofName?_name] at hname
  exact ⟨(Option.some.inj hname).symm, rfl⟩

end Store

namespace Coordinator

open Round Store

/-- The answer to a frame when nobody else is at work, and what has happened then. -/
def handleAlone (d : Settings.Decision) (c : Int) (frame : ClientFrame) (course : Course)
    (s : Store) : Option ServerFrame × Past :=
  (handle d c frame).follow (.handler c) course (.start s)

variable {d : Settings.Decision} {c : Int} {s : Store}

/-- The ways in which a frame is answered, with the store at the end of each. -/
inductive Handled (d : Settings.Decision) (c : Int) (s : Store) :
    Option ServerFrame → Past → Prop where
  /-- No decision was asked for. -/
  | unasked {reply : Option ServerFrame} {h : Past} (hprepared : Prepared c s h.store)
      (hquestions : h.questions = []) (haction : ∀ order, reply ≠ some (.action order))
      (hfinish : ∀ text, reply = some (.finish text) →
        ∃ st : Conversation.State, st.isTerminal = true ∧ h.store.stateOf c = some st.name) :
      Handled d c s reply h
  /-- All calls failed so far, and the pause before the next one does not fit its word: the work
  was broken off. -/
  | broken {m : Int} {h : Past} (hattends : Attends c s m h.store)
      (hfailing : Failing m h.questions) (hasked : h.questions ≠ [])
      (hleft : h.questions.length ≤ d.maxRetries)
      (hlong : ¬ WordRange.unsigned64.holds
        (retryPause d.retryDelay h.questions.length) = true) :
      Handled d c s none h
  /-- All calls failed; the failure was counted, and there may be more of them. -/
  | failed {m : Int} {s₁ : Store} {text : String} {h : Past} (hattends : Attends c s m s₁)
      (hround : exhausted d.maxRetries m h.questions = true)
      (hstore : h.store = (s₁.recordFailure m).2)
      (hfew : ∀ n, (s₁.recordFailure m).1 = .ok n → n < d.maxConsecutiveFailures) :
      Handled d c s (some (.error text)) h
  /-- All calls failed, once too often: the conversation was stopped. -/
  | stopped {m : Int} {s₁ : Store} {n : Nat} {now : Instant} {text : String} {h : Past}
      (hattends : Attends c s m s₁) (hround : exhausted d.maxRetries m h.questions = true)
      (hcount : (s₁.recordFailure m).1 = .ok n) (hmany : d.maxConsecutiveFailures ≤ n)
      (hstore : h.store = ((s₁.recordFailure m).2.endConversation now c .error).2) :
      Handled d c s (some (.finish text)) h
  /-- The decision was that the work is finished. -/
  | finished {m : Int} {s₁ : Store} {now : Instant} {text : String} {h : Past}
      (hattends : Attends c s m s₁)
      (hround : Decided d.maxRetries m (.finished text) h.questions)
      (hstore : h.store = ((s₁.resetFailures m).2.endConversation now c .finished).2) :
      Handled d c s (some (.finish text)) h
  /-- The decision was to act; the action was added, handed out and sent. -/
  | acted {m : Int} {s₁ : Store} {now : Instant} {kind : Action.Kind}
      {parameters : Action.Parameters} {row : ActionRow} {h : Past}
      (hattends : Attends c s m s₁)
      (hround : Decided d.maxRetries m (.act kind parameters) h.questions)
      (hrow : (s₁.pendingRow now m kind parameters).Becomes row)
      (hrunning : row.status = Action.Status.running.name)
      (hstore : h.store = (s₁.resetFailures m).2.added row) :
      Handled d c s (some (.action ⟨row.id, kind, parameters⟩)) h
  /-- The decision was to act; the action was added, but cannot be read. -/
  | unsent {m : Int} {s₁ : Store} {now : Instant} {kind : Action.Kind}
      {parameters : Action.Parameters} {row : ActionRow} {text : String} {h : Past}
      (hattends : Attends c s m s₁)
      (hround : Decided d.maxRetries m (.act kind parameters) h.questions)
      (hrow : (s₁.pendingRow now m kind parameters).Becomes row)
      (hstore : h.store = (s₁.resetFailures m).2.added row)
      (hclock : ¬ (s.Legible ∧ h.Legible)) : Handled d c s (some (.error text)) h

/-! ## The outline -/

/-- What holds all along: the store is one that calls have made, and it is legible while
the clock is. -/
def Handling (s : Store) (h : Past) : Prop :=
  h.store.Regular ∧ (s.Legible → h.Legible → h.store.Legible)

/-- What holds all along holds at the beginning. -/
theorem handling_start (hs : s.Regular) : Handling s (.start s) := ⟨hs, fun h _ => h⟩

/-- It holds after every call. -/
theorem handling_called (who : Actor) {h : Past} (now : Instant) (call : Store.Call)
    (hinv : Handling s h) : Handling s (h.called who now call) := by
  have hchange := h.store.perform_change now call
  refine ⟨hchange.regular hinv.1, ?_⟩
  intro hs hlegible
  obtain ⟨hbefore, hnow⟩ := Past.legible_called.1 hlegible
  exact hchange.legible hnow (hinv.2 hs hbefore)

/-- It holds after every question. -/
theorem handling_asked (who : Actor) {h : Past} (context : Decision.Context)
    (answer : Except Fault Decision) (hinv : Handling s h) :
    Handling s (h.asked who context answer) := by
  refine ⟨hinv.1, ?_⟩
  intro hs hlegible
  rw [Past.legible_asked] at hlegible
  exact hinv.2 hs hlegible

/-- The frame is being prepared for, and no decision was asked for so far. -/
def Preparing (c : Int) (s : Store) (h : Past) : Prop := Prepared c s h.store ∧ h.questions = []

/-- All is ready for a decision, and none was asked for so far. -/
def Attending (c : Int) (s : Store) (m : Int) (h : Past) : Prop :=
  Attends c s m h.store ∧ h.questions = []

/-- When all is ready for a decision, the frame is still prepared for. -/
theorem Attending.preparing {m : Int} {h : Past} (ha : Attending c s m h) : Preparing c s h :=
  ⟨ha.1.prepared, ha.2⟩

/-- A call that prepares leaves the frame being prepared for. -/
theorem Preparing.called {h : Past} (hp : Preparing c s h) (who : Actor) (now : Instant)
    (call : Store.Call) (hcall : Prepared c h.store (h.store.perform now call).2) :
    Preparing c s (h.called who now call) :=
  ⟨hp.1.trans hcall, (Past.questions_called h who now call).trans hp.2⟩

/-- A conversation of which all is ready stays so while preparations go on. -/
theorem attending_called {m : Int} {h : Past} {now : Instant} {call : Store.Call}
    (hp : Preparing c s (h.called (.handler c) now call)) (hinv : Handling s h)
    (hrunning : h.store.isRunning c = true) (hfounds : ¬ call.Founds) (hends : ¬ call.Ends c)
    (howns : (h.store.perform now call).2.Owns c m) :
    Attending c s m (h.called (.handler c) now call) :=
  ⟨attends_perform now call hinv.1 hp.1 hrunning hfounds hends howns, hp.2⟩

/-- Before a decision any fault may be reported. -/
theorem Preparing.refused {h : Past} (hp : Preparing c s h) (text : String) :
    Handled d c s (some (.error text)) h :=
  .unasked hp.1 hp.2 (fun _ h => by cases h) fun _ h => by cases h

/-- A decision to act was made, and its action was added. -/
structure Dispatching (d : Settings.Decision) (c : Int) (s : Store) (m : Int) (s₁ : Store)
    (kind : Action.Kind) (parameters : Action.Parameters) (row : ActionRow) (h : Past) :
    Prop where
  /-- All was ready for the decision. -/
  attends : Attends c s m s₁
  /-- It was made. -/
  round : Decided d.maxRetries m (.act kind parameters) h.questions
  /-- The row is that of the action, pending or handed out. -/
  becomes : ∃ now, (s₁.pendingRow now m kind parameters).Becomes row
  /-- It was added after the count of failures had started over. -/
  store : h.store = (s₁.resetFailures m).2.added row

namespace Dispatching

variable {m : Int} {s₁ : Store} {kind : Action.Kind} {parameters : Action.Parameters}
  {row : ActionRow} {h : Past}

/-- The tables are numbered when the action is added. -/
theorem ordered (hd : Dispatching d c s m s₁ kind parameters row h) :
    (s₁.resetFailures m).2.Ordered :=
  -- the time at which the count starts over does not matter
  (s₁.perform_change default (.resetFailures m)).ordered hd.attends.regular.ordered

/-- The action has the next number. -/
theorem id (hd : Dispatching d c s m s₁ kind parameters row h) :
    row.id = (s₁.resetFailures m).2.lastAction + 1 := by
  obtain ⟨now, hbecomes⟩ := hd.becomes
  exact hbecomes.id

/-- The action of a decision is added, and answered if it can be read. -/
theorem create (hround : Decided d.maxRetries m (.act kind parameters) h.questions)
    (hattends : Attends c s m s₁) (hstore : h.store = (s₁.resetFailures m).2) (now : Instant) :
    Dispatching d c s m s₁ kind parameters (s₁.pendingRow now m kind parameters)
        (h.called (.handler c) now (.createAction m kind parameters)) ∧
      (h.store.perform now (.createAction m kind parameters)).1 =
        present .action (s₁.pendingRow now m kind parameters).id
          ((h.called (.handler c) now (.createAction m kind parameters)).store.getAction
            (s₁.pendingRow now m kind parameters).id) := by
  have howns : h.store.Owns c m :=
    hstore ▸ (s₁.perform_change now (.resetFailures m)).owns hattends.owns
  have hcreate := createAction_added howns now kind parameters
  rw [hstore] at hcreate
  have hadded : (h.called (.handler c) now (.createAction m kind parameters)).store =
      (s₁.resetFailures m).2.added (s₁.pendingRow now m kind parameters) := by
    rw [Past.called_store, hstore]
    exact congrArg Prod.snd hcreate
  refine ⟨⟨hattends, ?_, ⟨now, ActionRow.Becomes.refl _⟩, hadded⟩, ?_⟩
  · rw [Past.questions_called]
    exact hround
  · -- the answer is what is found under the number of the new row
    rw [hadded, hstore]
    exact congrArg Prod.fst hcreate

/-- The action is handed out. -/
theorem start (hd : Dispatching d c s m s₁ kind parameters row h)
    (hpending : row.status = Action.Status.pending.name) (now : Instant) :
    Dispatching d c s m s₁ kind parameters
        { row with
          status := Action.Status.running.name, startedAt := some now.storedText }
        (h.called (.handler c) now (.startAction row.id)) ∧
      (h.store.perform now (.startAction row.id)).1 = .ok true := by
  have hstart := startAction_added hd.ordered hd.id hpending now
  rw [← hd.store] at hstart
  obtain ⟨created, hbecomes⟩ := hd.becomes
  refine ⟨⟨hd.attends, ?_, ⟨created, ?_⟩, congrArg Prod.snd hstart⟩, congrArg Prod.fst hstart⟩
  · rw [Past.questions_called]
    exact hd.round
  · exact hbecomes.trans (ActionRow.becomes_started hpending _)

/-- To look the action up changes nothing. -/
theorem lookUp (hd : Dispatching d c s m s₁ kind parameters row h) (now : Instant) (i : Int) :
    Dispatching d c s m s₁ kind parameters row
      (h.called (.handler c) now (.getAction i)) := by
  refine ⟨hd.attends, ?_, hd.becomes, hd.store⟩
  rw [Past.questions_called]
  exact hd.round

/-- What is found under its number is the action that was decided on. -/
theorem found (hd : Dispatching d c s m s₁ kind parameters row h) {v : Action}
    (hv : h.store.getAction row.id = .ok (some v)) :
    v.id = row.id ∧ v.kind = kind ∧ v.parameters = parameters := by
  obtain ⟨now, hbecomes⟩ := hd.becomes
  obtain ⟨r, hfind, hread⟩ := answer?_some hv
  rw [hd.store, action?_added hd.ordered hd.id] at hfind
  obtain rfl := Option.some.inj hfind
  obtain ⟨hkind, hparameters⟩ := read_action_order hread hbecomes.kind
  exact ⟨(read_action hread).1, hkind, hparameters.trans hbecomes.parameters⟩

/-- An action that was added, and cannot be read, was added at a time that is not legible. -/
theorem unsent (hd : Dispatching d c s m s₁ kind parameters row h) (hinv : Handling s h)
    (hfails : ∀ v, h.store.getAction row.id ≠ .ok (some v)) (text : String) :
    Handled d c s (some (.error text)) h := by
  obtain ⟨now, hbecomes⟩ := hd.becomes
  refine Handled.unsent hd.attends hd.round hbecomes hd.store ?_
  rintro ⟨hs, hlegible⟩
  have hactions := (hinv.2 hs hlegible).actions
  rw [hd.store] at hactions hfails
  have hrow : row ∈ ((s₁.resetFailures m).2.added row).actions :=
    List.mem_append_right _ (List.mem_singleton.2 rfl)
  obtain ⟨v, hv⟩ := getAction_added hd.ordered hd.id (hactions row hrow)
  exact hfails v hv

end Dispatching

/-- What the coordinator knows at each point of the way. -/
def handles (d : Settings.Decision) (c : Int) (s : Store) :
    Outline (undisturbed (Handling s)) c where
  begun := Preparing c s
  running v h := v.id = c ∧ Preparing c s h ∧ h.store.isRunning c = true
  resolved v m h := v.id = c ∧ Attending c s m.id h
  cleared v m h := v.id = c ∧ Attending c s m.id h
  named a h := Preparing c s h ∧ h.store.Serves a.id a.messageId
  found a m h := Preparing c s h ∧ h.store.Serves a.id m.id ∧ h.store.Owns c m.id
  recorded _ m h := Preparing c s h ∧ h.store.Owns c m.id
  resumed v _ m h := v.id = c ∧ Attending c s m.id h
  ready v m n h := v.id = c ∧ Attends c s m.id h.store ∧ Failing m.id h.questions ∧
    h.questions.length = n
  decided v m decision h := v.id = c ∧ Attends c s m.id h.store ∧
    Decided d.maxRetries m.id decision h.questions
  accepted v m decision h := v.id = c ∧ Decided d.maxRetries m.id decision h.questions ∧
    ∃ s₁, Attends c s m.id s₁ ∧ h.store = (s₁.resetFailures m.id).2
  created a h := ∃ m s₁ kind parameters row, Dispatching d c s m s₁ kind parameters row h ∧
    row.status = Action.Status.pending.name ∧ a.id = row.id
  started a h := ∃ m s₁ kind parameters row, Dispatching d c s m s₁ kind parameters row h ∧
    row.status = Action.Status.running.name ∧ a.id = row.id
  counted v h := v.id = c ∧ ∃ m s₁ n, Attends c s m s₁ ∧
    exhausted d.maxRetries m h.questions = true ∧ (s₁.recordFailure m).1 = .ok n ∧
    d.maxConsecutiveFailures ≤ n ∧ h.store = (s₁.recordFailure m).2
  replied := Handled d c s

/-- What is to be shown of a call when nobody else is at work. -/
theorem step_alone {A : Past → Prop} {call : Store.Call}
    {after : Except Fault call.Answer → Past → Prop}
    (hafter : ∀ h now, A h → Handling s h → Handling s (h.called (.handler c) now call) →
      after (h.store.perform now call).1 (h.called (.handler c) now call)) :
    Outline.Step (undisturbed (Handling s)) c A call after := by
  intro h h' hA hrely hinv
  cases hrely
  exact ⟨trivial, fun now => hafter h now hA hinv (handling_called _ now call hinv)⟩

/-- What is to be shown of a call before a decision: a fault is reported, whatever it is. -/
theorem step_preparing {A : Past → Prop} {call : Store.Call} (hA : ∀ h, A h → Preparing c s h)
    (hprepared : ∀ h now, A h → Handling s h → Prepared c h.store (h.store.perform now call).2)
    {q : call.Answer → Past → Prop}
    (hok : ∀ h now a, A h → Handling s h → (h.store.perform now call).1 = .ok a →
      Preparing c s (h.called (.handler c) now call) → q a (h.called (.handler c) now call)) :
    Outline.Step (undisturbed (Handling s)) c A call ((handles d c s).OrRefused q) := by
  refine step_alone ?_
  intro h now hh hinv _
  have hp := (hA h hh).called (.handler c) now call (hprepared h now hh hinv)
  exact Outline.orElse_of (fun a hanswer => hok h now a hh hinv hanswer hp)
    fun f _ => hp.refused f.message

/-- A call that only reads is a step on which the frame is prepared for. -/
theorem step_reading {A : Past → Prop} {call : Store.Call} (hA : ∀ h, A h → Preparing c s h)
    (hreads : ∀ (s' : Store) now, (s'.perform now call).2 = s') {q : call.Answer → Past → Prop}
    (hok : ∀ h now a, A h → Handling s h → (h.store.perform now call).1 = .ok a →
      (h.called (.handler c) now call).store = h.store →
      Preparing c s (h.called (.handler c) now call) → q a (h.called (.handler c) now call)) :
    Outline.Step (undisturbed (Handling s)) c A call ((handles d c s).OrRefused q) :=
  step_preparing hA (fun h now _ _ => (hreads h.store now).symm ▸ Prepared.refl c h.store)
    fun h now a hh hinv hanswer hp => hok h now a hh hinv hanswer (hreads h.store now) hp

/-- To look at the store while all is ready leaves it so. -/
theorem step_attending {v : Conversation} {m : Message} {call : Store.Call}
    (hreads : ∀ (s' : Store) now, (s'.perform now call).2 = s') (hfounds : ¬ call.Founds)
    (hends : ¬ call.Ends c) {q : call.Answer → Past → Prop}
    (hq : ∀ a h, v.id = c → Attending c s m.id h → q a h) :
    Outline.Step (undisturbed (Handling s)) c (fun h => v.id = c ∧ Attending c s m.id h) call
      ((handles d c s).OrRefused q) := by
  refine step_reading (fun _ hh => hh.2.preparing) hreads ?_
  rintro h now a ⟨hv, hattends, _⟩ hinv _ hstore hp
  refine hq a _ hv (attending_called hp hinv hattends.running hfounds hends ?_)
  exact (hreads h.store now).symm ▸ hattends.owns

/-- All is ready for a first call. -/
theorem ready_first {v : Conversation} {m : Message} {h : Past} (hv : v.id = c)
    (ha : Attending c s m.id h) : (handles d c s).ready v m 0 h := by
  refine ⟨hv, ha.1, ?_, ?_⟩
  · rw [ha.2]
    exact failing_nil m.id
  · rw [ha.2]
    rfl

/-- A call that failed is one more of them. -/
theorem ready_again {v : Conversation} {m : Message} {n : Nat} {h : Past}
    (hready : (handles d c s).ready v m n h) {context : Decision.Context}
    (habout : context.message.id = m.id) {answer : Except Fault Decision}
    (hinvalid : Question.isValid ⟨context, answer⟩ = false) :
    (handles d c s).ready v m (n + 1) (h.asked (.handler c) context answer) := by
  obtain ⟨hv, hattends, hfailing, hlength⟩ := hready
  refine ⟨hv, hattends, ?_, ?_⟩
  · rw [Past.questions_asked]
    exact hfailing.append (beq_iff_eq.2 habout) hinvalid
  · rw [Past.questions_asked, List.length_append, List.length_singleton, hlength]

/-! ## The points of the way -/

/-- A conversation that did not end when it was looked up is running. -/
theorem handles_checks : (handles d c s).Checks := by
  refine step_reading (fun _ hp => hp) (fun _ _ => rfl) ?_
  intro h now found _ _ hanswer hstore hp
  refine Outline.elim_of_some (hp.refused _) ?_
  rintro v rfl
  by_cases hterminal : v.state.isTerminal = true
  · rw [if_pos hterminal]
    exact hp.refused _
  · rw [if_neg hterminal]
    refine ⟨(getConversation_some hanswer).1, hp, ?_⟩
    rw [hstore]
    exact isRunning_of_found hanswer hterminal

/-- A message that is answered to belongs to the running conversation. -/
theorem handles_looksUp : (handles d c s).LooksUp := by
  intro v number
  refine step_reading (fun _ hh => hh.2.1) (fun _ _ => rfl) ?_
  rintro h now found ⟨hv, _, hrunning⟩ hinv hanswer hstore hp
  refine Outline.elim_of_some ⟨⟨hv, hp, hstore ▸ hrunning⟩, hp.refused _⟩ ?_
  rintro m rfl
  by_cases hown : m.conversationId = v.id
  · rw [if_pos hown]
    obtain ⟨hm, howns⟩ := getMessage_some hanswer
    rw [hown, hv, ← hm] at howns
    exact ⟨hv, attending_called hp hinv hrunning id id howns⟩
  · rw [if_neg hown]
    exact hp.refused _

/-- So does a message that was added. -/
theorem handles_adds : (handles d c s).Adds := by
  intro v text
  refine step_preparing (fun _ hh => hh.2.1) ?_ ?_
  · rintro h now ⟨hv, _⟩ _
    rw [hv]
    exact prepared_createMessage h.store now c .user text
  · rintro h now m ⟨hv, _, hrunning⟩ hinv hanswer hp
    rw [hv] at hanswer hp ⊢
    exact ⟨hv, attending_called hp hinv hrunning id id (createMessage_ok hanswer)⟩

/-- To skip what is open is a preparation. -/
theorem handles_skips : (handles d c s).Skips := by
  intro v m
  refine step_preparing (fun _ hh => hh.2.preparing) ?_ ?_
  · rintro h now ⟨_, hattends, _⟩ hinv
    exact prepared_skipOpenActions hinv.1.ordered hattends.owns supersededReason
  · rintro h now skipped ⟨hv, hattends, _⟩ hinv _ hp
    exact ⟨hv, attending_called hp hinv hattends.running id id
      ((h.store.perform_change now _).owns hattends.owns)⟩

/-- A look at what was done makes all ready for a first call. -/
theorem handles_reads : (handles d c s).Reads := by
  intro v m
  exact step_attending (fun _ _ => rfl) id id fun _ _ hv hattending => ready_first hv hattending

/-- The action of a result serves the message that it names. -/
theorem handles_finds (r : ResultFrame) : (handles d c s).Finds r := by
  refine step_reading (fun _ hp => hp) (fun _ _ => rfl) ?_
  intro h now found _ _ hanswer _ hp
  refine Outline.elim_of_some (hp.refused _) ?_
  rintro a rfl
  obtain ⟨hid, hserves⟩ := getAction_some hanswer
  rw [← hid] at hserves
  exact ⟨hp, hserves⟩

/-- The message of a result belongs to the conversation. -/
theorem handles_owns : (handles d c s).Owns := by
  intro a
  refine step_reading (fun _ hh => hh.1) (fun _ _ => rfl) ?_
  rintro h now found ⟨_, hserves⟩ _ hanswer _ hp
  refine Outline.elim_of_some (hp.refused _) ?_
  rintro m rfl
  obtain ⟨hid, howns⟩ := getMessage_some hanswer
  by_cases hown : m.conversationId = c
  · rw [if_pos hown]
    rw [hown] at howns
    rw [← hid] at howns hserves
    exact ⟨hp, hserves, howns⟩
  · rw [if_neg hown]
    exact hp.refused _

/-- To record a result is a preparation. -/
theorem handles_records (r : ResultFrame) : (handles d c s).Records r := by
  intro a m
  refine step_preparing (fun _ hh => hh.1) ?_ ?_
  · rintro h now ⟨_, hserves, howns⟩ hinv
    exact prepared_completeAction hinv.1.ordered hserves howns _ _ _
  · rintro h now done ⟨_, _, howns⟩ _ _ hp
    cases done with
    | true => exact ⟨hp, (h.store.perform_change now _).owns howns⟩
    | false => exact .unasked hp.1 hp.2 (fun _ hr => by cases hr) fun _ hr => by cases hr

/-- After a result the conversation is running, or its end is the reply. A conflict would be
answered with the end of the work; the look-up raises none. -/
theorem handles_rechecks : (handles d c s).Rechecks := by
  intro a m
  refine step_alone ?_
  rintro h now ⟨hp, howns⟩ hinv _
  have hp' : Preparing c s (h.called (.handler c) now (.getConversation c)) :=
    hp.called (.handler c) now _ (Prepared.refl c h.store)
  refine Outline.orElse_of ?_ ?_
  · intro found hanswer
    refine Outline.elim_of_some (hp'.refused _) ?_
    rintro v rfl
    by_cases hterminal : v.state.isTerminal = true
    · rw [if_pos hterminal]
      exact .unasked hp'.1 hp'.2 (fun _ hr => by cases hr)
        fun _ _ => ⟨v.state, hterminal, stateOf_of_found hanswer⟩
    · rw [if_neg hterminal]
      exact ⟨(getConversation_some hanswer).1, attending_called hp' hinv
        (isRunning_of_found hanswer hterminal) id id howns⟩
  · intro f hanswer
    rw [if_neg (perform_fault hanswer).kind_ne_conflict]
    exact hp'.refused f.message

/-- A look at the action changes nothing. -/
theorem handles_looksAgain : (handles d c s).LooksAgain := by
  intro v a m
  exact step_attending (fun _ _ => rfl) id id fun _ _ hv hattending => ⟨hv, hattending⟩

/-- A look at what was done makes all ready for a first call after a result, too. -/
theorem handles_readsAgain : (handles d c s).ReadsAgain := by
  intro v a m
  exact step_attending (fun _ _ => rfl) id id fun _ _ hv hattending => ready_first hv hattending

/-- A decision that can be carried out ends the round; otherwise one more call has failed. -/
theorem handles_asks : (handles d c s).Asks d := by
  intro v m n context hm hn h h' hready hrely _
  cases hrely
  have habout : context.message.id = m.id := congrArg _ hm
  obtain ⟨hv, hattends, hfailing, hlength⟩ := hready
  refine ⟨trivial, ?_⟩
  intro r
  refine Outline.orElse_of ?_ ?_
  · rintro decision rfl
    by_cases hcheck : decision.check = .ok ()
    · rw [if_pos hcheck]
      refine ⟨hv, hattends, h.questions, context, Past.questions_asked .., hfailing, ?_,
        habout, hcheck⟩
      rwa [hlength]
    · rw [if_neg hcheck]
      exact ready_again ⟨hv, hattends, hfailing, hlength⟩ habout (decide_eq_false hcheck)
  · rintro e rfl
    exact ready_again ⟨hv, hattends, hfailing, hlength⟩ habout rfl

/-- A pause that does not fit comes after a call that has failed. -/
theorem handles_breaks : (handles d c s).Breaks d := by
  intro v m n h hpause hleft hready hlong
  obtain ⟨-, hattends, hfailing, rfl⟩ := hready
  exact Handled.broken hattends hfailing (List.ne_nil_of_length_pos hpause) hleft hlong

/-- After a decision the count of failed rounds starts over. -/
theorem handles_resets : (handles d c s).Resets d := by
  intro v m decision
  refine step_alone ?_
  rintro h now ⟨hv, hattends, hround⟩ _ _
  refine ⟨hv, ?_, h.store, hattends, rfl⟩
  rw [Past.questions_called]
  exact hround

/-- A round in which all calls failed is counted. -/
theorem handles_counts : (handles d c s).Counts d := by
  intro v m e
  refine step_alone ?_
  rintro h now ⟨hv, hattends, hfailing, hlength⟩ _ _
  have hround : exhausted d.maxRetries m.id
      (h.called (.handler c) now (.recordFailure m.id)).questions = true := by
    rw [Past.questions_called]
    exact exhausted_iff.2 ⟨hlength, hfailing⟩
  refine Outline.orElse_of ?_ ?_
  · intro n hanswer
    by_cases hfew : n < d.maxConsecutiveFailures
    · rw [if_pos hfew]
      refine Handled.failed hattends hround rfl ?_
      intro n' hn'
      have hsame := hn'.symm.trans hanswer
      cases hsame
      exact hfew
    · rw [if_neg hfew]
      exact ⟨hv, m.id, h.store, n, hattends, hround, hanswer, Nat.le_of_not_lt hfew, rfl⟩
  · intro f hanswer
    refine Handled.failed hattends hround rfl ?_
    intro n hn
    have hsame := hn.symm.trans hanswer
    cases hsame

/-- One too many of them stops the conversation; its new state is a final one, so the call cannot
fail. -/
theorem handles_stops : (handles d c s).Stops := by
  intro v n e
  refine step_alone ?_
  rintro h now ⟨hv, m, s₁, n', hattends, hround, hcount, hmany, hstore⟩ _ _
  rw [hv]
  have hstopped : (h.called (.handler c) now (.endConversation c .error)).store =
      ((s₁.recordFailure m).2.endConversation now c .error).2 := by
    rw [Past.called_store, hstore]
    rfl
  refine .stopped hattends ?_ hcount hmany hstopped
  rw [Past.questions_called]
  exact hround

/-- The action of a decision is added, and answered if it can be read. -/
theorem handles_creates : (handles d c s).Creates := by
  intro v m kind parameters
  refine step_alone ?_
  rintro h now ⟨hv, hround, s₁, hattends, hstore⟩ _ hinv'
  obtain ⟨hd, hanswer⟩ := Dispatching.create hround hattends hstore now
  refine Outline.orElse_of ?_ ?_
  · intro a ha
    have hid := (hd.found (present_ok (hanswer.symm.trans ha))).1
    exact ⟨m.id, s₁, kind, parameters, _, hd, rfl, hid⟩
  · intro f hf
    refine hd.unsent hinv' ?_ f.message
    intro v hv
    rw [hv] at hanswer
    have hclash := hanswer.symm.trans hf
    cases hclash

/-- It is handed out, since it was pending. -/
theorem handles_starts : (handles d c s).Starts := by
  intro a
  refine step_alone ?_
  rintro h now ⟨m, s₁, kind, parameters, row, hd, hpending, hid⟩ _ _
  rw [hid]
  obtain ⟨hd', hstarted⟩ := hd.start hpending now
  refine Outline.orElse_of ?_ ?_
  · intro done hdone
    have htrue : done = true := Except.ok.inj (hdone.symm.trans hstarted)
    rw [htrue, if_pos rfl]
    exact ⟨m, s₁, kind, parameters, _, hd', rfl, hid⟩
  · intro f hf
    have hclash := hf.symm.trans hstarted
    cases hclash

/-- What is looked up under its number is the action that was decided on. -/
theorem handles_sends : (handles d c s).Sends := by
  intro a
  refine step_alone ?_
  rintro h now ⟨m, s₁, kind, parameters, row, hd, hrunning, hid⟩ _ hinv'
  rw [hid] at hinv' ⊢
  have hd' := hd.lookUp now row.id
  refine Outline.orElse_of ?_ ?_
  · intro found hfound
    cases found with
    | none =>
        refine hd'.unsent hinv' ?_ _
        intro v hv
        have hclash := hv.symm.trans hfound
        cases hclash
    | some b =>
        obtain ⟨hbid, hkind, hparameters⟩ := hd'.found hfound
        have hreply : ServerFrame.ofAction b = .action ⟨row.id, kind, parameters⟩ := by
          rw [ServerFrame.ofAction, ActionOrder.ofAction, hbid, hkind, hparameters]
        rw [Option.elim_some, hreply]
        obtain ⟨created, hbecomes⟩ := hd'.becomes
        exact Handled.acted hd'.attends hd'.round hbecomes hrunning hd'.store
  · intro f hf
    refine hd'.unsent hinv' ?_ _
    intro v hv
    have hclash := hv.symm.trans hf
    cases hclash

/-- The work is finished, which ends the conversation. -/
theorem handles_finishes : (handles d c s).Finishes := by
  intro v m text
  refine step_alone ?_
  rintro h now ⟨hv, hround, s₁, hattends, hstore⟩ _ _
  rw [hv]
  have hfinished : (h.called (.handler c) now (.endConversation c .finished)).store =
      ((s₁.resetFailures m.id).2.endConversation now c .finished).2 := by
    rw [Past.called_store, hstore]
    rfl
  refine .finished hattends ?_ hfinished
  rw [Past.questions_called]
  exact hround

/-- The outline is valid. -/
theorem handles_valid (d : Settings.Decision) (c : Int) (s : Store) (frame : ClientFrame) :
    (handles d c s).Valid d frame where
  checks _ _ := handles_checks
  looksUp := handles_looksUp
  adds := handles_adds
  blank _ _ _ hresolved := hresolved.2.preparing.refused _
  skips := handles_skips
  reads := handles_reads
  finds r _ := handles_finds r
  owns := handles_owns
  records r _ := handles_records r
  rechecks := handles_rechecks
  looksAgain := handles_looksAgain
  readsAgain := handles_readsAgain
  asks := handles_asks
  breaks := handles_breaks
  resets := handles_resets
  counts := handles_counts
  stops := handles_stops
  creates := handles_creates
  starts := handles_starts
  sends := handles_sends
  finishes := handles_finishes

/-- **What comes of a frame** is one of the ways in the list, whatever the frame, the times
and the decisions. -/
theorem handled (hs : s.Regular) (d : Settings.Decision) (c : Int) (frame : ClientFrame)
    (course : Course) :
    Handled d c s (handleAlone d c frame course s).1 (handleAlone d c frame course s).2 := by
  have hbegun : Preparing c s (.start s) := ⟨Prepared.refl c s, Past.questions_start s⟩
  have hmeets := (handles_valid d c s frame).handle hbegun
  exact (hmeets.follow (fun h now call => handling_called _ now call)
    (fun h context answer => handling_asked _ context answer) course (handling_start hs)).1

end Coordinator

end ControlPlane
