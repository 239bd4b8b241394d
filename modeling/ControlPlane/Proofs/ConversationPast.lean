/-
A conversation in the course of the past.

The coordinator looks whether a conversation is running, and what it does afterwards rests
on that. In the meantime a sweep may stop the conversation. A stretch of the past
(`Past.Stretch`) is what lies between two moments: the log has gone on, and the conversation
stands as before, unless an entry of the log stops it.

So after the coordinator has found the conversation running (`Past.Seen`), it is running
just as long as no entry of the log stops it (`Seen.watched`). This is carried over to what
the coordinator sends: an action that was added (`Past.Dispatched`), and the end of the work
(`Past.Concluded`).
-/
import ControlPlane.Proofs.ConversationState
import ControlPlane.Proofs.Scene

set_option autoImplicit false

namespace ControlPlane

/-! ## Entries -/

namespace Entry

/-- Somebody called while the conversation was running. -/
def Finds (c : Int) : Entry → Prop
  | .called _ _ _ before => before.isRunning c = true
  | .asked _ _ _ => False

/-- Somebody brought the running conversation to an end. -/
def Stops (c : Int) : Entry → Prop
  | .called _ _ call before => call.Ends c ∧ before.isRunning c = true
  | .asked _ _ _ => False

/-- It was a sweep. -/
def IsSweep : Entry → Prop
  | .called who _ _ _ => who = .sweeper
  | .asked who _ _ => who = .sweeper

/-- The answer to a frame looked the conversation up and found it running. -/
def Checks (c : Int) : Entry → Prop
  | .called who _ call before =>
    who = .handler c ∧ call = .getConversation c ∧ before.isRunning c = true
  | .asked _ _ _ => False

/-- The answer to a frame was told that the work is finished. -/
def Told (c : Int) : Entry → Prop
  | .asked who _ (.ok (.finished _)) => who = .handler c
  | _ => False

/-- The answer to a frame added the action with a number, for a message of the
conversation. -/
def Creates (c id : Int) : Entry → Prop
  | .called who now (.createAction m kind parameters) before =>
    who = .handler c ∧ before.Owns c m ∧
      (before.createAction now m kind parameters).1.toOption.map (·.id) = some id
  | _ => False

instance (c : Int) (e : Entry) : Decidable (e.Finds c) := by
  unfold Finds
  split <;> infer_instance

instance (c : Int) (e : Entry) : Decidable (e.Told c) := by
  unfold Told
  split <;> infer_instance

instance (c id : Int) (e : Entry) : Decidable (e.Creates c id) := by
  unfold Creates
  split <;> infer_instance

/-- The answer to a frame called for the conversation to be finished. -/
def Finishes (c : Int) : Entry → Prop
  | .called who _ call _ => who = .handler c ∧ call = .endConversation c .finished
  | .asked _ _ _ => False

/-- Whoever is told that the work is finished answers frames of the conversation. -/
theorem who_of_told {c : Int} {who : Actor} {context : Decision.Context}
    {r : Except Fault Decision} (h : (Entry.asked who context r).Told c) :
    who = .handler c := by
  cases r with
  | error e => exact h.elim
  | ok d =>
      cases d with
      | act kind parameters => exact h.elim
      | finished text => exact h

/-- The conversation was found running, and after that somebody may have stopped it, but
nobody but a sweep: it was left alone just if `P`. -/
def Watched (c : Int) (P : Prop) (log : List Entry) : Prop :=
  ∃ earlier check since, log = earlier ++ check :: since ∧ check.Checks c ∧
    (∀ e ∈ since, e.Stops c → e.IsSweep) ∧ (P ↔ ∀ e ∈ since, ¬ e.Stops c)

/-- What is known of a watched conversation depends on a condition up to equivalence. -/
theorem Watched.of_iff {c : Int} {P Q : Prop} {log : List Entry} (h : Watched c P log)
    (hiff : Q ↔ P) : Watched c Q log := by
  obtain ⟨earlier, check, since, hlog, hcheck, hsweeps, hstops⟩ := h
  exact ⟨earlier, check, since, hlog, hcheck, hsweeps, hiff.trans hstops⟩

end Entry

/-! ## Stretches of the past -/

namespace Past

variable {c : Int} {h h' h'' : Past} {more more' : List Entry}

/-- What happened between two moments: the log went on, and if the conversation does not
stand as before, a sweep has stopped it with an error. -/
structure Stretch (c : Int) (h h' : Past) (more : List Entry) : Prop where
  /-- The log went on. -/
  log : h'.log = h.log ++ more
  /-- Messages stayed with the conversation. -/
  owns : ∀ m, h.store.Owns c m → h'.store.Owns c m
  /-- Nobody but a sweep stopped the conversation. -/
  sweeps : ∀ e ∈ more, e.Stops c → e.IsSweep
  /-- The conversation stands as before, or was stopped. -/
  state :
    ((∀ e ∈ more, ¬ e.Stops c) ∧ h'.store.stateOf c = h.store.stateOf c) ∨
    ((∃ e ∈ more, e.Stops c) ∧ h.store.stateOf c = some Conversation.State.running.name ∧
      h'.store.stateOf c = some Conversation.State.error.name)

theorem Stretch.refl (c : Int) (h : Past) : Stretch c h h [] where
  log := (List.append_nil h.log).symm
  owns := fun _ hm => hm
  sweeps := fun _ he => absurd he List.not_mem_nil
  state := Or.inl ⟨fun _ he => absurd he List.not_mem_nil, rfl⟩

/-- Two stretches, one after the other, are one. -/
theorem Stretch.trans (hs : Stretch c h h' more) (hs' : Stretch c h' h'' more') :
    Stretch c h h'' (more ++ more') where
  log := by rw [hs'.log, hs.log, List.append_assoc]
  owns := fun m hm => hs'.owns m (hs.owns m hm)
  sweeps := by
    intro e he
    rcases List.mem_append.1 he with he | he
    · exact hs.sweeps e he
    · exact hs'.sweeps e he
  state := by
    rcases hs.state with ⟨hnone, hsame⟩ | ⟨⟨e, he, hstop⟩, hrunning, herror⟩
    · rcases hs'.state with ⟨hnone', hsame'⟩ | ⟨⟨e, he, hstop⟩, hrunning, herror⟩
      · refine Or.inl ⟨?_, hsame'.trans hsame⟩
        intro e he
        rcases List.mem_append.1 he with he | he
        · exact hnone e he
        · exact hnone' e he
      · exact Or.inr ⟨⟨e, List.mem_append_right _ he, hstop⟩, hsame ▸ hrunning, herror⟩
    · -- a conversation that was stopped is not stopped again
      rcases hs'.state with ⟨_, hsame'⟩ | ⟨_, hrunning', _⟩
      · exact Or.inr ⟨⟨e, List.mem_append_left _ he, hstop⟩, hrunning, hsame'.trans herror⟩
      · rw [herror] at hrunning'
        exact absurd hrunning' (by decide)

/-- A call that founds no conversation, and stops this one only if it is a sweep's. -/
theorem stretch_called {who : Actor} {call : Store.Call} (hfounds : ¬ call.Founds)
    (hends : call.Ends c → who = .sweeper ∧ call = .endConversation c .error) (h : Past)
    (now : Instant) : Stretch c h (h.called who now call) [.called who now call h.store] where
  log := rfl
  owns := fun _ hm => (h.store.perform_change now call).owns hm
  sweeps := by
    intro e he hstop
    rw [List.mem_singleton.1 he] at hstop ⊢
    exact (hends hstop.1).1
  state := by
    -- the only call that moves the conversation is one that ends it while it runs
    by_cases hstop : call.Ends c ∧ h.store.isRunning c = true
    · refine Or.inr ⟨⟨_, List.mem_singleton.2 rfl, hstop⟩, Store.isRunning_iff.1 hstop.2, ?_⟩
      rw [(hends hstop.1).2]
      exact Store.stateOf_endConversation rfl hstop.2
    · refine Or.inl ⟨?_, (h.store.perform_change now call).stateOf hfounds hstop⟩
      intro e he
      rw [List.mem_singleton.1 he]
      exact hstop

/-- To ask for a decision is a stretch, as the store stays. -/
theorem stretch_asked (c : Int) (h : Past) (who : Actor) (context : Decision.Context)
    (r : Except Fault Decision) : Stretch c h (h.asked who context r) [.asked who context r] where
  log := rfl
  owns := fun _ hm => hm
  sweeps := by
    intro e he hstop
    rw [List.mem_singleton.1 he] at hstop
    exact hstop.elim
  state := by
    refine Or.inl ⟨?_, rfl⟩
    intro e he
    rw [List.mem_singleton.1 he]
    exact fun hstop => hstop

/-- What the answer to a frame relies on: such a stretch, in which it was not told that the
work is finished. -/
def Follows (c : Int) (h h' : Past) : Prop :=
  ∃ more, Stretch c h h' more ∧ ∀ e ∈ more, ¬ e.Told c

theorem Follows.refl (c : Int) (h : Past) : Follows c h h :=
  ⟨[], Stretch.refl c h, fun _ he => absurd he List.not_mem_nil⟩

/-- Two stretches in which nobody was told are one in which nobody was told. -/
theorem Follows.trans (hf : Follows c h h') (hf' : Follows c h' h'') : Follows c h h'' := by
  obtain ⟨more, hs, htold⟩ := hf
  obtain ⟨more', hs', htold'⟩ := hf'
  refine ⟨more ++ more', hs.trans hs', ?_⟩
  intro e he
  rcases List.mem_append.1 he with he | he
  · exact htold e he
  · exact htold' e he

/-- A call that neither founds a conversation nor ends it, but for a sweep, may be relied on. -/
theorem follows_called {who : Actor} {call : Store.Call} (hfounds : ¬ call.Founds)
    (hends : call.Ends c → who = .sweeper ∧ call = .endConversation c .error) (h : Past)
    (now : Instant) : Follows c h (h.called who now call) := by
  refine ⟨_, stretch_called hfounds hends h now, ?_⟩
  intro e he
  rw [List.mem_singleton.1 he]
  exact fun htold => htold

/-! ## What a check is good for -/

/-- The answer to a frame has found the conversation running; what followed is a
stretch. -/
def Seen (c : Int) (h : Past) : Prop :=
  ∃ (h₀ : Past) (now : Instant) (more : List Entry), h₀.store.isRunning c = true ∧
    Stretch c (h₀.called (.handler c) now (.getConversation c)) h more

/-- A running conversation that is looked up was seen. -/
theorem seen_of_check {now : Instant} (h : Past) (hrunning : h.store.isRunning c = true) :
    (h.called (.handler c) now (.getConversation c)).Seen c :=
  ⟨h, now, [], hrunning, Stretch.refl c _⟩

/-- What was seen has been seen after a stretch as well. -/
theorem Seen.stretch (hseen : h.Seen c) (hs : Stretch c h h' more) : h'.Seen c := by
  obtain ⟨h₀, now, earlier, hrunning, hs₀⟩ := hseen
  exact ⟨h₀, now, earlier ++ more, hrunning, hs₀.trans hs⟩

/-- After the check the conversation is running, or it stands in an error. -/
theorem Seen.state (hseen : h.Seen c) :
    h.store.isRunning c = true ∨ h.store.stateOf c = some Conversation.State.error.name := by
  obtain ⟨h₀, now, more, hrunning, hs⟩ := hseen
  rcases hs.state with ⟨_, hsame⟩ | ⟨_, _, herror⟩
  · exact Or.inl (Store.isRunning_iff.2 (hsame.trans (Store.isRunning_iff.1 hrunning)))
  · exact Or.inr herror

/-- **What a check is good for.** The conversation is running just if no sweep has stopped
it since the check. -/
theorem Seen.watched (hseen : h.Seen c) :
    Entry.Watched c (h.store.isRunning c = true) h.log := by
  obtain ⟨h₀, now, more, hrunning, hs⟩ := hseen
  refine ⟨h₀.log, .called (.handler c) now (.getConversation c) h₀.store, more, ?_,
    ⟨rfl, rfl, hrunning⟩, hs.sweeps, ?_⟩
  · rw [hs.log, called_log, List.append_assoc]
    rfl
  · rcases hs.state with ⟨hnone, hsame⟩ | ⟨⟨e, he, hstop⟩, _, herror⟩
    · have hstill : h.store.isRunning c = true :=
        Store.isRunning_iff.2 (hsame.trans (Store.isRunning_iff.1 hrunning))
      exact ⟨fun _ => hnone, fun _ => hstill⟩
    · constructor
      · intro hstill
        rw [Store.isRunning_iff, herror] at hstill
        exact absurd hstill (by decide)
      · intro hnone
        exact absurd hstop (hnone e he)

/-! ## What is sent -/

/-- The answer to a frame was never told that the work is finished. -/
def Untold (c : Int) (h : Past) : Prop := ∀ e ∈ h.log, ¬ e.Told c

/-- The answer to a frame added an action after a check; the conversation was running just
if no sweep had stopped it in between. -/
def Dispatched (c id : Int) (h : Past) : Prop :=
  ∃ earlier creation since, h.log = earlier ++ creation :: since ∧ creation.Creates c id ∧
    Entry.Watched c (creation.Finds c) earlier

/-- The answer to a frame called for the conversation to be finished after a check; the
conversation stands so just if no sweep had stopped it in between. -/
def Concluded (c : Int) (h : Past) : Prop :=
  h.store.isRunning c = false ∧
    ∃ earlier conclusion since, h.log = earlier ++ conclusion :: since ∧
      conclusion.Finishes c ∧
      Entry.Watched c (h.store.stateOf c = some Conversation.State.finished.name) earlier

/-- What is behind a reply. -/
def Replied (c : Int) : Option ServerFrame → Past → Prop
  | some (.action order), h => h.Dispatched c order.actionId
  | some (.finish _), h => h.Untold c ∨ h.Concluded c
  | _, _ => True

/-- Who was told of no end, and is not told of one now, was never told. -/
theorem Untold.append (hu : h.Untold c) (hlog : h'.log = h.log ++ more)
    (hmore : ∀ e ∈ more, ¬ e.Told c) : h'.Untold c := by
  intro e he
  rw [hlog] at he
  rcases List.mem_append.1 he with he | he
  · exact hu e he
  · exact hmore e he

/-- What others do tells nobody of an end. -/
theorem Untold.follows (hu : h.Untold c) (hf : Follows c h h') : h'.Untold c := by
  obtain ⟨more, hs, htold⟩ := hf
  exact hu.append hs.log htold

/-- What is known of an action that was added is known after what others do. -/
theorem Dispatched.follows {id : Int} (hd : h.Dispatched c id) (hf : Follows c h h') :
    h'.Dispatched c id := by
  obtain ⟨earlier, creation, since, hlog, hcreates, hwatched⟩ := hd
  obtain ⟨more, hs, _⟩ := hf
  refine ⟨earlier, creation, since ++ more, ?_, hcreates, hwatched⟩
  rw [hs.log, hlog, List.append_assoc, List.cons_append]

/-- What is known of a conversation that was finished is known after what others do. -/
theorem Concluded.follows (hd : h.Concluded c) (hf : Follows c h h') : h'.Concluded c := by
  obtain ⟨hrunning, earlier, conclusion, since, hlog, hfinishes, hwatched⟩ := hd
  obtain ⟨more, hs, _⟩ := hf
  -- what has ended is not stopped, so it stands as before
  have hsame : h'.store.stateOf c = h.store.stateOf c := by
    rcases hs.state with ⟨_, hsame⟩ | ⟨_, hstill, _⟩
    · exact hsame
    · rw [Store.isRunning_iff.2 hstill] at hrunning
      cases hrunning
  refine ⟨?_, earlier, conclusion, since ++ more, ?_, hfinishes, ?_⟩
  · rw [← Bool.not_eq_true, Store.isRunning_iff, hsame, ← Store.isRunning_iff, Bool.not_eq_true]
    exact hrunning
  · rw [hs.log, hlog, List.append_assoc, List.cons_append]
  · rwa [hsame]

/-- What is behind a reply is behind it after what others do. -/
theorem Replied.follows {reply : Option ServerFrame} (hr : h.Replied c reply)
    (hf : Follows c h h') : h'.Replied c reply := by
  cases reply with
  | none => exact trivial
  | some frame =>
      cases frame with
      | action order => exact Dispatched.follows hr hf
      | error message => exact trivial
      | finish message =>
          rcases hr with hu | hd
          · exact Or.inl (hu.follows hf)
          · exact Or.inr (hd.follows hf)

/-- An action is added after a check. -/
theorem Seen.dispatched (hseen : h.Seen c) {m : Int} (howns : h.store.Owns c m)
    {now : Instant} {kind : Action.Kind} {parameters : Action.Parameters} {v : Action}
    (hv : (h.store.createAction now m kind parameters).1 = .ok v) :
    (h.called (.handler c) now (.createAction m kind parameters)).Dispatched c v.id := by
  refine ⟨h.log, _, [], rfl, ⟨rfl, howns, ?_⟩, hseen.watched⟩
  rw [hv]
  rfl

/-- A conversation is finished after a check: it stands so just if it was running. -/
theorem Seen.concluded (hseen : h.Seen c) (now : Instant) :
    (h.called (.handler c) now (.endConversation c .finished)).Concluded c := by
  have hstate : ((h.store.endConversation now c .finished).2.isRunning c = false) ∧
      ((h.store.endConversation now c .finished).2.stateOf c =
        some Conversation.State.finished.name ↔ h.store.isRunning c = true) := by
    rw [← Bool.not_eq_true, Store.isRunning_iff]
    -- a conversation that was stopped keeps its error
    by_cases hrunning : h.store.isRunning c = true
    · rw [Store.stateOf_endConversation rfl hrunning]
      exact ⟨by decide, fun _ => hrunning, fun _ => rfl⟩
    · have herror := hseen.state.resolve_left hrunning
      have hkept : (h.store.endConversation now c .finished).2.stateOf c =
          h.store.stateOf c :=
        (h.store.perform_change now (.endConversation c .finished)).stateOf (fun hf => hf)
          fun hends => hrunning hends.2
      rw [hkept, herror]
      exact ⟨by decide, fun hf => absurd hf (by decide), fun hf => absurd hf hrunning⟩
  exact ⟨hstate.1, h.log, _, [], rfl, ⟨rfl, rfl⟩, hseen.watched.of_iff hstate.2⟩

end Past

end ControlPlane
