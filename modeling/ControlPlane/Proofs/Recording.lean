/-
A result takes effect once.

A client may send a result twice, too late, or for an action that is not its own. Of all
results for one action at most one is recorded (`Store.Once`): the row has ended with it,
and nothing that has ended ends again. Which one it is can be said at the moment it arrives:
the store awaits it, for the action is running and belongs to the conversation of the frame
(`Store.Awaits`). Any other result changes nothing and asks nothing, and is answered with
nothing, or with an error if the action is not one of the conversation's
(`Coordinator.Settled`).

What is answered rests on rows that can be read, and those of a store are as long as the
clock has read legible times.
-/
import ControlPlane.Proofs.Agreement
import ControlPlane.Proofs.StoreLife
import Mathlib.Data.List.Induction

set_option autoImplicit false

namespace ControlPlane

/-- Whether the entry records how an action went. -/
def Entry.records (i : Int) : Entry → Bool
  | called _ now (.completeAction id status e x) before =>
    id == i && decide ((before.completeAction now id status e x).1 = .ok true)
  | _ => false

namespace Store

variable {s s' : Store} {c i m : Int} {now : Instant}

/-- An action of the conversation is running. -/
def Awaits (s : Store) (c i : Int) : Prop :=
  ∃ a ∈ s.actions, a.id = i ∧ a.status = Action.Status.running.name ∧ s.Owns c a.messageId

/-- An action is one of the conversation's. -/
def Belongs (s : Store) (c i : Int) : Prop :=
  ∃ a ∈ s.actions, a.id = i ∧ s.Owns c a.messageId

instance (s : Store) (c i : Int) : Decidable (s.Belongs c i) :=
  inferInstanceAs (Decidable (∃ a ∈ s.actions, a.id = i ∧ s.Owns c a.messageId))

/-- Which message an action serves decides to whom it belongs. -/
theorem Ordered.owns_of_serves (hs : s.Ordered) (hi : s.Serves i m) {a : ActionRow}
    (ha : a ∈ s.actions) (hid : a.id = i) (howns : s.Owns c a.messageId) : s.Owns c m := by
  obtain ⟨b, hb, hbid, rfl⟩ := hi
  rwa [hs.actions.eq_of_id_eq hb ha (hbid.trans hid.symm)]

/-- The action of a message that another conversation owns does not belong to this one. -/
theorem Ordered.not_belongs (hs : s.Ordered) (hi : s.Serves i m) (hm : ¬ s.Owns c m) :
    ¬ s.Belongs c i := by
  rintro ⟨a, ha, hid, howns⟩
  exact hm (hs.owns_of_serves hi ha hid howns)

/-! ## Recording -/

/-- A result that is recorded finds its action running, and is what the row says then. -/
theorem completeAction_true {status : Action.Status} {e : Option String} {x : Option Int}
    (h : (s.completeAction now i status e x).1 = .ok true) :
    status.isTerminal = true ∧ (∃ a ∈ s.actions, a.id = i ∧
      a.status = Action.Status.running.name ∧
      ({ a with
          status := status.name, errorMessage := e, executionTime := x,
          finishedAt := some now.storedText } : ActionRow) ∈
        (s.completeAction now i status e x).2.actions) := by
  unfold completeAction at h ⊢
  split at h
  next hstatus =>
    rw [if_pos hstatus]
    have hterminal : status.isTerminal = true := by
      rcases hstatus with rfl | rfl <;> rfl
    obtain ⟨a, ha, hhit⟩ := List.any_eq_true.1 (Except.ok.inj h)
    obtain ⟨hid, hrunning⟩ := Bool.and_eq_true_iff.1 hhit
    refine ⟨hterminal, a, ha, beq_iff_eq.1 hid, beq_iff_eq.1 hrunning, ?_⟩
    refine List.mem_map.2 ⟨a, ha, ?_⟩
    rw [if_pos hhit]
  next => cases h

/-- A result that is not recorded changes nothing; its action is not running. -/
theorem completeAction_false {status : Action.Status} {e : Option String} {x : Option Int}
    (h : (s.completeAction now i status e x).1 = .ok false) :
    (s.completeAction now i status e x).2 = s ∧
      ∀ a ∈ s.actions, a.id = i → a.status ≠ Action.Status.running.name := by
  unfold completeAction at h ⊢
  split at h
  next hstatus =>
    rw [if_pos hstatus]
    have hnone := List.any_eq_false.1 (Except.ok.inj h)
    have hmiss : ∀ a ∈ s.actions,
        (a.id == i && a.status == Action.Status.running.name) = false :=
      fun a ha => Bool.eq_false_iff.2 (hnone a ha)
    refine ⟨?_, ?_⟩
    · simp only [modify_of_forall_not hmiss]
    · intro a ha hid hrunning
      refine hnone a ha ?_
      rw [hid, hrunning, beq_self_eq_true, beq_self_eq_true, Bool.and_self]
  next => cases h

/-- To complete an action with a result does not fail. -/
theorem completeAction_ok (s : Store) (now : Instant) (i : Int) {status : Action.Status}
    (hstatus : status = .success ∨ status = .failed) (e : Option String) (x : Option Int) :
    ∃ done, (s.completeAction now i status e x).1 = .ok done := by
  rw [completeAction, if_pos hstatus]
  exact ⟨_, rfl⟩

/-- An action that has ended stays as it is. -/
theorem Change.mem_of_isEnded {call : Call} (h : s.Change now call s') {a : ActionRow}
    (ha : a ∈ s.actions) (hend : a.isEnded = true) : a ∈ s'.actions := by
  cases h with
  | nothing => exact ha
  | actions _ f hf =>
      rw [← (hf a).becomes.frozen hend]
      exact List.mem_map_of_mem ha
  | messages => exact ha
  | conversations => exact ha
  | newConversation => exact ha
  | newMessage => exact ha
  | newAction => exact List.mem_append_left _ ha

/-! ## At most once -/

/-- So far a number of results were recorded for an action: none, or one, and with that one
the action has ended. -/
structure Once (i : Int) (n : Nat) (s : Store) : Prop where
  /-- The tables are numbered. -/
  ordered : s.Ordered
  /-- There was one result at most. -/
  le_one : n ≤ 1
  /-- After it the action has ended. -/
  ended : n = 1 → ∃ a ∈ s.actions, a.id = i ∧ a.isEnded = true

/-- A call records a result of the action at most once, and then the action has ended. -/
theorem Once.called {n : Nat} (hs : Once i n s) (who : Actor) (now : Instant) (call : Call) :
    Once i (n + if (Entry.called who now call s).records i then 1 else 0)
      (s.perform now call).2 := by
  have hchange := s.perform_change now call
  by_cases hrecords : (Entry.called who now call s).records i = true
  · rw [if_pos hrecords]
    cases call with
    | completeAction id status e x =>
        obtain ⟨hid, hanswer⟩ := Bool.and_eq_true_iff.1 hrecords
        rw [beq_iff_eq.1 hid] at hanswer hchange ⊢
        obtain ⟨hterminal, a, ha, hai, hrunning, hafter⟩ :=
          completeAction_true (of_decide_eq_true hanswer)
        -- a running action has not ended, so there was no result before
        have hzero : n = 0 := by
          by_contra hsome
          have hone : n = 1 := by
            have := hs.le_one
            omega
          obtain ⟨b, hb, hbi, hbend⟩ := hs.ended hone
          rw [hs.ordered.actions.eq_of_id_eq hb ha (hbi.trans hai.symm)] at hbend
          have hopen : a.isOpen = true := (ActionRow.isOpen_iff a).2 (Or.inr hrunning)
          rw [ActionRow.isOpen_eq_false_of_isEnded hbend] at hopen
          cases hopen
        refine ⟨hchange.ordered hs.ordered, by omega, fun _ => ⟨_, hafter, hai, ?_⟩⟩
        exact ActionRow.isEnded_of_terminal hterminal rfl
    | _ => cases hrecords
  · rw [if_neg hrecords]
    refine ⟨hchange.ordered hs.ordered, hs.le_one, ?_⟩
    intro hone
    obtain ⟨a, ha, hai, hend⟩ := hs.ended hone
    exact ⟨a, hchange.mem_of_isEnded ha hend, hai, hend⟩

/-- So does all that happens on an occasion. -/
theorem Once.past {n : Nat} (hs : Once i n s) (o : Occasion) :
    Once i (n + (o.past s).log.countP (Entry.records i)) (o.past s).store := by
  refine Occasion.past_induction
    (I := fun h => Once i (n + h.log.countP (Entry.records i)) h.store) ?_ ?_ o hs
  · intro h who now call hh
    rw [Past.called_log, List.countP_append, List.countP_singleton, ← Nat.add_assoc]
    exact hh.called who now call
  · intro h who context answer hh
    rw [Past.asked_log, List.countP_append, List.countP_singleton]
    exact hh

/-- A store that has lived has recorded a result of the action at most once. -/
theorem once_live (i : Int) (occasions : List Occasion) :
    Once i ((Store.empty.chronicle occasions).countP (Entry.records i))
      (Store.empty.live occasions) := by
  -- from the right: the life so far, and one occasion more
  induction occasions using List.reverseRecOn with
  | nil => exact ⟨empty_ordered, Nat.zero_le 1, fun h => by cases h⟩
  | append_singleton occasions o ih =>
      rw [chronicle_append, List.countP_append, live_append]
      exact ih.past o

end Store

/-! ## Which result it is -/

namespace Coordinator

open Store

variable {c : Int} {r : ResultFrame} {s : Store} {h : Past}

/-- A result was recorded, as it was reported. -/
structure Recorded (c : Int) (r : ResultFrame) (s : Store) (h : Past) : Prop where
  /-- The call was made before anything else was changed, and had its effect. -/
  entry : ∃ now e, e ∈ h.log ∧ e.records r.actionId = true ∧
    e = .called (.handler c) now
      (.completeAction r.actionId (verdict r).1 (verdict r).2 r.executionTime) s
  /-- The row says how the action went. -/
  row : ∃ a ∈ h.store.actions, a.id = r.actionId ∧ a.status = (verdict r).1.name ∧
    a.errorMessage = (verdict r).2 ∧ a.executionTime = r.executionTime

/-- Nothing has come of a result. -/
structure Ignored (r : ResultFrame) (s : Store) (h : Past) : Prop where
  /-- The store stays. -/
  store : h.store = s
  /-- No decision was asked for. -/
  questions : h.questions = []
  /-- Nothing was recorded. -/
  log : ∀ e ∈ h.log, e.records r.actionId = false

/-- What may come of a result. The one that is awaited is recorded; another one is ignored,
and reported if the action is not one of the conversation's. -/
inductive Settled (c : Int) (r : ResultFrame) (s : Store) : Option ServerFrame → Past → Prop where
  /-- It is recorded, whatever the answer is after that. -/
  | recorded {reply : Option ServerFrame} {h : Past}
      (hrecorded : s.Awaits c r.actionId ∧ Recorded c r s h) : Settled c r s reply h
  /-- The action is not running: nothing is answered. -/
  | silent {h : Past} (hignored : Ignored r s h) (hbelongs : s.Belongs c r.actionId)
      (hawaits : ¬ s.Awaits c r.actionId) : Settled c r s none h
  /-- The action is unknown or another conversation's. -/
  | reported {text : String} {h : Past} (hignored : Ignored r s h)
      (hforeign : ¬ s.Belongs c r.actionId) : Settled c r s (some (.error text)) h

theorem verdict_isResult (r : ResultFrame) :
    (verdict r).1 = .success ∨ (verdict r).1 = .failed := by
  unfold verdict
  split
  · exact Or.inl rfl
  · exact Or.inr rfl

theorem ignored_start (r : ResultFrame) (s : Store) : Ignored r s (.start s) :=
  ⟨rfl, Past.questions_start s, fun _ he => absurd he List.not_mem_nil⟩

/-- A call that changes nothing leaves a result ignored. -/
theorem Ignored.called (hi : Ignored r s h) {who : Actor} {now : Instant} {call : Store.Call}
    (hstore : (s.perform now call).2 = s)
    (hrecords : (Entry.called who now call s).records r.actionId = false) :
    Ignored r s (h.called who now call) := by
  refine ⟨?_, ?_, ?_⟩
  · rw [Past.called_store, hi.store, hstore]
  · rw [Past.questions_called, hi.questions]
  · rw [Past.called_log, hi.store]
    exact List.forall_mem_append.2 ⟨hi.log, List.forall_mem_singleton.2 hrecords⟩

/-- Further calls leave a result recorded. -/
theorem Recorded.called (hr : Recorded c r s h) (who : Actor) (now : Instant)
    (call : Store.Call) : Recorded c r s (h.called who now call) := by
  obtain ⟨t, e, he, hentry⟩ := hr.entry
  obtain ⟨a, ha, hid, hstatus, hwritten⟩ := hr.row
  have hterminal : (verdict r).1.isTerminal = true := by
    rcases verdict_isResult r with hresult | hresult <;> rw [hresult] <;> rfl
  have hend : a.isEnded = true := ActionRow.isEnded_of_terminal hterminal hstatus
  exact ⟨⟨t, e, List.mem_append_left _ he, hentry⟩,
    a, (h.store.perform_change now call).mem_of_isEnded ha hend, hid, hstatus, hwritten⟩

/-- So does a question to the model. -/
theorem Recorded.asked (hr : Recorded c r s h) (who : Actor) (context : Decision.Context)
    (answer : Except Fault Decision) : Recorded c r s (h.asked who context answer) := by
  obtain ⟨t, e, he, hentry⟩ := hr.entry
  exact ⟨⟨t, e, List.mem_append_left _ he, hentry⟩, hr.row⟩

/-- A result that is recorded was awaited. -/
theorem Ignored.recorded (hi : Ignored r s h) (hordered : s.Ordered) {m : Int} {now : Instant}
    (hserves : s.Serves r.actionId m) (howns : s.Owns c m)
    (hanswer : (s.completeAction now r.actionId (verdict r).1 (verdict r).2
      r.executionTime).1 = .ok true) :
    s.Awaits c r.actionId ∧ Recorded c r s (h.called (.handler c) now
      (.completeAction r.actionId (verdict r).1 (verdict r).2 r.executionTime)) := by
  obtain ⟨_, a, ha, hid, hrunning, hafter⟩ := completeAction_true hanswer
  -- the running row is the one that was found, so its message is the conversation's
  obtain ⟨b, hb, hbid, hbm⟩ := hserves
  have hsame : a = b := hordered.actions.eq_of_id_eq ha hb (hid.trans hbid.symm)
  have hmine : s.Owns c a.messageId := by
    rw [hsame, hbm]
    exact howns
  refine ⟨⟨a, ha, hid, hrunning, hmine⟩, ⟨now, _, ?_, ?_, rfl⟩, ?_⟩
  · rw [Past.called_log, hi.store]
    exact List.mem_append_right _ (List.mem_singleton.2 rfl)
  · exact Bool.and_eq_true_iff.2 ⟨beq_self_eq_true _, decide_eq_true hanswer⟩
  · rw [Past.called_store, hi.store]
    exact ⟨_, hafter, hid, rfl, rfl, rfl⟩

/-- A result that is not recorded comes to nothing. -/
theorem Ignored.unrecorded (hi : Ignored r s h) {m : Int} {now : Instant}
    (hserves : s.Serves r.actionId m) (howns : s.Owns c m)
    (hanswer : (s.completeAction now r.actionId (verdict r).1 (verdict r).2
      r.executionTime).1 = .ok false) :
    Settled c r s none (h.called (.handler c) now
      (.completeAction r.actionId (verdict r).1 (verdict r).2 r.executionTime)) := by
  obtain ⟨hstore, hnone⟩ := completeAction_false hanswer
  have hrecords : (Entry.called (.handler c) now (.completeAction r.actionId (verdict r).1
      (verdict r).2 r.executionTime) s).records r.actionId = false := by
    refine Bool.eq_false_iff.2 ?_
    intro htrue
    have hdone := of_decide_eq_true (Bool.and_eq_true_iff.1 htrue).2
    have hclash := hdone.symm.trans hanswer
    cases hclash
  obtain ⟨b, hb, hbid, rfl⟩ := hserves
  refine .silent (hi.called hstore hrecords) ⟨b, hb, hbid, howns⟩ ?_
  rintro ⟨a, ha, hid, hrunning, _⟩
  exact hnone a ha hid hrunning

/-! ## The outline -/

/-- What the coordinator knows of a result at each point of the way. -/
def settles (c : Int) (r : ResultFrame) (s : Store) :
    Outline (undisturbed fun _ => True) c where
  begun := Ignored r s
  running _ _ := False
  resolved _ _ _ := False
  cleared _ _ _ := False
  named a h := Ignored r s h ∧ a.id = r.actionId ∧ s.Serves r.actionId a.messageId
  found a m h := Ignored r s h ∧ a.id = r.actionId ∧ s.Serves r.actionId m.id ∧ s.Owns c m.id
  recorded _ _ h := s.Awaits c r.actionId ∧ Recorded c r s h
  resumed _ _ _ h := s.Awaits c r.actionId ∧ Recorded c r s h
  ready _ _ _ h := s.Awaits c r.actionId ∧ Recorded c r s h
  decided _ _ _ h := s.Awaits c r.actionId ∧ Recorded c r s h
  accepted _ _ _ h := s.Awaits c r.actionId ∧ Recorded c r s h
  created _ h := s.Awaits c r.actionId ∧ Recorded c r s h
  started _ h := s.Awaits c r.actionId ∧ Recorded c r s h
  counted _ h := s.Awaits c r.actionId ∧ Recorded c r s h
  replied := Settled c r s

/-- What is to be shown of a call before the result is recorded. -/
theorem step_ignored {A : Past → Prop} (hA : ∀ h, A h → Ignored r s h) {call : Store.Call}
    {after : Except Fault call.Answer → Past → Prop}
    (hafter : ∀ h now, A h → after (s.perform now call).1 (h.called (.handler c) now call)) :
    Outline.Step (undisturbed fun _ => True) c A call after := by
  intro h h' hh hrely _
  cases hrely
  refine ⟨trivial, ?_⟩
  intro now
  rw [(hA h hh).store]
  exact hafter h now hh

/-- What is to be shown of a call after it, whatever is answered. -/
theorem step_recorded {call : Store.Call} {after : Except Fault call.Answer → Past → Prop}
    (hafter : ∀ answer h, s.Awaits c r.actionId ∧ Recorded c r s h → after answer h) :
    Outline.Step (undisturbed fun _ => True) c
      (fun h => s.Awaits c r.actionId ∧ Recorded c r s h) call after := by
  intro h h' hh hrely _
  cases hrely
  exact ⟨trivial, fun now => hafter _ _ ⟨hh.1, hh.2.called _ now call⟩⟩

theorem step_false {call : Store.Call} {after : Except Fault call.Answer → Past → Prop} :
    Outline.Step (undisturbed fun _ => True) c (fun _ => False) call after :=
  fun _ _ hfalse => hfalse.elim

/-- After the result was recorded everything goes. -/
theorem orElse_recorded {α : Type} {q : α → Past → Prop} {e : Fault → Past → Prop}
    (hq : ∀ a h, s.Awaits c r.actionId ∧ Recorded c r s h → q a h)
    (he : ∀ f h, s.Awaits c r.actionId ∧ Recorded c r s h → e f h) (answer : Except Fault α)
    (h : Past) (hh : s.Awaits c r.actionId ∧ Recorded c r s h) : Outline.OrElse q e answer h :=
  Outline.orElse_of (fun a _ => hq a h hh) fun f _ => he f h hh

/-! ## The points of the way -/

/-- An action that is not found is unknown. -/
theorem settles_finds (hs : s.Legible) : (settles c r s).Finds r := by
  refine step_ignored (fun _ hi => hi) ?_
  intro h now hi
  have hi' : Ignored r s (h.called (.handler c) now (.getAction r.actionId)) := hi.called rfl rfl
  refine Outline.orElse_of ?_ ?_
  · intro found hanswer
    cases found with
    | none =>
        refine .reported hi' ?_
        rintro ⟨a, ha, hid, _⟩
        exact getAction_none hanswer a ha hid
    | some a => exact ⟨hi', getAction_some hanswer⟩
  · intro f hanswer
    obtain ⟨found, hfound⟩ := hs.actions.getAction r.actionId
    have hclash := hanswer.symm.trans hfound
    cases hclash

/-- An action whose message is not the conversation's is another conversation's. -/
theorem settles_owns (hordered : s.Ordered) (hs : s.Legible) : (settles c r s).Owns := by
  intro a
  refine step_ignored (fun _ hh => hh.1) ?_
  rintro h now ⟨hi, hid, hserves⟩
  have hi' : Ignored r s (h.called (.handler c) now (.getMessage a.messageId)) :=
    hi.called rfl rfl
  refine Outline.orElse_of ?_ ?_
  · intro found hanswer
    cases found with
    | none => exact .reported hi' (hordered.not_belongs hserves (getMessage_none hanswer c))
    | some m =>
        obtain ⟨hmid, howns⟩ := getMessage_some hanswer
        rw [Option.elim_some]
        by_cases hown : m.conversationId = c
        · rw [if_pos hown]
          rw [hown] at howns
          rw [← hmid] at hserves howns
          exact ⟨hi', hid, hserves, howns⟩
        · -- whose message it is decides whose action it is
          rw [if_neg hown]
          refine .reported hi' (hordered.not_belongs hserves ?_)
          intro hmine
          exact hown (hordered.owner_unique howns hmine)
  · intro f hanswer
    obtain ⟨found, hfound⟩ := hs.getMessage a.messageId
    have hclash := hanswer.symm.trans hfound
    cases hclash

/-- The result is recorded, or comes to nothing; the call cannot fail. -/
theorem settles_records (hordered : s.Ordered) : (settles c r s).Records r := by
  intro a m
  refine step_ignored (fun _ hh => hh.1) ?_
  rintro h now ⟨hi, hid, hserves, howns⟩
  rw [hid]
  refine Outline.orElse_of ?_ ?_
  · intro done hanswer
    cases done with
    | true => exact hi.recorded hordered hserves howns hanswer
    | false => exact hi.unrecorded hserves howns hanswer
  · intro f hanswer
    obtain ⟨done, hdone⟩ := completeAction_ok s now r.actionId (verdict_isResult r)
      (verdict r).2 r.executionTime
    have hclash := hanswer.symm.trans hdone
    cases hclash

/-- Nothing is taken back while the conversation is looked up again. -/
theorem settles_rechecks : (settles c r s).Rechecks := by
  intro _ _
  refine step_recorded (orElse_recorded ?_ ?_)
  · intro found h hh
    refine Outline.elim_of_some (Settled.recorded hh) ?_
    intro v _
    split
    · exact Settled.recorded hh
    · exact hh
  · intro f h hh
    split
    · exact Settled.recorded hh
    · exact Settled.recorded hh

/-- Nothing is taken back by a decision. -/
theorem settles_asks (d : Settings.Decision) : (settles c r s).Asks d := by
  intro v m n context _ _ h h' hh hrely _
  cases hrely
  obtain ⟨hawaits, hrecorded⟩ := hh
  refine ⟨trivial, fun answer => ?_⟩
  refine orElse_recorded ?_ (fun _ _ hh => hh) answer _ ⟨hawaits, hrecorded.asked ..⟩
  intro decision h hh
  split
  · exact hh
  · exact hh

/-- Nothing is taken back by the count of a failure. -/
theorem settles_counts (d : Settings.Decision) : (settles c r s).Counts d := by
  intro _ _ _
  refine step_recorded (orElse_recorded ?_ fun _ _ => Settled.recorded)
  intro n h hh
  split
  · exact Settled.recorded hh
  · exact hh

/-- Nothing is taken back when an action is handed out. -/
theorem settles_starts : (settles c r s).Starts := by
  intro _
  refine step_recorded (orElse_recorded ?_ fun _ _ => Settled.recorded)
  intro done h hh
  split
  · exact hh
  · exact Settled.recorded hh

/-- The outline is valid where rows can be read. -/
theorem settles_valid (c : Int) (r : ResultFrame) {s : Store} (hordered : s.Ordered)
    (hs : s.Legible) (d : Settings.Decision) : (settles c r s).Valid d (.result r) where
  checks t ht := by cases ht
  looksUp _ _ := step_false
  adds _ _ := step_false
  blank _ _ _ hfalse := hfalse.elim
  skips _ _ := step_false
  reads _ _ := step_false
  finds _ hr := ClientFrame.result.inj hr ▸ settles_finds hs
  owns := settles_owns hordered hs
  records _ hr := ClientFrame.result.inj hr ▸ settles_records hordered
  rechecks := settles_rechecks
  looksAgain _ _ _ :=
    step_recorded (orElse_recorded (fun _ _ hh => hh) fun _ _ => Settled.recorded)
  readsAgain _ _ _ :=
    step_recorded (orElse_recorded (fun _ _ hh => hh) fun _ _ => Settled.recorded)
  asks := settles_asks d
  breaks _ _ _ _ _ _ hh _ := Settled.recorded hh
  resets _ _ _ := step_recorded (orElse_recorded (fun _ _ hh => hh) fun _ _ hh => hh)
  counts := settles_counts d
  stops _ _ _ :=
    step_recorded (orElse_recorded (fun _ _ => Settled.recorded) fun _ _ => Settled.recorded)
  creates _ _ _ _ :=
    step_recorded (orElse_recorded (fun _ _ hh => hh) fun _ _ => Settled.recorded)
  starts := settles_starts
  sends _ := step_recorded (orElse_recorded
    (fun _ _ hh => Outline.elim_of_some (Settled.recorded hh) fun _ _ => Settled.recorded hh)
    fun _ _ => Settled.recorded)
  finishes _ _ _ :=
    step_recorded (orElse_recorded (fun _ _ => Settled.recorded) fun _ _ => Settled.recorded)

/-- What comes of a result, when nobody else is at work. -/
theorem settled (hordered : s.Ordered) (hs : s.Legible) (d : Settings.Decision) (c : Int)
    (r : ResultFrame) (course : Course) :
    Settled c r s (handleAlone d c (.result r) course s).1
      (handleAlone d c (.result r) course s).2 :=
  (((settles_valid c r hordered hs d).handle (ignored_start r s)).follow
    (fun _ _ _ _ => trivial) (fun _ _ _ _ => trivial) course trivial).1

/-- **A result takes effect once.** Take any life of a store, from the empty one on, in which the
clock reads legible times: frames, sweeps and requests in any order, with any decisions. For every
action at most one result is recorded. And whenever a result arrives, it is recorded if its action
is running and belongs to the conversation of the frame, and only then. Otherwise the store stays
and nothing is asked; the reply is nothing, or an error if the action does not belong to the
conversation. -/
theorem result_once {occasions : List Occasion} (hoccasions : ∀ o ∈ occasions, o.Legible)
    (i : Int) :
    (Store.empty.chronicle occasions).countP (Entry.records i) ≤ 1 ∧
      ∀ earlier d c r course later,
        occasions = earlier ++ .frame d c (.result r) course :: later → r.actionId = i →
        let s := Store.empty.live earlier
        let result := handleAlone d c (.result r) course s
        Settled c r s result.1 result.2 := by
  refine ⟨(once_live i occasions).le_one, ?_⟩
  rintro earlier d c r course later rfl _
  have hearlier : ∀ o ∈ earlier, o.Legible := fun o ho => hoccasions o (List.mem_append_left _ ho)
  exact settled (live_regular empty_regular earlier).ordered (live_legible empty_legible hearlier)
    d c r course

end Coordinator

namespace Sample

/-- An action is carried out, and its result is sent twice. -/
def doubled : List Occasion :=
  requests ++ [answering moment task (.ok click), answering moment result (.error .emptyPage),
    answering moment result (.error .emptyPage)]

end Sample

namespace Coordinator

/-- Of two results the first is recorded, and the second comes to nothing. -/
theorem result_once_doubled :
    (∀ o ∈ Sample.doubled, o.Legible) ∧
      (Store.empty.chronicle Sample.doubled).countP (Entry.records 1) = 1 ∧
      let s := Store.empty.live (Sample.doubled.take 4)
      let result := handleAlone .standard 1 Sample.result
        (.constant Sample.moment (.error .emptyPage)) s
      Settled 1 ⟨1, true, none, some 40, some Sample.page⟩ s result.1 result.2 ∧
        result.1 = none := by
  have hmoment : Sample.moment.Legible := by decide +kernel
  have hlegible : ∀ o ∈ Sample.doubled, o.Legible := by
    refine List.forall_mem_append.2 ⟨Sample.requests_legible, ?_⟩
    intro o ho
    simp only [List.mem_cons, List.not_mem_nil, or_false] at ho
    rcases ho with rfl | rfl | rfl
    all_goals exact Sample.answering_legible hmoment _ _
  have hsettled := (result_once hlegible 1).2 (Sample.doubled.take 4) .standard 1
    ⟨1, true, none, some 40, some Sample.page⟩ (.constant Sample.moment (.error .emptyPage)) []
    rfl rfl
  exact ⟨hlegible, by decide +kernel, hsettled, by decide +kernel⟩

end Coordinator

end ControlPlane
