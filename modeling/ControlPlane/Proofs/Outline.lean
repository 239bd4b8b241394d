/-
The outline of the coordinator.

What the coordinator does for a frame is taken apart here once and for all. An outline
(`Coordinator.Outline`) puts an assertion at each point of the way from the frame to the
reply. It is valid (`Outline.Valid`) when every call takes the assertion before it to the
one after it, whatever others did before the call and whatever the store answers; there is
one condition for each point of the way. Then the answer to a frame keeps to its contract,
and its reply is as the last assertion says (`Outline.Valid.handling`).

A statement about the coordinator beside others is proved by giving an outline. What the
code does in between, in which order and under which conditions, is in this file only.
-/
import ControlPlane.Proofs.Answer
import ControlPlane.Proofs.Contract

set_option autoImplicit false

namespace ControlPlane

/-- The message that a decision is about. -/
def Decision.Context.message : Decision.Context → Message
  | task c => c.message
  | result c => c.message

namespace Coordinator

open Procedure

variable {inv : Past → Prop} {α β : Type}

/-- An assertion for each point of the answer to a frame. -/
structure Outline (k : Contract inv) (c : Int) where
  /-- A frame has arrived. -/
  begun : Past → Prop
  /-- The conversation of a task was found running. -/
  running : Conversation → Past → Prop
  /-- The message of a task was found or added. -/
  resolved : Conversation → Message → Past → Prop
  /-- Its open actions were skipped. -/
  cleared : Conversation → Message → Past → Prop
  /-- An action that a result names was found. -/
  named : Action → Past → Prop
  /-- Its message was found, too. -/
  found : Action → Message → Past → Prop
  /-- The result was recorded. -/
  recorded : Action → Message → Past → Prop
  /-- The conversation was found running still. -/
  resumed : Conversation → Action → Message → Past → Prop
  /-- A decision about a message is to be asked for, and so many calls for one have
  failed. -/
  ready : Conversation → Message → Nat → Past → Prop
  /-- There is a decision. -/
  decided : Conversation → Message → Decision → Past → Prop
  /-- After it, the count of failed rounds has started over. -/
  accepted : Conversation → Message → Decision → Past → Prop
  /-- The action of the decision was added. -/
  created : Action → Past → Prop
  /-- It was handed out. -/
  started : Action → Past → Prop
  /-- A round without a decision was counted, and was one too many. -/
  counted : Conversation → Past → Prop
  /-- There is a reply, or none is due. -/
  replied : Option ServerFrame → Past → Prop

namespace Outline

variable {k : Contract inv} {c : Int} {h : Past}

/-- The reply reports a fault. -/
def refused (o : Outline k c) (f : Fault) (h : Past) : Prop :=
  o.replied (some (.error f.message)) h

/-- A fault that was raised is reported, unless it breaks off the work. -/
def reported (o : Outline k c) (f : Fault) (h : Past) : Prop := o.replied (reportOf f) h

/-- One assertion about a result, and one about a fault. -/
def OrElse (q : α → Past → Prop) (e : Fault → Past → Prop) : Except Fault α → Past → Prop
  | .ok a, h => q a h
  | .error f, h => e f h

/-- An assertion about an answer of the store; its fault is reported. -/
def OrRefused (o : Outline k c) (q : α → Past → Prop) : Except Fault α → Past → Prop :=
  OrElse q o.refused

/-- What is to be shown of a call between two assertions: however the others got on, it
is allowed, and its answer leads on. -/
def Step (k : Contract inv) (c : Int) (before : Past → Prop) (call : Store.Call)
    (after : Except Fault call.Answer → Past → Prop) : Prop :=
  ∀ h h', before h → k.rely h h' → inv h' → k.allows h' call ∧
    ∀ now, after (h'.store.perform now call).1 (h'.called (.handler c) now call)

/-! ## The points of the way -/

section Points

variable (o : Outline k c) (s : Settings.Decision)

/-- The conversation of a task is looked up. -/
def Checks : Prop :=
  Step k c o.begun (.getConversation c) <| o.OrRefused fun found h =>
    found.elim (o.refused (.missing .conversation c) h) fun v =>
      if v.state.isTerminal then o.refused (.ended c v.state) h else o.running v h

/-- The message of a task is looked up. -/
def LooksUp : Prop :=
  ∀ v id, Step k c (o.running v) (.getMessage id) <| o.OrRefused fun found h =>
    found.elim (o.running v h ∧ o.refused (.missing .message id) h) fun m =>
      if m.conversationId = v.id then o.resolved v m h
      else o.refused (.foreign .message id v.id) h

/-- A message that is not there is added. -/
def Adds : Prop :=
  ∀ v text, Step k c (o.running v) (.createMessage v.id .user text) <|
    o.OrRefused (o.resolved v)

/-- A page without elements is refused. -/
def Blank : Prop := ∀ v m h, o.resolved v m h → o.refused .emptyPage h

/-- The open actions of the message are skipped. -/
def Skips : Prop :=
  ∀ v m, Step k c (o.resolved v m) (.skipOpenActions m.id supersededReason) <|
    o.OrRefused fun _ => o.cleared v m

/-- The actions of the message are looked up. -/
def Reads : Prop :=
  ∀ v m, Step k c (o.cleared v m) (.listActions m.id) <| o.OrRefused fun _ => o.ready v m 0

/-- The action of a result is looked up. -/
def Finds (r : ResultFrame) : Prop :=
  Step k c o.begun (.getAction r.actionId) <| o.OrRefused fun found h =>
    found.elim (o.refused (.missing .action r.actionId) h) fun a => o.named a h

/-- The message of the action is looked up. -/
def Owns : Prop :=
  ∀ a, Step k c (o.named a) (.getMessage a.messageId) <| o.OrRefused fun found h =>
    found.elim (o.refused (.missing .message a.messageId) h) fun m =>
      if m.conversationId = c then o.found a m h else o.refused (.foreign .action a.id c) h

/-- The result is recorded. -/
def Records (r : ResultFrame) : Prop :=
  ∀ a m, Step k c (o.found a m)
    (.completeAction a.id (verdict r).1 (verdict r).2 r.executionTime) <|
    o.OrRefused fun done h => if done then o.recorded a m h else o.replied none h

/-- After that the conversation is looked up; if it has ended, that is the reply. -/
def Rechecks : Prop :=
  ∀ a m, Step k c (o.recorded a m) (.getConversation c) <| OrElse
    (fun found h => found.elim (o.refused (.missing .conversation c) h) fun v =>
      if v.state.isTerminal then o.replied (some (.finish (Fault.ended c v.state).detail)) h
      else o.resumed v a m h)
    fun f h =>
      if f.kind = .conflict then o.replied (some (.finish f.detail)) h else o.refused f h

/-- The action is looked up again. -/
def LooksAgain : Prop :=
  ∀ v a m, Step k c (o.resumed v a m) (.getAction a.id) <| o.OrRefused fun _ => o.resumed v a m

/-- The actions of the message are looked up. -/
def ReadsAgain : Prop :=
  ∀ v a m, Step k c (o.resumed v a m) (.listActions m.id) <| o.OrRefused fun _ => o.ready v m 0

/-- A decision is asked for; if there is none, one may be asked for again. -/
def Asks : Prop :=
  ∀ v m n context, context.message = m → n ≤ s.maxRetries → ∀ h h', o.ready v m n h →
    k.rely h h' → inv h' → k.asks h' context ∧ ∀ r,
      OrElse (fun d h => if d.check = .ok () then o.decided v m d h else o.ready v m (n + 1) h)
        (fun _ => o.ready v m (n + 1)) r (h'.asked (.handler c) context r)

/-- A pause that does not fit its word breaks off the work. -/
def Breaks : Prop :=
  ∀ v m n h, 0 < n → n ≤ s.maxRetries → o.ready v m n h →
    ¬ WordRange.unsigned64.holds (retryPause s.retryDelay n) = true → o.replied none h

/-- The count of failed rounds starts over. -/
def Resets : Prop :=
  ∀ v m d, Step k c (o.decided v m d) (.resetFailures m.id) <|
    OrElse (fun _ => o.accepted v m d) fun _ => o.ready v m (s.maxRetries + 1)

/-- A round without a decision is counted. -/
def Counts : Prop :=
  ∀ v m e, Step k c (o.ready v m (s.maxRetries + 1)) (.recordFailure m.id) <|
    o.OrRefused fun n h =>
      if n < s.maxConsecutiveFailures then
        o.replied (some (.error ("failed to decide the next action: " ++ e))) h
      else o.counted v h

/-- After too many of them the conversation is stopped. -/
def Stops : Prop :=
  ∀ v (n : Nat) e, Step k c (o.counted v) (.endConversation v.id .error) <|
    o.OrRefused fun _ => o.replied (some (.finish ("Stopped after " ++ Integer.text n ++
      " failed attempts to decide the next action: " ++ e)))

/-- The action of a decision is added. -/
def Creates : Prop :=
  ∀ v m kind parameters, Step k c (o.accepted v m (.act kind parameters))
    (.createAction m.id kind parameters) <| o.OrRefused o.created

/-- It is handed out. -/
def Starts : Prop :=
  ∀ a, Step k c (o.created a) (.startAction a.id) <| o.OrRefused fun done h =>
    if done then o.started a h else o.refused (.leftPending a.id) h

/-- It is looked up, and sent. -/
def Sends : Prop :=
  ∀ a, Step k c (o.started a) (.getAction a.id) <| o.OrRefused fun found h =>
    found.elim (o.refused (.missing .action a.id) h) fun b => o.replied (some (.ofAction b)) h

/-- The conversation is finished. -/
def Finishes : Prop :=
  ∀ v m text, Step k c (o.accepted v m (.finished text)) (.endConversation v.id .finished) <|
    o.OrRefused fun _ => o.replied (some (.finish text))

/-- What is to be shown of an outline: each call leads from one assertion to the next,
and each way to refuse a frame may be taken. -/
structure Valid (frame : ClientFrame) : Prop where
  /-- The conversation of a task. -/
  checks : ∀ t, frame = .task t → o.Checks
  /-- The message of a task. -/
  looksUp : o.LooksUp
  /-- A new message. -/
  adds : o.Adds
  /-- An empty page. -/
  blank : o.Blank
  /-- The actions that a task supersedes. -/
  skips : o.Skips
  /-- What was done for the message of a task. -/
  reads : o.Reads
  /-- The action of a result. -/
  finds : ∀ r, frame = .result r → o.Finds r
  /-- The message of a result. -/
  owns : o.Owns
  /-- The record of a result. -/
  records : ∀ r, frame = .result r → o.Records r
  /-- The conversation after a result. -/
  rechecks : o.Rechecks
  /-- The action after its result. -/
  looksAgain : o.LooksAgain
  /-- What was done for the message of a result. -/
  readsAgain : o.ReadsAgain
  /-- A call for a decision. -/
  asks : o.Asks s
  /-- A pause that is too long. -/
  breaks : o.Breaks s
  /-- The count after a decision. -/
  resets : o.Resets s
  /-- The count after a round without one. -/
  counts : o.Counts s
  /-- The end of a conversation that has failed too often. -/
  stops : o.Stops
  /-- A new action. -/
  creates : o.Creates
  /-- An action that is handed out. -/
  starts : o.Starts
  /-- An action that is sent. -/
  sends : o.Sends
  /-- The end of the work. -/
  finishes : o.Finishes

end Points

/-! ## Giving an outline -/

/-- Somebody's call is harmless to a contract when it is always allowed and does nothing
that may not happen anyway. -/
structure Harmless (k : Contract inv) (c : Int) (call : Store.Call) : Prop where
  /-- It is allowed. -/
  allows : ∀ h, k.allows h call
  /-- What it does may happen anyway. -/
  rely : ∀ h now, k.rely h (h.called (.handler c) now call)

/-- A harmless call: what lasts still holds when it is made, and after it. -/
theorem step_harmless {call : Store.Call} (hcall : Harmless k c call) {Q : Past → Prop}
    (hlasts : k.Lasts Q) {after : Except Fault call.Answer → Past → Prop}
    (hafter : ∀ h now, inv h → Q h → Q (h.called (.handler c) now call) →
      after (h.store.perform now call).1 (h.called (.handler c) now call)) :
    Step k c Q call after := by
  intro h h' hQ hrely hinv
  refine ⟨hcall.allows h', ?_⟩
  intro now
  have hQ' : Q h' := hlasts h h' hrely hQ
  exact hafter h' now hinv hQ' (hlasts h' _ (hcall.rely h' now) hQ')

/-- A harmless call whose answer does not matter. -/
theorem step_kept {call : Store.Call} (hcall : Harmless k c call) {Q : Past → Prop}
    (hlasts : k.Lasts Q) {after : Except Fault call.Answer → Past → Prop}
    (hafter : ∀ r h, Q h → after r h) : Step k c Q call after :=
  step_harmless hcall hlasts fun _ _ _ _ hQ => hafter _ _ hQ

/-- An assertion about an answer is shown for the result and for the fault apart. -/
theorem orElse_of {q : α → Past → Prop} {e : Fault → Past → Prop} {r : Except Fault α}
    (hok : ∀ a, r = .ok a → q a h) (herror : ∀ f, r = .error f → e f h) : OrElse q e r h := by
  cases r with
  | ok a => exact hok a rfl
  | error f => exact herror f rfl

/-- Where every fault may be reported, results are all that matters. -/
theorem orRefused_of_ok {o : Outline k c} (ho : ∀ f h, o.refused f h) {q : α → Past → Prop}
    {r : Except Fault α} (hok : ∀ a, r = .ok a → q a h) : o.OrRefused q r h :=
  orElse_of hok fun f _ => ho f h

/-- So is one about what may have been found. -/
theorem elim_of_some {P : Prop} (hP : P) {Q : α → Prop} {found : Option α}
    (hsome : ∀ a, found = some a → Q a) : found.elim P Q := by
  cases found with
  | none => exact hP
  | some a => exact hsome a rfl

/-! ## Rules -/

/-- A procedure leads to an assertion about its result, or its fault is reported. -/
abbrev Leads (o : Outline k c) (p : Procedure α) (q : α → Past → Prop) (h : Past) : Prop :=
  p.Meets k (.handler c) (OrElse q o.reported) h

variable {o : Outline k c} {s : Settings.Decision} {frame : ClientFrame}

/-- A fault of the store breaks nothing off. -/
theorem reportOf_store {f : Fault} (hf : f.OfStore) : reportOf f = some (.error f.message) := by
  cases f with
  | overflow => exact hf.elim
  | _ => rfl

/-- A fault of the store is reported as it is refused. -/
theorem reported_of_refused {f : Fault} (hf : f.OfStore) (hrefused : o.refused f h) :
    o.reported f h := by
  rw [reported, reportOf_store hf]
  exact hrefused

/-- A call that is a step keeps the contract, and its fault is one of the store. -/
theorem Step.meets {A : Past → Prop} {call : Store.Call}
    {B : Except Fault call.Answer → Past → Prop} (hstep : Step k c A call B) (hA : A h) :
    (Procedure.call call).Meets k (.handler c)
      (fun r h => B r h ∧ ∀ f, r = .error f → f.OfStore) h := by
  refine meets_call fun h' hrely hinv => ?_
  obtain ⟨hallows, hafter⟩ := hstep h h' hA hrely hinv
  exact ⟨hallows, fun now => ⟨hafter now, fun f hf => Store.perform_fault hf⟩⟩

/-- A step leads from one assertion to the next. -/
theorem Step.leads {A : Past → Prop} {call : Store.Call} {q : call.Answer → Past → Prop}
    (hstep : Step k c A call (o.OrRefused q)) (hA : A h) :
    o.Leads (Procedure.call call) q h := by
  refine (hstep.meets hA).mono ?_
  rintro r h' ⟨hr, hfault⟩
  cases r with
  | ok a => exact hr
  | error f => exact reported_of_refused (hfault f rfl) hr

/-- Two parts of a way lead on from one another. -/
theorem leads_bind {p : Procedure α} {f : α → Procedure β} {q : α → Past → Prop}
    {r : β → Past → Prop} (hp : o.Leads p q h) (hf : ∀ a h', q a h' → o.Leads (f a) r h') :
    o.Leads (p >>= f) r h := by
  refine meets_bind (hp.mono ?_)
  intro result h' hresult
  cases result with
  | ok a => exact hf a h' hresult
  | error e => exact hresult

/-- What was found leads on, and if nothing was found the fault is refused. -/
theorem leads_orFail {f : Fault} {found : Option α} {q : α → Past → Prop}
    (hreport : reportOf f = some (.error f.message))
    (hfound : found.elim (o.refused f h) fun a => q a h) : o.Leads (orFail f found) q h := by
  cases found with
  | none =>
      refine meets_fail ?_
      rw [OrElse, reported, hreport]
      exact hfound
  | some a => exact meets_pure hfound

/-- The last part of a way leads to its reply. -/
theorem leads_some {p : Procedure ServerFrame}
    (hp : o.Leads p (fun frame => o.replied (some frame)) h) :
    o.Leads (some <$> p) o.replied h := by
  refine meets_map (hp.mono ?_)
  intro r h' hr
  cases r with
  | ok frame => exact hr
  | error e => exact hr

/-! ## Deciding -/

variable {v : Conversation} {m : Message} {context : Decision.Context}

/-- What a round of calls leads to: a decision after which the count has started over, or
the last call has failed as well. -/
abbrev Decides (o : Outline k c) (s : Settings.Decision) (v : Conversation) (m : Message) :
    Except Fault (Except Fault Decision) → Past → Prop :=
  OrElse (OrElse (o.accepted v m) fun _ => o.ready v m (s.maxRetries + 1)) o.reported

/-- One call: a decision, or one more call has failed. -/
theorem Valid.decideOnce (hv : o.Valid s frame) {n : Nat} (hn : n ≤ s.maxRetries)
    (hready : o.ready v m n h) (hm : context.message = m) :
    (decideOnce context).Meets k (.handler c)
      (OrElse (OrElse (o.decided v m) fun _ => o.ready v m (n + 1)) o.reported) h := by
  unfold Coordinator.decideOnce
  refine meets_bind (meets_decide ?_)
  intro h' hrely hinv
  obtain ⟨hasks, hnext⟩ := hv.asks v m n context hm hn h h' hready hrely hinv
  refine ⟨hasks, ?_⟩
  intro r
  have hleads := hnext r
  cases r with
  | error e => exact meets_pure hleads
  | ok d =>
      simp only
      change (if d.check = .ok () then o.decided v m d _ else o.ready v m (n + 1) _) at hleads
      -- a decision that lacks something counts as none
      cases hcheck : d.check with
      | error e =>
          rw [hcheck, if_neg (fun h => by cases h)] at hleads
          exact meets_pure hleads
      | ok u =>
          rw [hcheck, if_pos rfl] at hleads
          exact meets_pure hleads

/-- A pause changes nothing; the one that does not fit is the end. -/
theorem Valid.waitBefore (hv : o.Valid s frame) {n : Nat} (hpause : 0 < n)
    (hn : n ≤ s.maxRetries) (hready : o.ready v m n h) :
    o.Leads (waitBefore s.retryDelay n) (fun _ => o.ready v m n) h := by
  unfold Coordinator.waitBefore
  by_cases hfits : WordRange.unsigned64.holds (retryPause s.retryDelay n) = true
  · rw [if_pos hfits]
    exact meets_pause hready
  · rw [if_neg hfits]
    exact meets_fail (hv.breaks v m n h hpause hn hready hfits)

/-- One call for a decision, if what follows a failure leads to a decision, too. -/
theorem Valid.decideOr (hv : o.Valid s frame) {n : Nat} (hn : n ≤ s.maxRetries)
    (hready : o.ready v m n h) (hm : context.message = m)
    {otherwise : Fault → Procedure (Except Fault Decision)}
    (hotherwise : ∀ e h', o.ready v m (n + 1) h' →
      (otherwise e).Meets k (.handler c) (o.Decides s v m) h') :
    (decideOr s.retryDelay m.id context n otherwise).Meets k (.handler c) (o.Decides s v m) h := by
  -- call number zero is a call without a pause before it
  have hrest : ∀ h' : Past, o.ready v m n h' →
      (Coordinator.decideOr s.retryDelay m.id context 0 otherwise).Meets k (.handler c)
        (o.Decides s v m) h' := by
    intro h' hready'
    unfold Coordinator.decideOr
    simp only [Nat.lt_irrefl, if_false]
    refine leads_bind (hv.decideOnce hn hready' hm) ?_
    intro r h'' hr
    cases r with
    | error e => exact hotherwise e h'' hr
    | ok d =>
        refine meets_bind (meets_attempt (((hv.resets v m d).meets hr).mono ?_))
        rintro reset h''' ⟨hreset, -⟩
        cases reset with
        | ok u => exact meets_pure hreset
        | error e => exact meets_pure hreset
  by_cases hpause : 0 < n
  · unfold Coordinator.decideOr
    simp only [if_pos hpause]
    exact leads_bind (hv.waitBefore hpause hn hready) fun _ h' hready' => hrest h' hready'
  · have hzero : n = 0 := by omega
    have hfirst := hrest h hready
    rwa [hzero]

/-- However many calls fail, there is a decision in the end, or all that may be made have
failed. -/
theorem Valid.decideFrom (hv : o.Valid s frame) (hm : context.message = m)
    {n left : Nat} (hleft : n + left = s.maxRetries) (hready : o.ready v m n h) :
    (decideFrom s.retryDelay m.id context n left).Meets k (.handler c) (o.Decides s v m) h := by
  induction left generalizing n h with
  | zero =>
      have hlast : n = s.maxRetries := by omega
      refine hv.decideOr (by omega) hready hm ?_
      intro e h' hfailed
      rw [hlast] at hfailed
      exact meets_pure hfailed
  | succ left ih =>
      exact hv.decideOr (by omega) hready hm fun _ _ hready' => ih (by omega) hready'

/-- After a round without a decision the way leads to a reply. -/
theorem Valid.decisionFailed (hv : o.Valid s frame) (hready : o.ready v m (s.maxRetries + 1) h)
    (e : Fault) :
    o.Leads (decisionFailed s v m.id e) (fun frame => o.replied (some frame)) h := by
  unfold Coordinator.decisionFailed
  refine leads_bind ((hv.counts v m e.message).leads hready) ?_
  intro n h' hn
  by_cases hfew : n < s.maxConsecutiveFailures
  · rw [if_pos hfew] at hn
    rw [if_pos hfew]
    exact meets_pure hn
  · rw [if_neg hfew] at hn
    rw [if_neg hfew]
    refine leads_bind ((hv.stops v n e.message).leads hn) ?_
    intro _ h'' hreplied
    exact meets_pure hreplied

/-- To carry out a decision leads to a reply. -/
theorem Valid.apply (hv : o.Valid s frame) {d : Decision} (haccepted : o.accepted v m d h) :
    o.Leads (apply v m d) (fun frame => o.replied (some frame)) h := by
  cases d with
  | act kind parameters =>
      refine leads_bind ((hv.creates v m kind parameters).leads haccepted) ?_
      intro created h' hcreated
      refine leads_bind ((hv.starts created).leads hcreated) ?_
      intro done h'' hdone
      cases done with
      | false => exact meets_fail hdone
      | true =>
          refine leads_bind ((hv.sends created).leads hdone) ?_
          intro found h''' hfound
          refine leads_bind (q := fun b => o.replied (some (.ofAction b)))
            (leads_orFail rfl hfound) ?_
          intro action h4 hreplied
          exact meets_pure hreplied
  | finished text =>
      refine leads_bind ((hv.finishes v m text).leads haccepted) ?_
      intro _ h' hreplied
      exact meets_pure hreplied

/-- Once all is ready the way leads to a reply. -/
theorem Valid.proceed (hv : o.Valid s frame) (hready : o.ready v m 0 h)
    (hm : context.message = m) :
    o.Leads (proceed s v m context) (fun frame => o.replied (some frame)) h := by
  unfold Coordinator.proceed
  refine leads_bind (hv.decideFrom hm (Nat.zero_add _) hready) ?_
  intro r h' hr
  cases r with
  | ok d => exact hv.apply hr
  | error e => exact hv.decisionFailed hr e

/-! ## Frames -/

/-- The check leads to a running conversation. -/
theorem Valid.runningConversation (hv : o.Valid s frame) {t : TaskFrame} (ht : frame = .task t)
    (hbegun : o.begun h) : o.Leads (runningConversation c) o.running h := by
  unfold Coordinator.runningConversation
  refine leads_bind ((hv.checks t ht).leads hbegun) ?_
  intro found h' hfound
  refine leads_bind (leads_orFail (q := fun v h =>
    if v.state.isTerminal then o.refused (.ended c v.state) h else o.running v h) rfl hfound) ?_
  intro v h'' hstate
  by_cases hterminal : v.state.isTerminal = true
  · rw [if_pos hterminal] at hstate ⊢
    exact meets_fail hstate
  · rw [if_neg hterminal] at hstate ⊢
    exact meets_pure hstate

/-- The message of a task is found or added. -/
theorem Valid.resolveMessage (hv : o.Valid s frame) (hrunning : o.running v h) (t : TaskFrame) :
    o.Leads (resolveMessage v t) (o.resolved v) h := by
  unfold Coordinator.resolveMessage
  refine leads_bind ((hv.looksUp v t.messageId).leads hrunning) ?_
  intro found h' hfound
  cases found with
  | some m =>
      simp only [Option.elim_some] at hfound ⊢
      by_cases hown : m.conversationId = v.id
      · rw [if_pos hown] at hfound ⊢
        exact meets_pure hfound
      · rw [if_neg hown] at hfound ⊢
        exact meets_fail hfound
  | none =>
      obtain ⟨hrunning', hmissing⟩ := hfound
      simp only
      -- a message that is not there is added, if the task has a text
      cases t.task.bind Text.nonBlank? with
      | none => exact meets_fail hmissing
      | some text => exact (hv.adds v text).leads hrunning'

/-- A task is led to its reply. -/
theorem Valid.handleTask (hv : o.Valid s frame) {t : TaskFrame} (ht : frame = .task t)
    (hbegun : o.begun h) :
    o.Leads (handleTask s c t) (fun frame => o.replied (some frame)) h := by
  unfold Coordinator.handleTask
  refine leads_bind (hv.runningConversation ht hbegun) ?_
  intro v h' hrunning
  refine leads_bind (hv.resolveMessage hrunning t) ?_
  intro m h'' hresolved
  by_cases hblank : t.page.isEmpty = true
  · rw [if_pos hblank]
    exact meets_fail (hv.blank v m h'' hresolved)
  · rw [if_neg hblank]
    refine leads_bind ((hv.skips v m).leads hresolved) ?_
    intro skipped h3 hcleared
    refine leads_bind ((hv.reads v m).leads hcleared) ?_
    intro history h4 hready
    exact hv.proceed hready rfl

/-- The action of a result is found with its message. -/
theorem Valid.resolveAction (hv : o.Valid s frame) {r : ResultFrame} (hr : frame = .result r)
    (hbegun : o.begun h) :
    o.Leads (resolveAction c r) (fun found => o.found found.1 found.2) h := by
  unfold Coordinator.resolveAction
  refine leads_bind ((hv.finds r hr).leads hbegun) ?_
  intro found h' hfound
  refine leads_bind (leads_orFail rfl hfound) ?_
  intro a h'' hnamed
  refine leads_bind ((hv.owns a).leads hnamed) ?_
  intro owner h3 howner
  refine leads_bind (leads_orFail (q := fun m h =>
    if m.conversationId = c then o.found a m h else o.refused (.foreign .action a.id c) h)
    rfl howner) ?_
  intro m h4 hm
  by_cases hown : m.conversationId = c
  · rw [if_pos hown] at hm ⊢
    exact meets_pure hm
  · rw [if_neg hown] at hm ⊢
    exact meets_fail hm

/-- After a result is recorded the way leads to a reply. -/
theorem Valid.afterResult (hv : o.Valid s frame) {a : Action} (hresumed : o.resumed v a m h)
    (r : ResultFrame) :
    o.Leads (afterResult s v m a r) (fun frame => o.replied (some frame)) h := by
  unfold Coordinator.afterResult
  refine leads_bind ((hv.looksAgain v a m).leads hresumed) ?_
  intro completed h' hresumed'
  refine leads_bind ((hv.readsAgain v a m).leads hresumed') ?_
  intro history h'' hready
  exact hv.proceed hready rfl

/-- What follows when the conversation is looked up after a result: it is running still,
or its end is the reply, or a fault is. -/
theorem Valid.recheck (hv : o.Valid s frame) {a : Action} (hrecorded : o.recorded a m h) :
    (Coordinator.runningConversation c).attempt.Meets k (.handler c)
      (OrElse (OrElse (fun v => o.resumed v a m) fun f h =>
        if f.kind = .conflict then o.replied (some (.finish f.detail)) h else o.reported f h)
        o.reported) h := by
  -- a fault of the look-up is caught like the end of the conversation
  refine meets_attempt ?_
  unfold Coordinator.runningConversation
  refine meets_bind (((hv.rechecks a m).meets hrecorded).mono ?_)
  rintro r h' ⟨hr, hfault⟩
  cases r with
  | error f =>
      change (if f.kind = .conflict then o.replied (some (.finish f.detail)) h'
        else o.reported f h')
      change (if f.kind = .conflict then o.replied (some (.finish f.detail)) h'
        else o.refused f h') at hr
      by_cases hconflict : f.kind = .conflict
      · rw [if_pos hconflict] at hr ⊢
        exact hr
      · rw [if_neg hconflict] at hr ⊢
        exact reported_of_refused (hfault f rfl) hr
  | ok found =>
      cases found with
      | none => exact hr
      | some v =>
          change (if v.state.isTerminal then
            o.replied (some (.finish (Fault.ended c v.state).detail)) h'
            else o.resumed v a m h') at hr
          refine meets_bind (meets_pure ?_)
          simp only
          by_cases hterminal : v.state.isTerminal = true
          · rw [if_pos hterminal] at hr ⊢
            exact hr
          · rw [if_neg hterminal] at hr ⊢
            exact hr

/-- A result is led to its reply. -/
theorem Valid.handleResult (hv : o.Valid s frame) {r : ResultFrame} (hr : frame = .result r)
    (hbegun : o.begun h) : o.Leads (handleResult s c r) o.replied h := by
  unfold Coordinator.handleResult
  refine leads_bind (hv.resolveAction hr hbegun) ?_
  rintro ⟨a, m⟩ h' hfound
  refine leads_bind ((hv.records r hr a m).leads hfound) ?_
  intro done h'' hdone
  cases done with
  | false => exact meets_pure hdone
  | true =>
      refine leads_bind (hv.recheck hdone) ?_
      intro running h3 hrunning
      cases running with
      | ok v => exact leads_some (hv.afterResult hrunning r)
      | error f =>
          change (if f.kind = .conflict then o.replied (some (.finish f.detail)) h3
            else o.reported f h3) at hrunning
          simp only
          by_cases hconflict : f.kind = .conflict
          · rw [if_pos hconflict] at hrunning ⊢
            exact meets_pure hrunning
          · rw [if_neg hconflict] at hrunning ⊢
            exact meets_fail hrunning

/-- **The answer to a frame** keeps to the contract of a valid outline, and ends as its
last assertion says. -/
theorem Valid.handle (hv : o.Valid s frame) (hbegun : o.begun h) :
    Program.Meets k (.handler c) o.replied (handle s c frame) h := by
  have hanswer : o.Leads (answer s c frame) o.replied h := by
    cases hframe : frame with
    | task t => exact leads_some (hv.handleTask hframe hbegun)
    | result r => exact hv.handleResult hframe hbegun
  refine Program.Meets.bind (Program.Meets.mono ?_ hanswer)
  intro r h' hr
  cases r with
  | ok reply => exact hr
  | error f => exact hr

/-- So does the worker that answers it. -/
theorem Valid.handling (hv : o.Valid s frame) (hbegun : o.begun h) :
    Program.Meets k (.handler c)
      (fun r h => ∃ reply, r = .reply reply ∧ o.replied reply h)
      (Worker.handling s c frame).program h := by
  refine Program.Meets.bind (Program.Meets.mono ?_ (hv.handle hbegun))
  intro reply h' hreply
  exact ⟨reply, rfl, hreply⟩

end Outline

end Coordinator

end ControlPlane
