/-
The budget for failures.

With every message the store counts its failed rounds. In a life in which frames are
answered one at a time the count is what it is meant to be: the number of exhausted rounds
of the message since its last round that succeeded (`Round.streak`), whatever happened to
other messages, and however often the store was opened anew. While a conversation is
running, the counts of its messages stay below the budget; the round that reaches it is the
one that stops the conversation, and nothing else in the answer to a frame stops it with an
error.

The invariant (`Coordinator.Within`) says both at once. That a count does not reach the
budget unnoticed is also what keeps it in the range of its column.
-/
import ControlPlane.Proofs.Agreement
import ControlPlane.Proofs.StoreLife
import Mathlib.Data.List.Induction

set_option autoImplicit false

namespace ControlPlane

/-- A range holds what is between its ends. -/
theorem WordRange.holds_iff (r : WordRange) (n : Int) :
    r.holds n = true ↔ r.least ≤ n ∧ n ≤ r.greatest := by
  rw [holds, Bool.and_eq_true, decide_eq_true_eq, decide_eq_true_eq]

namespace Store

variable {s s' : Store} {c m : Int} {now : Instant}

/-! ## Counts -/

/-- How many rounds of a message are counted as failed; none, if there is no such message. -/
def failuresOf (s : Store) (m : Int) : Int := (s.message? m).elim 0 (·.failures)

/-- The counts depend on the messages only. -/
theorem failuresOf_congr (h : s'.messages = s.messages) (m : Int) :
    s'.failuresOf m = s.failuresOf m := by
  rw [failuresOf, failuresOf, message?, message?, h]

/-- The count of a message that is there is the one of its row. -/
theorem failuresOf_of_mem (hs : s.Ordered) {r : MessageRow} (hr : r ∈ s.messages) :
    s.failuresOf r.id = r.failures := by
  have hown : s.Owns r.conversationId r.id := ⟨r, hr, rfl, rfl⟩
  obtain ⟨x, hx⟩ := Option.isSome_iff_exists.1 hown.message?
  have hid : x.id = r.id := by simpa using List.find?_some hx
  rw [failuresOf, hx, hs.messages.eq_of_id_eq (List.mem_of_find?_eq_some hx) hr hid]
  rfl

/-- Nothing is counted for a message that is not there. -/
theorem failuresOf_of_missing (h : ∀ c, ¬ s.Owns c m) : s.failuresOf m = 0 := by
  have hnone : s.message? m = none := by
    refine List.find?_eq_none.2 ?_
    intro r hr hid
    exact h r.conversationId ⟨r, hr, beq_iff_eq.1 hid, rfl⟩
  rw [failuresOf, hnone]
  rfl

/-- New messages without failures change no count. -/
theorem failuresOf_append {new : List MessageRow} (h : s'.messages = s.messages ++ new)
    (hnew : ∀ r ∈ new, r.failures = 0) (m : Int) : s'.failuresOf m = s.failuresOf m := by
  rw [failuresOf, failuresOf, message?, message?, h, List.find?_append]
  cases s.messages.find? (·.id == m) with
  | some r => rfl
  | none =>
      rw [Option.none_or]
      cases hfind : new.find? (·.id == m) with
      | none => rfl
      | some r => exact hnew r (List.mem_of_find?_eq_some hfind)

/-- To prepare for a decision changes no count. -/
theorem Prepared.failuresOf (h : Prepared c s s') (m : Int) :
    s'.failuresOf m = s.failuresOf m := by
  obtain ⟨new, hnew, hown⟩ := h.messages
  exact failuresOf_append hnew (fun r hr => (hown r hr).2) m

/-- Calls that count nothing leave all counts. -/
theorem Change.failuresOf {call : Call} (h : s.Change now call s') (hcall : ¬ call.Counts)
    (m : Int) : s'.failuresOf m = s.failuresOf m := by
  cases h with
  | nothing => rfl
  | actions => rfl
  | messages _ f hf hcounts => exact absurd hcounts hcall
  | conversations => rfl
  | newConversation => rfl
  | newMessage c role content _ =>
      refine failuresOf_append rfl ?_ m
      intro r hr
      rw [List.mem_singleton.1 hr]
      rfl
  | newAction => rfl

/-- A change of messages in place changes the counts of those that it is about. -/
theorem failuresOf_modify (s : Store) {p : MessageRow → Bool} {f : MessageRow → MessageRow}
    (hf : ∀ r, (f r).id = r.id) (m : Int) :
    Store.failuresOf { s with messages := modify p f s.messages } m =
      (s.message? m).elim 0 fun r => (if p r then f r else r).failures := by
  have hsame : ((fun r : MessageRow => r.id == m) ∘ fun r => if p r then f r else r) =
      fun r => r.id == m := by
    funext r
    rw [Function.comp_apply]
    split
    · rw [hf]
    · rfl
  rw [Store.failuresOf, message?, modify, List.find?_map, hsame, ← message?]
  cases s.message? m with
  | none => rfl
  | some r => rfl

/-- A message is found by its number. -/
theorem message?_id {r : MessageRow} (h : s.message? m = some r) : r.id = m := by
  simpa using List.find?_some h

/-- A count that is not full can be counted on. -/
theorem counter_succ {n : Int} (h : 0 ≤ n) (hfew : n < 4294967295) :
    counter (n + 1) = .ok (n + 1).toNat := by
  have hword : WordRange.unsigned32.holds (n + 1) = true := by
    rw [WordRange.holds_iff]
    change 0 ≤ n + 1 ∧ n + 1 ≤ 4294967295
    omega
  rw [counter, if_pos hword]

/-- A failed round of a message that is there is counted. -/
theorem recordFailure_eq (hm : s.Owns c m) :
    s.recordFailure m = (counter (s.failuresOf m + 1),
      { s with
        messages := modify (·.id == m) (fun r => { r with failures := r.failures + 1 })
                      s.messages }) := by
  obtain ⟨r, hr⟩ := Option.isSome_iff_exists.1 hm.message?
  rw [recordFailure, failuresOf, hr]
  rfl

/-- A failed round is added to the count of its message, and to no other. -/
theorem failuresOf_recordFailure (hm : s.Owns c m) (m' : Int) :
    (s.recordFailure m).2.failuresOf m' = s.failuresOf m' + if m' = m then 1 else 0 := by
  rw [recordFailure_eq hm]
  refine (failuresOf_modify s ?_ m').trans ?_
  · exact fun _ => rfl
  rw [failuresOf]
  cases hfind : s.message? m' with
  | none =>
      have hother : m' ≠ m := by
        rintro rfl
        have hsome := hm.message?
        rw [hfind] at hsome
        cases hsome
      rw [if_neg hother]
      rfl
  | some r =>
      rw [Option.elim_some, Option.elim_some, message?_id hfind]
      by_cases h : m' = m
      · rw [if_pos h, if_pos (beq_iff_eq.2 h)]
      · rw [if_neg h, if_neg fun hit => h (beq_iff_eq.1 hit), Int.add_zero]

/-- The count of one message starts over, and no other. -/
theorem failuresOf_resetFailures (s : Store) (m : Int) {m' : Int} (h : 0 ≤ s.failuresOf m') :
    (s.resetFailures m).2.failuresOf m' = if m' = m then 0 else s.failuresOf m' := by
  refine (failuresOf_modify s ?_ m').trans ?_
  · exact fun _ => rfl
  rw [failuresOf] at h ⊢
  cases hfind : s.message? m' with
  | none =>
      rw [Option.elim_none, Option.elim_none]
      split
      · rfl
      · rfl
  | some r =>
      rw [hfind, Option.elim_some] at h
      rw [Option.elim_some, Option.elim_some, message?_id hfind]
      by_cases hm : m' = m
      · rw [if_pos hm, beq_iff_eq.2 hm, Bool.true_and]
        split
        next => rfl
        next hzero =>
          rw [decide_eq_true_eq] at hzero
          omega
      · have hmiss : ¬ ((m' == m) && decide (0 < r.failures)) = true := by
          intro hit
          exact hm (beq_iff_eq.1 (Bool.and_eq_true_iff.1 hit).1)
        rw [if_neg hm, if_neg hmiss]

/-! ## What lasts -/

/-- What no call takes back. -/
structure Keeps (s s' : Store) : Prop where
  /-- Messages stay with their conversations. -/
  owns : ∀ c m, s.Owns c m → s'.Owns c m
  /-- A conversation that was stopped with an error stays so. -/
  error : ∀ c, s.stateOf c = some Conversation.State.error.name →
    s'.stateOf c = some Conversation.State.error.name

theorem Keeps.refl (s : Store) : Keeps s s := ⟨fun _ _ h => h, fun _ h => h⟩

/-- What is kept twice is kept. -/
theorem Keeps.trans {s'' : Store} (h : Keeps s s') (h' : Keeps s' s'') : Keeps s s'' :=
  ⟨fun c m hm => h'.owns c m (h.owns c m hm), fun c hc => h'.error c (h.error c hc)⟩

/-- To prepare for a decision takes nothing of this back. -/
theorem Prepared.keeps (h : Prepared c s s') : Keeps s s' :=
  ⟨fun _ _ hm => h.owns hm, fun c' hc => by rw [stateOf_congr h.conversations, hc]⟩

/-- No call does. -/
theorem Change.keeps {call : Call} (h : s.Change now call s') : Keeps s s' := by
  refine ⟨fun _ _ hm => h.owns hm, ?_⟩
  intro c hc
  cases h with
  | nothing => exact hc
  | actions => exact hc
  | messages => exact hc
  | conversations _ f hf =>
      rw [stateOf_map fun r => (hf r).becomes.id]
      obtain ⟨r, hr, hstate⟩ := Option.map_eq_some_iff.1 hc
      have hended : r.isEnded = true := by
        rw [ConversationRow.isEnded, hstate]
        rfl
      rw [hr, Option.map_some, (hf r).becomes.state_of_isEnded hended, hstate]
  | newConversation =>
      obtain ⟨r, hr, hstate⟩ := Option.map_eq_some_iff.1 hc
      have hfind : s.conversations.find? (·.id == c) = some r := hr
      rw [Store.stateOf, conversation?, List.find?_append, hfind, Option.some_or,
        Option.map_some, hstate]
  | newMessage => exact hc
  | newAction => exact hc

end Store

/-- Frames are answered under these settings. -/
def Occasion.Under (d : Settings.Decision) : Occasion → Prop
  | .frame settings _ _ _ => settings = d
  | _ => True

/-- Nor does anything that happens to the store as a whole. -/
theorem Occasion.keeps (o : Occasion) (s : Store) : Store.Keeps s (s.after o) :=
  Occasion.past_induction (I := fun h => Store.Keeps s h.store)
    (fun h _ now call hh => hh.trans (h.store.perform_change now call).keeps)
    (fun _ _ _ _ hh => hh) o (Store.Keeps.refl s)

namespace Coordinator

open Round Store

variable {d : Settings.Decision} {c m : Int} {s : Store} {rounds : List (List Question)}

/-! ## The invariant -/

/-- The counts are the streaks, and below the budget but for conversations that were
stopped. -/
structure Within (d : Settings.Decision) (rounds : List (List Question)) (s : Store) :
    Prop where
  /-- The store is one that calls have made. -/
  regular : s.Regular
  /-- The counts are the streaks. -/
  counts : ∀ m, s.failuresOf m = streak d.maxRetries m rounds
  /-- They are below the budget, or the conversation was stopped. -/
  few : ∀ c m, s.Owns c m → s.failuresOf m < d.maxConsecutiveFailures ∨
    s.stateOf c = some Conversation.State.error.name

/-- A budget that there can be: not zero, and in the range of its field. -/
def Budgeted (d : Settings.Decision) : Prop :=
  1 ≤ d.maxConsecutiveFailures ∧
    WordRange.unsigned32.holds (d.maxConsecutiveFailures : Int) = true

instance (d : Settings.Decision) : Decidable (Budgeted d) :=
  inferInstanceAs (Decidable (_ ∧ _))

/-- A count that stays, or belongs to a new message, stays below the budget. -/
theorem Within.few_of_same (hw : Within d rounds s) (hd : Budgeted d) {s' : Store}
    (hkeeps : Keeps s s') (hs' : s'.Ordered) (hsame : s'.failuresOf m = s.failuresOf m)
    (howns : s'.Owns c m) :
    s'.failuresOf m < d.maxConsecutiveFailures ∨
      s'.stateOf c = some Conversation.State.error.name := by
  rw [hsame]
  -- a message that was not there before has no failures
  by_cases hold : ∃ c₀, s.Owns c₀ m
  · obtain ⟨c₀, hc₀⟩ := hold
    rw [hs'.owner_unique howns (hkeeps.owns c₀ m hc₀)]
    exact (hw.few c₀ m hc₀).imp_right (hkeeps.error c₀)
  · rw [failuresOf_of_missing fun c₀ hc₀ => hold ⟨c₀, hc₀⟩]
    have hpositive := hd.1
    exact Or.inl (by omega)

/-- When a failure is counted, the count was below the budget and is told as it is. -/
theorem Within.recordFailure (hw : Within d rounds s) (hd : Budgeted d) {s₁ : Store}
    (ha : Attends c s m s₁) :
    s.failuresOf m < d.maxConsecutiveFailures ∧
      (s₁.recordFailure m).1 = .ok (streak d.maxRetries m rounds + 1) := by
  have hsame := ha.prepared.failuresOf m
  have hcount := hw.counts m
  have hbelow : s.failuresOf m < d.maxConsecutiveFailures := by
    rcases hw.few_of_same hd ha.prepared.keeps ha.regular.ordered hsame ha.owns with
      hfew | herror
    · rwa [hsame] at hfew
    · have hrunning := isRunning_iff.1 ha.running
      rw [herror] at hrunning
      exact absurd hrunning (by decide)
  refine ⟨hbelow, ?_⟩
  -- below the budget the count is in the range of its column
  obtain ⟨_, hword⟩ := hd
  have hgreatest : (d.maxConsecutiveFailures : Int) ≤ 4294967295 :=
    ((WordRange.holds_iff _ _).1 hword).2
  rw [recordFailure_eq ha.owns, counter_succ (by omega) (by omega), hsame, hcount]
  exact congrArg Except.ok (by omega)

/-- After a frame every count is what its round makes of it. -/
theorem Handled.failuresOf {reply : Option ServerFrame} {h : Past}
    (hh : Handled d c s reply h) {n : Nat} (hn : s.failuresOf m = n) :
    h.store.failuresOf m = next d.maxRetries m h.questions n := by
  have hrecord : ∀ {m₀ s₁}, Attends c s m₀ s₁ →
      exhausted d.maxRetries m₀ h.questions = true →
      (s₁.recordFailure m₀).2.failuresOf m = next d.maxRetries m h.questions n := by
    intro m₀ s₁ ha hround
    rw [failuresOf_recordFailure ha.owns, ha.prepared.failuresOf, hn, next_exhausted hround]
    split
    · rfl
    · rfl
  have hreset : ∀ {m₀ s₁ decision}, Attends c s m₀ s₁ →
      Decided d.maxRetries m₀ decision h.questions →
      (s₁.resetFailures m₀).2.failuresOf m = next d.maxRetries m h.questions n := by
    intro m₀ s₁ decision ha hround
    have hsame := ha.prepared.failuresOf m
    rw [failuresOf_resetFailures s₁ m₀ (by omega), hsame, hn, next_decided hround]
    split
    · rfl
    · rfl
  -- a conversation that ends, and an action that is added, leave the messages alone
  cases hh with
  | unasked hprepared hquestions => rw [hprepared.failuresOf, hquestions, next_nil, hn]
  | broken ha hfailing _ hleft => rw [ha.prepared.failuresOf, next_failing hfailing hleft, hn]
  | failed ha hround hstore => rw [hstore, hrecord ha hround]
  | stopped ha hround _ _ hstore =>
      rw [hstore, failuresOf_congr (endConversation_messages ..), hrecord ha hround]
  | finished ha hround hstore =>
      rw [hstore, failuresOf_congr (endConversation_messages ..), hreset ha hround]
  | @acted m₀ s₁ now kind parameters row _ ha hround _ _ hstore =>
      rw [hstore, ← hreset ha hround]
      exact failuresOf_congr rfl m
  | @unsent m₀ s₁ now kind parameters row text _ ha hround _ hstore =>
      rw [hstore, ← hreset ha hround]
      exact failuresOf_congr rfl m

/-- What comes of an exhausted round: the count of its message grows by one. Below the budget
the reply is an error and all conversations stay; when the budget is reached the
conversation is stopped, and the reply says so. -/
structure Charged (d : Settings.Decision) (c m : Int) (s : Store) (reply : Option ServerFrame)
    (s' : Store) : Prop where
  /-- The message belongs to the conversation. -/
  owns : s'.Owns c m
  /-- The conversation was running. -/
  running : s.isRunning c = true
  /-- One more round is counted. -/
  count : s'.failuresOf m = s.failuresOf m + 1
  /-- What follows depends on the budget. -/
  outcome :
    (s'.failuresOf m < d.maxConsecutiveFailures ∧ (∃ text, reply = some (.error text)) ∧
      s'.conversations = s.conversations) ∨
    (s'.failuresOf m = d.maxConsecutiveFailures ∧ (∃ text, reply = some (.finish text)) ∧
      s'.stateOf c = some Conversation.State.error.name)

/-- The conversation of a task was running before its message was added. -/
theorem Attends.running_before {s₁ : Store} (ha : Attends c s m s₁) : s.isRunning c = true := by
  rw [isRunning_iff, ← stateOf_congr ha.prepared.conversations, ← isRunning_iff]
  exact ha.running

/-- An exhausted round is charged to its message. -/
theorem Handled.charged {reply : Option ServerFrame} {h : Past} (hh : Handled d c s reply h)
    (hw : Within d rounds s) (hd : Budgeted d)
    (hround : exhausted d.maxRetries m h.questions = true) : Charged d c m s reply h.store := by
  have hstreak := hw.counts m
  have hcount : h.store.failuresOf m = s.failuresOf m + 1 := by
    rw [hh.failuresOf hstreak, next_exhausted hround, if_pos rfl, hstreak]
    rfl
  -- only two of the ways have an exhausted round behind them
  cases hh with
  | unasked _ hquestions =>
      rw [hquestions] at hround
      cases hround
  | broken _ _ _ hleft =>
      rw [not_exhausted_of_length hleft] at hround
      cases hround
  | @failed m₀ s₁ text _ ha hround₀ hstore hfew =>
      obtain rfl := exhausted_unique hround hround₀
      obtain ⟨_, hanswer⟩ := hw.recordFailure hd ha
      have hbelow := hfew _ hanswer
      refine ⟨?_, Attends.running_before ha, hcount, Or.inl ⟨by omega, ⟨text, rfl⟩, ?_⟩⟩
      · rw [hstore]
        exact (s₁.perform_change default (.recordFailure m)).owns ha.owns
      · rw [hstore, recordFailure_conversations, ha.prepared.conversations]
  | @stopped m₀ s₁ n now text _ ha hround₀ hanswer₀ hmany hstore =>
      obtain rfl := exhausted_unique hround hround₀
      obtain ⟨hbelow, hanswer⟩ := hw.recordFailure hd ha
      have hn : n = streak d.maxRetries m rounds + 1 :=
        Except.ok.inj (hanswer₀.symm.trans hanswer)
      have hstill : (s₁.recordFailure m).2.isRunning c = true := by
        rw [isRunning_iff, stateOf_congr (recordFailure_conversations s₁ m), ← isRunning_iff]
        exact ha.running
      refine ⟨?_, Attends.running_before ha, hcount, Or.inr ⟨by omega, ⟨text, rfl⟩, ?_⟩⟩
      · rw [hstore]
        exact ((s₁.recordFailure m).2.perform_change now (.endConversation c .error)).owns
          ((s₁.perform_change now (.recordFailure m)).owns ha.owns)
      · rw [hstore, stateOf_endConversation rfl hstill]
  | finished _ hdecided =>
      rw [hdecided.not_exhausted m] at hround
      cases hround
  | acted _ hdecided =>
      rw [hdecided.not_exhausted m] at hround
      cases hround
  | unsent _ hdecided =>
      rw [hdecided.not_exhausted m] at hround
      cases hround

/-- To end a conversation leaves the others in their states. -/
theorem stateOf_endConversation_other (s : Store) (now : Instant) {c c' : Int}
    (hc : c' ≠ c) (st : Conversation.State) :
    (s.endConversation now c st).2.stateOf c' = s.stateOf c' :=
  (s.perform_change now (.endConversation c st)).stateOf (fun hf => hf)
    fun hends => hc hends.1.1.symm

/-- Only an exhausted round stops a conversation with an error, and only its own. -/
theorem Handled.exhausted_of_error {reply : Option ServerFrame} {h : Past}
    (hh : Handled d c s reply h) {c' : Int}
    (hbefore : s.stateOf c' ≠ some Conversation.State.error.name)
    (hafter : h.store.stateOf c' = some Conversation.State.error.name) :
    c' = c ∧ ∃ m, exhausted d.maxRetries m h.questions = true := by
  have hstays : h.store.conversations = s.conversations → False := by
    intro hsame
    rw [stateOf_congr hsame] at hafter
    exact hbefore hafter
  cases hh with
  | unasked hprepared => exact (hstays hprepared.conversations).elim
  | broken ha => exact (hstays ha.prepared.conversations).elim
  | @failed m s₁ text _ ha _ hstore =>
      refine (hstays ?_).elim
      rw [hstore, recordFailure_conversations, ha.prepared.conversations]
  | @stopped m s₁ n now text _ ha hround _ _ hstore =>
      refine ⟨?_, m, hround⟩
      by_contra hother
      rw [hstore, stateOf_endConversation_other _ _ hother,
        stateOf_congr (recordFailure_conversations s₁ m),
        stateOf_congr ha.prepared.conversations] at hafter
      exact hbefore hafter
  | @finished m s₁ now text _ ha _ hstore =>
      exfalso
      have hstill : (s₁.resetFailures m).2.isRunning c = true := ha.running
      by_cases hown : c' = c
      · rw [hown, hstore, stateOf_endConversation rfl hstill] at hafter
        exact absurd hafter (by decide)
      · rw [hstore, stateOf_endConversation_other _ _ hown] at hafter
        exact hbefore ((stateOf_congr ha.prepared.conversations c').symm.trans hafter)
  | acted ha _ _ _ hstore =>
      refine (hstays ?_).elim
      rw [hstore]
      exact ha.prepared.conversations
  | unsent ha _ _ hstore =>
      refine (hstays ?_).elim
      rw [hstore]
      exact ha.prepared.conversations

/-! ## Lives -/

/-- One more occasion keeps the counts and the budget. -/
theorem Within.after (hw : Within d rounds s) (hd : Budgeted d) {o : Occasion}
    (ho : o.Under d) : Within d (rounds ++ [(o.past s).questions]) (s.after o) := by
  have hregular := after_regular hw.regular o
  have hcounts : ∀ m, (s.after o).failuresOf m =
      next d.maxRetries m (o.past s).questions (streak d.maxRetries m rounds) := by
    intro m
    rcases o.frame_or_aside with ⟨settings, c, frame, course, rfl⟩ | haside
    · obtain rfl := ho
      exact (handled hw.regular settings c frame course).failuresOf (hw.counts m)
    · -- on other occasions nothing is counted and nothing is asked
      rw [Occasion.questions_aside haside, next_nil, ← hw.counts m]
      refine Occasion.aside haside
        (I := fun h => h.store.failuresOf m = s.failuresOf m) ?_ rfl
      intro h who now call hcall hsame
      rw [← hsame]
      exact (h.store.perform_change now call).failuresOf (fun hc => hcall hc.handles) m
  refine ⟨hregular, fun m => by rw [hcounts, streak_append], ?_⟩
  intro c' m howns
  -- a count that grows was below the budget before, so it reaches it at most
  by_cases hround : exhausted d.maxRetries m (o.past s).questions = true
  · rcases o.frame_or_aside with ⟨settings, c, frame, course, rfl⟩ | haside
    · obtain rfl := ho
      have hcharged := (handled hw.regular settings c frame course).charged hw hd hround
      rw [hregular.ordered.owner_unique howns hcharged.owns]
      exact hcharged.outcome.imp And.left fun hlast => hlast.2.2
    · rw [Occasion.questions_aside haside] at hround
      cases hround
  · -- the count starts over, or stays as it was
    by_cases hsucceeded : succeeded m (o.past s).questions = true
    · have hpositive := hd.1
      rw [hcounts, next, if_pos hsucceeded]
      exact Or.inl (by omega)
    · have hsame : (s.after o).failuresOf m = s.failuresOf m := by
        rw [hcounts, next, if_neg hsucceeded, if_neg hround, hw.counts]
        rfl
      exact hw.few_of_same hd (o.keeps s) hregular.ordered hsame howns

/-- The counts of a life under a budget are within it. -/
theorem within_live (hd : Budgeted d) {occasions : List Occasion}
    (hoccasions : ∀ o ∈ occasions, o.Under d) :
    Within d (Store.empty.rounds occasions) (Store.empty.live occasions) := by
  -- from the right, because a streak is counted from its last round backwards
  induction occasions using List.reverseRecOn with
  | nil =>
      refine ⟨empty_regular, fun _ => rfl, ?_⟩
      rintro c m ⟨r, hr, _⟩
      exact absurd hr List.not_mem_nil
  | append_singleton occasions o ih =>
      obtain ⟨hbefore, hlast⟩ := List.forall_mem_append.1 hoccasions
      rw [rounds_append, live_append]
      exact (ih hbefore).after hd (hlast o (List.mem_singleton.2 rfl))

/-- **The budget for failures.** Take any life of a store, from the empty one on, in which
frames are answered under settings with a budget: frames, sweeps and requests in any order,
with any decisions. The count of every message is its streak of exhausted rounds, and below
the budget while its conversation is running. For any further frame, an exhausted round makes
the count of its message longer by one; below the budget the reply is an error and no
conversation moves, and when the budget is reached the conversation is stopped and the reply
says so. In no other way a frame leads to a conversation that stands in an error. -/
theorem failure_budget (d : Settings.Decision) (hd : Budgeted d) (occasions : List Occasion)
    (hoccasions : ∀ o ∈ occasions, o.Under d) :
    let s := Store.empty.live occasions
    (∀ r ∈ s.messages,
        r.failures = streak d.maxRetries r.id (Store.empty.rounds occasions)) ∧
      (∀ r ∈ s.messages, s.isRunning r.conversationId = true →
        r.failures < d.maxConsecutiveFailures) ∧
      ∀ c frame course,
        let result := handleAlone d c frame course s
        (∀ m, exhausted d.maxRetries m result.2.questions = true →
          Charged d c m s result.1 result.2.store) ∧
        ∀ c', s.stateOf c' ≠ some Conversation.State.error.name →
          result.2.store.stateOf c' = some Conversation.State.error.name →
          c' = c ∧ ∃ m, exhausted d.maxRetries m result.2.questions = true ∧
            result.2.store.failuresOf m = d.maxConsecutiveFailures := by
  intro s
  have hw := within_live hd hoccasions
  refine ⟨?_, ?_, ?_⟩
  · intro r hr
    rw [← failuresOf_of_mem hw.regular.ordered hr, hw.counts]
  · intro r hr hrunning
    rw [← failuresOf_of_mem hw.regular.ordered hr]
    refine (hw.few r.conversationId r.id ⟨r, hr, rfl, rfl⟩).resolve_right ?_
    rw [isRunning_iff.1 hrunning]
    decide
  · intro c frame course result
    have hhandled := handled hw.regular d c frame course
    refine ⟨fun m hround => hhandled.charged hw hd hround, ?_⟩
    intro c' hbefore hafter
    obtain ⟨hown, m, hround⟩ := hhandled.exhausted_of_error hbefore hafter
    refine ⟨hown, m, hround, ?_⟩
    rcases (hhandled.charged hw hd hround).outcome with ⟨_, _, hsame⟩ | ⟨hlast, _⟩
    · rw [stateOf_congr hsame] at hafter
      exact absurd hafter hbefore
    · exact hlast

end Coordinator

namespace Sample

/-- Two rounds of a message fail. -/
def failing : List Occasion :=
  requests ++ [answering moment task (.error .emptyPage), answering moment task (.error .emptyPage)]

end Sample

namespace Coordinator

/-- With a budget of three, the third failed round stops the conversation. -/
theorem failure_budget_third :
    Budgeted .standard ∧ (∀ o ∈ Sample.failing, o.Under .standard) ∧
      let s := Store.empty.live Sample.failing
      let result := handleAlone .standard 1 Sample.task
        (.constant Sample.moment (.error .emptyPage)) s
      Round.exhausted Settings.Decision.standard.maxRetries 1 result.2.questions = true ∧
        Charged .standard 1 1 s result.1 result.2.store ∧
        result.2.store.stateOf 1 = some Conversation.State.error.name := by
  have hd : Budgeted .standard := by decide
  have hoccasions : ∀ o ∈ Sample.failing, o.Under .standard := by
    refine List.forall_mem_append.2 ⟨?_, ?_⟩
    · exact List.forall_mem_cons.2 ⟨trivial, List.forall_mem_singleton.2 trivial⟩
    · exact List.forall_mem_cons.2 ⟨rfl, List.forall_mem_singleton.2 rfl⟩
  have hround : Round.exhausted Settings.Decision.standard.maxRetries 1
      (handleAlone .standard 1 Sample.task (.constant Sample.moment (.error .emptyPage))
        (Store.empty.live Sample.failing)).2.questions = true := by
    decide +kernel
  refine ⟨hd, hoccasions, hround, ?_, by decide +kernel⟩
  exact ((failure_budget .standard hd Sample.failing hoccasions).2.2 1 Sample.task
    (.constant Sample.moment (.error .emptyPage))).1 1 hround

end Coordinator

end ControlPlane
