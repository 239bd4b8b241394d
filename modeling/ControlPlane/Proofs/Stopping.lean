/-
Work that goes on beside sweeps.

The coordinator looks whether a conversation is running, asks for a decision, and carries
it out. A decision may take long, and a sweep may stop the conversation in the meantime. The
coordinator does not look again: it adds an action to a conversation that was stopped, and
it answers that the work is finished when the conversation stands in an error.

The contract here (`watching`) lets the answer to a frame rely on it that nobody but a sweep
stops the conversation, and with an error (`Past.Follows`). What it sends is right just if no
sweep did so between the check and the call (`replies_beside_sweeps`). The last section has
a schedule in which a sweep does.
-/
import ControlPlane.Proofs.ConversationPast
import ControlPlane.Proofs.Outline
import ControlPlane.Proofs.Sweeping

set_option autoImplicit false

namespace ControlPlane

/-! ## The contract -/

/-- The calls that somebody may make beside the answer to a frame of another
conversation. -/
def Actor.May : Actor → Store.Call → Prop
  | .handler c, call => ¬ call.Founds ∧ ∀ c', call.Ends c' → c' = c
  | .sweeper, call => Sweep.Makes call
  | .client, _ => False

/-- Nobody stops the conversation of a frame but sweeps, and those who answer it. -/
def watching (p : Actor) : Contract fun _ => True where
  rely h h' := ∀ c, p = .handler c → Past.Follows c h h'
  rely_refl := fun h c _ => Past.Follows.refl c h
  rely_trans := fun _ _ _ hf hf' c hc => (hf c hc).trans (hf' c hc)
  allows _ call := p.May call
  asks _ _ := True

theorem watching_lasts {c : Int} {Q : Past → Prop}
    (hQ : ∀ h h', Past.Follows c h h' → Q h → Q h') : (watching (.handler c)).Lasts Q :=
  fun h h' hrely => hQ h h' (hrely c rfl)

/-- A call that founds no conversation and brings none to an end. -/
def Store.Call.Still (call : Store.Call) : Prop := ¬ call.Founds ∧ ∀ c, ¬ call.Ends c

/-- The conversation of a frame and a message of it, after the check. -/
structure Past.Poised (c : Int) (v : Conversation) (m : Message) (h : Past) : Prop where
  /-- The conversation is the one of the frame. -/
  number : v.id = c
  /-- The message belongs to it. -/
  owns : h.store.Owns c m.id
  /-- It was found running. -/
  seen : h.Seen c

theorem Past.Poised.stretch {c : Int} {v : Conversation} {m : Message} {h h' : Past}
    {more : List Entry} (hp : h.Poised c v m) (hs : Past.Stretch c h h' more) :
    h'.Poised c v m :=
  ⟨hp.number, hs.owns m.id hp.owns, hp.seen.stretch hs⟩

/-! ## The outline -/

namespace Coordinator

namespace Outline

variable {c : Int}

/-- What the answer to a frame knows about its conversation, which was found running at the
check: for a task at its beginning, for a result after it was recorded. -/
def watches (c : Int) : Outline (watching (.handler c)) c where
  begun h := h.Untold c
  running v h := v.id = c ∧ h.Seen c ∧ h.Untold c
  resolved v m h := h.Poised c v m ∧ h.Untold c
  cleared v m h := h.Poised c v m ∧ h.Untold c
  named _ h := h.Untold c
  found _ m h := h.store.Owns c m.id ∧ h.Untold c
  recorded _ m h := h.store.Owns c m.id ∧ h.Untold c
  resumed v _ m h := h.Poised c v m ∧ h.Untold c
  ready v m _ h := h.Poised c v m ∧ h.Untold c
  decided v m d h := h.Poised c v m ∧ (h.Untold c ∨ ∃ text, d = .finished text)
  accepted v m d h := h.Poised c v m ∧ (h.Untold c ∨ ∃ text, d = .finished text)
  created a h := h.Dispatched c a.id
  started a h := h.Dispatched c a.id
  counted v h := v.id = c ∧ h.Untold c
  replied reply h := h.Replied c reply

theorem lasts_untold (c : Int) : (watching (.handler c)).Lasts (Past.Untold c) :=
  watching_lasts fun _ _ hf hu => hu.follows hf

theorem lasts_owns_untold (c m : Int) :
    (watching (.handler c)).Lasts fun h => h.store.Owns c m ∧ h.Untold c :=
  watching_lasts fun _ _ hf hh =>
    ⟨hf.elim fun _ hs => hs.1.owns m hh.1, hh.2.follows hf⟩

theorem lasts_seen (c : Int) (v : Conversation) :
    (watching (.handler c)).Lasts fun h => v.id = c ∧ h.Seen c ∧ h.Untold c :=
  watching_lasts fun _ _ hf hh =>
    ⟨hh.1, hf.elim fun _ hs => hh.2.1.stretch hs.1, hh.2.2.follows hf⟩

theorem lasts_poised (c : Int) (v : Conversation) (m : Message) :
    (watching (.handler c)).Lasts fun h => h.Poised c v m ∧ h.Untold c :=
  watching_lasts fun _ _ hf hh =>
    ⟨hf.elim fun _ hs => hh.1.stretch hs.1, hh.2.follows hf⟩

theorem lasts_decided (c : Int) (v : Conversation) (m : Message) (d : Decision) :
    (watching (.handler c)).Lasts fun h =>
      h.Poised c v m ∧ (h.Untold c ∨ ∃ text, d = .finished text) :=
  watching_lasts fun _ _ hf hh =>
    ⟨hf.elim fun _ hs => hh.1.stretch hs.1, hh.2.imp_left fun hu => hu.follows hf⟩

theorem lasts_dispatched (c id : Int) : (watching (.handler c)).Lasts (Past.Dispatched c id) :=
  watching_lasts fun _ _ hf hd => hd.follows hf

/-- A call that moves no conversation is harmless. -/
theorem harmless_of_still {call : Store.Call} (hcall : call.Still) :
    Harmless (watching (.handler c)) c call where
  allows := fun _ => ⟨hcall.1, fun c' hends => absurd hends (hcall.2 c')⟩
  rely := fun h now c' _ =>
    Past.follows_called hcall.1 (fun hends => absurd hends (hcall.2 c')) h now

theorem watches_refused (f : Fault) (h : Past) : (watches c).refused f h := trivial

/-- The answer to a frame may bring its own conversation to an end. -/
theorem may_end {v : Conversation} (hv : v.id = c) (st : Conversation.State) :
    Actor.May (.handler c) (.endConversation v.id st) :=
  ⟨fun hfounds => hfounds, fun _ hends => hends.1.symm.trans hv⟩

/-- What is known after a decision was asked for. -/
theorem asked_decided {h : Past} {v : Conversation} {m : Message} (hp : h.Poised c v m)
    (hu : h.Untold c) (context : Decision.Context) (r : Except Fault Decision) :
    (h.asked (.handler c) context r).Poised c v m ∧
      ((h.asked (.handler c) context r).Untold c ∨ ∃ text, r = .ok (.finished text)) := by
  refine ⟨hp.stretch (Past.stretch_asked c h (.handler c) context r), ?_⟩
  have happend : ¬ (Entry.asked (.handler c) context r).Told c →
      (h.asked (.handler c) context r).Untold c := by
    intro htold
    refine hu.append rfl ?_
    intro e he
    rw [List.mem_singleton.1 he]
    exact htold
  cases r with
  | error e => exact Or.inl (happend fun htold => htold)
  | ok d =>
      cases d with
      | act kind parameters => exact Or.inl (happend fun htold => htold)
      | finished text => exact Or.inr ⟨text, rfl⟩

/-! ## The points of the way -/

/-- A conversation that did not end when it was looked up was found running. -/
theorem watches_checks : (watches c).Checks := by
  refine step_harmless (harmless_of_still ⟨id, fun _ => id⟩) (lasts_untold c) ?_
  intro h now _ _ hu
  refine orRefused_of_ok watches_refused fun found hfound => elim_of_some trivial fun v hv => ?_
  rw [hv] at hfound
  split
  · exact trivial
  · next hstate =>
      have hrunning := Store.isRunning_of_found hfound hstate
      exact ⟨(Store.getConversation_some hfound).1, Past.seen_of_check h hrunning, hu⟩

/-- A message that is answered to belongs to the conversation. -/
theorem watches_looksUp : (watches c).LooksUp := by
  intro v number
  refine step_harmless (harmless_of_still ⟨id, fun _ => id⟩) (lasts_seen c v) ?_
  intro h now _ _ hh
  refine orRefused_of_ok watches_refused fun found hfound => ?_
  cases found with
  | none => exact ⟨hh, trivial⟩
  | some m =>
      obtain ⟨hid, howns⟩ := Store.getMessage_some hfound
      simp only [Option.elim_some]
      split
      next hown =>
        rw [hown, hh.1, ← hid] at howns
        exact ⟨⟨hh.1, howns, hh.2.1⟩, hh.2.2⟩
      next => exact trivial

/-- So does a message that was added. -/
theorem watches_adds : (watches c).Adds := by
  intro v text
  refine step_harmless (harmless_of_still ⟨id, fun _ => id⟩) (lasts_seen c v) ?_
  rintro h now _ _ ⟨hv, hseen, hu⟩
  rw [hv] at hseen hu ⊢
  exact orRefused_of_ok watches_refused fun m hm =>
    ⟨⟨hv, Store.createMessage_ok hm, hseen⟩, hu⟩

/-- The message of a result belongs to the conversation. -/
theorem watches_owns : (watches c).Owns := by
  intro a
  refine step_harmless (harmless_of_still ⟨id, fun _ => id⟩) (lasts_untold c) ?_
  intro h now _ _ hu
  refine orRefused_of_ok watches_refused fun found hfound => elim_of_some trivial fun m hm => ?_
  rw [hm] at hfound
  obtain ⟨hid, howns⟩ := Store.getMessage_some hfound
  split
  next hown =>
    rw [hown, ← hid] at howns
    exact ⟨howns, hu⟩
  next => exact trivial

/-- A look at the store, or a change to the actions of a message, takes nothing from what is known
of the conversation. -/
theorem step_poised {v : Conversation} {m : Message} {call : Store.Call} (hcall : call.Still) :
    Step (watching (.handler c)) c (fun h => h.Poised c v m ∧ h.Untold c) call
      ((watches c).OrRefused fun _ h => h.Poised c v m ∧ h.Untold c) :=
  step_kept (harmless_of_still hcall) (lasts_poised c v m)
    fun _ _ hh => orRefused_of_ok watches_refused fun _ _ => hh

/-- To record a result says nothing of the conversation. -/
theorem watches_records (r : ResultFrame) : (watches c).Records r := by
  intro a m
  refine step_kept (harmless_of_still ⟨id, fun _ => id⟩) (lasts_owns_untold c m.id) ?_
  intro r h hh
  refine orRefused_of_ok watches_refused fun done _ => ?_
  split
  · exact hh
  · exact trivial

/-- After a result the conversation is found running, or its end is the reply. -/
theorem watches_rechecks : (watches c).Rechecks := by
  intro a m
  refine step_harmless (harmless_of_still ⟨id, fun _ => id⟩) (lasts_owns_untold c m.id) ?_
  intro h now _ _ hh
  cases hanswer : (h.store.perform now (.getConversation c)).1 with
  | error f =>
      simp only [OrElse]
      split
      · exact Or.inl hh.2
      · exact trivial
  | ok found =>
      refine elim_of_some trivial fun v hv => ?_
      rw [hv] at hanswer
      split
      · exact Or.inl hh.2
      · next hstate =>
          have hrunning := Store.isRunning_of_found hanswer hstate
          exact ⟨⟨(Store.getConversation_some hanswer).1, hh.1,
            Past.seen_of_check h hrunning⟩, hh.2⟩

/-- A decision is either told to no client yet, or it is that the work is finished. -/
theorem watches_asks (s : Settings.Decision) : (watches c).Asks s := by
  intro v m n context hm _ h h' hh hrely _
  refine ⟨trivial, ?_⟩
  intro r
  obtain ⟨hp, hu⟩ := lasts_poised c v m h h' hrely hh
  obtain ⟨hp', hu'⟩ := asked_decided hp hu context r
  cases r with
  | error e => exact ⟨hp', hu'.resolve_right (by rintro ⟨_, ⟨⟩⟩)⟩
  | ok d =>
      simp only [OrElse]
      cases d with
      -- such a decision lacks nothing, so it is carried out
      | finished text => exact ⟨hp', Or.inr ⟨text, rfl⟩⟩
      | act kind parameters =>
          have hu'' := hu'.resolve_right (by rintro ⟨_, ⟨⟩⟩)
          split
          · exact ⟨hp', Or.inl hu''⟩
          · exact ⟨hp', hu''⟩

/-- To count a failure stops nothing. -/
theorem watches_counts (s : Settings.Decision) : (watches c).Counts s := by
  intro v m e
  refine step_kept (harmless_of_still ⟨id, fun _ => id⟩) (lasts_poised c v m) ?_
  intro r h hh
  refine orRefused_of_ok watches_refused fun n _ => ?_
  split
  · exact trivial
  · exact ⟨hh.1.number, hh.2⟩

/-- The end after too many failures is no answer to a decision. -/
theorem watches_stops : (watches c).Stops := by
  intro v n e h h' hh hrely _
  refine ⟨may_end hh.1 .error, fun now => orRefused_of_ok watches_refused fun _ _ => ?_⟩
  have hu := lasts_untold c h h' hrely hh.2
  refine Or.inl (hu.append rfl ?_)
  intro e he
  rw [List.mem_singleton.1 he]
  exact fun htold => htold

/-- An action is added to a conversation that was found running. -/
theorem watches_creates : (watches c).Creates := by
  intro v m kind parameters h h' hh hrely _
  refine ⟨⟨fun hf => hf, fun _ he => he.elim⟩, fun now => ?_⟩
  obtain ⟨hp, _⟩ := lasts_decided c v m _ h h' hrely hh
  exact orRefused_of_ok watches_refused fun a ha => hp.seen.dispatched hp.owns ha

/-- It is handed out with nothing else changed. -/
theorem watches_starts : (watches c).Starts := by
  intro a
  refine step_kept (harmless_of_still ⟨id, fun _ => id⟩) (lasts_dispatched c a.id) ?_
  intro r h hd
  refine orRefused_of_ok watches_refused fun done _ => ?_
  split
  · exact hd
  · exact trivial

/-- What is sent has the number of the action that was added. -/
theorem watches_sends : (watches c).Sends := by
  intro a
  refine step_harmless (harmless_of_still ⟨id, fun _ => id⟩) (lasts_dispatched c a.id) ?_
  intro h now _ _ hd
  refine orRefused_of_ok watches_refused fun found hfound => elim_of_some trivial fun b hb => ?_
  rw [hb] at hfound
  show Past.Dispatched c b.id _
  rw [(Store.getAction_some hfound).1]
  exact hd

/-- The end of the work concludes what was found running. -/
theorem watches_finishes : (watches c).Finishes := by
  intro v m text h h' hh hrely _
  obtain ⟨hp, _⟩ := lasts_decided c v m _ h h' hrely hh
  refine ⟨may_end hp.number .finished, fun now => orRefused_of_ok watches_refused fun _ _ => ?_⟩
  rw [hp.number]
  exact Or.inr (hp.seen.concluded now)

/-- The outline is valid. -/
theorem watches_valid (c : Int) (s : Settings.Decision) (frame : ClientFrame) :
    (watches c).Valid s frame where
  checks _ _ := watches_checks
  looksUp := watches_looksUp
  adds := watches_adds
  blank _ _ _ _ := trivial
  skips _ _ := step_poised ⟨id, fun _ => id⟩
  reads _ _ := step_poised ⟨id, fun _ => id⟩
  finds _ _ := step_kept (harmless_of_still ⟨id, fun _ => id⟩) (lasts_untold c) fun _ _ hu =>
    orRefused_of_ok watches_refused fun _ _ => elim_of_some trivial fun _ _ => hu
  owns := watches_owns
  records r _ := watches_records r
  rechecks := watches_rechecks
  looksAgain _ _ _ := step_poised ⟨id, fun _ => id⟩
  readsAgain _ _ _ := step_poised ⟨id, fun _ => id⟩
  asks := watches_asks s
  breaks _ _ _ _ _ _ _ _ := trivial
  resets v m d := step_harmless (harmless_of_still ⟨id, fun _ => id⟩) (lasts_decided c v m d)
    fun _ _ _ _ hh => hh
  counts := watches_counts s
  stops := watches_stops
  creates := watches_creates
  starts := watches_starts
  sends := watches_sends
  finishes := watches_finishes

/-- Whoever answers a frame keeps to the contract. -/
theorem handling_watches (s : Settings.Decision) (c : Int) (frame : ClientFrame) {h : Past}
    (hu : h.Untold c) :
    Program.Meets (watching (.handler c)) (.handler c)
      (fun r h => ∃ reply, r = .reply reply ∧ h.Replied c reply)
      (Worker.handling s c frame).program h :=
  (watches_valid c s frame).handling hu

end Outline

end Coordinator

/-! ## Every schedule -/

/-- What is wanted of a worker in the end: a reply with what is behind it. -/
def Outcome.Backed (p : Actor) (outcome : Outcome) (h : Past) : Prop :=
  ∀ c, p = .handler c → ∃ reply, outcome = .reply reply ∧ h.Replied c reply

/-- The contracts fit together: a sweep stops conversations only with an error. -/
theorem watching_discipline : Discipline .beside watching Outcome.Backed where
  call_inv := fun _ _ _ _ _ _ => trivial
  call_rely := by
    intro p q h now call _ hmay happart c hq
    cases p with
    | handler c' =>
        refine Past.follows_called hmay.1 ?_ h now
        intro hends
        -- who may end this conversation answers its frames, but two of those are not at work
        have hc : c = c' := hmay.2 c hends
        have hsame := happart (by rw [hq, hc])
        cases hsame
    | sweeper =>
        refine Past.follows_called ?_ ?_ h now
        · intro hfounds
          cases call with
          | createConversation title browserType userId => exact hmay
          | _ => exact hfounds
        · intro hends
          cases call with
          | endConversation id st =>
              have hst : st = .error := hmay
              exact ⟨rfl, by rw [hends.1, hst]⟩
          | _ => exact hends.elim
    | client => exact hmay.elim
  asked_inv := fun _ _ _ _ _ => trivial
  asked_rely := by
    intro p q h context r happart c hq
    refine ⟨_, Past.stretch_asked c h p context r, ?_⟩
    intro e he htold
    rw [List.mem_singleton.1 he] at htold
    have hp : p = .handler c := Entry.who_of_told htold
    have hsame := happart (hp.trans hq.symm)
    rw [hsame] at hp
    cases hp
  request := fun _ _ haccepts => by cases haccepts
  admitted := by
    intro ws p _ hadmits w _ hwp
    cases p with
    | sweeper => exact hwp
    | handler c => cases hadmits
    | client => cases hadmits
  handling := fun _ _ _ _ _ hadmits _ => by cases hadmits
  sweeping := by
    intro s t h _
    refine ((Sweep.sweeping_only s t).meets (fun call hcall _ _ => hcall) h).mono ?_
    intro outcome h' _ c hc
    cases hc
  lasting := by
    intro p outcome h h' hrely _ hbacked c hc
    obtain ⟨reply, houtcome, hreplied⟩ := hbacked c hc
    exact ⟨reply, houtcome, hreplied.follows (hrely c hc)⟩

/-- What the answer to a frame is, when it is done. -/
def Worker.reply? (w : Worker) : Option (Option ServerFrame) :=
  match w.program with
  | .done (.reply reply) => some reply
  | _ => none

namespace Scene

/-- A frame of a conversation is to be answered, and nobody else is at work. -/
def alone (s : Store) (settings : Settings.Decision) (c : Int) (frame : ClientFrame) : Scene :=
  ⟨.start s, [.handling settings c frame]⟩

/-- A frame of a conversation has been answered. -/
def Replies (σ : Scene) (c : Int) (reply : Option ServerFrame) : Prop :=
  ∃ w ∈ σ.workers, w.actor = .handler c ∧ w.reply? = some reply

instance (σ : Scene) (c : Int) (reply : Option ServerFrame) : Decidable (σ.Replies c reply) :=
  inferInstanceAs (Decidable (∃ w ∈ σ.workers, w.actor = .handler c ∧ w.reply? = some reply))

theorem alone_sound (s : Store) (settings : Settings.Decision) (c : Int) (frame : ClientFrame) :
    (alone s settings c frame).Sound watching Outcome.Backed where
  inv := trivial
  apart := List.pairwise_singleton _ _
  working := by
    intro w hw
    rw [List.mem_singleton.1 hw]
    exact fun h => Actor.noConfusion h
  meets := by
    intro w hw
    rw [List.mem_singleton.1 hw]
    refine (Coordinator.Outline.handling_watches settings c frame ?_).mono ?_
    · exact fun _ he => absurd he List.not_mem_nil
    · intro outcome h hreply c' hc'
      cases hc'
      exact hreply

/-- Whoever is done has what is wanted. -/
theorem Sound.replied {σ : Scene} {c : Int} {reply : Option ServerFrame}
    (hσ : σ.Sound watching Outcome.Backed) (hreply : σ.Replies c reply) :
    σ.past.Replied c reply := by
  obtain ⟨w, hw, hactor, hdone⟩ := hreply
  have hmeets := hσ.meets w hw
  unfold Worker.reply? at hdone
  split at hdone
  next reply' hprogram =>
    rw [hprogram] at hmeets
    obtain ⟨reply'', houtcome, hreplied⟩ := hmeets c hactor
    cases houtcome
    cases hdone
    exact hreplied
  next => cases hdone

/-- **What is sent beside sweeps.** Take any store, any frame of a conversation, and any
schedule in which the answer to the frame and any number of sweeps take their steps in any
order, with any decisions. When the answer is an action, it was added after the
conversation had been found running, and the conversation was still running then just if no
sweep had stopped it in between. When a decision was that the work is finished and the answer
says so, the conversation had been found running, too, and it stands so just if no sweep had
stopped it before the answer called for its end. -/
theorem replies_beside_sweeps (s : Store) (settings : Settings.Decision) (c : Int)
    (frame : ClientFrame) (schedule : List Choice) (reply : Option ServerFrame)
    (hreply : ((alone s settings c frame).play .beside schedule).Replies c reply) :
    let h := ((alone s settings c frame).play .beside schedule).past
    (∀ order, reply = some (.action order) →
      ∃ earlier creation since, h.log = earlier ++ creation :: since ∧
        creation.Creates c order.actionId ∧
        Entry.Watched c (creation.Finds c) earlier) ∧
    ∀ text, reply = some (.finish text) → (∃ e ∈ h.log, e.Told c) →
      ∃ earlier conclusion since, h.log = earlier ++ conclusion :: since ∧
        conclusion.Finishes c ∧
        Entry.Watched c (h.store.stateOf c = some Conversation.State.finished.name) earlier := by
  have hsound := play_sound watching_discipline (alone_sound s settings c frame) schedule
  have hreplied := hsound.replied hreply
  constructor
  · intro order horder
    rw [horder] at hreplied
    exact hreplied
  · rintro text htext ⟨e, he, htold⟩
    rw [htext] at hreplied
    rcases hreplied with huntold | hconcluded
    · exact absurd htold (huntold e he)
    · exact hconcluded.2

end Scene

namespace Sample

/-- Two hours later, when the message has taken too long. -/
def hoursLater : Instant := ⟨1704074400, 0⟩

/-- A decision for an action. -/
def click : Decision := .act .click ⟨none, some "#a", none, none, none⟩

/-- A decision that the work is finished. -/
def signedUp : Decision := .finished "Signed up"

/-- A sweep as long as it stops the conversation. -/
def sweepOnce : List Choice :=
  [.sweep .standard hoursLater, act 1 hoursLater, act 1 hoursLater, act 1 hoursLater]

/-- A task is answered, and while the decision is pending others take their steps. -/
def answered (others : List Choice) (d : Decision) : List Choice :=
  [act 0 moment, act 0 moment, act 0 moment, act 0 moment] ++ others ++
    [.act 0 hoursLater (.ok d), act 0 hoursLater, act 0 hoursLater, act 0 hoursLater,
      act 0 hoursLater]

/-- The task on the small store. -/
def alone : Scene := .alone (Store.empty.replay calls) .standard 1 task

end Sample

namespace Scene

/-- Left alone, the answer that the work is finished is right. -/
theorem replies_signedUp :
    let σ := Sample.alone.play .beside (Sample.answered [] Sample.signedUp)
    σ.Replies 1 (some (.finish "Signed up")) ∧ (∃ e ∈ σ.past.log, e.Told 1) ∧
      σ.past.store.stateOf 1 = some Conversation.State.finished.name ∧
      ∃ earlier conclusion since, σ.past.log = earlier ++ conclusion :: since ∧
        conclusion.Finishes 1 ∧
        Entry.Watched 1 (σ.past.store.stateOf 1 = some Conversation.State.finished.name)
          earlier := by
  intro σ
  have hreplies : σ.Replies 1 (some (.finish "Signed up")) := by decide +kernel
  have htold : ∃ e ∈ σ.past.log, e.Told 1 := by decide +kernel
  refine ⟨hreplies, htold, by decide +kernel, ?_⟩
  exact (replies_beside_sweeps (Store.empty.replay Sample.calls) .standard 1 Sample.task
    (Sample.answered [] Sample.signedUp) (some (.finish "Signed up")) hreplies).2
    "Signed up" rfl htold

/-- A sweep between the check and the decision makes the answers wrong: an action is added
to a conversation that was stopped, and work is said to be finished on a conversation that
stands in an error. -/
theorem replies_stopped :
    let σ := Sample.alone.play .beside (Sample.answered Sample.sweepOnce Sample.click)
    let σ' := Sample.alone.play .beside (Sample.answered Sample.sweepOnce Sample.signedUp)
    (σ.Replies 1 (some (.action ⟨2, .click, ⟨none, some "#a", none, none, none⟩⟩)) ∧
        ∃ e ∈ σ.past.log, e.Creates 1 2 ∧ ¬ e.Finds 1) ∧
      σ'.Replies 1 (some (.finish "Signed up")) ∧ (∃ e ∈ σ'.past.log, e.Told 1) ∧
        σ'.past.store.stateOf 1 = some Conversation.State.error.name := by
  decide +kernel

end Scene

end ControlPlane
