/-
What a user learns from the gateway.

A request of a user is answered from two stores in which the user has the same share, along the
same course. The two programs go side by side: the calls they make are the same, and of each it
is shown either that the two answers are the same, or that what the program makes of them is.
The second is the case for what is looked up by number. A conversation or a message of somebody
else is found in one of the stores and perhaps not in the other, but both programs then report
that it is not there (`seen`).

`Program.Veiled` says that two programs end alike, along every course.
-/
import ControlPlane.Proofs.Ledger
import ControlPlane.Proofs.Sparing

set_option autoImplicit false

namespace ControlPlane

open Store (Alike)

/-! ## Two programs side by side -/

namespace Program

variable {α β : Type} {s t : Store} {R : α → α → Prop} {R' : β → β → Prop}

/-- Two programs, each begun in a store of its own, end alike along every course. -/
def Veiled (R : α → α → Prop) (p q : Program α) (s t : Store) : Prop :=
  ∀ (who : Actor) (k : Course) (log log' : List Entry),
    R (p.follow who k ⟨s, log⟩).1 (q.follow who k ⟨t, log'⟩).1

theorem veiled_done {a b : α} (h : R a b) : Veiled R (done a) (done b) s t :=
  fun _ _ _ _ => h

/-- The same call in both stores, after which the programs go on. -/
theorem veiled_call {c : Store.Call} {next next' : Except Fault c.Answer → Program α}
    (hnext : ∀ now, Veiled R (next (s.perform now c).1) (next' (t.perform now c).1)
      (s.perform now c).2 (t.perform now c).2) :
    Veiled R (call c next) (call c next') s t :=
  fun who k log log' => hnext (k.clock 0) who k.rest
    (log ++ [Entry.called who (k.clock 0) c s]) (log' ++ [Entry.called who (k.clock 0) c t])

theorem veiled_clock {next next' : Instant → Program α}
    (hnext : ∀ now, Veiled R (next now) (next' now) s t) :
    Veiled R (clock next) (clock next') s t :=
  fun who k => hnext (k.clock 0) who k.rest

/-- A call that reads, and is answered alike from both stores. -/
theorem veiled_read {c : Store.Call} {next next' : Except Fault c.Answer → Program α}
    (hs : ∀ now, (s.perform now c).2 = s) (ht : ∀ now, (t.perform now c).2 = t)
    (hanswer : ∀ now, (s.perform now c).1 = (t.perform now c).1)
    (hnext : ∀ a, Veiled R (next a) (next' a) s t) :
    Veiled R (call c next) (call c next') s t := by
  refine veiled_call fun now => ?_
  rw [hs, ht, hanswer]
  exact hnext _

/-- What is made of the ends of two programs. -/
theorem Veiled.map {p q : Program α} (h : Veiled R p q s t) {f : α → β}
    (hf : ∀ a b, R a b → R' (f a) (f b)) :
    Veiled R' (p.bind fun a => done (f a)) (q.bind fun a => done (f a)) s t := by
  intro who k log log'
  rw [follow_map, follow_map]
  exact hf _ _ (h who k log log')

/-- If results that are related are related in another way, too, so are those of two programs. -/
theorem Veiled.mono {p q : Program α} {S : α → α → Prop} (h : Veiled R p q s t)
    (hS : ∀ a b, R a b → S a b) : Veiled S p q s t :=
  fun who k log log' => hS _ _ (h who k log log')

/-- A program that makes only calls which read, and which are answered alike from both stores,
ends with the same. -/
theorem Only.veiled {P : Store.Call → Prop} {p : Program α} (hp : p.Only P)
    (hP : ∀ c, P c → ∀ now, (s.perform now c).2 = s ∧ (t.perform now c).2 = t ∧
      (s.perform now c).1 = (t.perform now c).1) : Veiled Eq p p s t := by
  induction p with
  | done a => exact veiled_done rfl
  | call c next ih =>
      have hc := hP c hp.1
      exact veiled_read (fun now => (hc now).1) (fun now => (hc now).2.1) (fun now => (hc now).2.2)
        fun a => ih a (hp.2 a)
  | decide context next => exact hp.elim
  | pause ms next ih => exact fun who k => ih () hp who k
  | clock next ih => exact veiled_clock fun now => ih now (hp now)

end Program

open Program

namespace Gateway

variable {u : Int} {s t : Store}

-- what a user learns does not depend on what a text becomes when it is trimmed
attribute [local irreducible] Text.trim

/-! ## What is looked up by number -/

/-- What a user sees of a conversation is what stands in the share. -/
theorem seen_getConversation (hs : s.Screened u) (id : Int) :
    seen u id (s.getConversation id) = (s.share u).conversation id := by
  rcases hs.getConversation id with ⟨r, hown, hfound, hshare⟩ | ⟨hshare, found, hfound, hforeign⟩
  · rw [hfound, hshare]
    cases hread : r.read with
    | error flaw => rfl
    | ok v =>
        have howner : Access.Session.canAccess ⟨some u⟩ v.userId = true := by
          rw [Store.read_userId hread, hown]
          exact beq_self_eq_true _
        simp only [Store.answer, Except.map, seen, Option.filter_some, howner, if_true]
  · rw [hfound, hshare]
    cases found with
    | none => rfl
    | some c =>
        have howner : Access.Session.canAccess ⟨some u⟩ c.userId = false :=
          beq_eq_false_iff_ne.2 (hforeign c rfl)
        simp only [seen, Option.filter_some, howner]
        rfl

/-- A user's look at a conversation shows the same in both stores. -/
theorem veiled_load {β : Type} {R : β → β → Prop} (h : Alike u s t) (id : Int)
    {f f' : Except Fault Conversation → Program β}
    (hnext : Veiled R (f ((s.share u).conversation id)) (f' ((s.share u).conversation id)) s t) :
    Veiled R ((loadConversation ⟨some u⟩ id).run.bind f)
      ((loadConversation ⟨some u⟩ id).run.bind f') s t := by
  rw [loadConversation_run]
  refine veiled_call fun now => ?_
  show Veiled R (f (seen u id (s.getConversation id))) (f' (seen u id (t.getConversation id))) s t
  rw [seen_getConversation h.left, seen_getConversation h.right, ← h.same]
  exact hnext

/-- The same, where nothing follows the look. -/
theorem veiled_load_run (h : Alike u s t) (id : Int) :
    Veiled Eq (loadConversation ⟨some u⟩ id).run (loadConversation ⟨some u⟩ id).run s t := by
  rw [loadConversation_run]
  refine veiled_call fun now => veiled_done ?_
  exact (seen_getConversation h.left id).trans
    ((congrArg (Store.Share.conversation · id) h.same).trans (seen_getConversation h.right id).symm)

/-! ## Resources -/

/-- A call that the lists and figures of a user are made of is answered alike from both stores. -/
theorem figures_alike (h : Alike u s t) (c : Store.Call) (hc : Figures (some u) c) (now : Instant) :
    (s.perform now c).2 = s ∧ (t.perform now c).2 = t ∧
      (s.perform now c).1 = (t.perform now c).1 := by
  cases c with
  | listConversations userId limit offset =>
      cases (hc : userId = some u)
      refine ⟨rfl, rfl, ?_⟩
      simp only [Store.perform]
      exact h.listConversations limit offset
  | countMessages w =>
      have hw : w.userId = some u := hc
      exact ⟨rfl, rfl, congrArg Except.ok (h.countMessages hw)⟩
  | countActions w status =>
      have hw : w.userId = some u := hc
      exact ⟨rfl, rfl, congrArg Except.ok (h.countActions hw status)⟩
  | dailyActivity userId first days =>
      cases (hc : userId = some u)
      exact ⟨rfl, rfl, congrArg Except.ok (h.dailyActivity first days)⟩
  | _ => exact hc.elim

/-- The messages of a conversation are listed alike: a conversation of somebody else is as good as
missing. -/
theorem listMessages_veiled (h : Alike u s t) (id : Int) :
    Veiled Eq (listMessages ⟨some u⟩ id).run (listMessages ⟨some u⟩ id).run s t := by
  refine veiled_load h id ?_
  cases hown : (s.share u).conversation id with
  | error e => exact veiled_done rfl
  | ok v =>
      have hmine := Store.conversation_ok hown
      exact veiled_read (fun _ => rfl) (fun _ => rfl) (fun _ => h.listMessages hmine)
        fun _ => veiled_done rfl

/-- What follows an attempt gets its end, whether it is a fault or not. -/
theorem attempt_bind_run {α β : Type} (p : Procedure α) (g : Except Fault α → Procedure β) :
    (p.attempt >>= g).run = p.run.bind fun r => (g r).run := by
  show (Program.bind (Program.bind p.run fun r => .done (.ok r)) (ExceptT.bindCont g)) = _
  induction p.run with
  | done a => rfl
  | call c next ih => exact congrArg (Program.call c) (funext ih)
  | decide context next ih => exact congrArg (Program.decide context) (funext ih)
  | pause ms next ih => exact congrArg (Program.pause ms) (funext ih)
  | clock next ih => exact congrArg Program.clock (funext ih)

/-- What is left of a request for actions after the look at the message. -/
def actionsFor (u id : Int) (found : Except Fault (Option Message)) :
    Program (Except Fault (List Action)) :=
  match found with
  | .error e => .done (.error e)
  | .ok none => .done (.error (.missing .message id))
  | .ok (some message) =>
    (loadConversation ⟨some u⟩ message.conversationId).run.bind fun
      | .ok _ => .call (.listActions id) .done
      | .error _ => .done (.error (.missing .message id))

/-- The actions of a message are listed after a look at the message. -/
theorem listActions_run (u id : Int) :
    (listActions ⟨some u⟩ id).run = .call (.getMessage id) (actionsFor u id) := by
  refine congrArg (Program.call (.getMessage id)) (funext fun r => ?_)
  cases r with
  | error e => rfl
  | ok found =>
      cases found with
      | none => rfl
      | some message =>
          refine (attempt_bind_run _ _).trans (congrArg _ (funext fun r => ?_))
          cases r <;> rfl

/-- Who asks for the actions of a message that is not in the share learns that there is no such
message, whether there is one or not. -/
theorem actionsFor_foreign (hs : s.Screened u) {id : Int}
    (hnone : (s.share u).message id = .ok none)
    (who : Actor) (k : Course) (log : List Entry) :
    ((actionsFor u id (s.getMessage id)).follow who k ⟨s, log⟩).1 =
      .error (.missing .message id) := by
  rcases hs.getMessage id with hfound | ⟨_, v, hfound, hforeign⟩
  · rw [hfound, hnone]
    rfl
  · rw [hfound, actionsFor, loadConversation_run]
    simp only [Program.bind, Program.follow, Store.perform, seen_getConversation hs,
      Store.conversation_missing hforeign]

/-- The actions of a message are listed alike. -/
theorem listActions_veiled (h : Alike u s t) (id : Int) :
    Veiled Eq (listActions ⟨some u⟩ id).run (listActions ⟨some u⟩ id).run s t := by
  rw [listActions_run]
  refine veiled_call fun now => ?_
  show Veiled Eq (actionsFor u id (s.getMessage id)) (actionsFor u id (t.getMessage id)) s t
  have hshare : (t.share u).message id = (s.share u).message id := by rw [h.same]
  by_cases hnone : (s.share u).message id = .ok none
  · intro who k log log'
    exact (actionsFor_foreign h.left hnone who k log).trans
      (actionsFor_foreign h.right (hshare.trans hnone) who k log').symm
  · -- what is not missing in the share is what both find
    have hs := (h.left.getMessage id).resolve_right fun hforeign => hnone hforeign.1
    have ht := (h.right.getMessage id).resolve_right fun hforeign =>
      hnone (hshare.symm.trans hforeign.1)
    rw [hs, ht, hshare]
    cases hfound : (s.share u).message id with
    | error e => exact veiled_done rfl
    | ok found =>
      cases found with
      | none => exact absurd hfound hnone
      | some message =>
        refine veiled_load h message.conversationId ?_
        cases (s.share u).conversation message.conversationId with
        | error e => exact veiled_done rfl
        | ok v =>
            have hmine := Store.message_some hfound
            exact veiled_read (fun _ => rfl) (fun _ => rfl) (fun _ => h.listActions hmine)
              fun _ => veiled_done rfl

/-- To rename a conversation is answered alike. -/
theorem renameConversation_veiled (h : Alike u s t) (id : Int) (raw : String) :
    Veiled Eq (renameConversation ⟨some u⟩ id raw).run (renameConversation ⟨some u⟩ id raw).run
      s t := by
  unfold renameConversation
  cases checkTitle raw with
  | error e => exact veiled_done rfl
  | ok title =>
      refine veiled_load h id ?_
      cases hown : (s.share u).conversation id with
      | error e => exact veiled_done rfl
      | ok v =>
          have hmine := Store.conversation_ok hown
          refine veiled_call fun now => ?_
          obtain ⟨hdone, halike⟩ := h.renameConversation now hmine title
          have hdone' :=
            (h.symm.renameConversation now ((Store.mine_congr h.same id).1 hmine) title).1
          simp only [Store.perform, hdone, hdone']
          exact veiled_load_run halike id

/-- The same but for the value. -/
def SameKind {α : Type} (r r' : Except Fault α) : Prop :=
  r.map (fun _ => ()) = r'.map fun _ => ()

/-- A new message is answered with the same kind of answer. -/
theorem createMessage_veiled (h : Alike u s t) (id : Int) (raw : String) :
    Veiled SameKind (createMessage ⟨some u⟩ id raw).run (createMessage ⟨some u⟩ id raw).run
      s t := by
  refine veiled_load h id ?_
  cases hown : (s.share u).conversation id with
  | error e => exact veiled_done rfl
  | ok v =>
      have hmine := Store.conversation_ok hown
      simp only [ExceptT.bindCont]
      split
      · exact veiled_done rfl
      · cases Text.nonBlank? raw with
        | none => exact veiled_done rfl
        | some content =>
            exact veiled_call fun now => veiled_done (h.createMessage now hmine .user content)

/-- So is a new conversation. -/
theorem createConversation_veiled (h : Alike u s t) (body : NewConversation) :
    Veiled SameKind (createConversation ⟨some u⟩ body).run (createConversation ⟨some u⟩ body).run
      s t := by
  unfold createConversation
  cases checkTitle body.title with
  | error e => exact veiled_done rfl
  | ok title => exact veiled_call fun now => veiled_done (h.createConversation now title _)

/-! ## Answers -/

/-- How an outcome is reported; a connection is one by switching protocols. -/
def Outcome.status : Outcome → Nat
  | answer r => r.status
  | connect _ => 101

/-- Whether a request is for something new. -/
def adds : Resource → Verb → Bool
  | .conversations, .get => false
  | .conversations, _ => true
  | .messages _, .get => false
  | .messages _, _ => true
  | _, _ => false

theorem adds_conversations {verb : Verb} (h : verb ≠ .get) : adds .conversations verb = true := by
  cases verb with
  | get => exact absurd rfl h
  | post => rfl
  | put => rfl

theorem adds_messages (id : List Char) {verb : Verb} (h : verb ≠ .get) :
    adds (.messages id) verb = true := by
  cases verb with
  | get => exact absurd rfl h
  | post => rfl
  | put => rfl

/-- Only by one method is asked for something new. -/
theorem adds_post {method : String} {resource : Resource} {verb : Verb}
    (hverb : Verb.ofMethod? method resource = some verb) (hadds : adds resource verb = true) :
    method = "POST" := by
  unfold Verb.ofMethod? at hverb
  split at hverb
  · cases hverb
    cases resource <;> cases hadds
  · cases resource with
    | conversation id =>
        simp only at hverb
        split at hverb
        · cases hverb
          cases hadds
        · cases hverb
    | conversations | messages id =>
        simp only at hverb
        split at hverb
        next hpost => exact hpost
        next => cases hverb
    | _ => cases hverb

/-- Two outcomes have the same status, and are the same unless something was added. -/
def Matches (added : Bool) (o o' : Outcome) : Prop :=
  o.status = o'.status ∧ (added = false → o = o')

/-- An outcome matches itself. -/
theorem Matches.refl (added : Bool) (o : Outcome) : Matches added o o := ⟨rfl, fun _ => rfl⟩

/-- What is changed about answers alone, and not about their status, keeps outcomes alike. -/
theorem Matches.mapAnswer {added : Bool} {o o' : Outcome} (h : Matches added o o')
    {f : Http.Response → Http.Response} (hf : ∀ r, (f r).status = r.status) :
    Matches added (o.mapAnswer f) (o'.mapAnswer f) := by
  have hstatus : ∀ o : Outcome, (o.mapAnswer f).status = o.status := fun o => by
    cases o with
    | answer r => exact hf r
    | connect id => rfl
  refine ⟨(hstatus o).trans (h.1.trans (hstatus o').symm), ?_⟩
  intro hadded
  rw [h.2 hadded]

/-- What the end of a procedure is reported as. -/
def report {α : Type} (toJson : α → Json) : Except Fault α → Outcome
  | .ok a => .answer (.json 200 (toJson a))
  | .error f => .answer (faultResponse f)

theorem reply_report {α : Type} (toJson : α → Json) (p : Procedure α) :
    reply toJson p = p.run.bind fun r => .done (report toJson r) :=
  congrArg p.run.bind (funext fun r => by cases r <;> rfl)

/-- Procedures that give the same are answered with the same. -/
theorem reply_veiled {α : Type} (toJson : α → Json) {p q : Procedure α}
    (h : Veiled Eq p.run q.run s t) (added : Bool) :
    Veiled (Matches added) (reply toJson p) (reply toJson q) s t := by
  rw [reply_report, reply_report]
  refine h.map ?_
  rintro r _ rfl
  exact .refl added _

/-- Values of the same kind are reported with the same status. -/
theorem reply_added {α : Type} (toJson : α → Json) {p q : Procedure α}
    (h : Veiled SameKind p.run q.run s t) :
    Veiled (Matches true) (reply toJson p) (reply toJson q) s t := by
  rw [reply_report, reply_report]
  refine h.map ?_
  intro r r' hkind
  refine ⟨?_, fun hadded => absurd hadded Bool.noConfusion⟩
  cases r <;> cases r' <;> cases hkind <;> rfl

/-- The clock shows both the same. -/
theorem now_veiled {α : Type} {R : Except Fault α → Except Fault α → Prop}
    {f : Instant → Procedure α} (hf : ∀ now, Veiled R (f now).run (f now).run s t) :
    Veiled R (Procedure.now >>= f).run (Procedure.now >>= f).run s t :=
  veiled_clock hf

/-- A number in the path is read alike. -/
theorem withNumber_veiled (part : List Char) {added : Bool} {f : Int → Program Outcome}
    (hf : ∀ id, Veiled (Matches added) (f id) (f id) s t) :
    Veiled (Matches added) (withNumber part f) (withNumber part f) s t := by
  unfold withNumber
  split
  · exact hf _
  · exact veiled_done (.refl added _)

/-- A body is read alike. -/
theorem withBody_veiled {α : Type} (decoder : Decoder α) (r : Http.Request) {added : Bool}
    {f : α → Program Outcome} (hf : ∀ a, Veiled (Matches added) (f a) (f a) s t) :
    Veiled (Matches added) (withBody decoder r f) (withBody decoder r f) s t := by
  unfold withBody
  split
  · exact hf _
  · exact veiled_done (.refl added _)

/-- A connection is granted or refused alike. -/
theorem connect_veiled (h : Alike u s t) (r : Http.Request) (upgradable : Bool) (part : List Char)
    (added : Bool) :
    Veiled (Matches added) (connect ⟨some u⟩ r upgradable part)
      (connect ⟨some u⟩ r upgradable part) s t := by
  unfold connect
  split
  · exact veiled_done (.refl added _)
  · split
    · exact veiled_done (.refl added _)
    · refine veiled_load h _ ?_
      -- both programs go on with the same conversation, and ask nothing more
      split
      · exact veiled_done (.refl added _)
      · split <;> exact veiled_done (.refl added _)

/-- Whatever the resource and the method, a user is answered alike from both stores. -/
theorem serve_veiled (h : Alike u s t) (r : Http.Request) (connections : Nat) (upgradable : Bool)
    (resource : Resource) (verb : Verb) :
    Veiled (Matches (adds resource verb)) (serve ⟨some u⟩ r connections upgradable resource verb)
      (serve ⟨some u⟩ r connections upgradable resource verb) s t := by
  have hfigures : ∀ {α : Type} {p : Procedure α}, p.Only (Figures (some u)) →
      Veiled Eq p.run p.run s t := fun hp => Only.veiled hp (figures_alike h)
  unfold serve
  split
  · exact veiled_done (.refl _ _)
  · exact connect_veiled h r upgradable _ _
  · split
    · exact reply_veiled _ (hfigures (listConversations_figures _ _)) _
    · exact veiled_done (.refl _ _)
  · next hverb =>
      rw [adds_conversations hverb]
      exact withBody_veiled _ r fun body => reply_added _ (createConversation_veiled h body)
  · exact withNumber_veiled _ fun id => reply_veiled _ (veiled_load_run h id) _
  · exact withNumber_veiled _ fun id => withBody_veiled _ r fun title =>
      reply_veiled _ (renameConversation_veiled h id title) _
  · exact withNumber_veiled _ fun id => reply_veiled _ (listMessages_veiled h id) _
  · next hverb =>
      rw [adds_messages _ hverb]
      exact withNumber_veiled _ fun id => withBody_veiled _ r fun content =>
        reply_added _ (createMessage_veiled h id content)
  · exact withNumber_veiled _ fun id => reply_veiled _ (listActions_veiled h id) _
  · exact reply_veiled _ (now_veiled fun now => hfigures (summary_figures _ now)) _
  · exact reply_veiled _ (now_veiled fun now => hfigures (weeklyVolume_figures _ now.date)) _
  · exact reply_veiled _ (now_veiled fun now => hfigures (weeklySuccessRate_figures _ now.date)) _

/-- A request of the user's session is handled alike: only to add something may show a different
number. -/
theorem handle_veiled (h : Alike u s t) {tokens : Access.Tokens} {r : Http.Request}
    (hsession : sessionOf tokens r = .ok ⟨some u⟩) (policy : Http.Cors) (connections : Nat)
    (upgradable : Bool) :
    Veiled (Matches (decide (r.method = "POST"))) (handle policy tokens connections upgradable r)
      (handle policy tokens connections upgradable r) s t := by
  refine handle_induction
    (Q := fun p => Veiled (Matches (decide (r.method = "POST"))) p p s t) ?_ ?_ ?_ policy
  · exact fun a => veiled_done (.refl _ _)
  · exact fun p f hf hp => hp.map fun o o' hmatches => hmatches.mapAnswer hf
  · intro session resource verb hsession' hverb
    obtain rfl := Except.ok.inj (hsession'.symm.trans hsession)
    refine (serve_veiled h r connections upgradable resource verb).mono ?_
    intro o o' hmatches
    refine ⟨hmatches.1, fun hpost => hmatches.2 ?_⟩
    rw [Bool.eq_false_iff]
    exact fun hadds => absurd (adds_post hverb hadds) (of_decide_eq_false hpost)

/-- **A user changes nothing that belongs to others, and learns nothing about it.** Answer a
request of a user from a store that calls at legible times have made of the empty one. No
conversation, message or action that does not belong to the user is changed, added or lost. Take
another such store, in which the user has the same conversations, messages and actions. With the
same clock both requests have outcomes of the same status, and unless the request is to add
something the outcomes are the same.

Of what is added the number differs, since numbers are given out one after the other whoever
asks. -/
theorem user_sees_own {u : Int} {history : List (Instant × Store.Call)}
    (hhistory : ∀ e ∈ history, e.1.Legible) {tokens : Access.Tokens} {r : Http.Request}
    (hsession : sessionOf tokens r = .ok ⟨some u⟩) (policy : Http.Cors) (connections : Nat)
    (upgradable : Bool) (k : Course) :
    let served (calls : List (Instant × Store.Call)) :=
      (handle policy tokens connections upgradable r).follow .client k
        (.start (Store.empty.replay calls))
    (served history).2.store.besides u = (Store.empty.replay history).besides u ∧
      ∀ history', (∀ e ∈ history', e.1.Legible) →
        (Store.empty.replay history).share u = (Store.empty.replay history').share u →
        (served history).1.status = (served history').1.status ∧
          (r.method ≠ "POST" → (served history).1 = (served history').1) := by
  refine ⟨?_, ?_⟩
  · exact (handle_meets hsession policy connections upgradable _).spares
      (Store.grown_replay history) k
  · intro history' hhistory' hshare
    have halike : Alike u (Store.empty.replay history) (Store.empty.replay history') :=
      ⟨Store.screened_replay hhistory u, Store.screened_replay hhistory' u, hshare⟩
    obtain ⟨hstatus, hsame⟩ :=
      handle_veiled halike hsession policy connections upgradable .client k [] []
    exact ⟨hstatus, fun hpost => hsame (decide_eq_false hpost)⟩

end Gateway

namespace Sample

/-- A conversation of a user. -/
def ownCalls : List (Instant × Store.Call) :=
  [(moment, .createConversation "Sign up" "chrome" (some 7))]

/-- The same, and a conversation of somebody else. -/
def sharedCalls : List (Instant × Store.Call) :=
  ownCalls ++ [(moment, .createConversation "Clean up" "chrome" (some 8))]

/-- The token of the user. -/
def tokens : Access.Tokens := ⟨none, [⟨"seven", 7⟩]⟩

/-- The user asks for a conversation. -/
def look (target : String) : Http.Request :=
  ⟨"GET", target, [("authorization", "Bearer seven")], ""⟩

end Sample

namespace Gateway

/-- Whether there is a conversation of somebody else or none at all, the user is told that there
is none. -/
theorem user_sees_own_look :
    let look := Sample.look "/v1/browser-agent/conversations/2"
    let served (s : Store) := (handle .everyone Sample.tokens 0 false look).follow .client
      (.constant Sample.moment (.error .emptyPage)) (.start s)
    let s := Store.empty.replay Sample.ownCalls
    let s' := Store.empty.replay Sample.sharedCalls
    (∀ e ∈ Sample.ownCalls ++ Sample.sharedCalls, e.1.Legible) ∧
      sessionOf Sample.tokens look = .ok ⟨some 7⟩ ∧ s.share 7 = s'.share 7 ∧
      (served s).1.status = 404 ∧ (served s).1.status = (served s').1.status ∧
      (look.method ≠ "POST" → (served s).1 = (served s').1) ∧
      (served s).2.store.besides 7 = s.besides 7 := by
  have hcalls : ∀ e ∈ Sample.ownCalls ++ Sample.sharedCalls, e.1.Legible := by decide +kernel
  obtain ⟨hhistory, hhistory'⟩ := List.forall_mem_append.1 hcalls
  have hsession : sessionOf Sample.tokens (Sample.look "/v1/browser-agent/conversations/2") =
      .ok ⟨some 7⟩ := by decide +kernel
  have hshare : (Store.empty.replay Sample.ownCalls).share 7 =
      (Store.empty.replay Sample.sharedCalls).share 7 := by decide +kernel
  obtain ⟨hrest, hsame⟩ := user_sees_own hhistory hsession .everyone 0 false
    (.constant Sample.moment (.error .emptyPage))
  obtain ⟨hstatus, houtcome⟩ := hsame Sample.sharedCalls hhistory' hshare
  exact ⟨hcalls, hsession, hshare, by decide +kernel, hstatus, houtcome, hrest⟩

end Gateway

end ControlPlane
