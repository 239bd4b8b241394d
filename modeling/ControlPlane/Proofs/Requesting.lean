/-
The calls of a request.

Whatever is asked of the gateway, and whatever the store answers, a request makes calls of
a few forms only (`Gateway.Makes`): it reads, it adds or renames a conversation, and it adds
a message of a user. It never asks for a decision. What is done with most resources is to read
(`Gateway.Looks`), and a call that reads leaves the store as it is.
-/
import ControlPlane.Gateway.Respond
import ControlPlane.Proofs.Sweeping

set_option autoImplicit false

namespace ControlPlane

theorem Program.Only.mono {α : Type} {P Q : Store.Call → Prop} {p : Program α} (hp : p.Only P)
    (hPQ : ∀ c, P c → Q c) : p.Only Q := by
  induction p with
  | done a => exact trivial
  | call c next ih => exact ⟨hPQ c hp.1, fun r => ih r (hp.2 r)⟩
  | decide context next => exact hp.elim
  | pause _ next ih => exact ih () hp
  | clock next ih => exact fun t => ih t (hp t)

namespace Procedure

variable {α : Type} {P : Store.Call → Prop}

theorem only_fail (f : Fault) : (fail f : Procedure α).Only P := trivial

theorem only_ofExcept (r : Except Fault α) : (ofExcept r).Only P := by
  cases r with
  | ok a => exact trivial
  | error f => exact trivial

theorem only_now : now.Only P := fun _ => trivial

theorem only_attempt {p : Procedure α} (hp : p.Only P) : p.attempt.Only P :=
  Program.Only.bind hp fun _ => trivial

end Procedure

namespace Gateway

open Procedure

-- which calls are made does not depend on what a text becomes when it is trimmed
attribute [local irreducible] Text.trim

/-- The forms of the calls that a request makes. -/
def Makes : Store.Call → Prop
  | .createConversation _ _ _ => True
  | .renameConversation _ _ => True
  | .createMessage _ role _ => role = .user
  | .getConversation _ => True
  | .listConversations _ _ _ => True
  | .getMessage _ => True
  | .listMessages _ => True
  | .listActions _ => True
  | .countMessages _ => True
  | .countActions _ _ => True
  | .dailyActivity _ _ _ => True
  | _ => False

/-- The forms of the calls that only read. -/
def Looks : Store.Call → Prop
  | .getConversation _ => True
  | .listConversations _ _ _ => True
  | .getMessage _ => True
  | .listMessages _ => True
  | .listActions _ => True
  | .countMessages _ => True
  | .countActions _ _ => True
  | .dailyActivity _ _ _ => True
  | _ => False

theorem Looks.makes {c : Store.Call} (h : Looks c) : Makes c := by
  cases c with
  | createConversation | renameConversation | createMessage => exact h.elim
  | _ => exact h

/-- To look changes nothing. -/
theorem Looks.store {c : Store.Call} (h : Looks c) (s : Store) (now : Instant) :
    (s.perform now c).2 = s := by
  cases c with
  | getConversation | listConversations | getMessage | listMessages | listActions => rfl
  | countMessages | countActions | dailyActivity => rfl
  | _ => exact h.elim

/-- The calls that the lists and figures of an owner are made of. -/
def Figures (owner : Option Int) : Store.Call → Prop
  | .listConversations userId _ _ => userId = owner
  | .countMessages w => w.userId = owner
  | .countActions w _ => w.userId = owner
  | .dailyActivity userId _ _ => userId = owner
  | _ => False

theorem Figures.looks {owner : Option Int} {c : Store.Call} (h : Figures owner c) : Looks c := by
  cases c with
  | listConversations | countMessages | countActions | dailyActivity => trivial
  | _ => exact h.elim

/-! ## Resources -/

/-- A conversation is only looked at before it is shown. -/
theorem loadConversation_only (session : Access.Session) (id : Int) :
    (loadConversation session id).Only Looks :=
  only_bind (only_call trivial) fun _ => only_orFail _ _

/-- A new conversation takes no other calls than requests make. -/
theorem createConversation_only (session : Access.Session) (body : NewConversation) :
    (createConversation session body).Only Makes :=
  only_bind (only_ofExcept _) fun _ => only_call trivial

/-- Nor does a new title. -/
theorem renameConversation_only (session : Access.Session) (id : Int) (title : String) :
    (renameConversation session id title).Only Makes := by
  unfold renameConversation
  refine only_bind (only_ofExcept _) ?_
  intro trimmed
  refine only_bind ((loadConversation_only session id).mono fun _ => Looks.makes) ?_
  intro found
  refine only_bind (only_call trivial) ?_
  intro renamed
  cases renamed with
  | true => exact (loadConversation_only session id).mono fun _ => Looks.makes
  | false => exact only_fail _

/-- Nor does a new message. -/
theorem createMessage_only (session : Access.Session) (id : Int) (content : String) :
    (createMessage session id content).Only Makes := by
  unfold createMessage
  refine only_bind ((loadConversation_only session id).mono fun _ => Looks.makes) ?_
  intro conversation
  split
  · exact only_fail _
  · exact only_bind (only_orFail _ _) fun _ => only_call rfl

/-- Messages are only looked at. -/
theorem listMessages_only (session : Access.Session) (id : Int) :
    (listMessages session id).Only Looks :=
  only_bind (loadConversation_only session id) fun _ => only_call trivial

/-- Actions are only looked at. -/
theorem listActions_only (session : Access.Session) (id : Int) :
    (listActions session id).Only Looks := by
  unfold listActions
  refine only_bind (only_call trivial) ?_
  intro found
  refine only_bind (only_orFail _ _) ?_
  intro message
  refine only_bind (only_attempt (loadConversation_only session message.conversationId)) ?_
  intro loaded
  cases loaded with
  | ok conversation => exact only_call trivial
  | error e => exact only_fail _

theorem listConversations_figures (session : Access.Session) (p : Paging) :
    (listConversations session p).Only (Figures session.userId) := only_call rfl

theorem summary_figures (userId : Option Int) (now : Instant) :
    (Dashboard.summary userId now).Only (Figures userId) := by
  have hrate : ∀ w : Window, w.userId = userId →
      (Dashboard.actionRate w).Only (Figures userId) := by
    intro w hw
    exact only_bind (only_call hw) fun _ => only_bind (only_call hw) fun _ => only_pure _
  unfold Dashboard.summary
  refine only_bind (only_call rfl) ?_
  intro todayTasks
  refine only_bind (only_call rfl) ?_
  intro yesterdayTasks
  refine only_bind (hrate _ rfl) ?_
  intro successRate
  exact only_bind (hrate _ rfl) fun _ => only_pure _

theorem twoWeeks_figures (userId : Option Int) (today : Date) :
    (Dashboard.twoWeeks userId today).Only (Figures userId) :=
  only_bind (only_call rfl) fun _ => only_bind (only_call rfl) fun _ => only_pure _

theorem weeklyVolume_figures (userId : Option Int) (today : Date) :
    (Dashboard.weeklyVolume userId today).Only (Figures userId) :=
  only_bind (twoWeeks_figures userId today) fun _ => only_pure _

theorem weeklySuccessRate_figures (userId : Option Int) (today : Date) :
    (Dashboard.weeklySuccessRate userId today).Only (Figures userId) :=
  only_bind (twoWeeks_figures userId today) fun _ => only_pure _

/-! ## Requests -/

/-- What is answered takes no further calls. -/
theorem reply_only {α : Type} (toJson : α → Json) {P : Store.Call → Prop} {p : Procedure α}
    (hp : p.Only P) : (reply toJson p).Only P := by
  refine Program.Only.bind hp ?_
  intro r
  cases r with
  | ok a => exact trivial
  | error f => exact trivial

theorem connect_only (session : Access.Session) (r : Http.Request) (upgradable : Bool)
    (part : List Char) : (connect session r upgradable part).Only Looks := by
  unfold connect
  split
  · exact trivial
  · split
    · exact trivial
    · refine Program.Only.bind (loadConversation_only session _) ?_
      intro loaded
      cases loaded with
      | error f => exact trivial
      | ok conversation =>
          simp only
          split
          · exact trivial
          · exact trivial

/-- What is done for a session: to look at something, or to add or rename one thing. -/
inductive Serving (session : Access.Session) : Program Outcome → Prop where
  /-- Something is looked at. -/
  | looking {p : Program Outcome} (hp : p.Only Looks) : Serving session p
  /-- A conversation is added. -/
  | creating (body : NewConversation) :
      Serving session (reply Conversation.toJson (createConversation session body))
  /-- A conversation gets a title. -/
  | retitling (id : Int) (title : String) :
      Serving session (reply Conversation.toJson (renameConversation session id title))
  /-- A message is added. -/
  | telling (id : Int) (content : String) :
      Serving session (reply Message.toJson (createMessage session id content))

namespace Serving

variable {session : Access.Session}

theorem withNumber (part : List Char) {f : Int → Program Outcome}
    (hf : ∀ id, Serving session (f id)) : Serving session (withNumber part f) := by
  unfold Gateway.withNumber
  split
  · exact hf _
  · exact .looking trivial

theorem withBody {α : Type} (decoder : Decoder α) (r : Http.Request) {f : α → Program Outcome}
    (hf : ∀ a, Serving session (f a)) : Serving session (withBody decoder r f) := by
  unfold Gateway.withBody
  split
  · exact hf _
  · exact .looking trivial

theorem only {p : Program Outcome} (h : Serving session p) : p.Only Makes := by
  cases h with
  | looking hp => exact hp.mono fun _ => Looks.makes
  | creating body => exact reply_only _ (createConversation_only session body)
  | retitling id title => exact reply_only _ (renameConversation_only session id title)
  | telling id content => exact reply_only _ (createMessage_only session id content)

end Serving

/-- Whatever the resource and the method, one of these things is done. -/
theorem serve_serving (session : Access.Session) (r : Http.Request) (connections : Nat)
    (upgradable : Bool) (resource : Resource) (verb : Verb) :
    Serving session (serve session r connections upgradable resource verb) := by
  have hfigures : ∀ {α : Type} {p : Procedure α}, p.Only (Figures session.userId) →
      p.Only Looks := fun hp => hp.mono fun _ => Figures.looks
  unfold serve
  split
  · exact .looking trivial
  · exact .looking (connect_only session r upgradable _)
  · split
    · exact .looking (reply_only _ (hfigures (listConversations_figures session _)))
    · exact .looking trivial
  · exact .withBody _ r fun body => .creating body
  · exact .withNumber _ fun id => .looking (reply_only _ (loadConversation_only session id))
  · exact .withNumber _ fun id => .withBody _ r fun title => .retitling id title
  · exact .withNumber _ fun id => .looking (reply_only _ (listMessages_only session id))
  · exact .withNumber _ fun id => .withBody _ r fun content => .telling id content
  · exact .withNumber _ fun id => .looking (reply_only _ (listActions_only session id))
  · exact .looking (reply_only _ (only_bind only_now fun now =>
      hfigures (summary_figures _ now)))
  · exact .looking (reply_only _ (only_bind only_now fun now =>
      hfigures (weeklyVolume_figures _ now.date)))
  · exact .looking (reply_only _ (only_bind only_now fun now =>
      hfigures (weeklySuccessRate_figures _ now.date)))

/-- **How a request is answered**: at once, or by what is done for the session that it is let in
with. The answer may be changed after that, but not its status. -/
theorem handle_induction {Q : Program Outcome → Prop} {tokens : Access.Tokens}
    {connections : Nat} {upgradable : Bool} {r : Http.Request}
    (hnow : ∀ a, Q (answerNow a))
    (hmap : ∀ p (f : Http.Response → Http.Response), (∀ a, (f a).status = a.status) → Q p →
      Q (p.bind fun o => .done (o.mapAnswer f)))
    (hserve : ∀ session resource verb, sessionOf tokens r = .ok session →
      Verb.ofMethod? r.method resource = some verb →
      Q (serve session r connections upgradable resource verb))
    (policy : Http.Cors) : Q (handle policy tokens connections upgradable r) := by
  have hrespond : Q (respond tokens connections upgradable r) := by
    unfold respond
    cases hsession : sessionOf tokens r with
    | error f =>
        cases Resource.ofPath? r.path with
        | none => exact hnow _
        | some resource =>
            simp only
            cases Verb.ofMethod? r.method resource with
            | none => exact hnow _
            | some verb =>
                simp only
                split
                · exact hnow _
                · exact hnow _
    | ok session =>
        cases Resource.ofPath? r.path with
        | none => exact hnow _
        | some resource =>
            simp only
            cases hverb : Verb.ofMethod? r.method resource with
            | none => exact hnow _
            | some verb =>
                have houtcome := hserve session resource verb hsession hverb
                simp only
                split
                · exact hmap _ _ (fun _ => rfl) houtcome
                · exact houtcome
  unfold handle
  split
  · exact hnow _
  · exact hmap _ _ (fun _ => rfl) hrespond

/-- **The calls of a request** are of these forms, whatever is answered. -/
theorem handle_only (policy : Http.Cors) (tokens : Access.Tokens) (connections : Nat)
    (upgradable : Bool) (r : Http.Request) :
    (handle policy tokens connections upgradable r).Only Makes :=
  handle_induction (Q := Program.Only Makes) (fun _ => trivial)
    (fun _ _ _ hp => Program.Only.bind hp fun _ => trivial)
    (fun session resource verb _ _ =>
      (serve_serving session r connections upgradable resource verb).only) policy

end Gateway

end ControlPlane
