/-
The titles of conversations.

A title is trimmed, is not empty and has at most a hundred characters (`Gateway.IsTitle`). A
conversation gets its title on four ways: a request creates or renames it, or a command does. The
requests check the title (`Gateway.checkTitle_eq`), so whatever is asked of the gateway, only titles
get into the store (`Gateway.handle_titles`). The commands trim it, and the one that renames turns
down a blank title; neither looks at its length, and the one that creates looks at nothing.

Visits are requests and commands one after the other. Every title that they leave behind is trimmed,
and what proposes a text that is no title and is turned down changes nothing. The rule holds at all
times exactly if no visit breaks it at its turn (`Visit.titles_hold_iff`), and those that do are
commands that create with a text that is no title, or that give a conversation that is there one
that is too long (`Visit.Breaks`).
-/
import ControlPlane.CommandLine.Run
import ControlPlane.Proofs.Blank
import ControlPlane.Proofs.Ending
import ControlPlane.Proofs.Readable
import ControlPlane.Proofs.Requesting
import Mathlib.Data.List.Induction

set_option autoImplicit false

namespace ControlPlane

/-! ## The rule -/

namespace Gateway

/-- What a title has to be. -/
structure IsTitle (t : String) : Prop where
  /-- There are no blanks around it. -/
  trimmed : Text.trim t = t
  /-- There is something in it. -/
  present : t ≠ ""
  /-- It is not too long. -/
  short : t.length ≤ titleLimit

instance (t : String) : Decidable (IsTitle t) :=
  decidable_of_iff (Text.trim t = t ∧ t ≠ "" ∧ t.length ≤ titleLimit)
    ⟨fun h => ⟨h.1, h.2.1, h.2.2⟩, fun h => ⟨h.trimmed, h.present, h.short⟩⟩

theorem isTitle_trim_iff (raw : String) :
    IsTitle (Text.trim raw) ↔ Text.trim raw ≠ "" ∧ (Text.trim raw).length ≤ titleLimit :=
  ⟨fun h => ⟨h.present, h.short⟩, fun h => ⟨Text.trim_trim raw, h.1, h.2⟩⟩

/-- **The check of a title** accepts the titles, without the blanks around them. -/
theorem checkTitle_eq (raw : String) :
    (IsTitle (Text.trim raw) → checkTitle raw = .ok (Text.trim raw)) ∧
      (¬ IsTitle (Text.trim raw) → ∃ f, checkTitle raw = .error f) := by
  have hempty : (Text.trim raw).isEmpty = true ↔ Text.trim raw = "" := String.isEmpty_iff
  rw [isTitle_trim_iff]
  unfold checkTitle
  simp only [hempty]
  constructor
  · rintro ⟨hpresent, hshort⟩
    rw [if_neg hpresent, if_neg (Nat.not_lt.2 hshort)]
  · intro hno
    split
    · exact ⟨_, rfl⟩
    · rename_i hpresent
      rw [if_pos (Nat.lt_of_not_le fun hshort => hno ⟨hpresent, hshort⟩)]
      exact ⟨_, rfl⟩

end Gateway

namespace Store

/-- The titles of all conversations have a property. -/
def Titles (P : String → Prop) (s : Store) : Prop := ∀ c ∈ s.conversations, P c.title

/-- A call gives a conversation no title but one with a property. -/
def Call.Gives (P : String → Prop) : Call → Prop
  | .createConversation title _ _ => P title
  | .renameConversation _ title => P title
  | _ => True

theorem Call.Gives.mono {P Q : String → Prop} (hPQ : ∀ t, P t → Q t) {call : Call}
    (hcall : call.Gives P) : call.Gives Q := by
  cases call with
  | createConversation | renameConversation => exact hPQ _ hcall
  | _ => trivial

/-- A call that gives such a title only leaves such titles only. -/
theorem Call.Gives.titles {P : String → Prop} {call : Call} (hcall : call.Gives P) {s : Store}
    (hs : s.Titles P) (now : Instant) : (s.perform now call).2.Titles P := by
  refine perform_conversations (P := fun c => P c.title) call ?_ ?_ ?_ hs
  · rintro title browserType userId rfl
    exact hcall
  · rintro id title rfl r -
    exact hcall
  · exact fun _ _ _ _ hr => hr

/-- To rename a conversation that is not there changes nothing. -/
theorem renameConversation_missing {s : Store} {id : Int} (h : s.conversation? id = none)
    (now : Instant) (title : String) : s.renameConversation now id title = (.ok false, s) := by
  have hother : ∀ c ∈ s.conversations, ¬ (c.id == id) = true := List.find?_eq_none.1 h
  have hnone : s.conversations.any (fun c => c.id == id) = false := by
    rw [List.any_eq_false]
    exact hother
  have hsame : modify (fun c => c.id == id)
      (fun c => { c with title := title, updatedAt := now.storedText }) s.conversations =
        s.conversations := by
    refine (List.map_congr_left fun c hc => ?_).trans (List.map_id _)
    exact if_neg (hother c hc)
  simp only [renameConversation, hnone, hsame]

/-- A conversation that is there is renamed. -/
theorem renameConversation_found {s : Store} {id : Int} (h : (s.conversation? id).isSome = true)
    (now : Instant) (title : String) :
    ∃ c ∈ (s.renameConversation now id title).2.conversations, c.title = title := by
  obtain ⟨c, hc⟩ := Option.isSome_iff_exists.1 h
  refine ⟨_, List.mem_map_of_mem (List.mem_of_find?_eq_some hc), ?_⟩
  rw [if_pos (List.find?_some hc)]

end Store

namespace Gateway

open Procedure

-- what is done with a title does not depend on what the text becomes when it is trimmed
attribute [local irreducible] Text.trim

theorem looks_gives (P : String → Prop) (c : Store.Call) (h : Looks c) : c.Gives P := by
  cases c with
  | createConversation | renameConversation => exact h.elim
  | _ => trivial

/-! ## Requests -/

section Requests

variable (session : Access.Session)

theorem loadConversation_gives (id : Int) :
    (loadConversation session id).Only (Store.Call.Gives IsTitle) :=
  (loadConversation_only session id).mono (looks_gives IsTitle)

theorem createConversation_gives (body : NewConversation) :
    (createConversation session body).Only (Store.Call.Gives IsTitle) := by
  obtain ⟨haccepts, hrejects⟩ := checkTitle_eq body.title
  unfold createConversation
  by_cases htitle : IsTitle (Text.trim body.title)
  · rw [haccepts htitle]
    exact ⟨htitle, fun _ => trivial⟩
  · obtain ⟨f, hf⟩ := hrejects htitle
    rw [hf]
    exact trivial

theorem renameConversation_gives (id : Int) (raw : String) :
    (renameConversation session id raw).Only (Store.Call.Gives IsTitle) := by
  have hlook := loadConversation_gives session id
  obtain ⟨haccepts, hrejects⟩ := checkTitle_eq raw
  unfold renameConversation
  by_cases htitle : IsTitle (Text.trim raw)
  · rw [haccepts htitle]
    refine only_bind (p := loadConversation session id) hlook fun _ => ?_
    refine only_bind (only_call htitle) fun renamed => ?_
    cases renamed with
    | true => exact hlook
    | false => exact only_fail _
  · obtain ⟨f, hf⟩ := hrejects htitle
    rw [hf]
    exact trivial

theorem createMessage_gives (id : Int) (content : String) :
    (createMessage session id content).Only (Store.Call.Gives IsTitle) := by
  unfold createMessage
  refine only_bind (loadConversation_gives session id) fun conversation => ?_
  split
  · exact only_fail _
  · exact only_bind (only_orFail _ _) fun _ => only_call trivial

theorem Serving.gives {session : Access.Session} {p : Program Outcome} (h : Serving session p) :
    p.Only (Store.Call.Gives IsTitle) := by
  cases h with
  | looking hp => exact hp.mono (looks_gives IsTitle)
  | creating body => exact reply_only _ (createConversation_gives session body)
  | retitling id title => exact reply_only _ (renameConversation_gives session id title)
  | telling id content => exact reply_only _ (createMessage_gives session id content)

end Requests

/-- **Requests give titles only.** -/
theorem handle_titles (policy : Http.Cors) (tokens : Access.Tokens) (connections : Nat)
    (upgradable : Bool) (r : Http.Request) :
    (handle policy tokens connections upgradable r).Only (Store.Call.Gives IsTitle) :=
  handle_induction (Q := Program.Only (Store.Call.Gives IsTitle)) (fun _ => trivial)
    (fun _ _ _ hp => Program.Only.bind hp fun _ => trivial)
    (fun session resource verb _ _ =>
      (serve_serving session r connections upgradable resource verb).gives) policy

/-- The text that a request proposes as a title. -/
def proposal? (r : Http.Request) : Option String :=
  match Resource.ofPath? r.path with
  | none => none
  | some resource =>
    match resource, Verb.ofMethod? r.method resource with
    | .conversations, some .post => (readBody NewConversation.decoder r).toOption.map (·.title)
    | .conversation _, some .put => (readBody titleDecoder r).toOption
    | _, _ => none

/-- The answer reports a failure. -/
def Outcome.Fails : Outcome → Prop
  | answer a => 400 ≤ a.status
  | connect _ => False

theorem fault_status (f : Fault) : 400 ≤ f.status := by
  unfold Fault.status
  cases f.kind <;> decide

/-- A request that is turned down at once. -/
def Refused (p : Program Outcome) : Prop := ∃ a : Http.Response, 400 ≤ a.status ∧ p = answerNow a

theorem refused_fault (f : Fault) : Refused (answerNow (faultResponse f)) :=
  ⟨_, fault_status f, rfl⟩

theorem Refused.map {p : Program Outcome} (hp : Refused p) {f : Http.Response → Http.Response}
    (hf : ∀ a, (f a).status = a.status) : Refused (p.bind fun o => .done (o.mapAnswer f)) := by
  obtain ⟨a, ha, rfl⟩ := hp
  exact ⟨f a, by rw [hf]; exact ha, rfl⟩

/-- A title is proposed to create a conversation or to rename one. -/
theorem proposal?_some {r : Http.Request} {raw : String} (h : proposal? r = some raw) :
    (Resource.ofPath? r.path = some .conversations ∧
      Verb.ofMethod? r.method .conversations = some .post ∧
      ∃ body, readBody NewConversation.decoder r = .ok body ∧ body.title = raw) ∨
    ∃ part, Resource.ofPath? r.path = some (.conversation part) ∧
      Verb.ofMethod? r.method (.conversation part) = some .put ∧
      readBody titleDecoder r = .ok raw := by
  unfold proposal? at h
  cases hresource : Resource.ofPath? r.path with
  | none =>
      rw [hresource] at h
      cases h
  | some resource =>
      rw [hresource] at h
      simp only at h
      split at h
      · rename_i hverb
        cases hbody : readBody NewConversation.decoder r with
        | error flaw =>
            rw [hbody] at h
            cases h
        | ok body =>
            rw [hbody] at h
            exact Or.inl ⟨rfl, hverb, body, rfl, Option.some.inj h⟩
      · rename_i part hverb
        cases hbody : readBody titleDecoder r with
        | error flaw =>
            rw [hbody] at h
            cases h
        | ok title =>
            rw [hbody] at h
            exact Or.inr ⟨part, rfl, hverb, congrArg Except.ok (Option.some.inj h)⟩
      · cases h

/-- Where it is served, a proposal that is no title is turned down. -/
theorem serve_refuses {r : Http.Request} {raw : String} (hproposal : proposal? r = some raw)
    (hno : ¬ IsTitle (Text.trim raw)) (connections : Nat) (upgradable : Bool) :
    ∃ resource verb, Resource.ofPath? r.path = some resource ∧
      Verb.ofMethod? r.method resource = some verb ∧
      ∀ session, Refused (serve session r connections upgradable resource verb) := by
  obtain ⟨f, hf⟩ := (checkTitle_eq raw).2 hno
  rcases proposal?_some hproposal with ⟨hresource, hverb, body, hbody, rfl⟩ |
    ⟨part, hresource, hverb, hbody⟩
  · refine ⟨_, _, hresource, hverb, fun session => ⟨faultResponse f, fault_status f, ?_⟩⟩
    simp only [serve, withBody, hbody, createConversation, hf]
    rfl
  · refine ⟨_, _, hresource, hverb, fun session => ?_⟩
    simp only [serve, withNumber]
    split
    · refine ⟨faultResponse f, fault_status f, ?_⟩
      simp only [withBody, hbody, renameConversation, hf]
      rfl
    · exact ⟨_, Nat.le_refl 400, rfl⟩

/-- **A request that proposes a text that is no title is turned down** before it calls the store. -/
theorem handle_refuses (policy : Http.Cors) (tokens : Access.Tokens) (connections : Nat)
    (upgradable : Bool) {r : Http.Request} {raw : String} (hproposal : proposal? r = some raw)
    (hno : ¬ IsTitle (Text.trim raw)) :
    Refused (handle policy tokens connections upgradable r) := by
  obtain ⟨resource, verb, hresource, hverb, hserve⟩ :=
    serve_refuses hproposal hno connections upgradable
  have hrespond : Refused (respond tokens connections upgradable r) := by
    unfold respond
    cases sessionOf tokens r with
    | error f =>
        simp only [hresource, hverb]
        split
        · exact (refused_fault f).map fun _ => rfl
        · exact refused_fault f
    | ok session =>
        simp only [hresource, hverb]
        split
        · exact (hserve session).map fun _ => rfl
        · exact hserve session
  have hmethod : r.method ≠ "OPTIONS" := by
    intro hoptions
    rw [hoptions] at hverb
    cases resource <;> simp [Verb.ofMethod?] at hverb
  rw [handle, if_neg hmethod]
  exact hrespond.map fun _ => rfl

end Gateway

/-! ## Commands -/

namespace Shell

variable {α β : Type} {P : Store.Call → Prop}

/-- All calls of something that prints are of some form, whatever was printed before. -/
def Only (P : Store.Call → Prop) (s : Shell α) : Prop := ∀ printed, (s.transcript printed).Only P

theorem only_pure (a : α) : (pure a : Shell α).Only P := fun _ => trivial

theorem only_say (line : String) : (say line).Only P := fun _ => trivial

theorem only_complain (c : Complaint) : (complain c : Shell α).Only P := fun _ => trivial

theorem only_bind {s : Shell α} {f : α → Shell β} (hs : s.Only P) (hf : ∀ a, (f a).Only P) :
    (s >>= f).Only P := by
  intro printed
  refine Program.Only.bind (hs printed) ?_
  rintro ⟨r, printed'⟩
  cases r with
  | ok a => exact hf a printed'
  | error c => exact trivial

theorem only_sayAll (lines : List String) : (sayAll lines).Only P := by
  induction lines with
  | nil => exact only_pure ()
  | cons line rest ih => exact only_bind (only_say line) fun _ => ih

theorem only_doing {p : Procedure α} (hp : p.Only P) : (doing p).Only P := by
  intro printed
  refine Program.Only.bind hp ?_
  intro r
  cases r with
  | ok a => exact trivial
  | error f => exact trivial

/-- What begins with a call goes on with what is made of the answer. -/
theorem transcript_call {c : Store.Call} {f : c.Answer → Shell β} (hf : ∀ a, (f a).Only P)
    (printed : List String) :
    ∃ next, (doing (Procedure.call c) >>= f).transcript printed = .call c next ∧
      ∀ r, (next r).Only P := by
  refine ⟨_, rfl, fun r => ?_⟩
  cases r with
  | ok a => exact hf a printed
  | error f => exact trivial

end Shell

namespace CommandLine

open Shell

attribute [local irreducible] Text.trim

variable {P : String → Prop}

theorem create_gives (title browser : String) (task : Option String) (h : P (Text.trim title)) :
    (create title browser task).Only (Store.Call.Gives P) := by
  unfold create
  refine only_bind (only_doing (Procedure.only_call h)) fun c => ?_
  refine only_bind (only_say _) fun _ => ?_
  split
  · exact only_pure ()
  · exact only_bind (only_doing (Procedure.only_call trivial)) fun m => only_say _

theorem displayMessages_gives (messages : List Message) :
    (displayMessages messages).Only (Store.Call.Gives P) := by
  induction messages with
  | nil => exact only_pure ()
  | cons m rest ih =>
      refine only_bind (only_say _) fun _ => only_bind (only_say _) fun _ => ?_
      refine only_bind (only_doing (Procedure.only_call trivial)) fun actions => ?_
      exact only_bind (only_sayAll _) fun _ => ih

theorem display_gives (id : Int) : (display id).Only (Store.Call.Gives P) := by
  unfold display
  refine only_bind (only_doing (Procedure.only_call trivial)) fun found => ?_
  cases found with
  | none => exact only_complain _
  | some c =>
      refine only_bind (only_sayAll _) fun _ => ?_
      exact only_bind (only_doing (Procedure.only_call trivial)) displayMessages_gives

theorem list_gives (limit offset : Nat) (user : Option Int) :
    (list limit offset user).Only (Store.Call.Gives P) := by
  unfold list
  refine only_bind (only_doing (Procedure.only_call trivial)) fun cs => ?_
  split
  · exact only_say _
  · exact only_bind (only_say _) fun _ => only_sayAll _

theorem rename_gives (id : Int) (raw : String) (h : ∀ t, Text.nonBlank? raw = some t → P t) :
    (rename id raw).Only (Store.Call.Gives P) := by
  unfold rename
  cases htitle : Text.nonBlank? raw with
  | none => exact only_complain _
  | some t =>
      refine only_bind (only_doing (Procedure.only_call (h t htitle))) fun renamed => ?_
      split
      · exact only_say _
      · exact only_complain _

/-! ### Step by step -/

/-- A call that leaves all conversations as they are. -/
def Spares (c : Store.Call) : Prop :=
  ∀ (s : Store) (now : Instant), (s.perform now c).2.conversations = s.conversations

theorem spares_createMessage (id : Int) (role : Message.Role) (content : String) :
    Spares (.createMessage id role content) := by
  intro s now
  simp only [Store.perform, Store.createMessage]
  split <;> rfl

theorem follow_spares {α : Type} {p : Program α} (hp : p.Only Spares) (who : Actor) (k : Course)
    (h : Past) : (p.follow who k h).2.store.conversations = h.store.conversations :=
  Program.Only.follow hp (I := fun h' => h'.store.conversations = h.store.conversations)
    (fun h' now _ hc hI => (hc h'.store now).trans hI) k rfl

/-- A command that creates begins with the call that does. -/
theorem create_transcript (title browser : String) (task : Option String)
    (printed : List String) :
    ∃ next, (create title browser task).transcript printed =
        .call (.createConversation (Text.trim title) browser none) next ∧
      ∀ r, (next r).Only Spares := by
  unfold create
  refine transcript_call (fun c => ?_) printed
  refine only_bind (only_say _) fun _ => ?_
  split
  · exact only_pure ()
  · exact only_bind (only_doing (Procedure.only_call (spares_createMessage _ _ _)))
      fun m => only_say _

/-- A command that renames makes one call, unless the title is blank. -/
theorem rename_transcript (id : Int) {raw t : String} (ht : Text.nonBlank? raw = some t)
    (printed : List String) :
    ∃ next, (rename id raw).transcript printed = .call (.renameConversation id t) next ∧
      next (.ok false) = .done (.error (.unknownConversation id), printed) ∧
      ∀ r, (next r).Only Spares := by
  unfold rename
  rw [ht]
  refine ⟨_, rfl, rfl, fun r => ?_⟩
  cases r with
  | ok renamed => cases renamed <;> exact trivial
  | error f => exact trivial

/-- A command that renames a conversation that is not there says so and changes nothing. -/
theorem follow_rename_missing {s : Store} {id : Int} {raw t : String}
    (ht : Text.nonBlank? raw = some t) (hmissing : s.conversation? id = none) (who : Actor)
    (k : Course) (printed : List String) :
    (((rename id raw).transcript printed).follow who k (.start s)).1 =
        (.error (.unknownConversation id), printed) ∧
      (((rename id raw).transcript printed).follow who k (.start s)).2.store = s := by
  obtain ⟨next, hnext, hfalse, -⟩ := rename_transcript id ht printed
  have hrename : s.perform (k.clock 0) (.renameConversation id t) = (.ok false, s) :=
    Store.renameConversation_missing hmissing (k.clock 0) t
  have hfollow : (Program.call (.renameConversation id t) next).follow who k (.start s) =
      (next (s.perform (k.clock 0) (.renameConversation id t)).1).follow who k.rest
        ((Past.start s).called who (k.clock 0) (.renameConversation id t)) := rfl
  rw [hnext, hfollow, hrename, hfalse]
  exact ⟨rfl, congrArg Prod.snd hrename⟩

/-- What a command on conversations does; other commands do not work on them alone. -/
def work? : Command → Option (Shell Unit)
  | .create title browser task => some (create title browser task)
  | .display id => some (display id)
  | .list limit offset user => some (list limit offset user)
  | .rename id title => some (rename id title)
  | _ => none

end CommandLine

/-! ## Visits -/

/-- Somebody turns to the program. -/
inductive Visit where
  /-- A request comes to the gateway. -/
  | request (policy : Http.Cors) (tokens : Access.Tokens) (connections : Nat) (upgradable : Bool)
      (r : Http.Request)
  /-- A command on conversations is run with some arguments. -/
  | command (arguments : List String)

namespace Visit

open Gateway (IsTitle titleLimit)

/-- How a visit ends. -/
inductive End where
  /-- With what a request leads to. -/
  | answered (o : Gateway.Outcome)
  /-- With the end of a command. -/
  | ended (r : Except Complaint Unit)
  /-- Nothing was done, as the arguments ask for no command. -/
  | unread (asked : Command.Request)

/-- The visit was in vain. -/
def End.Fails : End → Prop
  | answered o => o.Fails
  | ended r => ∃ c, r = .error c
  | unread asked => asked = .misuse

/-- What is done for a command. -/
def obey : Command.Request → Program End
  | .command c =>
    match CommandLine.work? c with
    | some work => (work.transcript []).bind fun r => .done (.ended r.1)
    | none => .done (.unread (.command c))
  | asked => .done (.unread asked)

/-- What is done for a visit. -/
def program : Visit → Program End
  | request policy tokens connections upgradable r =>
    (Gateway.handle policy tokens connections upgradable r).bind fun o => .done (.answered o)
  | command arguments => obey (Command.readConversation arguments)

/-- A visit to a store: how it ends, and the store after it. -/
def outcome (v : Visit) (k : Course) (s : Store) : End × Store :=
  let (ending, h) := v.program.follow .client k (.start s)
  (ending, h.store)

/-- The store after some visits to an empty one. -/
def after (visits : List (Visit × Course)) : Store :=
  visits.foldl (fun s v => (v.1.outcome v.2 s).2) .empty

/-- The text that a command proposes as a title. -/
def bid? : Command.Request → Option String
  | .command (.create title _ _) => some title
  | .command (.rename _ title) => some title
  | _ => none

/-- The text that a visit proposes as a title. -/
def proposal? : Visit → Option String
  | request _ _ _ _ r => Gateway.proposal? r
  | command arguments => bid? (Command.readConversation arguments)

/-- The command gives a conversation of a store what is no title: it creates one with it, or it
renames one that is there and what it gives is too long. -/
def Violates : Command.Request → Store → Prop
  | .command (.create title _ _), _ => ¬ IsTitle (Text.trim title)
  | .command (.rename id title), s =>
    titleLimit < (Text.trim title).length ∧ (s.conversation? id).isSome = true
  | _, _ => False

/-- The visit is of such a command; requests are none. -/
def Breaks : Visit → Store → Prop
  | request _ _ _ _ _, _ => False
  | command arguments, s => Violates (Command.readConversation arguments) s

section Outcome

attribute [local irreducible] Text.trim

variable {v : Visit} {k : Course} {s : Store} {P : String → Prop}

/-- A command gives such titles only, if what it proposes is such a title when it is trimmed. -/
theorem obey_gives {asked : Command.Request}
    (h : ∀ raw, bid? asked = some raw → P (Text.trim raw)) :
    (obey asked).Only (Store.Call.Gives P) := by
  have hwork : ∀ {work : Shell Unit}, work.Only (Store.Call.Gives P) →
      ((work.transcript []).bind fun r => Program.done (End.ended r.1)).Only
        (Store.Call.Gives P) := fun hw => Program.Only.bind (hw []) fun _ => trivial
  cases asked with
  | command c =>
      cases c with
      | create title browser task =>
          exact hwork (CommandLine.create_gives title browser task (h title rfl))
      | display id => exact hwork (CommandLine.display_gives id)
      | list limit offset user => exact hwork (CommandLine.list_gives limit offset user)
      | rename id title =>
          refine hwork (CommandLine.rename_gives id title ?_)
          intro t ht
          rw [← (Text.nonBlank?_eq_some_iff.1 ht).1]
          exact h title rfl
      | gateway | sweep | status => exact trivial
  | version | help | misuse => exact trivial

theorem program_gives_trimmed (v : Visit) :
    v.program.Only (Store.Call.Gives fun t => Text.trim t = t) := by
  cases v with
  | request policy tokens connections upgradable r =>
      have hgives := (Gateway.handle_titles policy tokens connections upgradable r).mono
        fun _ hc => Store.Call.Gives.mono (fun _ ht => ht.trimmed) hc
      exact Program.Only.bind hgives fun _ => trivial
  | command arguments => exact obey_gives fun raw _ => Text.trim_trim raw

/-- A visit gives titles only, if what it proposes is one. -/
theorem program_gives (h : ∀ raw, v.proposal? = some raw → IsTitle (Text.trim raw)) :
    v.program.Only (Store.Call.Gives IsTitle) := by
  cases v with
  | request policy tokens connections upgradable r =>
      exact Program.Only.bind (Gateway.handle_titles policy tokens connections upgradable r)
        fun _ => trivial
  | command arguments => exact obey_gives h

/-- What calls that give such titles only leave of a store with such titles only. -/
theorem outcome_titles (hv : v.program.Only (Store.Call.Gives P)) (hs : s.Titles P) (k : Course) :
    (v.outcome k s).2.Titles P :=
  hv.follow (I := fun h => h.store.Titles P) (fun _ now _ hc hI => hc.titles hI now) k hs

/-- A command that proposes what is no title, and does not break the rule, fails and changes
nothing. -/
theorem obey_refuses {asked : Command.Request} {raw : String} (hbid : bid? asked = some raw)
    (hno : ¬ IsTitle (Text.trim raw)) (hbreaks : ¬ Violates asked s) (k : Course) :
    ((obey asked).follow .client k (.start s)).1.Fails ∧
      ((obey asked).follow .client k (.start s)).2.store = s := by
  unfold bid? at hbid
  split at hbid
  · obtain rfl := Option.some.inj hbid
    exact absurd hno hbreaks
  · rename_i id title
    obtain rfl := Option.some.inj hbid
    simp only [obey, CommandLine.work?, Program.follow_map]
    cases ht : Text.nonBlank? title with
    | none =>
        simp only [CommandLine.rename, ht]
        exact ⟨⟨_, rfl⟩, rfl⟩
    | some t =>
        -- the title is there, so it is too long, and the conversation is missing
        have hlong : titleLimit < (Text.trim title).length := by
          obtain ⟨rfl, hpresent⟩ := Text.nonBlank?_eq_some_iff.1 ht
          exact Nat.lt_of_not_le fun hshort =>
            hno ((Gateway.isTitle_trim_iff title).2 ⟨hpresent, hshort⟩)
        have hmissing : s.conversation? id = none :=
          Option.not_isSome_iff_eq_none.1 fun hthere => hbreaks ⟨hlong, hthere⟩
        obtain ⟨hends, hstore⟩ := CommandLine.follow_rename_missing ht hmissing .client k []
        exact ⟨⟨_, congrArg Prod.fst hends⟩, hstore⟩
  · cases hbid

/-- **What is proposed in vain changes nothing**: unless the visit breaks the rule, a text that is
no title is turned down. -/
theorem outcome_refuses {raw : String} (hproposal : v.proposal? = some raw)
    (hno : ¬ IsTitle (Text.trim raw)) (hbreaks : ¬ v.Breaks s) (k : Course) :
    (v.outcome k s).1.Fails ∧ (v.outcome k s).2 = s := by
  cases v with
  | request policy tokens connections upgradable r =>
      obtain ⟨a, ha, hrefused⟩ :=
        Gateway.handle_refuses policy tokens connections upgradable hproposal hno
      simp only [outcome, program, hrefused]
      exact ⟨ha, rfl⟩
  | command arguments => exact obey_refuses hproposal hno hbreaks k

/-- A visit that breaks the rule leaves a conversation with what is no title. -/
theorem outcome_breaks (hbreaks : v.Breaks s) (k : Course) :
    ¬ (v.outcome k s).2.Titles IsTitle := by
  cases v with
  | request => exact hbreaks.elim
  | command arguments =>
      change Violates (Command.readConversation arguments) s at hbreaks
      change ¬ ((obey (Command.readConversation arguments)).follow .client k
        (.start s)).2.store.Titles IsTitle
      generalize Command.readConversation arguments = asked at hbreaks ⊢
      -- the first call leaves such a conversation, and the rest leaves all as they are
      unfold Violates at hbreaks
      split at hbreaks
      · rename_i title browser task
        obtain ⟨next, hnext, hspares⟩ := CommandLine.create_transcript title browser task []
        simp only [obey, CommandLine.work?, Program.follow_map, hnext, Program.follow]
        intro htitles
        rw [Store.Titles, CommandLine.follow_spares (hspares _)] at htitles
        exact hbreaks (htitles _ (List.mem_append_right _ List.mem_cons_self))
      · rename_i id title
        obtain ⟨hlong, hthere⟩ := hbreaks
        have ht : Text.nonBlank? title = some (Text.trim title) := by
          refine Text.nonBlank?_eq_some_iff.2 ⟨rfl, fun hempty => ?_⟩
          rw [hempty] at hlong
          cases hlong
        obtain ⟨next, hnext, -, hspares⟩ := CommandLine.rename_transcript id ht []
        simp only [obey, CommandLine.work?, Program.follow_map, hnext, Program.follow]
        intro htitles
        rw [Store.Titles, CommandLine.follow_spares (hspares _)] at htitles
        obtain ⟨c, hc, hctitle⟩ :=
          Store.renameConversation_found hthere (k.clock 0) (Text.trim title)
        have hshort := (htitles c hc).short
        rw [hctitle] at hshort
        omega
      · exact hbreaks.elim

/-- A visit that does not break the rule leaves titles only. -/
theorem outcome_keeps (hbreaks : ¬ v.Breaks s) (hs : s.Titles IsTitle) (k : Course) :
    (v.outcome k s).2.Titles IsTitle := by
  by_cases hvain : ∃ raw, v.proposal? = some raw ∧ ¬ IsTitle (Text.trim raw)
  · obtain ⟨raw, hproposal, hno⟩ := hvain
    rw [(outcome_refuses hproposal hno hbreaks k).2]
    exact hs
  · refine outcome_titles (program_gives fun raw hproposal => ?_) hs k
    exact Decidable.not_not.1 fun hno => hvain ⟨raw, hproposal, hno⟩

end Outcome

/-! ### As they are run -/

/-- What a gateway does for a request in a world without interruptions is a visit. -/
theorem outcome_run (policy : Http.Cors) (tokens : Access.Tokens) (connections : Nat)
    (upgradable : Bool) (r : Http.Request) {w : World}
    (hcalm : ∀ turn ∈ w.turns, turn.meanwhile = []) :
    ∃ k : Course, (∀ n, k.clock n = w.now) ∧
      (request policy tokens connections upgradable r).outcome k w.store =
        (.answered ((Gateway.handle policy tokens connections upgradable r).run w).1,
          ((Gateway.handle policy tokens connections upgradable r).run w).2.store) := by
  obtain ⟨k, hclock, hresult, hstore⟩ :=
    (Gateway.handle policy tokens connections upgradable r).follow_run .client hcalm []
  refine ⟨k, hclock, ?_⟩
  simp only [outcome, program, Program.follow_map]
  exact Prod.ext (congrArg End.answered hresult) hstore

/-- What is carried out for a command is a visit, and the store after it is saved. -/
theorem outcome_carryOut (p : CommandLine.Place) (d : Disk) (path : String) (store : Store)
    {arguments : List String} {c : Command} {work : Shell Unit}
    (hread : Command.readConversation arguments = .command c)
    (hwork : CommandLine.work? c = some work) :
    ∃ k : Course, (∀ n, k.clock n = p.now) ∧
      (CommandLine.carryOut p d path store [] work).2 =
        d.saveStore path ((command arguments).outcome k store).2 ∧
      ((CommandLine.carryOut p d path store [] work).1.complaint = none ↔
        ((command arguments).outcome k store).1 = .ended (.ok ())) := by
  obtain ⟨k, hclock, hresult, hstore⟩ := (work.transcript []).follow_run .client
    (w := .start store p.now) (fun _ h => absurd h List.not_mem_nil) []
  refine ⟨k, hclock, ?_⟩
  simp only [outcome, program, hread, obey, hwork, Program.follow_map]
  change _ = d.saveStore path ((work.transcript []).follow .client k ⟨store, []⟩).2.store ∧
    (_ ↔ End.ended ((work.transcript []).follow .client k ⟨store, []⟩).1.1 = _)
  rw [show ((work.transcript []).follow .client k ⟨store, []⟩).1 = _ from hresult,
    show ((work.transcript []).follow .client k ⟨store, []⟩).2.store = _ from hstore]
  unfold CommandLine.carryOut
  rcases (work.transcript []).run (.start store p.now) with ⟨⟨r, printed⟩, w⟩
  cases r with
  | ok _ => exact ⟨rfl, iff_of_true rfl rfl⟩
  | error complaint =>
      exact ⟨rfl, iff_of_false (fun h => by cases h) fun h => by cases h⟩

/-! ## Any number of visits -/

theorem after_append (past : List (Visit × Course)) (v : Visit) (k : Course) :
    after (past ++ [(v, k)]) = (v.outcome k (after past)).2 := by
  rw [after, List.foldl_append]
  rfl

/-- **The rule for titles.** Take any number of requests and commands on conversations, one after
the other from the empty store on, with any arguments and at any times. Every title that they leave
is trimmed. At all times all titles are titles, exactly if no visit breaks the rule at its turn; and
what proposes a text that is no title, and does not break the rule, fails and leaves the store as it
is. -/
theorem titles_hold_iff (visits : List (Visit × Course)) :
    ((after visits).Titles fun t => Text.trim t = t) ∧
    ((∀ past rest, visits = past ++ rest → (after past).Titles IsTitle) ↔
      ∀ past (v : Visit) k rest, visits = past ++ (v, k) :: rest → ¬ v.Breaks (after past)) ∧
    ∀ (v : Visit) k raw, v.proposal? = some raw → ¬ IsTitle (Text.trim raw) →
      ¬ v.Breaks (after visits) →
      (v.outcome k (after visits)).1.Fails ∧ (v.outcome k (after visits)).2 = after visits := by
  have hnone : ∀ P, Store.empty.Titles P := fun _ _ h => absurd h List.not_mem_nil
  refine ⟨?_, ⟨?_, ?_⟩, ?_⟩
  · induction visits using List.reverseRecOn with
    | nil => exact hnone _
    | append_singleton past visit ih =>
        rw [after_append]
        exact outcome_titles (program_gives_trimmed visit.1) ih visit.2
  · intro hall past v k rest hvisits hbreaks
    refine outcome_breaks hbreaks k ?_
    rw [← after_append]
    exact hall _ rest (by rw [hvisits, List.append_assoc]; rfl)
  · intro hnobody past
    induction past using List.reverseRecOn with
    | nil => exact fun _ _ => hnone _
    | append_singleton past visit ih =>
        intro rest hvisits
        rw [List.append_assoc] at hvisits
        rw [after_append]
        exact outcome_keeps (hnobody past visit.1 visit.2 rest hvisits) (ih _ hvisits) visit.2
  · exact fun v k raw hproposal hno hbreaks => outcome_refuses hproposal hno hbreaks k

end Visit

namespace Sample

/-- At a moment in 2024. -/
def calm : Course := .constant moment (.error .emptyPage)

/-- A request that names a conversation. -/
def naming (method target title : String) : Visit :=
  .request .everyone ⟨none, []⟩ 0 false
    ⟨method, "/v1/browser-agent/conversations" ++ target,
      [("content-type", "application/json")], "\x7b\"title\": \"" ++ title ++ "\"\x7d"⟩

end Sample

namespace Visit

open Gateway (IsTitle)

/-- A conversation is created by a request; to rename it to a blank title fails. -/
theorem titles_hold_iff_blank :
    let visits := [(Sample.naming "POST" "" "  Sign up ", Sample.calm)]
    let blank := Sample.naming "PUT" "/1" "  "
    (after visits).conversations.map (·.title) = ["Sign up"] ∧ blank.proposal? = some "  " ∧
      (blank.outcome Sample.calm (after visits)).1.Fails ∧
      (blank.outcome Sample.calm (after visits)).2 = after visits := by
  intro visits blank
  have hproposal : blank.proposal? = some "  " := by decide +kernel
  have hno : ¬ IsTitle (Text.trim "  ") := by decide +kernel
  obtain ⟨-, -, hvain⟩ := titles_hold_iff visits
  exact ⟨by decide +kernel, hproposal, hvain blank Sample.calm "  " hproposal hno fun h => h⟩

/-- A command creates a conversation without a title, and another one gives it a title that is too
long. -/
theorem titles_broken :
    let untitled := (Visit.command ["create", "  "], Sample.calm)
    let long := String.ofList (List.replicate 101 'x')
    let renamed := (Visit.command ["rename", "1", long], Sample.calm)
    (after [untitled]).conversations.map (·.title) = [""] ∧ ¬ IsTitle "" ∧
      (after [untitled, renamed]).conversations.map (·.title) = [long] ∧ ¬ IsTitle long := by
  decide +kernel

end Visit

end ControlPlane
