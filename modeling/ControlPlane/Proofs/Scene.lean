/-
Procedures side by side.

The answer to a frame and a sweep are procedures, and any number of them may be under
way on one store. Between two steps of one of them the others may take any number of
steps. A *scene* is the store with what has happened to it so far, and the workers
that are under way. A *choice* says what happens next: a worker takes its next step,
a worker is broken off for good, a frame arrives, a sweep begins, a client of the
interface calls the store, or everything starts over on the same store. A list of
choices is a schedule, and to play a schedule is a function; a statement about every
schedule is a statement about every order of steps.

A choice that cannot be made changes nothing. What can be made is a matter of the
rules (`Rules`): `oneInbound` is the rule of the connections, which hand over the
frames of a conversation one after the other; `crowded` has no such rule; `beside`
lets nothing but sweeps begin.
-/
import ControlPlane.Coordinator
import ControlPlane.Proofs.History
import ControlPlane.Proofs.Stamp
import ControlPlane.Sweep

set_option autoImplicit false

namespace ControlPlane

/-- Who calls the store. -/
inductive Actor where
  /-- The answer to a frame of a conversation. -/
  | handler (conversation : Int)
  /-- A sweep. -/
  | sweeper
  /-- A client of the interface, whose requests are single calls. -/
  | client
deriving DecidableEq, Repr

/-- Something that happened. -/
inductive Entry where
  /-- Somebody called the store, which was in some state before. -/
  | called (who : Actor) (now : Instant) (call : Store.Call) (before : Store)
  /-- Somebody asked for a decision. -/
  | asked (who : Actor) (context : Decision.Context) (answer : Except Fault Decision)

/-- The store, and what has happened to it so far. -/
structure Past where
  /-- The store. -/
  store : Store
  /-- What has happened, the first first. -/
  log : List Entry

namespace Past

/-- A store to which nothing has happened. -/
def start (s : Store) : Past := ⟨s, []⟩

/-- Somebody calls the store. -/
def called (h : Past) (who : Actor) (now : Instant) (c : Store.Call) : Past :=
  ⟨(h.store.perform now c).2, h.log ++ [.called who now c h.store]⟩

/-- Somebody asks for a decision. -/
def asked (h : Past) (who : Actor) (context : Decision.Context)
    (answer : Except Fault Decision) : Past :=
  ⟨h.store, h.log ++ [.asked who context answer]⟩

@[simp] theorem called_store (h : Past) (who : Actor) (now : Instant) (c : Store.Call) :
    (h.called who now c).store = (h.store.perform now c).2 := rfl

@[simp] theorem called_log (h : Past) (who : Actor) (now : Instant) (c : Store.Call) :
    (h.called who now c).log = h.log ++ [.called who now c h.store] := rfl

@[simp] theorem asked_log (h : Past) (who : Actor) (context : Decision.Context)
    (answer : Except Fault Decision) :
    (h.asked who context answer).log = h.log ++ [.asked who context answer] := rfl

end Past

/-! ## Workers -/

/-- What a worker ends with. -/
inductive Outcome where
  /-- The answer to a frame. -/
  | reply (frame : Option ServerFrame)
  /-- The report of a sweep. -/
  | report (result : Except Fault Sweep.Report)

/-- Somebody at work. -/
structure Worker where
  /-- Who it is. -/
  actor : Actor
  /-- What is left to do. -/
  program : Program Outcome

namespace Worker

/-- A frame of a conversation is to be answered. -/
def handling (s : Settings.Decision) (conversation : Int) (frame : ClientFrame) : Worker :=
  ⟨.handler conversation,
    (Coordinator.handle s conversation frame).bind fun r => .done (.reply r)⟩

/-- A sweep is to be made. -/
def sweeping (s : Settings.Sweeper) (time : Instant) : Worker :=
  ⟨.sweeper, (Sweep.sweepAt s time).run.bind fun r => .done (.report r)⟩

/-- The next step of a worker: a call at a time, a decision with an answer, a pause, or
a look at the clock. -/
def act (w : Worker) (now : Instant) (answer : Except Fault Decision) (h : Past) :
    Worker × Past :=
  match w.program with
  | .done _ => (w, h)
  | .call c next => (⟨w.actor, next (h.store.perform now c).1⟩, h.called w.actor now c)
  | .decide context next => (⟨w.actor, next answer⟩, h.asked w.actor context answer)
  | .pause _ next => (⟨w.actor, next ()⟩, h)
  | .clock next => (⟨w.actor, next now⟩, h)

theorem act_actor (w : Worker) (now : Instant) (answer : Except Fault Decision) (h : Past) :
    (w.act now answer h).1.actor = w.actor := by
  unfold act
  split <;> rfl

end Worker

/-! ## Scenes -/

/-- The store with its past, and who is at work. -/
structure Scene where
  /-- The store with its past. -/
  past : Past
  /-- Who is at work. -/
  workers : List Worker

/-- What happens next. -/
inductive Choice where
  /-- A client of the interface calls the store. -/
  | request (now : Instant) (call : Store.Call)
  /-- A frame of a conversation arrives. -/
  | frame (settings : Settings.Decision) (conversation : Int) (frame : ClientFrame)
  /-- A sweep begins. -/
  | sweep (settings : Settings.Sweeper) (time : Instant)
  /-- A worker takes its next step: at a time, and with an answer if it asks for a
  decision. -/
  | act (index : Nat) (now : Instant) (answer : Except Fault Decision)
  /-- A worker is broken off, or has done its work and goes. -/
  | leave (index : Nat)
  /-- The store is opened anew; nobody is at work any more. -/
  | reopen

/-- What the clock reads, if a choice looks at it. -/
def Choice.clock? : Choice → Option Instant
  | .request now _ => some now
  | .act _ now _ => some now
  | _ => none

/-- The clock reads a legible time, if the choice looks at it. -/
def Choice.Legible (choice : Choice) : Prop := ∀ now ∈ choice.clock?, now.Legible

instance (choice : Choice) : Decidable choice.Legible :=
  inferInstanceAs (Decidable (∀ now ∈ choice.clock?, now.Legible))

/-- What can happen. -/
structure Rules where
  /-- Who may begin to work beside those at work. -/
  admits : List Worker → Actor → Bool
  /-- What clients of the interface may call. -/
  accepts : Store.Call → Bool

namespace Rules

/-- Whether a call creates or renames a conversation, or creates a message. -/
def isRequest : Store.Call → Bool
  | .createConversation _ _ _ => true
  | .renameConversation _ _ => true
  | .createMessage _ _ _ => true
  | _ => false

/-- The frames of a conversation are answered one after the other. -/
def oneInbound : Rules where
  admits workers actor :=
    match actor with
    | .handler c => !workers.any fun w => w.actor == .handler c
    | _ => true
  accepts := isRequest

/-- Everybody may begin at any time. -/
def crowded : Rules where
  admits _ _ := true
  accepts := isRequest

/-- Only sweeps may begin. -/
def beside : Rules where
  admits _ actor :=
    match actor with
    | .sweeper => true
    | _ => false
  accepts _ := false

end Rules

namespace Scene

/-- Nobody is at work on a store. -/
def start (s : Store) : Scene := ⟨.start s, []⟩

/-- The store. -/
def store (σ : Scene) : Store := σ.past.store

/-- Somebody begins to work, if the rules admit it. -/
def enter (rules : Rules) (σ : Scene) (w : Worker) : Scene :=
  if rules.admits σ.workers w.actor then { σ with workers := σ.workers ++ [w] } else σ

/-- What follows a choice. -/
def step (rules : Rules) (σ : Scene) : Choice → Scene
  | .request now c =>
    if rules.accepts c then { σ with past := σ.past.called .client now c } else σ
  | .frame s conversation frame => σ.enter rules (.handling s conversation frame)
  | .sweep s time => σ.enter rules (.sweeping s time)
  | .act index now answer =>
    match σ.workers[index]? with
    | none => σ
    | some w =>
      ⟨(w.act now answer σ.past).2, σ.workers.set index (w.act now answer σ.past).1⟩
  | .leave index => { σ with workers := σ.workers.eraseIdx index }
  | .reopen => { σ with workers := [] }

/-- Plays a schedule. -/
def play (rules : Rules) (σ : Scene) (schedule : List Choice) : Scene :=
  schedule.foldl (step rules) σ

/-- What every choice keeps, every schedule keeps. -/
theorem play_induction {rules : Rules} {I : Scene → Prop} {schedule : List Choice}
    (hstep : ∀ σ, ∀ choice ∈ schedule, I σ → I (σ.step rules choice)) {σ : Scene} (hσ : I σ) :
    I (σ.play rules schedule) := by
  induction schedule generalizing σ with
  | nil => exact hσ
  | cons choice rest ih =>
      refine ih (fun σ choice h => hstep σ choice (List.mem_cons_of_mem _ h)) ?_
      exact hstep σ choice List.mem_cons_self hσ

/-- A choice adds one call or one decision to the past, or nothing. -/
theorem step_past {rules : Rules} {I : Past → Prop} {choice : Choice}
    (hcalled : ∀ h who now c, choice.clock? = some now → I h → I (h.called who now c))
    (hasked : ∀ h who context answer, I h → I (h.asked who context answer)) {σ : Scene}
    (hσ : I σ.past) : I (σ.step rules choice).past := by
  have henter : ∀ w, I (σ.enter rules w).past := by
    intro w
    unfold enter
    split
    · exact hσ
    · exact hσ
  cases choice with
  | request now c =>
      simp only [step]
      split
      · exact hcalled σ.past .client now c rfl hσ
      · exact hσ
  | frame s conversation frame => exact henter _
  | sweep s time => exact henter _
  | act index now answer =>
      simp only [step]
      split
      next => exact hσ
      next w _ =>
        -- a pause and a look at the clock leave no entry
        simp only [Worker.act]
        split
        next => exact hσ
        next c next _ => exact hcalled σ.past w.actor now c rfl hσ
        next context next _ => exact hasked σ.past w.actor context answer hσ
        next => exact hσ
        next => exact hσ
  | leave index => exact hσ
  | reopen => exact hσ

/-- What every call and every decision keeps, every schedule keeps. -/
theorem play_past {rules : Rules} {I : Past → Prop} {schedule : List Choice}
    (hcalled : ∀ h who now c, (∃ choice ∈ schedule, choice.clock? = some now) → I h →
      I (h.called who now c))
    (hasked : ∀ h who context answer, I h → I (h.asked who context answer)) {σ : Scene}
    (hσ : I σ.past) : I (σ.play rules schedule).past := by
  refine play_induction (I := fun σ => I σ.past) ?_ hσ
  intro σ choice hchoice hσ
  refine step_past ?_ hasked hσ
  intro h who now c hclock hI
  exact hcalled h who now c ⟨choice, hchoice, hclock⟩ hI

end Scene

/-! ## A small scene

One conversation with one message, whose one action was handed out. -/

namespace Sample

/-- A moment in 2024. -/
def moment : Instant := ⟨1704067200, 0⟩

/-- The calls that lead there. -/
def calls : List (Instant × Store.Call) :=
  [(moment, .createConversation "Sign up" "chrome" none),
    (moment, .createMessage 1 .user "Sign up as Alice"),
    (moment, .createAction 1 .click ⟨none, some "#a", none, none, none⟩),
    (moment, .startAction 1)]

/-- A page with one element. -/
def page : Page :=
  ⟨"https://e.com", "Sign up", [⟨"a", "Go", "#a", none, none, none, true, false⟩], none⟩

/-- The work on the message starts over. -/
def task : ClientFrame := .task ⟨1, page, none⟩

/-- The action was carried out. -/
def result : ClientFrame := .result ⟨1, true, none, some 40, some page⟩

/-- A worker takes its next step; if it asks for a decision, there is none. -/
def act (index : Nat) (now : Instant) : Choice := .act index now (.error .emptyPage)

end Sample

end ControlPlane
