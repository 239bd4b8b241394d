/-
What passes through a connection.

A connection is followed from its beginning: first nobody reads or writes, and others
may already come with frames; then its loops begin. What happens is any list of
events; an event that cannot happen when its turn comes does nothing.

For each of the ways through a connection there is a balance that every step keeps
and that therefore holds of a whole run. What is in the queue before, and what is
accepted, is what the writer takes and what is in the queue after it. What the reader
waits with, and what it comes with, is what is accepted or refused of it and what it
waits with after it. What is read and can be decoded is what the handler is asked and
what it misses, and it misses nothing before the end. What the sink is given ends with
one Close frame as soon as the writer has parted.
-/
import ControlPlane.Proofs.Turn

set_option autoImplicit false

namespace ControlPlane

namespace Connection

/-! ## Runs -/

/-- A step that was made. -/
structure Made where
  /-- The connection before it. -/
  before : Connection
  /-- What happened. -/
  event : Event
  /-- The connection after it. -/
  after : Connection
  /-- What it brought about. -/
  effects : List Effect

/-- The steps that events make of a connection. -/
def made (c : Connection) : List Event → List Made
  | [] => []
  | event :: rest =>
    match c.step? event with
    | some (after, effects) => ⟨c, event, after, effects⟩ :: made after rest
    | none => made c rest

/-- The connection after events. -/
def ran (c : Connection) : List Event → Connection
  | [] => c
  | event :: rest =>
    match c.step? event with
    | some (after, _) => ran after rest
    | none => ran c rest

/-- A connection whose loops have begun after some events. -/
def begun (conversationId : Int) (sendBuffer : Nat) (early : List Event) : Connection :=
  ((fresh conversationId sendBuffer).ran early).start

/-- The steps of a connection from its beginning: those before its loops begin, and
those after it. -/
def lifetime (conversationId : Int) (sendBuffer : Nat) (early events : List Event) : List Made :=
  (fresh conversationId sendBuffer).made early ++
    (begun conversationId sendBuffer early).made events

/-- What holds of a connection and is kept by every step holds after a run, and each of
its steps begins where it holds. -/
theorem run_induction {P : Connection → Prop}
    (hkept : ∀ {c after : Connection} {event : Event} {effects : List Effect},
      Turn c event after effects → P c → P after)
    {c : Connection} (hholds : P c) (events : List Event) :
    P (c.ran events) ∧
      ∀ m ∈ c.made events, P m.before ∧ Turn m.before m.event m.after m.effects := by
  induction events generalizing c with
  | nil => exact ⟨hholds, by simp [made]⟩
  | cons event rest ih =>
      unfold ran made
      cases hstep : c.step? event with
      | none => exact ih hholds
      | some result =>
          obtain ⟨after, effects⟩ := result
          have hturn := turn_of_step hstep
          obtain ⟨hfinal, hsteps⟩ := ih (hkept hturn hholds)
          refine ⟨hfinal, ?_⟩
          rintro m (_ | later)
          · exact ⟨hholds, hturn⟩
          · exact hsteps m ‹_›

/-- If a step turns what a connection holds and what comes in into what goes out and
what the connection holds then, so does a run. -/
theorem run_balance {α : Type} {P : Connection → Prop} (held : Connection → List α)
    {coming going : Event → List Effect → List α}
    (hkept : ∀ {c after : Connection} {event : Event} {effects : List Effect},
      Turn c event after effects → P c → P after)
    (hlaw : ∀ {c after : Connection} {event : Event} {effects : List Effect},
      Turn c event after effects → P c →
        held c ++ coming event effects = going event effects ++ held after)
    {c : Connection} (hholds : P c) (events : List Event) :
    held c ++ (c.made events).flatMap (fun m => coming m.event m.effects) =
      (c.made events).flatMap (fun m => going m.event m.effects) ++ held (c.ran events) := by
  induction events generalizing c with
  | nil => simp [made, ran]
  | cons event rest ih =>
      unfold ran made
      cases hstep : c.step? event with
      | none => exact ih hholds
      | some result =>
          obtain ⟨after, effects⟩ := result
          have hturn := turn_of_step hstep
          simp only [List.flatMap_cons]
          rw [← List.append_assoc, hlaw hturn hholds, List.append_assoc, ih (hkept hturn hholds),
            List.append_assoc]

/-! ## What a step brings about -/

/-- What comes in with an event. -/
def read? : Event → Option Incoming
  | .arrive frame => some frame
  | .miss s => some (.text s)
  | _ => none

/-- The client frame that was read, if what came in is one. -/
def decoded? : Incoming → Option ClientFrame
  | .text s => (ClientFrame.read s).toOption
  | _ => none

/-- The frame that the handler is asked to answer. -/
def asked? : Effect → Option ClientFrame
  | .handle frame => some frame
  | _ => none

/-- The frame that is put into the queue. -/
def accepted? : Effect → Option ServerFrame
  | .accepted _ frame => some frame
  | _ => none

/-- The frame of a party's attempt that is decided. -/
def settled? (party : Party) : Effect → Option ServerFrame
  | .accepted p frame => if p = party then some frame else none
  | .refused p frame _ => if p = party then some frame else none
  | _ => none

/-- The frame that the sink is given. -/
def handed? : Effect → Option ServerFrame
  | .handed (.frame frame) => some frame
  | _ => none

/-- What the sink is given, where none stands for the Close frame. -/
def given? : Effect → Option (Option Outgoing)
  | .handed what => some (some what)
  | .parting => some none
  | _ => none

/-- All that steps brought about, of one kind. -/
def gather {α : Type} (kind : Effect → Option α) (steps : List Made) : List α :=
  steps.flatMap fun m => m.effects.filterMap kind

/-- The client frames that came in with steps. -/
def decodedIn (steps : List Made) : List ClientFrame :=
  steps.flatMap fun m => ((read? m.event).bind decoded?).toList

/-- The frames with which the reader came in steps: the answers to what it read. -/
def repliesIn (steps : List Made) : List ServerFrame :=
  steps.flatMap fun m => framesOf .reader (attempt? m.event).toList

/-! ## One step -/

section

variable {c after : Connection} {event : Event} {effects : List Effect}

/-- The queue gives what it was given, in the same order. -/
theorem Turn.queue (h : Turn c event after effects) :
    c.queue ++ effects.filterMap accepted? = effects.filterMap handed? ++ after.queue := by
  cases h with
  | accept | enter =>
      rw [release_eq]
      rfl
  | take hidle hnext =>
      rw [hnext]
      exact List.append_nil _
  | turnAway | giveUp =>
      rw [turnAway_eq]
      exact List.append_nil _
  | parted hquiet hparts hdone | gone hquiet hcloses hdone =>
      obtain rfl | rfl := hdone <;> exact List.append_nil _
  | _ => exact List.append_nil _

/-- The reader's attempts are decided in the order in which they begin. -/
theorem Turn.attempts (h : Turn c event after effects) (hproper : c.Proper) :
    framesOf .reader c.waiting ++ framesOf .reader (attempt? event).toList =
      effects.filterMap (settled? .reader) ++ framesOf .reader after.waiting := by
  cases h with
  | @turnAway _ party frame reason hbegun hfree hwhy =>
      rw [turnAway_eq, hbegun]
      cases party with
      | reader =>
          rw [hproper.idle_of_attentive (hfree rfl)]
          rfl
      | outside => exact List.append_nil _
  | @accept _ party frame hbegun hfree husable hfits =>
      rw [release_eq, hbegun]
      cases party with
      | reader =>
          rw [hproper.idle_of_attentive (hfree rfl)]
          rfl
      | outside => exact List.append_nil _
  | @wait _ party frame hbegun hfree husable =>
      rw [hbegun, Option.toList_some, ← framesOf_append]
      rfl
  | @enter party frame rest hfirst hfits htaken =>
      rw [release_eq, hfirst, framesOf_cons]
      cases party with
      | reader => exact List.append_nil _
      | outside => exact List.append_nil _
  | @giveUp _ party frame reason hbegun hread hmissed hwaiting =>
      rw [waitingFrame?_eq] at hwaiting
      rw [turnAway_eq, hbegun, framesOf_eraseP]
      cases party with
      | reader =>
          obtain ⟨rest, hfirst⟩ := List.head?_eq_some_iff.mp hwaiting
          rw [hfirst]
          exact List.append_nil _
      | outside => exact List.append_nil _
  | handle hreads hsound =>
      simp only [attempt?, rejection?, hsound]
      exact List.append_nil _
  | readOn hbegun | stopReader hbegun =>
      rw [hbegun]
      exact List.append_nil _
  | part hquiet => obtain rfl | rfl := hquiet <;> exact List.append_nil _
  | parted hquiet hparts hdone | gone hquiet hcloses hdone =>
      obtain rfl | rfl := hquiet <;> obtain rfl | rfl := hdone <;> exact List.append_nil _
  | close | miss | take | ping | sent => exact List.append_nil _

/-- What makes the reader come with a frame is not for the handler. -/
theorem decoded?_of_attempt {attempt : Party × ServerFrame}
    (hbegins : attempt? event = some attempt) : (read? event).bind decoded? = none := by
  cases event with
  | arrive frame =>
      cases frame with
      | text s =>
          cases hsound : ClientFrame.read s with
          | ok f => simp [attempt?, rejection?, hsound] at hbegins
          | error e => simp [read?, decoded?, hsound, Except.toOption]
      | _ => rfl
  | miss => cases hbegins
  | _ => rfl

/-- A text that is no client frame, and what is not a text, makes the reader come with
one error frame. -/
theorem attempt?_of_undecoded {frame : Incoming} (hdata : frame = .binary ∨ ∃ s, frame = .text s)
    (hundecoded : decoded? frame = none) :
    ∃ message, attempt? (.arrive frame) = some (.reader, .error message) := by
  obtain rfl | ⟨s, rfl⟩ := hdata
  · exact ⟨_, rfl⟩
  · cases hsound : ClientFrame.read s with
    | ok f => simp [decoded?, hsound, Except.toOption] at hundecoded
    | error e => exact ⟨_, by rw [attempt?, rejection?, hsound]; rfl⟩

/-- Only a text is for the handler. -/
theorem decoded?_of_no_text (hread : ∀ s, event ≠ .arrive (.text s))
    (hmissed : ∀ s, event ≠ .miss s) : (read? event).bind decoded? = none := by
  cases event with
  | arrive frame =>
      cases frame with
      | text s => exact absurd rfl (hread s)
      | _ => rfl
  | miss s => exact absurd rfl (hmissed s)
  | _ => rfl

/-- Others come without anything that is read. -/
theorem read?_of_offer {frame : ServerFrame} (hbegins : attempt? event = some (.outside, frame)) :
    read? event = none := by
  cases event with
  | arrive f =>
      rw [attempt?, Option.map_eq_some_iff] at hbegins
      obtain ⟨_, -, hwrong⟩ := hbegins
      cases hwrong
  | miss => cases hbegins
  | _ => rfl

/-- A client frame that comes in is put to the handler, unless the reader stops. -/
theorem Turn.reads (h : Turn c event after effects) :
    ((read? event).bind decoded?).toList = effects.filterMap asked? ∨
      (after.closed ∧ after.reader = .stopped) ∧ effects.filterMap asked? = [] ∧
        ((read? event).bind decoded?).toList.length ≤ 1 := by
  cases h with
  | handle hreads hsound =>
      refine .inl ?_
      simp only [read?, Option.bind_some, decoded?, hsound]
      rfl
  | miss hreads hclosed hsound =>
      refine .inr ⟨⟨rfl, rfl⟩, rfl, ?_⟩
      simp [read?, decoded?, hsound, Except.toOption]
  | turnAway hbegins | accept hbegins | wait hbegins =>
      rw [decoded?_of_attempt hbegins]
      exact .inl rfl
  | readOn _ hread hmissed | stopReader _ hread hmissed =>
      rw [decoded?_of_no_text hread hmissed]
      exact .inl rfl
  | giveUp _ hread hmissed =>
      rw [decoded?_of_no_text (fun s => hread (.text s)) hmissed]
      exact .inl rfl
  | part hquiet => obtain rfl | rfl := hquiet <;> exact .inl rfl
  | parted hquiet hparts hdone | gone hquiet hcloses hdone =>
      obtain rfl | rfl := hquiet <;> obtain rfl | rfl := hdone <;> exact .inl rfl
  | close | enter | take | ping | sent => exact .inl rfl

/-- A reader that neither reads nor waits, because it has not begun or has stopped,
stays so. -/
theorem Turn.deaf (h : Turn c event after effects) (hproper : c.Proper)
    (hdeaf : isAttentive c.reader = false) (hready : c.reader ≠ .replying) :
    after.reader = c.reader ∧ read? event = none ∧ effects.filterMap asked? = [] := by
  have hidle : framesOf .reader c.waiting = [] := hproper.idle hready
  cases h with
  | @turnAway _ party frame reason hbegins hfree | @accept _ party frame hbegins hfree
  | @wait _ party frame hbegins hfree =>
      cases party with
      | reader => simp [hdeaf] at hfree
      | outside => exact ⟨rfl, read?_of_offer hbegins, rfl⟩
  | @enter party frame rest hfirst =>
      cases party with
      | reader => simp [hfirst, framesOf_cons] at hidle
      | outside => exact ⟨rfl, rfl, rfl⟩
  | @giveUp _ party frame reason hbegins hread hmissed hwaits =>
      cases party with
      | reader => simp [waitingFrame?_eq, hidle] at hwaits
      | outside =>
          refine ⟨rfl, ?_, rfl⟩
          cases event with
          | arrive f => exact absurd rfl (hread f)
          | miss s => exact absurd rfl (hmissed s)
          | _ => rfl
  | handle hreads | miss hreads => simp [hreads, isAttentive] at hdeaf
  | readOn _ _ _ hattentive | stopReader _ _ _ hattentive => simp [hdeaf] at hattentive
  | part hquiet => obtain rfl | rfl := hquiet <;> exact ⟨rfl, rfl, rfl⟩
  | parted hquiet hparts hdone | gone hquiet hcloses hdone =>
      obtain rfl | rfl := hquiet <;> obtain rfl | rfl := hdone <;> exact ⟨rfl, rfl, rfl⟩
  | close | take | ping | sent => exact ⟨rfl, rfl, rfl⟩

/-- Before the writer has parted it gives the sink what there is to send, and the Close
frame when it parts. -/
theorem Turn.gives (h : Turn c event after effects) (hpresent : hasParted c.writer = false) :
    ∃ sent : List Outgoing, effects.filterMap given? =
      sent.map some ++ if hasParted after.writer then [none] else [] := by
  cases h with
  | @take frame rest hidle hnext => exact ⟨[.frame frame], rfl⟩
  | ping hidle => exact ⟨[.ping], rfl⟩
  | part => exact ⟨[], rfl⟩
  | sent hwrites => exact ⟨[], rfl⟩
  | parted hquiet hparts => simp [hparts, hasParted] at hpresent
  | gone hquiet hcloses => simp [hcloses, hasParted] at hpresent
  | turnAway | giveUp => exact ⟨[], by rw [turnAway_eq, if_neg (ne_true_of_eq_false hpresent)]; rfl⟩
  | accept | enter => exact ⟨[], by rw [release_eq, if_neg (ne_true_of_eq_false hpresent)]; rfl⟩
  | close | wait | handle | readOn | miss | stopReader =>
      exact ⟨[], (if_neg (ne_true_of_eq_false hpresent)).symm⟩

/-- A writer that has parted gives the sink nothing. -/
theorem Turn.gives_nothing (h : Turn c event after effects) (hgone : hasParted c.writer) :
    hasParted after.writer ∧ effects.filterMap given? = [] := by
  cases h with
  | take hidle | ping hidle => simp [hidle, hasParted] at hgone
  | sent hwrites => simp [hwrites, hasParted] at hgone
  | part hquiet hbusy => obtain hidle | ⟨_, hwrites⟩ := hbusy <;> simp [*, hasParted] at hgone
  | parted hquiet hparts hdone | gone hquiet hparts hdone =>
      obtain rfl | rfl := hdone <;> exact ⟨rfl, rfl⟩
  | turnAway | giveUp =>
      rw [turnAway_eq]
      exact ⟨hgone, rfl⟩
  | accept | enter =>
      rw [release_eq]
      exact ⟨hgone, rfl⟩
  | close | wait | handle | readOn | miss | stopReader => exact ⟨hgone, rfl⟩

/-- The reader goes on when its frame is accepted. -/
theorem Turn.goes_on (h : Turn c event after effects) {frame : ServerFrame}
    (haccepted : .accepted .reader frame ∈ effects) : after.reader = .reading := by
  cases h with
  | accept | enter =>
      simp only [List.mem_singleton, Effect.accepted.injEq] at haccepted
      rw [release_eq, ← haccepted.1]
      rfl
  | parted hquiet hparts hdone | gone hquiet hparts hdone =>
      obtain rfl | rfl := hdone <;> simp at haccepted
  | _ => simp at haccepted

/-- Who comes with a frame to a closed connection is refused at once. -/
theorem Turn.late (h : Turn c event after effects) (hclosed : c.closed) {party : Party}
    {frame : ServerFrame} (hbegins : attempt? event = some (party, frame)) :
    effects = [.refused party frame .connectionClosed] := by
  cases h with
  | turnAway hown hfree hwhy =>
      rw [hbegins] at hown
      cases hown
      obtain ⟨-, rfl⟩ | ⟨husable, -⟩ := hwhy
      · rfl
      · simp [hclosed] at husable
  | accept _ _ husable | wait _ _ husable => simp [hclosed] at husable
  | giveUp hnone | readOn hnone | stopReader hnone => simp [hnone] at hbegins
  | handle hreads hsound => simp [attempt?, rejection?, hsound] at hbegins
  | part hquiet | parted hquiet | gone hquiet => obtain rfl | rfl := hquiet <;> cases hbegins
  | close | enter | miss | take | ping | sent => cases hbegins

/-- A closed connection accepts only from those who wait already. -/
theorem Turn.accepts_late (h : Turn c event after effects) (hclosed : c.closed) {party : Party}
    {frame : ServerFrame} (haccepted : .accepted party frame ∈ effects) :
    attempt? event = none ∧ (party, frame) ∈ c.waiting := by
  cases h with
  | accept _ _ husable => simp [hclosed] at husable
  | enter hfirst =>
      simp only [List.mem_singleton, Effect.accepted.injEq] at haccepted
      obtain ⟨rfl, rfl⟩ := haccepted
      exact ⟨rfl, hfirst ▸ List.mem_cons_self⟩
  | parted hquiet hparts hdone | gone hquiet hparts hdone =>
      obtain rfl | rfl := hdone <;> simp at haccepted
  | _ => simp at haccepted

/-- The writer does not begin by itself. -/
theorem Turn.writer_unstarted (h : Turn c event after effects)
    (hunstarted : c.writer = .unstarted) : after.writer = .unstarted := by
  cases h with
  | turnAway | giveUp =>
      rw [turnAway_eq]
      exact hunstarted
  | accept | enter =>
      rw [release_eq]
      exact hunstarted
  | part hquiet hbusy => obtain hidle | ⟨_, hwrites⟩ := hbusy <;> simp [hunstarted] at *
  | take hidle | ping hidle | sent hidle | parted _ hidle | gone _ hidle =>
      simp [hunstarted] at hidle
  | close | wait | handle | readOn | miss | stopReader => exact hunstarted

end

/-! ## Runs of a connection -/

/-- A run leaves a proper connection proper. -/
theorem Proper.ran {c : Connection} (hproper : c.Proper) (events : List Event) :
    (c.ran events).Proper :=
  (run_induction Turn.proper hproper events).1

/-- A run keeps the size of the queue. -/
theorem ran_capacity (c : Connection) (events : List Event) :
    (c.ran events).capacity = c.capacity :=
  (run_induction (P := fun d => d.capacity = c.capacity)
    (fun hturn hsame => hturn.same.2.trans hsame) rfl events).1

/-- A reader that has not begun, or has stopped, reads nothing in a run. -/
theorem deaf_run {c : Connection} (hproper : c.Proper) (hdeaf : isAttentive c.reader = false)
    (hready : c.reader ≠ .replying) (events : List Event) :
    (c.ran events).reader = c.reader ∧ decodedIn (c.made events) = [] ∧
      gather asked? (c.made events) = [] := by
  have hkept := run_induction (P := fun d => d.Proper ∧ d.reader = c.reader)
    (fun hturn ⟨hproper, hsame⟩ =>
      ⟨hturn.proper hproper, (hturn.deaf hproper (hsame ▸ hdeaf) (hsame ▸ hready)).1.trans hsame⟩)
    ⟨hproper, rfl⟩ events
  have hsteps : ∀ m ∈ c.made events, read? m.event = none ∧ m.effects.filterMap asked? = [] :=
    fun m hmade => by
      obtain ⟨⟨hproper, hsame⟩, hturn⟩ := hkept.2 m hmade
      exact (hturn.deaf hproper (hsame ▸ hdeaf) (hsame ▸ hready)).2
  refine ⟨hkept.1.2, ?_, ?_⟩
  · rw [decodedIn, List.flatMap_eq_nil_iff]
    intro m hmade
    rw [(hsteps m hmade).1]
    rfl
  · rw [gather, List.flatMap_eq_nil_iff]
    exact fun m hmade => (hsteps m hmade).2

/-- Of the client frames that come in the handler is asked in order; it may miss the
last one, and then the connection is closed and the reader has stopped. -/
theorem reads_run {c : Connection} (hproper : c.Proper) (events : List Event) :
    ∃ missed : List ClientFrame,
      decodedIn (c.made events) = gather asked? (c.made events) ++ missed ∧ missed.length ≤ 1 ∧
        (missed ≠ [] → (c.ran events).closed ∧ (c.ran events).reader = .stopped) := by
  induction events generalizing c with
  | nil => exact ⟨[], rfl, Nat.zero_le 1, fun hwrong => absurd rfl hwrong⟩
  | cons event rest ih =>
      unfold made ran
      cases hstep : c.step? event with
      | none => exact ih hproper
      | some result =>
          obtain ⟨after, effects⟩ := result
          have hturn := turn_of_step hstep
          have hnext := hturn.proper hproper
          simp only [decodedIn, gather, List.flatMap_cons]
          obtain hanswered | ⟨⟨hclosed, hstopped⟩, hunasked, hsingle⟩ := hturn.reads
          · obtain ⟨missed, hlater, hfew, hlast⟩ := ih hnext
            refine ⟨missed, ?_, hfew, hlast⟩
            rw [decodedIn, gather] at hlater
            rw [hanswered, hlater, List.append_assoc]
          · -- the reader has stopped: nothing is read after this
            obtain ⟨hfinal, hnothing, hsilence⟩ :=
              deaf_run hnext (by rw [hstopped]; rfl) (by simp [hstopped]) rest
            rw [hstopped] at hfinal
            rw [decodedIn] at hnothing
            rw [gather] at hsilence
            refine ⟨((read? event).bind decoded?).toList, ?_, hsingle, fun _ => ?_⟩
            · rw [hunasked, hnothing, hsilence, List.append_nil, List.nil_append, List.nil_append]
            · exact ⟨(hnext.ran rest).stopped hfinal, hfinal⟩

/-- After it has parted the writer gives the sink nothing in a run. -/
theorem parted_run {c : Connection} (hgone : hasParted c.writer) (events : List Event) :
    hasParted (c.ran events).writer ∧ gather given? (c.made events) = [] := by
  have hkept := run_induction (P := fun d => hasParted d.writer)
    (fun hturn hgone => (hturn.gives_nothing hgone).1) hgone events
  refine ⟨hkept.1, ?_⟩
  rw [gather, List.flatMap_eq_nil_iff]
  intro m hmade
  obtain ⟨hgone, hturn⟩ := hkept.2 m hmade
  exact (hturn.gives_nothing hgone).2

/-- The sink is given what there is to send, and at the end one Close frame if the
writer has parted. -/
theorem gives_run {c : Connection} (hpresent : hasParted c.writer = false) (events : List Event) :
    ∃ sent : List Outgoing, gather given? (c.made events) =
      sent.map some ++ if hasParted (c.ran events).writer then [none] else [] := by
  induction events generalizing c with
  | nil => exact ⟨[], by rw [ran, if_neg (ne_true_of_eq_false hpresent)]; rfl⟩
  | cons event rest ih =>
      unfold made ran
      cases hstep : c.step? event with
      | none => exact ih hpresent
      | some result =>
          obtain ⟨after, effects⟩ := result
          have hturn := turn_of_step hstep
          obtain ⟨first, hgives⟩ := hturn.gives hpresent
          simp only [gather, List.flatMap_cons]
          rw [hgives]
          cases hgone : hasParted after.writer with
          | true =>
              obtain ⟨hfinal, hsilence⟩ := parted_run hgone rest
              rw [gather] at hsilence
              exact ⟨first, by rw [hsilence, hfinal, List.append_nil]⟩
          | false =>
              obtain ⟨later, hgives⟩ := ih hgone
              rw [gather] at hgives
              refine ⟨first ++ later, ?_⟩
              rw [hgives, List.map_append, List.append_assoc, List.append_assoc]
              rfl

/-! ## A connection from its beginning -/

/-- What a connection has done with what passed through it. -/
structure Orderly (sendBuffer : Nat) (steps : List Made) (last : Connection) : Prop where
  /-- The handler is asked to answer the client frames that come in, in order and once
  each; at most the last one it misses, because the connection was closed. -/
  asks : ∃ missed : List ClientFrame,
    decodedIn steps = gather asked? steps ++ missed ∧ missed.length ≤ 1 ∧
      (missed ≠ [] → last.closed ∧ last.reader = .stopped)
  /-- A text that cannot be decoded, or what is not a text, makes the reader come with one
  error frame. -/
  complains : ∀ m ∈ steps, ∀ frame, m.event = .arrive frame →
    (frame = .binary ∨ ∃ s, frame = .text s) → decoded? frame = none →
    ∃ message, attempt? m.event = some (.reader, .error message)
  /-- The frames with which the reader comes, an answer of the handler or a complaint
  about what it cannot decode, are each tried once and in order. -/
  replies : repliesIn steps = gather (settled? .reader) steps ++ framesOf .reader last.waiting
  /-- The reader goes on with what comes next when its frame is accepted. -/
  goesOn : ∀ m ∈ steps, ∀ frame, .accepted .reader frame ∈ m.effects → m.after.reader = .reading
  /-- The queue is never too long. -/
  room : last.queue.length ≤ max 1 sendBuffer
  /-- What is accepted is given to the sink in order, or is still in the queue. -/
  sends : gather accepted? steps = gather handed? steps ++ last.queue
  /-- Who comes when the connection is closed is refused, and what is accepted then was
  waiting before. -/
  late : ∀ m ∈ steps, m.before.closed → m.after.closed ∧
    (∀ party frame, attempt? m.event = some (party, frame) →
      m.effects = [.refused party frame .connectionClosed]) ∧
    ∀ party frame, .accepted party frame ∈ m.effects →
      attempt? m.event = none ∧ (party, frame) ∈ m.before.waiting
  /-- A writer that has stopped has given the sink one Close frame, after everything
  else. -/
  parts : last.writer = .stopped →
    ∃ sent : List Outgoing, gather given? steps = sent.map some ++ [none]

section

variable (conversationId : Int) (sendBuffer : Nat) (early : List Event)

/-- Before the loops begin neither of them does anything. -/
theorem early_unstarted : ((fresh conversationId sendBuffer).ran early).reader = .unstarted ∧
    ((fresh conversationId sendBuffer).ran early).writer = .unstarted := by
  have hproper := proper_fresh conversationId sendBuffer
  refine ⟨(deaf_run hproper rfl (by simp [fresh]) early).1, ?_⟩
  exact (run_induction (P := fun d => d.writer = .unstarted) Turn.writer_unstarted rfl early).1

theorem begun_proper : (begun conversationId sendBuffer early).Proper :=
  ((proper_fresh conversationId sendBuffer).ran early).start
    (early_unstarted conversationId sendBuffer early).1

/-- Every step of a connection is one of the ways of a step. -/
theorem turn_of_mem_lifetime (events : List Event) {m : Made}
    (hmade : m ∈ lifetime conversationId sendBuffer early events) :
    Turn m.before m.event m.after m.effects := by
  obtain hfirst | hlater := List.mem_append.mp hmade
  · exact ((run_induction Turn.proper (proper_fresh conversationId sendBuffer) early).2 m hfirst).2
  · exact ((run_induction Turn.proper (begun_proper conversationId sendBuffer early) events).2
      m hlater).2

/-- **Whatever happens to a connection, it neither loses order nor duplicates.** Before
its loops begin others may come with frames or close it; then both loops, those others,
the pings, the handler, the transport and the sink act in any order, and each of them
may fail at any step. -/
theorem lifetime_orderly (events : List Event) :
    Orderly sendBuffer (lifetime conversationId sendBuffer early events)
      ((begun conversationId sendBuffer early).ran events) := by
  have hproper₀ := proper_fresh conversationId sendBuffer
  have hproper := begun_proper conversationId sendBuffer early
  have hbegins := early_unstarted conversationId sendBuffer early
  constructor
  case asks =>
    -- nothing is read before the loops begin
    obtain ⟨-, hnothing, hsilence⟩ := deaf_run hproper₀ rfl (by simp [fresh]) early
    obtain ⟨missed, hlater, hfew, hlast⟩ := reads_run hproper events
    refine ⟨missed, ?_, hfew, hlast⟩
    rw [decodedIn] at hnothing hlater
    rw [gather] at hsilence hlater
    rw [lifetime, decodedIn, gather, List.flatMap_append, List.flatMap_append, hnothing, hsilence,
      hlater]
    rfl
  case complains =>
    intro m _ frame harrives hdata hundecoded
    rw [harrives]
    exact attempt?_of_undecoded hdata hundecoded
  case replies =>
    have hfirst := run_balance (fun c => framesOf .reader c.waiting) Turn.proper
      Turn.attempts hproper₀ early
    have hlater := run_balance (fun c => framesOf .reader c.waiting) Turn.proper
      Turn.attempts hproper events
    rw [lifetime, repliesIn, gather, List.flatMap_append, List.flatMap_append, List.append_assoc,
      ← hlater, ← List.append_assoc]
    exact congrArg (· ++ _) hfirst
  case goesOn =>
    intro m hmade frame haccepted
    exact (turn_of_mem_lifetime conversationId sendBuffer early events hmade).goes_on haccepted
  case room =>
    have hsize : ((begun conversationId sendBuffer early).ran events).capacity = max 1 sendBuffer :=
      (ran_capacity _ events).trans (ran_capacity (fresh conversationId sendBuffer) early)
    exact hsize ▸ (hproper.ran events).room
  case sends =>
    have hfirst := run_balance queue (P := fun _ => True) (fun _ _ => trivial)
      (fun hturn _ => hturn.queue) (c := fresh conversationId sendBuffer) trivial early
    have hlater := run_balance queue (P := fun _ => True) (fun _ _ => trivial)
      (fun hturn _ => hturn.queue) (c := begun conversationId sendBuffer early) trivial events
    rw [lifetime, gather, gather, List.flatMap_append, List.flatMap_append, List.append_assoc,
      ← hlater, ← List.append_assoc]
    exact congrArg (· ++ _) hfirst
  case late =>
    intro m hmade hclosed
    have hturn := turn_of_mem_lifetime conversationId sendBuffer early events hmade
    exact ⟨hturn.closed hclosed, fun _ _ hbegins => hturn.late hclosed hbegins,
      fun _ _ haccepted => hturn.accepts_late hclosed haccepted⟩
  case parts =>
    intro hstopped
    obtain ⟨first, hbefore⟩ := gives_run (c := fresh conversationId sendBuffer) rfl early
    obtain ⟨sent, hafter⟩ := gives_run (c := begun conversationId sendBuffer early) rfl events
    rw [hbegins.2] at hbefore
    rw [hstopped] at hafter
    rw [gather] at hbefore hafter
    refine ⟨first ++ sent, ?_⟩
    rw [lifetime, gather, List.flatMap_append, hbefore, hafter, List.map_append, List.append_assoc,
      List.append_assoc]
    rfl

end

end Connection

end ControlPlane
