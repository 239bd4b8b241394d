/-
What a step does to a connection.

There are many events, but few ways in which they change a connection: somebody
comes with a frame for the queue, somebody who waited gets room or is turned away,
the reader begins to answer, reads on or stops, the writer takes a frame, pings,
parts or goes. `Connection.Turn` lists these ways, each with what has to hold before,
and `turn_of_step` says that there are no others. Everything later that is said of a
step is a case analysis over this list; no event is looked at again.

From it follows what never fails: a connection is well formed (`Proper`), a closed
connection stays closed, and it keeps serving the same conversation.
-/
import ControlPlane.Connection.Basic

set_option autoImplicit false

namespace ControlPlane

namespace Connection

/-! ## Attempts to put a frame into the queue -/

/-- The frame that answers what comes in at once, without the handler: a complaint
about a text that is no frame, or about what is not a text. -/
def rejection? : Incoming → Option ServerFrame
  | .text s =>
    match ClientFrame.read s with
    | .ok _ => none
    | .error e => some (complaint e)
  | .binary => some binaryComplaint
  | _ => none

/-- Whoever begins with an event to put a frame into the queue, and the frame. -/
def attempt? : Event → Option (Party × ServerFrame)
  | .offer frame => some (.outside, frame)
  | .arrive frame => (rejection? frame).map (.reader, ·)
  | .answer reply => reply.map (.reader, ·)
  | _ => none

/-- Whether the reader is free for the next frame, or waits for the handler. -/
def isAttentive : Reader → Bool
  | .reading => true
  | .handling _ => true
  | _ => false

/-- Whether the writer has tried to part. -/
def hasParted : Writer → Bool
  | .parting => true
  | .closing => true
  | .stopped => true
  | _ => false

/-! ## The ways of a step -/

/-- What a step makes of a connection, and what it brings about. -/
inductive Turn (c : Connection) : Event → Connection → List Effect → Prop where
  /-- Somebody closes it. -/
  | close : Turn c .close c.close []
  /-- A party comes with a frame and is turned away; the reader comes only when it
  waits for nothing in the queue. -/
  | turnAway {event : Event} {party : Party} {frame : ServerFrame} {reason : Fault}
      (hbegun : attempt? event = some (party, frame))
      (hfree : party = .reader → isAttentive c.reader)
      (hwhy : c.closed ∧ reason = .connectionClosed ∨ c.closed = false ∧ c.writer = .stopped) :
      Turn c event (c.turnAway party) [.refused party frame reason]
  /-- A party comes with a frame, and there is room. -/
  | accept {event : Event} {party : Party} {frame : ServerFrame}
      (hbegun : attempt? event = some (party, frame))
      (hfree : party = .reader → isAttentive c.reader)
      (husable : c.closed = false) (hroom : c.hasRoom) :
      Turn c event ({ c with queue := c.queue ++ [frame] }.release party) [.accepted party frame]
  /-- A party comes with a frame and has to wait. -/
  | wait {event : Event} {party : Party} {frame : ServerFrame}
      (hbegun : attempt? event = some (party, frame))
      (hfree : party = .reader → isAttentive c.reader)
      (husable : c.closed = false) :
      Turn c event
        { c with
          waiting := c.waiting ++ [(party, frame)]
          reader := if party = .reader then .replying else c.reader } []
  /-- The one who has waited longest gets room. -/
  | enter {party : Party} {frame : ServerFrame} {rest : List (Party × ServerFrame)}
      (hfirst : c.waiting = (party, frame) :: rest) (hroom : c.hasRoom)
      (htaken : c.writer ≠ .stopped) :
      Turn c .enter ({ c with queue := c.queue ++ [frame], waiting := rest }.release party)
        [.accepted party frame]
  /-- A party gives up waiting, and the connection is closed. -/
  | giveUp {event : Event} {party : Party} {frame : ServerFrame} {reason : Fault}
      (hbegun : attempt? event = none) (hread : ∀ f, event ≠ .arrive f)
      (hmissed : ∀ s, event ≠ .miss s)
      (hwaits : c.waitingFrame? party = some frame) :
      Turn c event
        ({ c with waiting := c.waiting.eraseP (·.1 == party), closed := true }.turnAway party)
        [.refused party frame reason]
  /-- The reader has read a frame, and the handler is asked. -/
  | handle {s : String} {frame : ClientFrame} (hreads : c.reader = .reading)
      (hsound : ClientFrame.read s = .ok frame) :
      Turn c (.arrive (.text s)) { c with reader := .handling frame } [.handle frame]
  /-- The reader goes on without anything to send. -/
  | readOn {event : Event} (hbegun : attempt? event = none) (hread : ∀ s, event ≠ .arrive (.text s))
      (hmissed : ∀ s, event ≠ .miss s) (hattentive : isAttentive c.reader) :
      Turn c event { c with reader := .reading } []
  /-- The reader has read a frame of which the handler hears nothing. -/
  | miss {s : String} {frame : ClientFrame} (hreads : c.reader = .reading) (hclosed : c.closed)
      (hsound : ClientFrame.read s = .ok frame) : Turn c (.miss s) c.stopReader []
  /-- The reader stops. -/
  | stopReader {event : Event} (hbegun : attempt? event = none)
      (hread : ∀ s, event ≠ .arrive (.text s)) (hmissed : ∀ s, event ≠ .miss s)
      (hattentive : isAttentive c.reader) : Turn c event c.stopReader []
  /-- The writer takes the next frame. -/
  | take {frame : ServerFrame} {rest : List ServerFrame} (hidle : c.writer = .idle)
      (hnext : c.queue = frame :: rest) :
      Turn c .take { c with queue := rest, writer := .writing (.frame frame) }
        [.handed (.frame frame)]
  /-- The writer pings. -/
  | ping (hidle : c.writer = .idle) :
      Turn c .ping { c with writer := .writing .ping } [.handed .ping]
  /-- The writer has sent what it was sending. -/
  | sent {what : Outgoing} (hwrites : c.writer = .writing what) :
      Turn c .succeed { c with writer := .idle } [.sent what]
  /-- The writer parts. -/
  | part {event : Event} (hquiet : event = .quit ∨ event = .fail)
      (hbusy : c.writer = .idle ∨ ∃ what, c.writer = .writing what) :
      Turn c event { c with writer := .parting, closed := true } [.parting]
  /-- The writer has parted, and closes the sink. -/
  | parted {event : Event} {effects : List Effect} (hquiet : event = .succeed ∨ event = .fail)
      (hparts : c.writer = .parting) (hdone : effects = [.parted] ∨ effects = []) :
      Turn c event { c with writer := .closing } effects
  /-- The writer is done. -/
  | gone {event : Event} {effects : List Effect} (hquiet : event = .succeed ∨ event = .fail)
      (hcloses : c.writer = .closing) (hdone : effects = [.sinkClosed] ∨ effects = []) :
      Turn c event { c with writer := .stopped } effects

section

variable {c after : Connection} {event : Event} {effects : List Effect}

/-- Who comes with a frame is turned away, has its frame accepted, or waits. -/
theorem turn_of_offer {party : Party} {frame : ServerFrame}
    (hbegun : attempt? event = some (party, frame)) (hfree : party = .reader → isAttentive c.reader)
    (h : c.offer party frame = (after, effects)) : Turn c event after effects := by
  unfold offer at h
  split at h
  next hclosed =>
    cases h
    exact .turnAway hbegun hfree (.inl ⟨hclosed, rfl⟩)
  next husable =>
    have husable : c.closed = false := by simpa using husable
    split at h
    next hgone =>
      cases h
      exact .turnAway hbegun hfree (.inr ⟨husable, hgone⟩)
    next =>
      split at h
      next hroom =>
        cases h
        simp only [Bool.and_eq_true] at hroom
        exact .accept hbegun hfree husable hroom.2
      next =>
        cases h
        exact .wait hbegun hfree husable

/-- A frame that comes in has one of four consequences. -/
theorem turn_of_arrive {frame : Incoming} (h : c.arrive? frame = some (after, effects)) :
    Turn c (.arrive frame) after effects := by
  unfold arrive? at h
  by_cases hreads : c.reader = .reading
  · have hattentive : isAttentive c.reader := by rw [hreads]; rfl
    rw [if_pos hreads] at h
    -- a connection whose reader reads is not changed by setting the reader to that
    have hsame : { c with reader := .reading } = c := by rw [← hreads]
    cases frame with
    | text s =>
        simp only at h
        cases hsound : ClientFrame.read s with
        | ok f =>
            rw [hsound] at h
            cases h
            exact .handle hreads hsound
        | error e =>
            rw [hsound] at h
            have hbegun : attempt? (.arrive (.text s)) = some (.reader, complaint e) := by
              simp [attempt?, rejection?, hsound]
            exact turn_of_offer hbegun (fun _ => hattentive) (Option.some.inj h)
    | binary =>
        exact turn_of_offer rfl (fun _ => hattentive) (Option.some.inj h)
    | ping =>
        cases h
        have hturn : Turn c (.arrive .ping) { c with reader := .reading } [] :=
          .readOn rfl (by simp) (by simp) hattentive
        rwa [hsame] at hturn
    | pong =>
        cases h
        have hturn : Turn c (.arrive .pong) { c with reader := .reading } [] :=
          .readOn rfl (by simp) (by simp) hattentive
        rwa [hsame] at hturn
    | close =>
        cases h
        exact .stopReader rfl (by simp) (by simp) hattentive
    | broken =>
        cases h
        exact .stopReader rfl (by simp) (by simp) hattentive
    | ended =>
        cases h
        exact .stopReader rfl (by simp) (by simp) hattentive
  · rw [if_neg hreads] at h
    cases h

/-- A party that gives up finds the connection closed, or closes it. -/
theorem turn_of_giveUp {party : Party} {frame : ServerFrame} {reason : Fault} {d : Connection}
    (hbegun : attempt? event = none) (hread : ∀ f, event ≠ .arrive f)
    (hmissed : ∀ s, event ≠ .miss s) (hwaits : c.waitingFrame? party = some frame)
    (hclosed : d = c.close)
    (h : d.giveUp party frame reason = (after, effects)) : Turn c event after effects := by
  subst hclosed
  cases h
  exact .giveUp hbegun hread hmissed hwaits

/-- The writer comes to an end with what it was doing. -/
theorem turn_of_succeed (h : c.succeed? = some (after, effects)) :
    Turn c .succeed after effects := by
  unfold succeed? at h
  split at h
  next what hwrites =>
    cases h
    exact .sent hwrites
  next hparts =>
    cases h
    exact .parted (.inl rfl) hparts (.inl rfl)
  next hcloses =>
    cases h
    exact .gone (.inl rfl) hcloses (.inl rfl)
  next => cases h

/-- The writer's attempt fails, and it goes on to part, to close the sink or to stop. -/
theorem turn_of_fail (h : c.fail? = some (after, effects)) : Turn c .fail after effects := by
  unfold fail? at h
  split at h
  next what hwrites =>
    cases h
    exact .part (.inr rfl) (.inr ⟨what, hwrites⟩)
  next hparts =>
    cases h
    exact .parted (.inr rfl) hparts (.inr rfl)
  next hcloses =>
    cases h
    exact .gone (.inr rfl) hcloses (.inr rfl)
  next => cases h

/-- The handler's answer goes into the queue, if there is one. -/
theorem turn_of_answer {reply : Option ServerFrame} (h : c.answer? reply = some (after, effects)) :
    Turn c (.answer reply) after effects := by
  unfold answer? at h
  split at h
  next f hhandling =>
    have hattentive : isAttentive c.reader := by rw [hhandling]; rfl
    cases reply with
    | some frame =>
        exact turn_of_offer rfl (fun _ => hattentive) (Option.some.inj h)
    | none =>
        cases h
        exact .readOn rfl (by simp) (by simp) hattentive
  next => cases h

/-- A frame enters the queue when it is the first to wait and there is room. -/
theorem turn_of_enter (h : c.enter? = some (after, effects)) : Turn c .enter after effects := by
  unfold enter? at h
  split at h
  next => cases h
  next party frame rest hfirst =>
    split at h
    next hroom =>
      cases h
      simp only [Bool.and_eq_true, bne_iff_ne] at hroom
      exact .enter hfirst hroom.1 hroom.2
    next => cases h

/-- A text is missed when the connection is closed after it has been read. -/
theorem turn_of_miss {text : String} (h : c.miss? text = some (after, effects)) :
    Turn c (.miss text) after effects := by
  unfold miss? at h
  split at h
  next hlate =>
    split at h
    next frame hsound =>
      cases h
      exact .miss hlate.1 hlate.2 hsound
    next => cases h
  next => cases h

/-- A reader that is not waiting for room stops when the connection is closed. -/
theorem turn_of_leave (h : c.leave? = some (after, effects)) : Turn c .leave after effects := by
  unfold leave? at h
  split at h
  next hreads =>
    split at h
    next =>
      cases h
      exact .stopReader rfl (by simp) (by simp) (by rw [hreads]; rfl)
    next => cases h
  next f hhandling =>
    split at h
    next =>
      cases h
      exact .stopReader rfl (by simp) (by simp) (by rw [hhandling]; rfl)
    next => cases h
  next => cases h

/-- A writer that is idle takes the first frame of the queue. -/
theorem turn_of_take (h : c.take? = some (after, effects)) : Turn c .take after effects := by
  unfold take? at h
  split at h
  next hidle =>
    split at h
    next => cases h
    next frame rest hnext =>
      cases h
      exact .take hidle hnext
  next => cases h

/-- **Every step is one of these.** -/
theorem turn_of_step (h : c.step? event = some (after, effects)) : Turn c event after effects := by
  cases event with
  | close =>
      cases h
      exact .close
  | offer frame =>
      exact turn_of_offer rfl (by simp) (Option.some.inj h)
  | enter => exact turn_of_enter h
  | refuse party =>
      simp only [step?, refuse?] at h
      split at h
      next frame hwaits =>
        split at h
        next hclosed =>
          have hsame : c = c.close := by rw [close, ← hclosed]
          exact turn_of_giveUp rfl (by simp) (by simp) hwaits hsame (by simpa using h)
        next => cases h
      next => cases h
  | stall party =>
      simp only [step?, stall?] at h
      split at h
      next frame hwaits =>
        exact turn_of_giveUp rfl (by simp) (by simp) hwaits rfl (by simpa using h)
      next => cases h
  | arrive frame => exact turn_of_arrive h
  | miss text => exact turn_of_miss h
  | lapse =>
      simp only [step?, lapse?] at h
      split at h
      next hreads =>
        cases h
        exact .stopReader rfl (by simp) (by simp) (by rw [hreads]; rfl)
      next => cases h
  | answer reply => exact turn_of_answer h
  | leave => exact turn_of_leave h
  | take => exact turn_of_take h
  | ping =>
      simp only [step?, ping?] at h
      split at h
      next hidle =>
        cases h
        exact .ping hidle
      next => cases h
  | quit =>
      simp only [step?, quit?] at h
      split at h
      next hidle =>
        cases h
        exact .part (.inl rfl) (.inl hidle.1)
      next => cases h
  | succeed => exact turn_of_succeed h
  | fail => exact turn_of_fail h

end

/-! ## Who waits with what -/

/-- The frames with which a party comes or waits, the first one at the head. -/
def framesOf (party : Party) (attempts : List (Party × ServerFrame)) : List ServerFrame :=
  (attempts.filter (·.1 == party)).map (·.2)

theorem framesOf_append (party : Party) (l r : List (Party × ServerFrame)) :
    framesOf party (l ++ r) = framesOf party l ++ framesOf party r := by
  rw [framesOf, List.filter_append, List.map_append, framesOf, framesOf]

theorem framesOf_cons (party : Party) (first : Party × ServerFrame)
    (rest : List (Party × ServerFrame)) :
    framesOf party (first :: rest) =
      if first.1 = party then first.2 :: framesOf party rest else framesOf party rest := by
  by_cases hown : first.1 = party <;> simp [framesOf, hown]

theorem waitingFrame?_eq (c : Connection) (party : Party) :
    c.waitingFrame? party = (framesOf party c.waiting).head? := by
  rw [waitingFrame?, framesOf, List.head?_map, List.head?_filter]

/-- A party that gives up waits no longer with its first frame; the others wait as
before. -/
theorem framesOf_eraseP (party other : Party) (l : List (Party × ServerFrame)) :
    framesOf other (l.eraseP (·.1 == party)) =
      if party = other then (framesOf other l).tail else framesOf other l := by
  induction l with
  | nil => simp [framesOf]
  | cons first rest ih =>
      by_cases hown : first.1 = party
      · rw [List.eraseP_cons_of_pos (by simpa using hown), framesOf_cons, hown]
        by_cases hsame : party = other
        · rw [if_pos hsame, if_pos hsame, List.tail_cons]
        · rw [if_neg hsame, if_neg hsame]
      · rw [List.eraseP_cons_of_neg (by simpa using hown), framesOf_cons, ih, framesOf_cons]
        by_cases hsame : party = other
        · rw [if_pos hsame, if_pos hsame, if_neg (hsame ▸ hown), if_neg (hsame ▸ hown)]
        · rw [if_neg hsame, if_neg hsame]

/-! ## What never fails -/

/-- A connection as its loops leave it: the queue is no longer than it may be, the
reader waits with one frame or with none, and who has stopped has closed the
connection. -/
structure Proper (c : Connection) : Prop where
  /-- The queue is no longer than it may be. -/
  room : c.queue.length ≤ c.capacity
  /-- The reader waits with one frame while it is replying, and else with none. -/
  waits : framesOf .reader c.waiting = [] ∨
    c.reader = .replying ∧ ∃ frame, framesOf .reader c.waiting = [frame]
  /-- A reader that has stopped has closed the connection. -/
  stopped : c.reader = .stopped → c.closed
  /-- So has a writer that has parted. -/
  parted : hasParted c.writer → c.closed

/-- A connection that is not in use yet is proper. -/
theorem proper_fresh (conversationId : Int) (sendBuffer : Nat) :
    (fresh conversationId sendBuffer).Proper := by
  constructor <;> simp [fresh, framesOf, hasParted]

/-- A reader that is free has nothing that waits in the queue. -/
theorem Proper.idle {c : Connection} (hproper : c.Proper) (hbusy : c.reader ≠ .replying) :
    framesOf .reader c.waiting = [] :=
  hproper.waits.resolve_right fun hwaits => hbusy hwaits.1

theorem Proper.idle_of_attentive {c : Connection} (hproper : c.Proper)
    (hattentive : isAttentive c.reader) : framesOf .reader c.waiting = [] := by
  refine hproper.idle fun hreplying => ?_
  rw [hreplying] at hattentive
  cases hattentive

/-- A connection that is proper stays so when its loops begin. -/
theorem Proper.start {c : Connection} (hproper : c.Proper) (hunstarted : c.reader = .unstarted) :
    c.start.Proper where
  room := hproper.room
  waits := .inl (hproper.idle (by simp [hunstarted]))
  stopped := by simp [Connection.start]
  parted := by simp [Connection.start, hasParted]

theorem release_eq (c : Connection) (party : Party) :
    c.release party = { c with reader := if party = .reader then .reading else c.reader } := by
  cases party <;> rfl

theorem turnAway_eq (c : Connection) (party : Party) :
    c.turnAway party =
      { c with
        reader := if party = .reader then .stopped else c.reader
        closed := party == .reader || c.closed } := by
  cases party <;> rfl

section

variable {c after : Connection} {event : Event} {effects : List Effect}

/-- A step keeps the conversation and the size of the queue. -/
theorem Turn.same (h : Turn c event after effects) :
    after.conversationId = c.conversationId ∧ after.capacity = c.capacity := by
  cases h with
  | turnAway | giveUp => simp only [turnAway_eq, and_self]
  | accept | enter => simp only [release_eq, and_self]
  | _ => exact ⟨rfl, rfl⟩

/-- No step opens a closed connection. -/
theorem Turn.closed (h : Turn c event after effects) (hclosed : c.closed) : after.closed := by
  cases h with
  | turnAway => simp [turnAway_eq, hclosed]
  | giveUp => simp [turnAway_eq]
  | accept | wait | enter => simpa [release_eq] using hclosed
  | close | miss | stopReader | part => rfl
  | handle | readOn | take | ping | sent | parted | gone => exact hclosed

/-- The queue grows only where there is room. -/
theorem Turn.room (h : Turn c event after effects) (hroom : c.queue.length ≤ c.capacity) :
    after.queue.length ≤ after.capacity := by
  cases h with
  | accept hbegun hfree husable hfits | enter hfirst hfits htaken =>
      have hfits : c.queue.length < c.capacity := by simpa [hasRoom] using hfits
      simp only [release_eq, List.length_append, List.length_singleton]
      omega
  | take hidle hnext =>
      rw [hnext, List.length_cons] at hroom
      exact Nat.le_of_succ_le hroom
  | turnAway | giveUp => simpa only [turnAway_eq] using hroom
  | _ => exact hroom

/-- The reader waits with one frame at most, and only while it says so. -/
theorem Turn.waits (h : Turn c event after effects) (hproper : c.Proper) :
    framesOf .reader after.waiting = [] ∨
      after.reader = .replying ∧ ∃ frame, framesOf .reader after.waiting = [frame] := by
  cases h with
  | @wait _ party frame hbegun hfree husable =>
      simp only [framesOf_append, framesOf_cons]
      cases party with
      | reader =>
          have hidle := hproper.idle_of_attentive (hfree rfl)
          exact .inr ⟨rfl, frame, by rw [hidle]; rfl⟩
      | outside => simpa [framesOf] using hproper.waits
  | @enter party frame rest hfirst hfits htaken =>
      have hwaits := hproper.waits
      rw [hfirst, framesOf_cons] at hwaits
      rw [release_eq]
      cases party with
      | reader =>
          -- the frame that gets room is the only one with which the reader waited
          simp only [if_true, List.cons_ne_nil, false_or, List.cons.injEq] at hwaits
          obtain ⟨-, _, -, hnothing⟩ := hwaits
          exact .inl hnothing
      | outside => simpa using hwaits
  | @giveUp _ party frame reason hbegun hread hmissed hwaiting =>
      rw [turnAway_eq]
      simp only [framesOf_eraseP]
      cases party with
      | reader =>
          obtain hidle | ⟨-, _, hsingle⟩ := hproper.waits
          · exact .inl (by simp [hidle])
          · exact .inl (by simp [hsingle])
      | outside => simpa using hproper.waits
  | @turnAway _ party frame reason hbegun hfree hwhy =>
      rw [turnAway_eq]
      cases party with
      | reader => exact .inl (hproper.idle_of_attentive (hfree rfl))
      | outside => simpa using hproper.waits
  | @accept _ party frame hbegun hfree husable hfits =>
      rw [release_eq]
      cases party with
      | reader => exact .inl (hproper.idle_of_attentive (hfree rfl))
      | outside => simpa using hproper.waits
  | handle hreads | miss hreads => exact .inl (hproper.idle (by simp [hreads]))
  | readOn hbegun hread hmissed hattentive | stopReader hbegun hread hmissed hattentive =>
      exact .inl (hproper.idle_of_attentive hattentive)
  | close | take | ping | sent | part | parted | gone => exact hproper.waits

/-- A reader that has stopped has closed the connection. -/
theorem Turn.stopped_closed (h : Turn c event after effects)
    (hstopped : c.reader = .stopped → c.closed) : after.reader = .stopped → after.closed := by
  cases h with
  | @turnAway _ party =>
      rw [turnAway_eq]
      cases party with
      | reader => simp
      | outside => simpa using hstopped
  | giveUp => simp [turnAway_eq]
  | @accept _ party | @enter party =>
      rw [release_eq]
      cases party with
      | reader => simp
      | outside => exact hstopped
  | @wait _ party =>
      cases party with
      | reader => simp
      | outside => exact hstopped
  | handle | readOn => simp
  | close | miss | stopReader | part => exact fun _ => rfl
  | take | ping | sent | parted | gone => exact hstopped

/-- A writer that has parted has closed the connection. -/
theorem Turn.parted_closed (h : Turn c event after effects)
    (hparted : hasParted c.writer → c.closed) : hasParted after.writer → after.closed := by
  cases h with
  | turnAway =>
      rw [turnAway_eq]
      exact fun hgone => by simp [hparted hgone]
  | giveUp => simp [turnAway_eq]
  | accept | enter => simpa [release_eq] using hparted
  | take | ping | sent => simp [hasParted]
  | parted hquiet hparts | gone hquiet hparts => exact fun _ => hparted (by rw [hparts]; rfl)
  | close | miss | stopReader | part => exact fun _ => rfl
  | wait | handle | readOn => exact hparted

/-- **Every step leaves a proper connection proper.** -/
theorem Turn.proper (h : Turn c event after effects) (hproper : c.Proper) : after.Proper :=
  ⟨h.room hproper.room, h.waits hproper, h.stopped_closed hproper.stopped,
    h.parted_closed hproper.parted⟩

end

end Connection

end ControlPlane
