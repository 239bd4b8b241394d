/-
When sweeps are made.

When the loop of sweeps is woken, it looks at the clock to see whether the planned time has come. If
so, it plans the next sweep, looks at the clock once more, and makes a sweep as of that time. These
are the events of a tick (`Event`). Written down as work that looks, plans and sweeps, and does
nothing else (`Loop.work`), the loop is the same procedure (`Loop.procedure_work`); and a sweep does
not look at the clock (`sweepAt_blind`), so the times that the procedure reads are those of the
events (`Work.does_of_reads`). What is planned depends on these times and on nothing else, whatever
the store answers and whatever others do meanwhile.

The loop is as it was when it made its last plan: what is planned is the first occurrence after the
time that was read then (`Due`). As long as that has not come, no occurrence has passed since. When
it has come, everything that has passed until the new plan is before the sweep that follows, and
everything else is after the new plan. So no occurrence is missed, however late or rarely the loop
is woken, and every sweep has an occurrence of its own (`occurrences_served`).
-/
import ControlPlane.Proofs.Chronology
import ControlPlane.Proofs.HandlerPhases
import ControlPlane.Proofs.Requesting
import ControlPlane.Sweep.Loop

set_option autoImplicit false

namespace ControlPlane

namespace Instant

variable {t u v : Instant}

theorem not_before_self (t : Instant) : t.before t = false := by
  rw [before_eq_false_iff]
  omega

/-- What is before an earlier time is before a later one. -/
theorem before_trans (h : t.before u = true) (h' : u.before v = true) : t.before v = true := by
  rw [before_iff] at h h' ⊢
  omega

/-- What is before a time is before every time that is not before that. -/
theorem before_of_before_of_not_before (h : t.before u = true) (h' : v.before u = false) :
    t.before v = true := by
  rw [before_iff] at h ⊢
  rw [before_eq_false_iff] at h'
  omega

/-- What is not before a time is not before any that is not after that. -/
theorem not_before_trans (h : u.before t = false) (h' : v.before u = false) :
    v.before t = false := by
  rw [before_eq_false_iff] at h h' ⊢
  omega

/-- What is not after a time is before all that it is before. -/
theorem before_of_not_before_of_before (h : u.before t = false) (h' : u.before v = true) :
    t.before v = true := by
  rw [before_iff] at h' ⊢
  rw [before_eq_false_iff] at h
  omega

end Instant

/-! ## What a program reads on the clock -/

namespace Program

variable {α β : Type}

/-- A program may end with a result after it has read some times on the clock, whatever the store
answers and whatever is decided on the way. -/
def Reads : Program α → List Instant → α → Prop
  | done a, times, b => times = [] ∧ a = b
  | call _ next, times, b => ∃ r, Reads (next r) times b
  | decide _ next, times, b => ∃ r, Reads (next r) times b
  | pause _ next, times, b => Reads (next ()) times b
  | clock next, times, b => ∃ t rest, times = t :: rest ∧ Reads (next t) rest b

/-- The program never looks at the clock. -/
def Blind : Program α → Prop
  | done _ => True
  | call _ next => ∀ r, Blind (next r)
  | decide _ next => ∀ r, Blind (next r)
  | pause _ next => Blind (next ())
  | clock _ => False

/-- Two programs that never look at the clock do not do so one after the other. -/
theorem Blind.bind {p : Program α} {f : α → Program β} (hp : p.Blind) (hf : ∀ a, (f a).Blind) :
    (p.bind f).Blind := by
  induction p with
  | done a => exact hf a
  | call c next ih => exact fun r => ih r (hp r)
  | decide context next ih => exact fun r => ih r (hp r)
  | pause ms next ih => exact ih () hp
  | clock next => exact hp.elim

/-- A program that never looks at the clock reads nothing. -/
theorem Blind.reads {p : Program α} (hp : p.Blind) {times : List Instant} {a : α}
    (h : p.Reads times a) : times = [] := by
  induction p with
  | done b => exact h.1
  | call c next ih =>
      obtain ⟨r, hr⟩ := h
      exact ih r (hp r) hr
  | decide context next ih =>
      obtain ⟨r, hr⟩ := h
      exact ih r (hp r) hr
  | pause ms next ih => exact ih () hp h
  | clock next => exact hp.elim

/-- What two programs read one after the other is what the first one reads, and then the second. -/
theorem Reads.bind {p : Program α} {f : α → Program β} {times : List Instant} {b : β}
    (h : (p.bind f).Reads times b) :
    ∃ first a rest, times = first ++ rest ∧ p.Reads first a ∧ (f a).Reads rest b := by
  induction p generalizing times with
  | done a => exact ⟨[], a, times, rfl, ⟨rfl, rfl⟩, h⟩
  | call c next ih =>
      obtain ⟨r, hr⟩ := h
      obtain ⟨first, a, rest, htimes, hp, hf⟩ := ih r hr
      exact ⟨first, a, rest, htimes, ⟨r, hp⟩, hf⟩
  | decide context next ih =>
      obtain ⟨r, hr⟩ := h
      obtain ⟨first, a, rest, htimes, hp, hf⟩ := ih r hr
      exact ⟨first, a, rest, htimes, ⟨r, hp⟩, hf⟩
  | pause ms next ih => exact ih () h
  | clock next ih =>
      obtain ⟨t, rest, rfl, hr⟩ := h
      obtain ⟨first, a, rest, rfl, hp, hf⟩ := ih t hr
      exact ⟨t :: first, a, rest, rfl, ⟨t, first, rfl, hp⟩, hf⟩

/-- What a program that asks for no decision reads in a world is the time of that world. -/
theorem Only.reads_run {P : Store.Call → Prop} {p : Program α} (hp : p.Only P) (w : World) :
    ∃ times, (∀ t ∈ times, t = w.now) ∧ p.Reads times (p.run w).1 := by
  induction p generalizing w with
  | done a => exact ⟨[], fun _ h => absurd h List.not_mem_nil, rfl, rfl⟩
  | call c next ih =>
      obtain ⟨times, htimes, hreads⟩ := ih _ (hp.2 (w.call c).1) (w.call c).2
      exact ⟨times, htimes, _, hreads⟩
  | decide context next => exact hp.elim
  | pause ms next ih => exact ih () hp { w with waited := w.waited + ms }
  | clock next ih =>
      obtain ⟨times, htimes, hreads⟩ := ih w.now (hp w.now) w
      refine ⟨w.now :: times, ?_, w.now, times, rfl, hreads⟩
      intro t ht
      rcases List.mem_cons.1 ht with rfl | ht
      · rfl
      · exact htimes t ht

end Program

namespace Procedure

variable {α β : Type}

/-- The procedure never looks at the clock. -/
def Blind (p : Procedure α) : Prop := Program.Blind p.run

theorem blind_call (c : Store.Call) : (call c).Blind := fun _ => trivial

/-- Two procedures that never look at the clock do not do so one after the other. -/
theorem blind_bind {p : Procedure α} {f : α → Procedure β} (hp : p.Blind) (hf : ∀ a, (f a).Blind) :
    (p >>= f).Blind := by
  refine Program.Blind.bind hp fun r => ?_
  cases r with
  | ok a => exact hf a
  | error e => exact trivial

theorem blind_orFail (f : Fault) (o : Option α) : (orFail f o).Blind := by
  cases o with
  | some a => exact trivial
  | none => exact trivial

end Procedure

namespace Sweep

open Procedure

/-- The pass over the messages goes by the time at which the sweep has begun. -/
theorem expireMessages_blind (messages : List Message) (report : Report) :
    (expireMessages report messages).Blind := by
  induction messages generalizing report with
  | nil => exact trivial
  | cons m rest ih =>
      unfold expireMessages
      refine blind_bind (blind_call _) fun skipped => blind_bind (blind_call _) fun ended => ?_
      split
      · exact ih report
      · exact ih _

/-- So does the pass over the actions. -/
theorem timeOutActions_blind (actions : List Action) (report : Report) :
    (timeOutActions report actions).Blind := by
  induction actions generalizing report with
  | nil => exact trivial
  | cons a rest ih =>
      unfold timeOutActions
      refine blind_bind (blind_call _) fun forced => ?_
      cases forced with
      | false => exact ih report
      | true => exact blind_bind (blind_call _) fun found => ih _

/-- A sweep goes by the time at which it has begun. -/
theorem sweepAt_blind (s : Settings.Sweeper) (now : Instant) : (sweepAt s now).Blind := by
  unfold sweepAt
  refine blind_bind (blind_orFail _ _) fun messageCutoff => ?_
  refine blind_bind (blind_call _) fun messages => ?_
  refine blind_bind (expireMessages_blind messages .empty) fun report => ?_
  refine blind_bind (blind_orFail _ _) fun actionCutoff => ?_
  exact blind_bind (blind_call _) fun actions => timeOutActions_blind actions report

/-! ## What the loop does -/

/-- What clients are told after a sweep. -/
def told : Except Fault Report → List Notice
  | .ok report => report.notices
  | .error _ => []

/-- One thing that the loop does while it is awake. -/
inductive Event where
  /-- It looks at the clock, which shows this time. -/
  | look (t : Instant)
  /-- It plans the next sweep, from this time on. -/
  | plan (t : Instant)
  /-- It makes a sweep as of this time (`sweepAt`). -/
  | sweep (t : Instant)
deriving DecidableEq, Repr

namespace Event

/-- The time that is read on the clock. A sweep goes by a time that was read before. -/
def reading? : Event → Option Instant
  | look t => some t
  | plan t => some t
  | sweep _ => none

/-- The time from which on the next sweep is planned. -/
def planned? : Event → Option Instant
  | plan t => some t
  | _ => none

/-- The time as of which a sweep is made. -/
def swept? : Event → Option Instant
  | sweep t => some t
  | _ => none

end Event

/-- What the loop is to do, thing by thing, until there is a result. -/
inductive Work (α : Type) where
  /-- The result is there. -/
  | done (a : α)
  /-- Looks at the clock. -/
  | look (next : Instant → Work α)
  /-- Plans the next sweep. -/
  | plan (next : Plan → Work α)
  /-- Makes a sweep, and catches its fault. -/
  | sweep (t : Instant) (next : Except Fault Report → Work α)

namespace Work

variable {α : Type} {l : Loop}

/-- The procedure that does the work for a loop. -/
def procedure (l : Loop) : Work α → Procedure α
  | done a => pure a
  | look next => do (next (← Procedure.now)).procedure l
  | plan next => do (next (← Sweep.plan l.next)).procedure l
  | sweep t next => do (next (← (sweepAt l.settings t).attempt)).procedure l

/-- The work may consist of some events and come to a result, whatever the store answers. -/
def Does (l : Loop) : Work α → List Event → α → Prop
  | done a, events, b => events = [] ∧ a = b
  | look next, events, b => ∃ t rest, events = .look t :: rest ∧ (next t).Does l rest b
  | plan next, events, b => ∃ t rest, events = .plan t :: rest ∧ (next (l.next t)).Does l rest b
  | sweep t next, events, b => ∃ r rest, events = .sweep t :: rest ∧
      (sweepAt l.settings t).run.Reads [] r ∧ (next r).Does l rest b

/-- What the procedure reads are the times of the events of its work: a sweep reads nothing, and its
fault is caught. -/
theorem does_of_reads {w : Work α} {times : List Instant} {r : Except Fault α}
    (h : (w.procedure l).run.Reads times r) :
    ∃ events a, r = .ok a ∧ events.filterMap Event.reading? = times ∧ w.Does l events a := by
  induction w generalizing times with
  | done a =>
      obtain ⟨rfl, rfl⟩ := h
      exact ⟨[], a, rfl, rfl, rfl, rfl⟩
  | look next ih =>
      obtain ⟨t, rest, rfl, h⟩ := h
      obtain ⟨events, a, rfl, rfl, hdoes⟩ := ih t h
      exact ⟨.look t :: events, a, rfl, rfl, t, events, rfl, hdoes⟩
  | plan next ih =>
      obtain ⟨t, rest, rfl, h⟩ := h
      obtain ⟨events, a, rfl, rfl, hdoes⟩ := ih (l.next t) h
      exact ⟨.plan t :: events, a, rfl, rfl, t, events, rfl, hdoes⟩
  | sweep t next ih =>
      obtain ⟨_, caught, rest, rfl, hcaught, hrest⟩ := Program.Reads.bind h
      obtain ⟨first, swept, _, rfl, hswept, rfl, rfl⟩ := Program.Reads.bind hcaught
      obtain rfl := (sweepAt_blind l.settings t).reads hswept
      obtain ⟨events, a, rfl, rfl, hdoes⟩ := ih swept hrest
      exact ⟨.sweep t :: events, a, rfl, rfl, swept, events, rfl, hswept, hdoes⟩

end Work

/-! ## The loop -/

/-- The work of the loop when it is woken and a sweep is planned for some time: when that time has
come, the next one is planned and a sweep is made, each by a look of its own at the clock. -/
def Work.due (due : Instant) : Work (Plan × List Notice) :=
  .look fun look =>
    if look.before due then .done (some due, [])
    else .plan fun planned => .look fun started => .sweep started fun r => .done (planned, told r)

namespace Loop

/-- What the loop does when it is woken. -/
def step (l : Loop) : Procedure (Plan × List Notice) :=
  if l.settings.enabled then check l.next l.settings l.planned else pure (l.planned, [])

/-- What the loop does when it is woken, thing by thing. -/
def work (l : Loop) : Work (Plan × List Notice) :=
  if l.settings.enabled then l.planned.elim (.done (none, [])) .due else .done (l.planned, [])

/-- **The loop looks, plans and sweeps**, and does nothing else. -/
theorem procedure_work (l : Loop) : l.work.procedure l = l.step := by
  unfold work step
  split
  · cases l.planned with
    | none => rfl
    | some due =>
        unfold check
        refine congrArg (Procedure.now >>= ·) (funext fun look => ?_)
        by_cases hbefore : look.before due = true
        · simp only [if_pos hbefore]
          rfl
        · simp only [if_neg hbefore]
          refine congrArg (Sweep.plan l.next >>= ·) (funext fun planned => ?_)
          refine congrArg (Procedure.now >>= ·) (funext fun started => ?_)
          refine congrArg ((sweepAt l.settings started).attempt >>= ·) (funext fun r => ?_)
          cases r with
          | ok report => rfl
          | error e => rfl
  · rfl

/-- The loop afterwards. -/
def after (l : Loop) (r : Plan × List Notice) : Loop := { l with planned := r.1 }

end Loop

/-- The loop is woken once. -/
structure Tick where
  /-- What the clock shows. -/
  time : Instant
  /-- What the loop does until it sleeps again. -/
  events : List Event

namespace Tick

/-- What the loop reads on the clock. -/
def readings (t : Tick) : List Instant := t.events.filterMap Event.reading?

/-- The times at which the next sweep is planned. -/
def plannings (t : Tick) : List Instant := t.events.filterMap Event.planned?

/-- The times as of which sweeps are made. -/
def sweeps (t : Tick) : List Instant := t.events.filterMap Event.swept?

/-- All times at which the clock is looked at. -/
def times (t : Tick) : List Instant := t.time :: t.readings.drop 1

end Tick

/-- The loop is woken some times, one after the other. -/
inductive Loop.Woken : Loop → List Tick → Loop → Prop
  /-- It is not woken any more. -/
  | rest (l : Loop) : Woken l [] l
  /-- It is woken once, and then some times more. -/
  | tick {l l' : Loop} {t : Tick} {ticks : List Tick} {r : Plan × List Notice}
      (hdoes : l.work.Does l t.events r) (htime : ∀ look ∈ t.readings.head?, look = t.time)
      (hrest : Woken (l.after r) ticks l') : Woken l (t :: ticks) l'

/-- The times at which a loop looks at the clock do not go backwards, from the one at which it has
started on. -/
def Forward (begun : Instant) (ticks : List Tick) : Prop :=
  (begun :: ticks.flatMap Tick.times).Pairwise fun t u => u.before t = false

/-- What is assumed of a schedule: what comes next is the first occurrence after a time, if there is
one. -/
structure Due (occurs : Instant → Prop) (next : Instant → Option Instant) : Prop where
  /-- What comes next is an occurrence after the time, and none between is before it. -/
  some : ∀ t due, next t = some due →
    occurs due ∧ t.before due = true ∧ ∀ o, occurs o → t.before o = true → o.before due = false
  /-- If nothing comes next, nothing occurs any more. -/
  none : ∀ t, next t = none → ∀ o, occurs o → t.before o = false

section Steps

variable {occurs : Instant → Prop} {next : Instant → Option Instant} {s : Settings.Sweeper}
  {t : Tick} {r : Plan × List Notice} {begun : Instant}

/-- **One step of the loop**, which has made its plan at some time. Either nothing has occurred
since then, and it does nothing but look; or something has, and the next sweep is planned and one
is made. -/
theorem Due.step (hnext : Due occurs next) (henabled : s.enabled = true)
    (hdoes : (Loop.mk next s (next begun)).work.Does ⟨next, s, next begun⟩ t.events r)
    (htime : ∀ look ∈ t.readings.head?, look = t.time) :
    ((t.events = [] ∨ t.events = [.look t.time]) ∧ r.1 = next begun ∧
      ∀ o, occurs o → begun.before o = true → t.time.before o = true) ∨
    ∃ again started, t.events = [.look t.time, .plan again, .look started, .sweep started] ∧
      r.1 = next again ∧ ∃ o, occurs o ∧ begun.before o = true ∧ t.time.before o = false := by
  unfold Loop.work at hdoes
  simp only [henabled, if_true] at hdoes
  cases hplan : next begun with
  | none =>
      -- nothing is planned because nothing occurs any more
      rw [hplan] at hdoes
      obtain ⟨hevents, rfl⟩ := hdoes
      refine Or.inl ⟨Or.inl hevents, rfl, ?_⟩
      intro o ho hafter
      rw [hnext.none begun hplan o ho] at hafter
      cases hafter
  | some due =>
      obtain ⟨hdue, hlater, hfirst⟩ := hnext.some begun due hplan
      rw [hplan] at hdoes
      obtain ⟨look, rest, hevents, hdoes⟩ := hdoes
      obtain rfl : look = t.time := by
        refine htime look ?_
        rw [Tick.readings, hevents]
        rfl
      cases hbefore : t.time.before due with
      | true =>
          simp only [if_pos hbefore] at hdoes
          obtain ⟨rfl, rfl⟩ := hdoes
          refine Or.inl ⟨Or.inr hevents, rfl, ?_⟩
          intro o ho hafter
          exact Instant.before_of_before_of_not_before hbefore (hfirst o ho hafter)
      | false =>
          simp only [hbefore, Bool.false_eq_true, if_false] at hdoes
          obtain ⟨again, _, rfl, started, _, rfl, swept, _, rfl, -, rfl, rfl⟩ := hdoes
          exact Or.inr ⟨again, started, hevents, rfl, due, hdue, hlater, hbefore⟩

end Steps

/-! ## Runs -/

section Runs

variable {occurs : Instant → Prop} {next : Instant → Option Instant} {s : Settings.Sweeper}
  {t : Tick} {ticks : List Tick} {begun again started : Instant} {l : Loop}

/-- Times that do not go backwards do not do so without those of the first tick. -/
theorem Forward.idle (h : Forward begun (t :: ticks)) : Forward begun ticks := by
  refine h.sublist ?_
  rw [List.flatMap_cons]
  exact (List.sublist_append_right _ _).cons_cons begun

/-- The times of a tick on which a sweep is made ascend, and those that follow ascend from its plan
on. -/
theorem Forward.sweeping (h : Forward begun (t :: ticks))
    (hevents : t.events = [.look t.time, .plan again, .look started, .sweep started]) :
    again.before t.time = false ∧ started.before again = false ∧ Forward again ticks := by
  have htimes : t.readings = [t.time, again, started] := by
    rw [Tick.readings, hevents]
    rfl
  rw [Forward, List.flatMap_cons, Tick.times, htimes] at h
  obtain ⟨htime, h⟩ := List.pairwise_cons.1 (List.pairwise_cons.1 h).2
  obtain ⟨hagain, h⟩ := List.pairwise_cons.1 h
  refine ⟨htime again List.mem_cons_self, hagain started List.mem_cons_self, ?_⟩
  refine List.pairwise_cons.2 ⟨fun u hu => hagain u (List.mem_cons_of_mem _ hu), ?_⟩
  exact (List.pairwise_cons.1 h).2

/-- A run, told from its end: what holds of a loop that is not woken any more holds of every run, if
it is kept when the loop is woken once more at the beginning, and stays as it is or sweeps. -/
theorem Due.woken_induction (hnext : Due occurs next) (henabled : s.enabled = true)
    {P : Instant → List Tick → Prop} (hrest : ∀ begun, P begun [])
    (hidle : ∀ begun t ticks, t.sweeps = [] → t.plannings = [] →
      (∀ o, occurs o → begun.before o = true → t.time.before o = true) → P begun ticks →
      P begun (t :: ticks))
    (hsweeping : ∀ begun t ticks again started,
      t.events = [.look t.time, .plan again, .look started, .sweep started] →
      again.before t.time = false → started.before again = false →
      (∃ o, occurs o ∧ begun.before o = true ∧ t.time.before o = false) → P again ticks →
      P begun (t :: ticks))
    (hrun : (Loop.mk next s (next begun)).Woken ticks l) (hforward : Forward begun ticks) :
    P begun ticks := by
  induction ticks generalizing begun with
  | nil => exact hrest begun
  | cons t ticks ih =>
      cases hrun with
      | @tick _ _ _ _ r hdoes htime hrun =>
          rcases hnext.step henabled hdoes htime with ⟨hevents, hafter, hpassed⟩ |
            ⟨again, started, hevents, hafter, hpassed⟩
          · rw [Loop.after, hafter] at hrun
            have hnone : t.sweeps = [] ∧ t.plannings = [] := by
              rw [Tick.sweeps, Tick.plannings]
              rcases hevents with hevents | hevents <;> rw [hevents] <;> exact ⟨rfl, rfl⟩
            exact hidle begun t ticks hnone.1 hnone.2 hpassed (ih hrun hforward.idle)
          · rw [Loop.after, hafter] at hrun
            obtain ⟨hagain, hstarted, hforward'⟩ := hforward.sweeping hevents
            exact hsweeping begun t ticks again started hevents hagain hstarted hpassed
              (ih hrun hforward')

/-- What is wanted of a loop that has been woken some times. Its sweeps are the events in which
`sweepAt` is called, each with the time as of which it is called. -/
structure Served (occurs : Instant → Prop) (begun : Instant) (ticks : List Tick) : Prop where
  /-- Whenever the loop is woken, a sweep has begun by then for everything that has occurred since
  the loop has started: at that time or later. -/
  served : ∀ past t rest, ticks = past ++ t :: rest → ∀ o, occurs o → begun.before o = true →
    t.time.before o = false → ∃ t' ∈ past ++ [t], ∃ b ∈ t'.sweeps, b.before o = false
  /-- One sweep is made each time at most. -/
  once : ∀ t ∈ ticks, t.sweeps.length ≤ 1
  /-- Before a sweep is made something has occurred since the last plan was made. -/
  occasioned : ∀ past t rest, ticks = past ++ t :: rest → t.sweeps ≠ [] → ∃ o, occurs o ∧
    ((past.flatMap Tick.plannings).getLastD begun).before o = true ∧ t.time.before o = false
  /-- There are as many different occurrences as sweeps. -/
  counted : ∃ os : List Instant, os.Pairwise (fun o o' => o.before o' = true) ∧
    os.length = (ticks.flatMap Tick.sweeps).length ∧
    ∀ o ∈ os, occurs o ∧ begun.before o = true ∧ ∃ t ∈ ticks, t.time.before o = false

/-- What is to hold of every tick and those before it, holds if it does of the first one, and of
every other one with the first one before it. -/
theorem each_cons {Q : List Tick → Tick → Prop} (hfirst : Q [] t)
    (hrest : ∀ past t' rest, ticks = past ++ t' :: rest → Q (t :: past) t') :
    ∀ past t' rest, t :: ticks = past ++ t' :: rest → Q past t' := by
  intro past t' rest hsplit
  cases past with
  | nil =>
      obtain ⟨rfl, -⟩ := List.cons.inj hsplit
      exact hfirst
  | cons t₀ past =>
      obtain ⟨rfl, hticks⟩ := List.cons.inj hsplit
      exact hrest past t' rest hticks

/-- What is wanted is kept when nothing has occurred. -/
theorem Served.idle (h : Served occurs begun ticks) (hsweeps : t.sweeps = [])
    (hplannings : t.plannings = [])
    (hpassed : ∀ o, occurs o → begun.before o = true → t.time.before o = true) :
    Served occurs begun (t :: ticks) where
  served := by
    refine each_cons ?_ ?_
    · intro o ho hafter hreached
      rw [hpassed o ho hafter] at hreached
      cases hreached
    · intro past t' rest hsplit o ho hafter hreached
      obtain ⟨t', ht', b, hb, hlate⟩ := h.served past t' rest hsplit o ho hafter hreached
      exact ⟨t', List.mem_cons_of_mem _ ht', b, hb, hlate⟩
  once := by
    intro t' ht'
    rcases List.mem_cons.1 ht' with rfl | ht'
    · rw [hsweeps]
      exact Nat.zero_le 1
    · exact h.once t' ht'
  occasioned := by
    refine each_cons (fun hsome => absurd hsweeps hsome) ?_
    intro past t' rest hsplit hsome
    rw [List.flatMap_cons, hplannings, List.nil_append]
    exact h.occasioned past t' rest hsplit hsome
  counted := by
    obtain ⟨os, hascending, hlength, hos⟩ := h.counted
    refine ⟨os, hascending, by rw [List.flatMap_cons, hsweeps, List.nil_append, hlength], ?_⟩
    intro o ho
    obtain ⟨hoccurs, hafter, t', ht', hreached⟩ := hos o ho
    exact ⟨hoccurs, hafter, t', List.mem_cons_of_mem _ ht', hreached⟩

/-- What is wanted is kept when something has occurred and a sweep is made. -/
theorem Served.sweeping (h : Served occurs again ticks)
    (hevents : t.events = [.look t.time, .plan again, .look started, .sweep started])
    (hagain : again.before t.time = false) (hstarted : started.before again = false)
    (hpassed : ∃ o, occurs o ∧ begun.before o = true ∧ t.time.before o = false) :
    Served occurs begun (t :: ticks) := by
  have hplannings : t.plannings = [again] := by
    rw [Tick.plannings, hevents]
    rfl
  have hsweeps : t.sweeps = [started] := by
    rw [Tick.sweeps, hevents]
    rfl
  -- what has occurred until the new plan is before the sweep that follows
  have hnow : ∀ o, again.before o = false → ∀ past, ∃ t' ∈ t :: past, ∃ b ∈ t'.sweeps,
      b.before o = false := by
    intro o hearly past
    refine ⟨t, List.mem_cons_self, started, ?_, Instant.not_before_trans hearly hstarted⟩
    rw [hsweeps]
    exact List.mem_singleton_self _
  obtain ⟨o, hoccurs, hafter, hreached⟩ := hpassed
  obtain ⟨os, hascending, hlength, hos⟩ := h.counted
  constructor
  case served =>
    refine each_cons ?_ ?_
    · intro o ho hafter hreached
      exact hnow o (Instant.not_before_trans hreached hagain) []
    · intro past t' rest hsplit o ho _ hreached
      cases hlate : again.before o with
      | false => exact hnow o hlate (past ++ [t'])
      | true =>
          obtain ⟨t', ht', b, hb, hserved⟩ := h.served past t' rest hsplit o ho hlate hreached
          exact ⟨t', List.mem_cons_of_mem _ ht', b, hb, hserved⟩
  case once =>
    intro t' ht'
    rcases List.mem_cons.1 ht' with rfl | ht'
    · rw [hsweeps]
      exact Nat.le_refl 1
    · exact h.once t' ht'
  case occasioned =>
    refine each_cons (fun _ => ⟨o, hoccurs, hafter, hreached⟩) ?_
    intro past t' rest hsplit hsome
    rw [List.flatMap_cons, hplannings, List.singleton_append, List.getLastD_cons]
    exact h.occasioned past t' rest hsplit hsome
  case counted =>
    -- all others are after the new plan, and this one is not
    have hlater : ∀ o' ∈ os, o.before o' = true := fun o' ho' =>
      Instant.before_of_not_before_of_before (Instant.not_before_trans hreached hagain)
        (hos o' ho').2.1
    refine ⟨o :: os, List.pairwise_cons.2 ⟨hlater, hascending⟩, ?_, ?_⟩
    · rw [List.flatMap_cons, hsweeps, List.length_cons, hlength]
      rfl
    · intro o' ho'
      rcases List.mem_cons.1 ho' with rfl | ho'
      · exact ⟨hoccurs, hafter, t, List.mem_cons_self, hreached⟩
      · obtain ⟨hoccurs', -, t', ht', hreached'⟩ := hos o' ho'
        exact ⟨hoccurs', Instant.before_trans hafter (hlater o' ho'), t',
          List.mem_cons_of_mem _ ht', hreached'⟩

/-- What is wanted holds of every run whose times do not go backwards. -/
theorem Due.served (hnext : Due occurs next) (henabled : s.enabled = true)
    (hrun : (Loop.mk next s (next begun)).Woken ticks l) (hforward : Forward begun ticks) :
    Served occurs begun ticks := by
  refine hnext.woken_induction henabled ?_ ?_ ?_ hrun hforward
  · intro begun
    refine ⟨?_, fun t ht => absurd ht List.not_mem_nil, ?_, [], List.Pairwise.nil, rfl,
      fun o ho => absurd ho List.not_mem_nil⟩
    · intro past t rest hsplit
      exact absurd hsplit.symm (List.append_ne_nil_of_right_ne_nil _ (List.cons_ne_nil _ _))
    · intro past t rest hsplit
      exact absurd hsplit.symm (List.append_ne_nil_of_right_ne_nil _ (List.cons_ne_nil _ _))
  · intro begun t ticks hsweeps hplannings hpassed h
    exact h.idle hsweeps hplannings hpassed
  · intro begun t ticks again started hevents hagain hstarted hpassed h
    exact h.sweeping hevents hagain hstarted hpassed

end Runs

/-! ## The loop in a world -/

namespace Loop

/-- What the loop does with the store is what a sweep does with it. -/
theorem step_only (l : Loop) : l.step.Only Makes := by
  rw [← procedure_work, work]
  split
  · cases l.planned with
    | none => exact only_pure _
    | some due =>
        refine only_bind only_now fun look => ?_
        by_cases hbefore : look.before due = true
        · simp only [if_pos hbefore]
          exact only_pure _
        · simp only [if_neg hbefore]
          refine only_bind (only_bind only_now fun _ => only_pure _) fun planned => ?_
          refine only_bind only_now fun started => ?_
          exact only_bind (only_attempt (sweepAt_only _ _)) fun r => only_pure _
  · exact only_pure _

/-- A look is a step of the loop. -/
theorem look_eq {l : Loop} {w w' : World} {r : Plan × List Notice}
    (h : l.step.runIn w = (.ok r, w')) : (l.look w).2 = (l.after r, w') := by
  unfold step at h
  unfold look
  cases henabled : l.settings.enabled with
  | false =>
      rw [if_neg (by rw [henabled]; decide)] at h
      cases h
      rfl
  | true =>
      rw [if_pos henabled] at h
      simp only [if_true, h]
      rfl

/-- **Looking at the clock of a world** at some times is a run, on which all times that are read are
those. -/
theorem lookAll_woken (l : Loop) (times : List Instant) (w : World) :
    ∃ ticks, ticks.map (·.time) = times ∧ (∀ t ∈ ticks, ∀ u ∈ t.readings, u = t.time) ∧
      l.Woken ticks (l.lookAll times w).2.1 := by
  induction times generalizing l w with
  | nil => exact ⟨[], rfl, fun t ht => absurd ht List.not_mem_nil, .rest l⟩
  | cons now rest ih =>
      obtain ⟨readings, hreadings, hreads⟩ := l.step_only.reads_run { w with now := now }
      obtain ⟨events, r, hresult, rfl, hdoes⟩ : ∃ events r, _ = Except.ok r ∧
          events.filterMap Event.reading? = readings ∧ l.work.Does l events r :=
        Work.does_of_reads (by rwa [procedure_work])
      have hstep : l.step.runIn { w with now := now } =
          (.ok r, (l.step.runIn { w with now := now }).2) := Prod.ext hresult rfl
      obtain ⟨ticks, htimes, hticks, hrun⟩ :=
        ih (l.after r) (l.step.runIn { w with now := now }).2
      refine ⟨⟨now, events⟩ :: ticks, by rw [List.map_cons, htimes], ?_, ?_⟩
      · intro t ht u hu
        rcases List.mem_cons.1 ht with rfl | ht
        · exact hreadings u hu
        · exact hticks t ht u hu
      · have hlooks : (l.lookAll (now :: rest) w).2.1 =
            ((l.lookAt now w).2.1.lookAll rest (l.lookAt now w).2.2).2.1 := rfl
        rw [hlooks, lookAt, look_eq hstep]
        exact .tick hdoes (fun look hlook => hreadings look (List.mem_of_mem_head? hlook)) hrun

end Loop

/-- If the clock stands still while the loop is awake, the times at which it is woken tell whether
the clock goes backwards. -/
theorem forward_of_still {begun : Instant} {ticks : List Tick}
    (hstill : ∀ t ∈ ticks, ∀ u ∈ t.readings, u = t.time)
    (htimes : (begun :: ticks.map (·.time)).Pairwise fun t u => u.before t = false) :
    Forward begun ticks := by
  have hread : ∀ t ∈ ticks, ∀ u ∈ t.times, u = t.time := by
    intro t ht u hu
    rcases List.mem_cons.1 hu with rfl | hu
    · rfl
    · exact hstill t ht u (List.mem_of_mem_drop hu)
  obtain ⟨hbegun, htimes⟩ := List.pairwise_cons.1 htimes
  refine List.pairwise_cons.2 ⟨?_, List.pairwise_flatMap.2 ⟨?_, ?_⟩⟩
  · intro u hu
    obtain ⟨t, ht, hu⟩ := List.mem_flatMap.1 hu
    rw [hread t ht u hu]
    exact hbegun t.time (List.mem_map_of_mem ht)
  · intro t ht
    refine List.pairwise_of_forall_mem_list fun u hu v hv => ?_
    rw [hread t ht u hu, hread t ht v hv]
    exact Instant.not_before_self t.time
  · refine (List.pairwise_map.1 htimes).imp_of_mem ?_
    intro t t' ht ht' hle u hu v hv
    rw [hread t ht u hu, hread t' ht' v hv]
    exact hle

/-- **No occurrence is missed**, and no sweep is made without one. What a loop does when it is woken
is to look at the clock, to plan and to make sweeps, and nothing else. Take a loop that is switched
on and goes by a schedule, and any times that do not go backwards: of its start, of every time that
it is woken, of every plan and of the beginning of every sweep. In particular take the loop that
looks at the clock of a world at such times. -/
theorem occurrences_served {occurs : Instant → Prop} {next : Instant → Option Instant}
    (hnext : Due occurs next) {s : Settings.Sweeper} (henabled : s.enabled = true)
    (begun : Instant) :
    let loop : Loop := ⟨next, s, next begun⟩
    (∀ l : Loop, l.work.procedure l = l.step) ∧
    (∀ ticks l, loop.Woken ticks l → Forward begun ticks → Served occurs begun ticks) ∧
    ∀ (times : List Instant) (w : World),
      (begun :: times).Pairwise (fun t u => u.before t = false) →
      ∃ ticks, ticks.map (·.time) = times ∧ (∀ t ∈ ticks, ∀ u ∈ t.readings, u = t.time) ∧
        loop.Woken ticks (loop.lookAll times w).2.1 ∧ Served occurs begun ticks := by
  intro loop
  refine ⟨Loop.procedure_work, fun ticks l hrun hforward => hnext.served henabled hrun hforward,
    ?_⟩
  intro times w htimes
  obtain ⟨ticks, rfl, hstill, hrun⟩ := loop.lookAll_woken times w
  exact ⟨ticks, rfl, hstill, hrun,
    hnext.served henabled hrun (forward_of_still hstill htimes)⟩

end Sweep

namespace Sample

/-- Every full hour. -/
def onTheHour (t : Instant) : Prop := t.second % 3600 = 0 ∧ t.nano = 0

/-- The next full hour. -/
def nextHour (t : Instant) : Option Instant := some ⟨(t.second / 3600 + 1) * 3600, 0⟩

/-- Every full hour is a schedule, and the next full hour is what comes next. -/
theorem due_nextHour : Sweep.Due onTheHour nextHour where
  some := by
    rintro t due hdue
    cases hdue
    refine ⟨⟨?_, rfl⟩, ?_, ?_⟩
    · exact Int.mul_emod_left _ _
    · rw [Instant.before_iff]
      simp only
      omega
    · rintro o ⟨hhour, hnano⟩ hafter
      rw [Instant.before_iff] at hafter
      rw [Instant.before_eq_false_iff]
      simp only
      omega
  none := by
    intro t hnone
    cases hnone

/-- The loop is woken before the hour; then late, after two hours have passed; and once more. -/
def ticks : List Sweep.Tick :=
  [⟨⟨moment.second + 60, 0⟩, [.look ⟨moment.second + 60, 0⟩]⟩,
    ⟨⟨moment.second + 7300, 0⟩,
      [.look ⟨moment.second + 7300, 0⟩, .plan ⟨moment.second + 7300, 5⟩,
        .look ⟨moment.second + 7301, 0⟩, .sweep ⟨moment.second + 7301, 0⟩]⟩,
    ⟨⟨moment.second + 7400, 0⟩, [.look ⟨moment.second + 7400, 0⟩]⟩]

end Sample

namespace Sweep

/-- A loop that is late by an hour makes one sweep for the two occurrences that it finds, and none
on the ticks before and after. -/
theorem hours_served :
    let begun := Sample.moment
    let loop : Loop := ⟨Sample.nextHour, .standard, Sample.nextHour begun⟩
    Due Sample.onTheHour Sample.nextHour ∧ Settings.Sweeper.standard.enabled = true ∧
      Forward begun Sample.ticks ∧ (∃ l, loop.Woken Sample.ticks l) ∧
      Served Sample.onTheHour begun Sample.ticks ∧
      ∃ ticks, ticks.map (·.time) = [begun] ∧
        loop.Woken ticks (loop.lookAll [begun] default).2.1 ∧
        Served Sample.onTheHour begun ticks := by
  have hforward : Forward Sample.moment Sample.ticks := by
    unfold Forward
    decide
  -- the sweep on the second of the ticks finds nothing that is stale
  obtain ⟨l, hrun⟩ : ∃ l, (Loop.mk Sample.nextHour .standard (Sample.nextHour Sample.moment)).Woken
      Sample.ticks l := by
    refine ⟨_, .tick ⟨_, _, rfl, rfl, rfl⟩ ?_ (.tick ⟨_, _, rfl, _, _, rfl, _, _, rfl,
      .ok .empty, _, rfl, ⟨.ok [], .ok [], rfl, rfl⟩, rfl, rfl⟩ ?_
      (.tick ⟨_, _, rfl, rfl, rfl⟩ ?_ (.rest _)))⟩ <;>
    · rintro look ⟨⟩
      rfl
  obtain ⟨-, hruns, hlooks⟩ := occurrences_served Sample.due_nextHour
    (show Settings.Sweeper.standard.enabled = true from rfl) Sample.moment
  obtain ⟨ticks, htimes, -, hlooked, hserved⟩ := hlooks [Sample.moment] default (by decide)
  exact ⟨Sample.due_nextHour, rfl, hforward, ⟨l, hrun⟩, hruns _ _ hrun hforward, ticks, htimes,
    hlooked, hserved⟩

end Sweep

end ControlPlane
