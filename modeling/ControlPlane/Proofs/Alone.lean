/-
A procedure by itself.

A schedule lets anybody take the next step. Here a program is carried out from its beginning
to its end while nobody else is at work (`Program.follow`). What it meets on its way is laid
down beforehand as a *course*: at each step what the clock reads and, should it ask, what is
decided. A program has an end along every course, and whatever it may do alone it does along
some course; the world without interruptions is one of them (`follow_run`).

A statement about such a way is proved like one about a schedule, by a contract. The contract
`undisturbed` relies on it that nothing happens between two steps (`Meets.follow`).
-/
import ControlPlane.Proofs.Sweeping
import ControlPlane.World

set_option autoImplicit false

namespace ControlPlane

/-! ## Courses -/

/-- What a program meets on its way when nobody else is at work. -/
structure Course where
  /-- What the clock reads at each step. -/
  clock : Nat → Instant
  /-- What is decided at each step, if a decision is asked for. -/
  answer : Nat → Except Fault Decision

namespace Course

/-- What is left of a course after its first step. -/
def rest (k : Course) : Course := ⟨fun n => k.clock (n + 1), fun n => k.answer (n + 1)⟩

/-- A course with one more step at its beginning. -/
def cons (now : Instant) (answer : Except Fault Decision) (k : Course) : Course where
  clock
    | 0 => now
    | n + 1 => k.clock n
  answer
    | 0 => answer
    | n + 1 => k.answer n

/-- The course on which the clock stands still and every answer is the same. -/
def constant (now : Instant) (answer : Except Fault Decision) : Course :=
  ⟨fun _ => now, fun _ => answer⟩

/-- The clock reads a legible time at each step. -/
def Legible (k : Course) : Prop := ∀ n, (k.clock n).Legible

/-- The rest of a legible course is legible. -/
theorem Legible.rest {k : Course} (hk : k.Legible) : k.rest.Legible := fun n => hk (n + 1)

/-- A clock that stands still at a legible time is legible. -/
theorem legible_constant {now : Instant} (hnow : now.Legible)
    (answer : Except Fault Decision) : (constant now answer).Legible := fun _ => hnow

end Course

/-! ## Legible pasts -/

/-- What the clock read, if somebody called. -/
def Entry.clock? : Entry → Option Instant
  | called _ now _ _ => some now
  | asked _ _ _ => none

/-- Every call so far was made at a legible time. -/
def Past.Legible (h : Past) : Prop := ∀ e ∈ h.log, ∀ now ∈ e.clock?, now.Legible

namespace Past

variable {h : Past}

/-- A past in which nothing has happened is legible. -/
theorem legible_start (s : Store) : (start s).Legible := fun _ he => absurd he List.not_mem_nil

/-- A call keeps a past legible if its time is legible. -/
theorem legible_called {who : Actor} {now : Instant} {c : Store.Call} :
    (h.called who now c).Legible ↔ h.Legible ∧ now.Legible := by
  simp only [Legible, called_log, List.forall_mem_append, List.forall_mem_singleton,
    Entry.clock?, Option.mem_some_iff, forall_eq']

/-- To ask for a decision keeps a past legible. -/
theorem legible_asked {who : Actor} {context : Decision.Context}
    {answer : Except Fault Decision} : (h.asked who context answer).Legible ↔ h.Legible := by
  simp only [Legible, asked_log, List.forall_mem_append, List.forall_mem_singleton,
    Entry.clock?, Option.mem_def, reduceCtorEq, false_implies, implies_true, and_true]

end Past

/-! ## Following a course -/

namespace Program

variable {α : Type} {who : Actor}

/-- Carries out a program along a course. -/
def follow (who : Actor) : Program α → Course → Past → α × Past
  | done a, _, h => (a, h)
  | call c next, k, h =>
    (next (h.store.perform (k.clock 0) c).1).follow who k.rest (h.called who (k.clock 0) c)
  | decide context next, k, h =>
    (next (k.answer 0)).follow who k.rest (h.asked who context (k.answer 0))
  | pause _ next, k, h => (next ()).follow who k h
  | clock next, k, h => (next (k.clock 0)).follow who k.rest h

/-- What every call and every decision keeps, a program keeps. -/
theorem follow_induction {I : Past → Prop} (hcalled : ∀ h now c, I h → I (h.called who now c))
    (hasked : ∀ h context answer, I h → I (h.asked who context answer)) (p : Program α)
    (k : Course) {h : Past} (hI : I h) : I (p.follow who k h).2 := by
  induction p generalizing k h with
  | done a => exact hI
  | call c next ih => exact ih _ k.rest (hcalled h (k.clock 0) c hI)
  | decide context next ih => exact ih _ k.rest (hasked h context (k.answer 0) hI)
  | pause _ next ih => exact ih () k hI
  | clock next ih => exact ih _ k.rest hI

/-- What its own calls keep, a program that asks for no decision keeps. -/
theorem Only.follow {P : Store.Call → Prop} {p : Program α} (hp : p.Only P) {I : Past → Prop}
    (hcalled : ∀ h now c, P c → I h → I (h.called who now c)) (k : Course) {h : Past}
    (hI : I h) : I (p.follow who k h).2 := by
  induction p generalizing k h with
  | done a => exact hI
  | call c next ih => exact ih _ (hp.2 _) k.rest (hcalled h (k.clock 0) c hp.1 hI)
  | decide context next => exact hp.elim
  | pause _ next ih => exact ih () hp k hI
  | clock next ih => exact ih _ (hp _) k.rest hI

/-- Along a legible course all calls are made at legible times. -/
theorem follow_legible (p : Program α) {k : Course} (hk : k.Legible) {h : Past}
    (hh : h.Legible) : (p.follow who k h).2.Legible := by
  induction p generalizing k h with
  | done a => exact hh
  | call c next ih => exact ih _ hk.rest (Past.legible_called.2 ⟨hh, hk 0⟩)
  | decide context next ih => exact ih _ hk.rest (Past.legible_asked.2 hh)
  | pause _ next ih => exact ih () hk hh
  | clock next ih => exact ih _ hk.rest hh

/-- A question in a world without interruptions changes neither its store nor its time. -/
theorem ask_calm {w : World} (hcalm : ∀ turn ∈ w.turns, turn.meanwhile = [])
    (context : Decision.Context) :
    (w.ask context).2.store = w.store ∧ (w.ask context).2.now = w.now ∧
      ∀ turn ∈ (w.ask context).2.turns, turn.meanwhile = [] := by
  obtain ⟨store, now, turns, silence, asked, waited⟩ := w
  cases turns with
  | nil => exact ⟨rfl, rfl, hcalm⟩
  | cons turn others =>
      have hturn : turn.meanwhile = [] := hcalm turn List.mem_cons_self
      simp only [World.ask, hturn, List.foldl_nil, true_and]
      exact fun t ht => hcalm t (List.mem_cons_of_mem _ ht)

/-- A course that begins at a time, and whose rest stands still there, stands still. -/
theorem cons_clock {now : Instant} {answer : Except Fault Decision} {k : Course}
    (hk : ∀ n, k.clock n = now) (n : Nat) : (Course.cons now answer k).clock n = now := by
  cases n with
  | zero => rfl
  | succ n => exact hk n

/-- **In a world without interruptions** a program does what it does along some course on
which the clock stands still. -/
theorem follow_run (p : Program α) (who : Actor) {w : World}
    (hcalm : ∀ turn ∈ w.turns, turn.meanwhile = []) (log : List Entry) :
    ∃ k : Course, (∀ n, k.clock n = w.now) ∧
      (p.follow who k ⟨w.store, log⟩).1 = (p.run w).1 ∧
      (p.follow who k ⟨w.store, log⟩).2.store = (p.run w).2.store := by
  -- a course for the rest of the way, with the step that is made first put in front of it
  induction p generalizing w log with
  | done a => exact ⟨.constant w.now (.error w.silence), fun _ => rfl, rfl, rfl⟩
  | call c next ih =>
      obtain ⟨k, hclock, hk⟩ := ih (w.call c).1 (w := (w.call c).2) hcalm
        (log ++ [.called who w.now c w.store])
      exact ⟨.cons w.now (.error w.silence) k, cons_clock hclock, hk⟩
  | decide context next ih =>
      obtain ⟨hstore, hnow, hcalm'⟩ := ask_calm hcalm context
      obtain ⟨k, hclock, hk⟩ := ih (w.ask context).1 hcalm'
        (log ++ [.asked who context (w.ask context).1])
      rw [hstore] at hk
      exact ⟨.cons w.now (w.ask context).1 k, cons_clock fun n => (hclock n).trans hnow, hk⟩
  | pause ms next ih => exact ih () (w := { w with waited := w.waited + ms }) hcalm log
  | clock next ih =>
      obtain ⟨k, hclock, hk⟩ := ih w.now hcalm log
      exact ⟨.cons w.now (.error w.silence) k, cons_clock hclock, hk⟩

end Program

/-! ## Contracts of a program by itself -/

/-- Nothing happens between two steps, and every call may be made. -/
def undisturbed (inv : Past → Prop) : Contract inv where
  rely h h' := h' = h
  rely_refl := fun _ => rfl
  rely_trans := fun _ _ _ h h' => h'.trans h
  allows _ _ := True
  asks _ _ := True

/-- A program that keeps to this contract ends as is wanted along every course, and the
invariant holds in the end. -/
theorem Program.Meets.follow {inv : Past → Prop} {who : Actor} {α : Type}
    {post : α → Past → Prop} (hcalled : ∀ h now c, inv h → inv (h.called who now c))
    (hasked : ∀ h context answer, inv h → inv (h.asked who context answer)) {p : Program α}
    (k : Course) {h : Past} (hp : Meets (undisturbed inv) who post p h) (hinv : inv h) :
    post (p.follow who k h).1 (p.follow who k h).2 ∧ inv (p.follow who k h).2 := by
  induction p generalizing k h with
  | done a => exact ⟨hp, hinv⟩
  | call c next ih =>
      exact ih _ k.rest ((hp h rfl hinv).2 (k.clock 0)) (hcalled h (k.clock 0) c hinv)
  | decide context next ih =>
      exact ih _ k.rest ((hp h rfl hinv).2 (k.answer 0)) (hasked h context (k.answer 0) hinv)
  | pause _ next ih => exact ih () k hp hinv
  | clock next ih => exact ih _ k.rest (hp (k.clock 0)) hinv

/-- What the calls keep that a contract allows, a program keeps that keeps to the contract. -/
theorem Program.Meets.follow_allowed {inv : Past → Prop} {k : Contract inv} {who : Actor}
    {α : Type} {post : α → Past → Prop}
    (hcalled : ∀ h now c, inv h → k.allows h c → inv (h.called who now c))
    (hasked : ∀ h context answer, inv h → inv (h.asked who context answer)) {p : Program α}
    (course : Course) {h : Past} (hp : Meets k who post p h) (hinv : inv h) :
    post (p.follow who course h).1 (p.follow who course h).2 ∧
      inv (p.follow who course h).2 := by
  induction p generalizing course h with
  | done a => exact ⟨hp, hinv⟩
  | call c next ih =>
      obtain ⟨hallows, hnext⟩ := hp h (k.rely_refl h) hinv
      exact ih _ course.rest (hnext (course.clock 0)) (hcalled h (course.clock 0) c hinv hallows)
  | decide context next ih =>
      obtain ⟨-, hnext⟩ := hp h (k.rely_refl h) hinv
      exact ih _ course.rest (hnext (course.answer 0)) (hasked h context (course.answer 0) hinv)
  | pause _ next ih => exact ih () course hp hinv
  | clock next ih => exact ih _ course.rest (hp (course.clock 0)) hinv

/-! ## One after the other -/

/-- What follows a program is carried out on what the program leaves of the course. -/
theorem Program.follow_bind {α β : Type} (p : Program α) (f : α → Program β) (who : Actor)
    (k : Course) (h : Past) :
    ∃ k' : Course, (k.Legible → k'.Legible) ∧
      (p.bind f).follow who k h =
        (f (p.follow who k h).1).follow who k' (p.follow who k h).2 := by
  induction p generalizing k h with
  | done a => exact ⟨k, id, rfl⟩
  | call c next ih =>
      obtain ⟨k', hk', hrun⟩ := ih (h.store.perform (k.clock 0) c).1 k.rest
        (h.called who (k.clock 0) c)
      exact ⟨k', fun hk => hk' hk.rest, hrun⟩
  | decide context next ih =>
      obtain ⟨k', hk', hrun⟩ := ih (k.answer 0) k.rest (h.asked who context (k.answer 0))
      exact ⟨k', fun hk => hk' hk.rest, hrun⟩
  | pause _ next ih => exact ih () k h
  | clock next ih =>
      obtain ⟨k', hk', hrun⟩ := ih (k.clock 0) k.rest h
      exact ⟨k', fun hk => hk' hk.rest, hrun⟩

/-- What is made of the result of a program is not seen in what the program does. -/
theorem Program.follow_map {α β : Type} (p : Program α) (f : α → β) (who : Actor) (k : Course)
    (h : Past) :
    (p.bind fun a => .done (f a)).follow who k h =
      (f (p.follow who k h).1, (p.follow who k h).2) := by
  obtain ⟨_, -, hrun⟩ := p.follow_bind (fun a => .done (f a)) who k h
  exact hrun

namespace Procedure

variable {α β : Type} {who : Actor} {k : Course} {h h' : Past}

/-- A procedure that has a result is followed by what is done with the result. -/
theorem follow_bind {p : Procedure α} {f : α → Procedure β} {a : α}
    (hp : p.run.follow who k h = (.ok a, h')) :
    ∃ k' : Course, (k.Legible → k'.Legible) ∧
      (p >>= f).run.follow who k h = (f a).run.follow who k' h' := by
  obtain ⟨k', hk', hrun⟩ := Program.follow_bind p.run (ExceptT.bindCont f) who k h
  refine ⟨k', hk', ?_⟩
  rw [hp] at hrun
  exact hrun

/-- A call that is answered is followed by what is done with the answer. -/
theorem follow_call {c : Store.Call} {f : c.Answer → Procedure β} {a : c.Answer}
    (hc : (h.store.perform (k.clock 0) c).1 = .ok a) :
    (call c >>= f).run.follow who k h =
      (f a).run.follow who k.rest (h.called who (k.clock 0) c) := by
  have hstep : (call c >>= f).run.follow who k h =
      Program.follow who (ExceptT.bindCont f (h.store.perform (k.clock 0) c).1) k.rest
        (h.called who (k.clock 0) c) := rfl
  rw [hstep, hc]
  rfl

end Procedure

end ControlPlane
