/-
How a program ends.

What a program that asks for no decision comes to depends on the store and on the clock alone.
What is wanted in the end is taken back from there, one call at a time, to what has to hold of
the store in the beginning (`Program.Ends`); the clock may read what it likes, within bounds that
are a parameter. It holds then along every course (`Ends.follow`) and in every world (`Ends.run`)
on which the clock stays within them. A procedure has a rule for each way it is put together.

The last section is about worlds. One program after the other is carried out one after the other
(`run_bind`), and a program that asks for no decision makes the same of two worlds that differ
only in what the model will say and has been asked (`Only.run_alike`).
-/
import ControlPlane.Proofs.Alone
import ControlPlane.Proofs.DecisionRound

set_option autoImplicit false

namespace ControlPlane

/-! ## What is wanted in the end -/

namespace Program

variable {α β : Type} {C : Instant → Prop} {s : Store}

/-- From a store on, and whatever the clock reads within bounds, a program ends as is wanted,
without asking for a decision. -/
def Ends (C : Instant → Prop) : Program α → Store → (α → Store → Prop) → Prop
  | done a, s, post => post a s
  | call c next, s, post =>
    ∀ now, C now → (next (s.perform now c).1).Ends C (s.perform now c).2 post
  | decide _ _, _, _ => False
  | pause _ next, s, post => (next ()).Ends C s post
  | clock next, s, post => ∀ now, C now → (next now).Ends C s post

/-- A program that ends with more than is wanted ends as is wanted. -/
theorem Ends.mono {p : Program α} {post post' : α → Store → Prop} (hp : p.Ends C s post)
    (h : ∀ a s, post a s → post' a s) : p.Ends C s post' := by
  induction p generalizing s with
  | done a => exact h a s hp
  | call c next ih => exact fun now hnow => ih _ (hp now hnow)
  | decide context next => exact hp.elim
  | pause _ next ih => exact ih () hp
  | clock next ih => exact fun now hnow => ih now (hp now hnow)

/-- A program that goes on ends as what follows does, from where the first part ends. -/
theorem Ends.bind {p : Program α} {f : α → Program β} {post : β → Store → Prop}
    (hp : p.Ends C s fun a s' => (f a).Ends C s' post) : (p.bind f).Ends C s post := by
  induction p generalizing s with
  | done a => exact hp
  | call c next ih => exact fun now hnow => ih _ (hp now hnow)
  | decide context next => exact hp.elim
  | pause _ next ih => exact ih () hp
  | clock next ih => exact fun now hnow => ih now (hp now hnow)

/-- Along a course within the bounds a program ends as is wanted, and nothing was asked. -/
theorem Ends.follow {p : Program α} {post : α → Store → Prop} {h : Past}
    (hp : p.Ends C h.store post) (who : Actor) {k : Course} (hk : ∀ n, C (k.clock n)) :
    post (p.follow who k h).1 (p.follow who k h).2.store ∧
      (p.follow who k h).2.questions = h.questions := by
  induction p generalizing k h with
  | done a => exact ⟨hp, rfl⟩
  | call c next ih =>
      obtain ⟨hpost, hquestions⟩ := ih _ (h := h.called who (k.clock 0) c) (hp _ (hk 0))
        (k := k.rest) fun n => hk (n + 1)
      exact ⟨hpost, hquestions.trans (Past.questions_called ..)⟩
  | decide context next => exact hp.elim
  | pause _ next ih => exact ih () hp hk
  | clock next ih => exact ih _ (hp _ (hk 0)) (k := k.rest) fun n => hk (n + 1)

/-- A program that ends as is wanted whatever the clock reads does so in every world. -/
theorem Ends.run {p : Program α} {post : α → Store → Prop} {w : World}
    (hp : p.Ends C w.store post) (hnow : C w.now) : post (p.run w).1 (p.run w).2.store := by
  induction p generalizing w with
  | done a => exact hp
  | call c next ih => exact ih _ (w := (w.call c).2) (hp w.now hnow) hnow
  | decide context next => exact hp.elim
  | pause ms next ih => exact ih () (w := { w with waited := w.waited + ms }) hp hnow
  | clock next ih => exact ih w.now (hp w.now hnow) hnow

end Program

namespace Procedure

variable {α β : Type} {C : Instant → Prop} {s : Store} {post : Except Fault β → Store → Prop}

/-- From a store on a procedure ends as is wanted. -/
def Ends (p : Procedure α) (C : Instant → Prop) (s : Store)
    (post : Except Fault α → Store → Prop) : Prop :=
  Program.Ends C p.run s post

/-- What follows a result has to end as is wanted, and a fault has to be wanted itself. -/
theorem ends_bind {p : Procedure α} {f : α → Procedure β} {mid : Except Fault α → Store → Prop}
    (hp : p.Ends C s mid) (hfails : ∀ e s', mid (.error e) s' → post (.error e) s')
    (hnext : ∀ a s', mid (.ok a) s' → (f a).Ends C s' post) : (p >>= f).Ends C s post := by
  refine Program.Ends.bind (Program.Ends.mono hp ?_)
  intro r s' h
  cases r with
  | ok a => exact hnext a s' h
  | error e => exact hfails e s' h

/-- A call ends with its answer. -/
theorem ends_call {c : Store.Call} {mid : Except Fault c.Answer → Store → Prop}
    (h : ∀ now, C now → mid (s.perform now c).1 (s.perform now c).2) : (call c).Ends C s mid := h

/-- A call is followed by what is done with its answer, and its fault has to be wanted. -/
theorem ends_called {c : Store.Call} {f : c.Answer → Procedure β}
    (hfails : ∀ e s', post (.error e) s')
    (hnext : ∀ now, C now → ∀ a, (s.perform now c).1 = .ok a →
      (f a).Ends C (s.perform now c).2 post) : (call c >>= f).Ends C s post := by
  have hcall : (call c).Ends C s fun r s' =>
      ∃ now, C now ∧ (s.perform now c).1 = r ∧ s' = (s.perform now c).2 :=
    ends_call fun now hnow => ⟨now, hnow, rfl, rfl⟩
  refine ends_bind hcall (fun e s' _ => hfails e s') ?_
  rintro a s' ⟨now, hnow, ha, rfl⟩
  exact hnext now hnow a ha

/-- A call that is always answered ends as what follows the answer. -/
theorem ends_answered {c : Store.Call} {f : c.Answer → Procedure β}
    (h : ∀ now, C now → ∃ a, (s.perform now c).1 = .ok a ∧
      (f a).Ends C (s.perform now c).2 post) : (call c >>= f).Ends C s post := by
  intro now hnow
  obtain ⟨a, ha, hnext⟩ := h now hnow
  -- the answer stands inside the program, so it is replaced under a binder
  have hstep : ∀ r, r = .ok a →
      Program.Ends C (ExceptT.bindCont f r) (s.perform now c).2 post := by
    rintro r rfl
    exact hnext
  exact hstep _ ha

/-- Its fault is the answer of a procedure that is attempted. -/
theorem ends_attempt {p : Procedure α} {mid : Except Fault α → Store → Prop}
    (hp : p.Ends C s mid) : p.attempt.Ends C s fun r s' => ∃ r', r = .ok r' ∧ mid r' s' :=
  Program.Ends.bind (Program.Ends.mono hp fun r _ h => ⟨r, rfl, h⟩)

end Procedure

/-! ## In a world -/

/-- Two worlds have the same store and the same time. -/
structure World.Alike (w w' : World) : Prop where
  /-- The store is the same. -/
  store : w'.store = w.store
  /-- The time is the same. -/
  now : w'.now = w.now

namespace Program

variable {α β : Type}

/-- To carry out a program that goes on is to carry out its two parts, one after the other. -/
theorem run_bind (p : Program α) (f : α → Program β) (w : World) :
    (p.bind f).run w = (f (p.run w).1).run (p.run w).2 := by
  induction p generalizing w with
  | done a => rfl
  | call c next ih => exact ih _ _
  | decide context next ih => exact ih _ _
  | pause ms next ih => exact ih () _
  | clock next ih => exact ih _ _

/-- What the model will say, and what it was asked, makes no difference to a program that asks
nothing. -/
theorem Only.run_alike {P : Store.Call → Prop} {p : Program α} (hp : p.Only P) {w w' : World}
    (h : w.Alike w') :
    (p.run w').1 = (p.run w).1 ∧ (p.run w).2.Alike (p.run w').2 := by
  induction p generalizing w w' with
  | done a => exact ⟨rfl, h⟩
  | call c next ih =>
      have hanswer : (w'.call c).1 = (w.call c).1 := by
        simp only [World.call, h.store, h.now]
      have halike : (w.call c).2.Alike (w'.call c).2 :=
        ⟨by simp only [World.call, h.store, h.now], h.now⟩
      simp only [Program.run, hanswer]
      exact ih _ (hp.2 _) halike
  | decide context next => exact hp.elim
  | pause ms next ih =>
      have halike : World.Alike { w with waited := w.waited + ms }
          { w' with waited := w'.waited + ms } := ⟨h.store, h.now⟩
      exact ih () hp halike
  | clock next ih =>
      simp only [Program.run, h.now]
      exact ih _ (hp _) h

/-- A program that asks nothing leaves the time, and what the model was asked and will say. -/
theorem Only.run_kept {P : Store.Call → Prop} {p : Program α} (hp : p.Only P) (w : World) :
    (p.run w).2.now = w.now ∧ (p.run w).2.asked = w.asked ∧ (p.run w).2.turns = w.turns := by
  induction p generalizing w with
  | done a => exact ⟨rfl, rfl, rfl⟩
  | call c next ih => exact ih _ (hp.2 _) (w.call c).2
  | decide context next => exact hp.elim
  | pause ms next ih => exact ih () hp { w with waited := w.waited + ms }
  | clock next ih => exact ih _ (hp _) w

end Program

namespace Procedure

variable {α β : Type} {p : Procedure α} {f : α → Procedure β} {w w' : World}

/-- So it is for procedures, of which the first one may fail. -/
theorem runIn_bind (p : Procedure α) (f : α → Procedure β) (w : World) :
    (p >>= f).runIn w = Program.run (ExceptT.bindCont f (p.runIn w).1) (p.runIn w).2 :=
  Program.run_bind p.run (ExceptT.bindCont f) w

/-- Where the first one does not fail the second one is carried out with its result. -/
theorem runIn_bind_ok {a : α} (hp : p.runIn w = (.ok a, w')) :
    (p >>= f).runIn w = (f a).runIn w' := by
  rw [runIn_bind, hp]
  rfl

end Procedure

end ControlPlane
