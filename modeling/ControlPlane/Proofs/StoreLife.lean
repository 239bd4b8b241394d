/-
One thing at a time.

Where nothing overlaps, the life of a store is a list of occasions: a frame is answered, a
sweep is made, a request is answered, or the store is opened anew. Each is carried out as a
whole, along a course of its own, on the store that the ones before have left
(`Store.live`). What happened on the way is kept by occasion (`Store.pasts`).

Only frames count failures, record results and add actions (`Store.Call.Handles`); sweeps
and requests make other calls (`Occasion.aside`).
-/
import ControlPlane.Proofs.Handling
import ControlPlane.Proofs.Requesting

set_option autoImplicit false

namespace ControlPlane

/-- Something that happens to a store as a whole. -/
inductive Occasion where
  /-- A frame of a conversation is answered. -/
  | frame (settings : Settings.Decision) (conversation : Int) (frame : ClientFrame)
      (course : Course)
  /-- A sweep is made as if it were a given time. -/
  | sweep (settings : Settings.Sweeper) (time : Instant) (course : Course)
  /-- A request to the gateway is answered. -/
  | request (policy : Http.Cors) (tokens : Access.Tokens) (connections : Nat)
      (upgradable : Bool) (request : Http.Request) (course : Course)
  /-- The store is opened anew. -/
  | reopen

namespace Occasion

/-- What happens, from a store on. -/
def past (s : Store) : Occasion → Past
  | frame settings c incoming course =>
    (Coordinator.handleAlone settings c incoming course s).2
  | sweep settings time course =>
    ((Sweep.sweepAt settings time).run.follow .sweeper course (.start s)).2
  | request policy tokens connections upgradable r course =>
    ((Gateway.handle policy tokens connections upgradable r).follow .client course (.start s)).2
  | reopen => .start s

/-- What is met on the way, if anything is. -/
def course? : Occasion → Option Course
  | frame _ _ _ course => some course
  | sweep _ _ course => some course
  | request _ _ _ _ _ course => some course
  | reopen => none

/-- The clock reads legible times all the way. -/
def Legible (o : Occasion) : Prop := ∀ course ∈ o.course?, course.Legible

variable {o : Occasion} {s : Store}

/-- What every call and every decision keeps, every occasion keeps. -/
theorem past_induction {I : Past → Prop}
    (hcalled : ∀ h who now call, I h → I (h.called who now call))
    (hasked : ∀ h who context answer, I h → I (h.asked who context answer)) (o : Occasion)
    (hI : I (.start s)) : I (o.past s) := by
  cases o with
  | frame settings c incoming course =>
      exact Program.follow_induction (fun h => hcalled h _) (fun h => hasked h _) _ course hI
  | sweep settings time course =>
      exact Program.follow_induction (fun h => hcalled h _) (fun h => hasked h _) _ course hI
  | request policy tokens connections upgradable r course =>
      exact Program.follow_induction (fun h => hcalled h _) (fun h => hasked h _) _ course hI
  | reopen => exact hI

theorem past_legible (ho : o.Legible) (s : Store) : (o.past s).Legible := by
  have hstart := Past.legible_start s
  cases o with
  | frame settings c incoming course => exact Program.follow_legible _ (ho course rfl) hstart
  | sweep settings time course => exact Program.follow_legible _ (ho course rfl) hstart
  | request policy tokens connections upgradable r course =>
      exact Program.follow_legible _ (ho course rfl) hstart
  | reopen => exact hstart

end Occasion

/-! ## What only frames do -/

/-- The call is one that is made for frames only. -/
def Store.Call.Handles : Store.Call → Prop
  | .recordFailure _ => True
  | .resetFailures _ => True
  | .createAction _ _ _ => True
  | .startAction _ => True
  | .completeAction _ _ _ _ => True
  | _ => False

theorem Store.Call.Counts.handles {call : Store.Call} (h : call.Counts) : call.Handles := by
  cases call with
  | recordFailure => exact trivial
  | resetFailures => exact trivial
  | _ => exact h.elim

theorem Sweep.Makes.not_handles {call : Store.Call} (h : Makes call) : ¬ call.Handles := by
  intro hhandles
  cases call with
  | recordFailure => exact h
  | resetFailures => exact h
  | createAction => exact h
  | startAction => exact h
  | completeAction => exact h
  | _ => exact hhandles

theorem Gateway.Makes.not_handles {call : Store.Call} (h : Makes call) : ¬ call.Handles := by
  intro hhandles
  cases call with
  | recordFailure => exact h
  | resetFailures => exact h
  | createAction => exact h
  | startAction => exact h
  | completeAction => exact h
  | _ => exact hhandles

/-- No frame is answered. -/
def Occasion.IsAside : Occasion → Prop
  | frame _ _ _ _ => False
  | _ => True

theorem Occasion.frame_or_aside (o : Occasion) :
    (∃ settings c incoming course, o = .frame settings c incoming course) ∨ o.IsAside := by
  cases o with
  | frame settings c incoming course => exact Or.inl ⟨settings, c, incoming, course, rfl⟩
  | sweep => exact Or.inr trivial
  | request => exact Or.inr trivial
  | reopen => exact Or.inr trivial

/-- What all calls keep but those that are made for frames, any other occasion keeps. -/
theorem Occasion.aside {o : Occasion} (ho : o.IsAside) {I : Past → Prop}
    (hcalled : ∀ h who now call, ¬ call.Handles → I h → I (h.called who now call)) {s : Store}
    (hI : I (.start s)) : I (o.past s) := by
  cases o with
  | frame settings c incoming course => exact ho.elim
  | sweep settings time course =>
      exact (Sweep.sweepAt_only settings time).follow
        (fun h now call hmakes => hcalled h _ now call hmakes.not_handles) course hI
  | request policy tokens connections upgradable r course =>
      exact (Gateway.handle_only policy tokens connections upgradable r).follow
        (fun h now call hmakes => hcalled h _ now call hmakes.not_handles) course hI
  | reopen => exact hI

theorem Occasion.questions_aside {o : Occasion} (ho : o.IsAside) (s : Store) :
    (o.past s).questions = [] := by
  refine Occasion.aside ho (I := fun h => h.questions = []) ?_ (Past.questions_start s)
  intro h who now call _ hquestions
  rw [Past.questions_called, hquestions]

/-! ## Lives -/

namespace Store

variable {s : Store} {occasions : List Occasion}

/-- The store after an occasion. -/
def after (s : Store) (o : Occasion) : Store := (o.past s).store

/-- The store after occasions, one after the other. -/
def live (s : Store) (occasions : List Occasion) : Store := occasions.foldl after s

/-- What happened on each occasion. -/
def pasts (s : Store) : List Occasion → List Past
  | [] => []
  | o :: rest => o.past s :: (s.after o).pasts rest

/-- All that happened. -/
def chronicle (s : Store) (occasions : List Occasion) : List Entry :=
  (s.pasts occasions).flatMap (·.log)

/-- What was asked on each occasion. -/
def rounds (s : Store) (occasions : List Occasion) : List (List Question) :=
  (s.pasts occasions).map (·.questions)

theorem live_append (s : Store) (occasions more : List Occasion) :
    s.live (occasions ++ more) = (s.live occasions).live more :=
  List.foldl_append

theorem pasts_append (s : Store) (occasions : List Occasion) (o : Occasion) :
    s.pasts (occasions ++ [o]) = s.pasts occasions ++ [o.past (s.live occasions)] := by
  induction occasions generalizing s with
  | nil => rfl
  | cons first rest ih => exact congrArg _ (ih (s.after first))

theorem chronicle_append (s : Store) (occasions : List Occasion) (o : Occasion) :
    s.chronicle (occasions ++ [o]) =
      s.chronicle occasions ++ (o.past (s.live occasions)).log := by
  rw [chronicle, pasts_append, List.flatMap_append, List.flatMap_singleton]
  rfl

theorem rounds_append (s : Store) (occasions : List Occasion) (o : Occasion) :
    s.rounds (occasions ++ [o]) =
      s.rounds occasions ++ [(o.past (s.live occasions)).questions] := by
  rw [rounds, pasts_append, List.map_append]
  rfl

theorem live_induction {I : Store → Prop}
    (hstep : ∀ s, ∀ o ∈ occasions, I s → I (s.after o)) (hs : I s) : I (s.live occasions) := by
  induction occasions generalizing s with
  | nil => exact hs
  | cons o rest ih =>
      refine ih (fun s o ho => hstep s o (List.mem_cons_of_mem _ ho)) ?_
      exact hstep s o List.mem_cons_self hs

theorem after_regular (hs : s.Regular) (o : Occasion) : (s.after o).Regular :=
  Occasion.past_induction (I := fun h => h.store.Regular)
    (fun h _ now call hh => (h.store.perform_change now call).regular hh) (fun _ _ _ _ hh => hh)
    o hs

theorem live_regular (hs : s.Regular) (occasions : List Occasion) : (s.live occasions).Regular :=
  live_induction (fun _ o _ hs => after_regular hs o) hs

theorem after_legible (hs : s.Legible) {o : Occasion} (ho : o.Legible) :
    (s.after o).Legible := by
  -- the store is legible as long as the calls so far were made at legible times
  have hkept : (o.past s).Legible → (o.past s).store.Legible := by
    refine Occasion.past_induction (I := fun h => h.Legible → h.store.Legible) ?_ ?_ o
      fun _ => hs
    · intro h who now call hh hlegible
      obtain ⟨hbefore, hnow⟩ := Past.legible_called.1 hlegible
      exact (h.store.perform_change now call).legible hnow (hh hbefore)
    · intro h who context answer hh hlegible
      rw [Past.legible_asked] at hlegible
      exact hh hlegible
  exact hkept (Occasion.past_legible ho s)

theorem live_legible (hs : s.Legible) (hoccasions : ∀ o ∈ occasions, o.Legible) :
    (s.live occasions).Legible :=
  live_induction (fun _ o ho hs => after_legible hs (hoccasions o ho)) hs

end Store

/-! ## A small life

A conversation is opened, and a message is sent to it. -/

namespace Sample

/-- A request to the gateway. -/
def request (target body : String) : Occasion :=
  .request .everyone ⟨none, []⟩ 0 false
    ⟨"POST", target, [("content-type", "application/json")], body⟩
    (.constant moment (.error .emptyPage))

/-- A frame, at a time; one decision is made, however often it is asked for. -/
def answering (now : Instant) (frame : ClientFrame) (answer : Except Fault Decision) :
    Occasion :=
  .frame .standard 1 frame (.constant now answer)

/-- The requests with which it begins. -/
def requests : List Occasion :=
  [request "/v1/browser-agent/conversations" "\x7b\"title\":\"Sign up\"\x7d",
    request "/v1/browser-agent/conversations/1/messages"
      "\x7b\"content\":\"Sign up as Alice\"\x7d"]

theorem requests_legible : ∀ o ∈ requests, o.Legible := by
  have hmoment : moment.Legible := by decide +kernel
  have hrequest : ∀ target body, (request target body).Legible := by
    rintro target body course hcourse
    cases hcourse
    exact Course.legible_constant hmoment _
  exact List.forall_mem_cons.2 ⟨hrequest _ _, List.forall_mem_singleton.2 (hrequest _ _)⟩

theorem answering_legible {now : Instant} (hnow : now.Legible) (frame : ClientFrame)
    (answer : Except Fault Decision) : (answering now frame answer).Legible := by
  intro course hcourse
  cases hcourse
  exact Course.legible_constant hnow _

end Sample

end ControlPlane
