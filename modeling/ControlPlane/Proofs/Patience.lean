/-
Failures that pass.

A call for a decision may fail, or give a decision that lacks something; then it is made again, up
to a number of times. Here a frame is answered in a world in which nothing happens but that the
model takes its time and says one thing after the other. Up to the first answer that is a decision,
nothing of what it says matters (`Coordinator.transient_failures`): the reply and the store are
those of a world in which this answer was the first. If there is no such answer, the fault that is
told is the one of the last call.

The approach to the decision does not depend on what the model will say (`errand_of_asked`), and
what follows the round of calls does not either (`conclude_only`). So two answers differ in the
round alone, and there an induction on the calls that fail is enough (`decideFrom_passes`).

All of this needs pauses that fit their word, and it is for the settings to see to that
(`PausesFit`). Where they do not, a failure that should pass breaks off the work
(`transient_failures_slow`).
-/
import Mathlib.Algebra.Group.Nat.Defs
import ControlPlane.Proofs.Agreement
import ControlPlane.Proofs.DecisionReady
import ControlPlane.Proofs.Report

set_option autoImplicit false

namespace ControlPlane

/-- The model answers when the clock reads a time. -/
def Turn.arriving (t : Instant) (answer : Except Fault Decision) : Turn := ⟨[.clock t], answer⟩

theorem World.ask_arriving {w : World} {t : Instant} {answer : Except Fault Decision}
    {rest : List Turn} (hturns : w.turns = .arriving t answer :: rest)
    (context : Decision.Context) :
    w.ask context =
      (answer, { w with now := t, turns := rest, asked := context :: w.asked }) := by
  obtain ⟨store, now, turns, silence, asked, waited⟩ := w
  obtain rfl : turns = .arriving t answer :: rest := hturns
  rfl

namespace Coordinator

open Procedure Store

/-- What a call for a decision comes to: a decision that lacks something is a failure. -/
def judged : Except Fault Decision → Except Fault Decision
  | .error e => .error e
  | .ok decision =>
    match decision.check with
    | .error e => .error e
    | .ok () => .ok decision

/-! ## Pauses -/

/-- The longest pause that settings allow fits its word. -/
def PausesFit (d : Settings.Decision) : Prop := retryPause d.retryDelay d.maxRetries < 2 ^ 64

instance (d : Settings.Decision) : Decidable (PausesFit d) := inferInstanceAs (Decidable (_ < _))

/-- Pauses do not get shorter. -/
theorem retryPause_mono {base n n' : Nat} (h : n ≤ n') : retryPause base n ≤ retryPause base n' :=
  Nat.mul_le_mul_left base (Nat.pow_le_pow_right (by decide) (by omega))

/-- An unsigned word of 64 bits is less than two to the power of 64. -/
theorem unsigned64_holds_iff {n : Nat} : WordRange.unsigned64.holds n = true ↔ n < 2 ^ 64 := by
  rw [WordRange.holds_iff]
  change (0 : Int) ≤ n ∧ (n : Int) ≤ 18446744073709551615 ↔ n < 2 ^ 64
  omega

/-- A pause that fits its word is made. -/
theorem waitBefore_run {base n : Nat} (hfits : retryPause base n < 2 ^ 64) (w : World) :
    (waitBefore base n).runIn w = (.ok (), { w with waited := w.waited + retryPause base n }) := by
  rw [waitBefore, if_pos (unsigned64_holds_iff.2 hfits)]
  rfl

/-! ## One call -/

/-- A call makes one question of the model, and judges what it says. -/
theorem decideOnce_run (context : Decision.Context) (w : World) :
    (decideOnce context).runIn w = (.ok (judged (w.ask context).1), (w.ask context).2) := by
  have hasked : (Procedure.decide context).runIn w =
      (.ok (w.ask context).1, (w.ask context).2) := rfl
  rw [decideOnce, Procedure.runIn_bind_ok hasked]
  cases (w.ask context).1 with
  | error e => rfl
  | ok decision =>
      simp only [judged]
      cases decision.check <;> rfl

/-- After a pause, if any, the model is asked; then what was asked is remembered, and time has
gone on. What is to follow depends on the answer. -/
theorem decideOr_run {base n : Nat} (hfits : retryPause base n < 2 ^ 64) (m : Int)
    (context : Decision.Context) (otherwise : Fault → Procedure (Except Fault Decision))
    {w : World} {t : Instant} {answer : Except Fault Decision} {rest : List Turn}
    (hturns : w.turns = .arriving t answer :: rest) :
    ∃ w', w'.store = w.store ∧ w'.now = t ∧ w'.turns = rest ∧
      w'.asked = context :: w.asked ∧
      (decideOr base m context n otherwise).runIn w =
        match judged answer with
        | .ok decision => (.ok (.ok decision), { w' with store := (w.store.resetFailures m).2 })
        | .error e => (otherwise e).runIn w' := by
  have hasked : ∀ w' : World, w'.turns = .arriving t answer :: rest →
      (decideOnce context).runIn w' =
        (.ok (judged answer),
          { w' with now := t, turns := rest, asked := context :: w'.asked }) := by
    intro w' hw'
    rw [decideOnce_run, World.ask_arriving hw']
  by_cases hn : 0 < n
  · refine ⟨{ w with
      now := t, turns := rest, asked := context :: w.asked,
      waited := w.waited + retryPause base n }, rfl, rfl, rfl, rfl, ?_⟩
    rw [decideOr, if_pos hn, Procedure.runIn_bind_ok (waitBefore_run hfits w)]
    dsimp only
    rw [Procedure.runIn_bind_ok
      (hasked { w with waited := w.waited + retryPause base n } hturns)]
    cases judged answer <;> rfl
  · refine ⟨{ w with now := t, turns := rest, asked := context :: w.asked },
      rfl, rfl, rfl, rfl, ?_⟩
    rw [decideOr, if_neg hn]
    dsimp only
    rw [Procedure.runIn_bind_ok (hasked w hturns)]
    cases judged answer <;> rfl

/-! ## A round of calls -/

section Round

variable {base left k : Nat} (m : Int) (context : Decision.Context) {times : Nat → Instant}
  {answers : Nat → Except Fault Decision} {rest : List Turn} {w : World}

/-- What the model will say to a number of calls. -/
def script (times : Nat → Instant) (answers : Nat → Except Fault Decision) (count : Nat) :
    List Turn :=
  (List.range count).map fun i => .arriving (times i) (answers i)

/-- A script with one more answer has it at the end. -/
theorem script_succ (times : Nat → Instant) (answers : Nat → Except Fault Decision)
    (count : Nat) :
    script times answers (count + 1) =
      script times answers count ++ [.arriving (times count) (answers count)] := by
  rw [script, List.range_succ, List.map_append]
  rfl

/-- A script begins as a shorter one. -/
theorem script_append (times : Nat → Instant) (answers : Nat → Except Fault Decision)
    {count count' : Nat} (h : count ≤ count') :
    ∃ rest, script times answers count' = script times answers count ++ rest := by
  obtain ⟨more, rfl⟩ := Nat.exists_eq_add_of_le h
  rw [script, List.range_add, List.map_append]
  exact ⟨_, rfl⟩

/-- After calls that have failed a round goes on with the next one. -/
theorem decideFrom_passes (hfits : retryPause base left < 2 ^ 64) (hk : k ≤ left)
    (hturns : w.turns = script times answers k ++ rest)
    (hfailed : ∀ i < k, ∃ e, judged (answers i) = .error e) :
    ∃ w', w'.store = w.store ∧ w'.turns = rest ∧
      w'.asked = List.replicate k context ++ w.asked ∧
      (decideFrom base m context 0 left).runIn w =
        (decideFrom base m context k (left - k)).runIn w' := by
  induction k generalizing rest with
  | zero => exact ⟨w, rfl, hturns, rfl, rfl⟩
  | succ k ih =>
      rw [script_succ, List.append_assoc] at hturns
      obtain ⟨w₁, hstore₁, hturns₁, hasked₁, hrun₁⟩ := ih (Nat.le_of_succ_le hk) hturns
        fun i hi => hfailed i (Nat.lt_succ_of_lt hi)
      obtain ⟨e, he⟩ := hfailed k (Nat.lt_succ_self k)
      have hleft : left - k = left - (k + 1) + 1 := by omega
      have hfits' : retryPause base k < 2 ^ 64 :=
        Nat.lt_of_le_of_lt (retryPause_mono (Nat.le_of_succ_le hk)) hfits
      obtain ⟨w', hstore, -, hturns', hasked, hrun⟩ := decideOr_run hfits' m context
        (fun _ => decideFrom base m context (k + 1) (left - (k + 1))) hturns₁
      rw [he] at hrun
      refine ⟨w', hstore.trans hstore₁, hturns', ?_, ?_⟩
      · rw [hasked, hasked₁, List.replicate_succ, List.cons_append]
      · rw [hrun₁, hleft, decideFrom, hrun]

/-- From any call on, a round is that call, and something else if it fails. -/
theorem decideFrom_call (base : Nat) (m : Int) (context : Decision.Context) (n left : Nat) :
    ∃ otherwise, decideFrom base m context n left = decideOr base m context n otherwise := by
  cases left with
  | zero => exact ⟨_, rfl⟩
  | succ left => exact ⟨_, rfl⟩

/-- The first answer that is a decision ends the round. -/
theorem decideFrom_decides (hfits : retryPause base left < 2 ^ 64) {decision : Decision}
    (hk : k ≤ left) (hturns : w.turns = script times answers (k + 1) ++ rest)
    (hfailed : ∀ i < k, ∃ e, judged (answers i) = .error e)
    (hdecision : judged (answers k) = .ok decision) :
    ∃ w', (decideFrom base m context 0 left).runIn w = (.ok (.ok decision), w') ∧
      w'.store = (w.store.resetFailures m).2 ∧ w'.now = times k ∧
      w'.asked = List.replicate (k + 1) context ++ w.asked := by
  rw [script_succ, List.append_assoc] at hturns
  obtain ⟨w₁, hstore₁, hturns₁, hasked₁, hrun₁⟩ :=
    decideFrom_passes m context hfits hk hturns hfailed
  obtain ⟨otherwise, hcall⟩ := decideFrom_call base m context k (left - k)
  have hfits' : retryPause base k < 2 ^ 64 := Nat.lt_of_le_of_lt (retryPause_mono hk) hfits
  obtain ⟨w', -, hnow, -, hasked, hrun⟩ := decideOr_run hfits' m context otherwise hturns₁
  rw [hdecision] at hrun
  rw [hrun₁, hcall, hrun]
  refine ⟨_, rfl, by rw [hstore₁], hnow, ?_⟩
  rw [hasked, hasked₁, List.replicate_succ, List.cons_append]

/-- If no answer is a decision, the round ends with the fault of the last call. -/
theorem decideFrom_fails (hfits : retryPause base left < 2 ^ 64) {e : Fault}
    (hturns : w.turns = script times answers (left + 1) ++ rest)
    (hfailed : ∀ i < left, ∃ e, judged (answers i) = .error e)
    (hlast : judged (answers left) = .error e) :
    ∃ w', (decideFrom base m context 0 left).runIn w = (.ok (.error e), w') ∧
      w'.store = w.store ∧ w'.now = times left ∧
      w'.asked = List.replicate (left + 1) context ++ w.asked := by
  rw [script_succ, List.append_assoc] at hturns
  obtain ⟨w₁, hstore₁, hturns₁, hasked₁, hrun₁⟩ :=
    decideFrom_passes m context hfits (Nat.le_refl left) hturns hfailed
  obtain ⟨w', hstore, hnow, -, hasked, hrun⟩ :=
    decideOr_run hfits m context (fun e => pure (.error e)) hturns₁
  rw [hlast] at hrun
  rw [hrun₁, Nat.sub_self, decideFrom, hrun]
  refine ⟨w', rfl, hstore.trans hstore₁, hnow, ?_⟩
  rw [hasked, hasked₁, List.replicate_succ, List.cons_append]

end Round

/-! ## After the round -/

/-- What follows the round of calls on an errand. -/
def conclude (d : Settings.Decision) (errand : Errand) :
    Except Fault Decision → Procedure (Option ServerFrame)
  | .ok decision => some <$> apply errand.conversation errand.message decision
  | .error e => some <$> decisionFailed d errand.conversation errand.message.id e

/-- An errand is carried out by a round of calls, and what is concluded from it. -/
theorem carryOut_eq (d : Settings.Decision) (errand : Errand) :
    carryOut d (.inr errand) =
      decideRound d errand.message.id errand.context >>= conclude d errand := by
  simp only [carryOut, proceed, map_eq_pure_bind, bind_assoc]
  refine bind_congr fun r => ?_
  cases r <;> simp only [conclude, map_eq_pure_bind]

/-- When the round has come to an end, it does not matter how. -/
theorem settle_run {d : Settings.Decision} {errand : Errand} {w w' : World}
    {r : Except Fault Decision}
    (hround : (decideRound d errand.message.id errand.context).runIn w = (.ok r, w')) :
    (settle d (.ok (.inr errand))).run w = ((conclude d errand r).run.bind told).run w' := by
  have hcarried : (carryOut d (.inr errand)).runIn w = (conclude d errand r).runIn w' := by
    rw [carryOut_eq, Procedure.runIn_bind_ok hround]
  rw [settle, Program.run_bind, Program.run_bind]
  exact congrArg (fun result => (told result.1).run result.2) hcarried

/-- After the round the model is not asked any more. -/
theorem conclude_only (d : Settings.Decision) (errand : Errand) (r : Except Fault Decision) :
    ((conclude d errand r).run.bind told).Only fun _ => True := by
  refine Program.Only.bind ?_ fun r => by cases r <;> trivial
  cases r with
  | error e =>
      refine only_bind (only_bind (only_call trivial) fun n => ?_) fun _ => only_pure _
      split
      · exact only_pure _
      · exact only_bind (only_call trivial) fun _ => only_pure _
  | ok decision =>
      refine only_bind ?_ fun _ => only_pure _
      cases decision with
      | finished text => exact only_bind (only_call trivial) fun _ => only_pure _
      | act kind parameters =>
          refine only_bind (only_call trivial) fun created => ?_
          refine only_bind (only_call trivial) fun started => ?_
          split
          · refine only_bind (only_call trivial) fun found => ?_
            exact only_bind (only_orFail _ _) fun _ => only_pure _
          · exact only_fail _

/-- What is told of a procedure is its reply, or its fault as it is reported. -/
theorem told_run (p : Procedure ServerFrame) (w : World) :
    ((some <$> p : Procedure (Option ServerFrame)).run.bind told).run w =
      (match (p.runIn w).1 with
        | .ok reply => some reply
        | .error e => reportOf e, (p.runIn w).2) := by
  have hmapped : (some <$> p : Procedure (Option ServerFrame)).run.run w =
      Program.run (ExceptT.bindCont (fun reply => pure (some reply)) (p.runIn w).1)
        (p.runIn w).2 := by
    rw [map_eq_pure_bind]
    exact Procedure.runIn_bind p _ w
  rw [Program.run_bind, hmapped]
  cases (p.runIn w).1 <;> rfl

/-- How it is told that there is no decision: the fault of the last call, and whether the
conversation goes on. -/
def lament (d : Settings.Decision) (failures : Nat) (e : Fault) : ServerFrame :=
  if failures < d.maxConsecutiveFailures then
    .error ("failed to decide the next action: " ++ e.message)
  else
    .finish ("Stopped after " ++ Integer.text failures ++
      " failed attempts to decide the next action: " ++ e.message)

/-- A round without a decision adds no action; if the failure could be counted, the reply laments
it. -/
theorem decisionFailed_run (d : Settings.Decision) (v : Conversation) (m : Int) (e : Fault)
    (w : World) :
    ((decisionFailed d v m e).runIn w).2.store.actions = w.store.actions ∧
      ∀ n, (w.store.recordFailure m).1 = .ok n →
        ((decisionFailed d v m e).runIn w).1 = .ok (lament d n e) := by
  have hrecord : (Procedure.call (.recordFailure m)).runIn w =
      ((w.store.recordFailure m).1, { w with store := (w.store.recordFailure m).2 }) := rfl
  rw [decisionFailed, Procedure.runIn_bind, hrecord]
  cases hcount : (w.store.recordFailure m).1 with
  | error f => exact ⟨recordFailure_actions w.store m, fun _ h => by cases h⟩
  | ok n =>
      rw [← recordFailure_actions w.store m]
      by_cases hfew : n < d.maxConsecutiveFailures
      · refine ⟨?_, ?_⟩
        · simp only [ExceptT.bindCont, if_pos hfew]
          rfl
        · rintro _ ⟨⟩
          simp only [ExceptT.bindCont, if_pos hfew, lament]
          rfl
      · refine ⟨?_, ?_⟩
        · simp only [ExceptT.bindCont, if_neg hfew]
          exact endConversation_actions (w.store.recordFailure m).2 w.now v.id .error
        · rintro _ ⟨⟩
          simp only [ExceptT.bindCont, if_neg hfew, lament]
          rfl

/-! ## The answer to a frame -/

section Answer

variable {d : Settings.Decision} {c : Int} {frame : ClientFrame} {s : Store} {now : Instant}
  {turns : List Turn}

/-- The answer to a frame at a time when the model is to take some turns. -/
def answering (d : Settings.Decision) (c : Int) (frame : ClientFrame) (s : Store) (now : Instant)
    (turns : List Turn) : Option ServerFrame × World :=
  (handle d c frame).run ((World.start s now).rehearse turns)

/-- If the model was asked there was an errand. It is the same whatever the model is to say. -/
theorem errand_of_asked (hasked : (answering d c frame s now turns).2.asked ≠ []) :
    ∃ errand s₁, (s.Regular → Ready c s errand s₁) ∧ ∀ turns', ∃ w : World,
      w.store = s₁ ∧ w.turns = turns' ∧ w.asked = [] ∧
        answering d c frame s now turns' = (settle d (.ok (.inr errand))).run w := by
  have hrun : ∀ turns', answering d c frame s now turns' =
      (settle d ((approach c frame).runIn ((World.start s now).rehearse turns')).1).run
        ((approach c frame).runIn ((World.start s now).rehearse turns')).2 := by
    intro turns'
    rw [answering, handle_eq, Program.run_bind]
    rfl
  obtain ⟨-, hkept, -⟩ :=
    (approach_only c frame).run_kept ((World.start s now).rehearse turns)
  rw [hrun] at hasked
  -- on the approach nothing is asked, so without an errand nothing is asked at all
  cases hresult : ((approach c frame).runIn ((World.start s now).rehearse turns)).1 with
  | error f =>
      rw [hresult] at hasked
      exact absurd hkept hasked
  | ok rest =>
      cases rest with
      | inl reply =>
          rw [hresult] at hasked
          exact absurd hkept hasked
      | inr errand =>
          refine ⟨errand, ((approach c frame).runIn ((World.start s now).rehearse turns)).2.store,
            ?_, ?_⟩
          · intro hs
            exact (approach_ready hs c frame).run (w := (World.start s now).rehearse turns)
              trivial errand hresult
          · intro turns'
            -- the approach goes the same way in both worlds
            have halike : ((World.start s now).rehearse turns).Alike
                ((World.start s now).rehearse turns') := ⟨rfl, rfl⟩
            obtain ⟨hsame, hworlds⟩ := (approach_only c frame).run_alike halike
            obtain ⟨-, hasked', hturns'⟩ :=
              (approach_only c frame).run_kept ((World.start s now).rehearse turns')
            refine ⟨_, hworlds.store, hturns', hasked', ?_⟩
            have hresult' := hsame.trans hresult
            rw [hrun]
            exact congrArg (fun r => (settle d r).run _) hresult'

variable {times : Nat → Instant} {answers : Nat → Except Fault Decision} {more : List Turn}

/-- The first answer that is a decision is as good as one that comes at once. -/
theorem answering_decides (hfits : PausesFit d) (errand : Errand) {w w₀ : World} {k : Nat}
    {decision : Decision} (hk : k ≤ d.maxRetries) (halike : w₀.store = w.store)
    (hempty : w.asked = [])
    (hempty₀ : w₀.asked = []) (hturns : w.turns = script times answers (k + 1) ++ more)
    (hturns₀ : w₀.turns = [.arriving (times k) (answers k)])
    (hfailed : ∀ i < k, ∃ e, judged (answers i) = .error e)
    (hdecision : judged (answers k) = .ok decision) :
    let result := (settle d (.ok (.inr errand))).run w
    let first := (settle d (.ok (.inr errand))).run w₀
    result.2.asked.length = k + 1 ∧ first.2.asked.length = 1 ∧ result.1 = first.1 ∧
      result.2.store = first.2.store := by
  intro result first
  obtain ⟨w', hw', hstore, hnow, hasked⟩ :
      ∃ w', (decideRound d errand.message.id errand.context).runIn w = (.ok (.ok decision), w') ∧
        w'.store = (w.store.resetFailures errand.message.id).2 ∧ w'.now = times k ∧
        w'.asked = List.replicate (k + 1) errand.context ++ w.asked :=
    decideFrom_decides _ _ hfits hk hturns hfailed hdecision
  -- in the other world the decision is the first answer
  have hscript : w₀.turns = script (fun _ => times k) (fun _ => answers k) (0 + 1) ++ [] := hturns₀
  obtain ⟨w₁, hw₁, hstore₁, hnow₁, hasked₁⟩ :
      ∃ w₁, (decideRound d errand.message.id errand.context).runIn w₀ = (.ok (.ok decision), w₁) ∧
        w₁.store = (w₀.store.resetFailures errand.message.id).2 ∧ w₁.now = times k ∧
        w₁.asked = List.replicate (0 + 1) errand.context ++ w₀.asked :=
    decideFrom_decides _ _ hfits (Nat.zero_le _) hscript
      (fun i hi => absurd hi (Nat.not_lt_zero i)) hdecision
  have hresult : result = ((conclude d errand (.ok decision)).run.bind told).run w' :=
    settle_run hw'
  have hfirst : first = ((conclude d errand (.ok decision)).run.bind told).run w₁ :=
    settle_run hw₁
  -- after the round both worlds have the same store and the same time
  have hworlds : w₁.Alike w' := ⟨by rw [hstore, hstore₁, halike], hnow.trans hnow₁.symm⟩
  have honly := conclude_only d errand (.ok decision)
  obtain ⟨hreply, hafter⟩ := honly.run_alike hworlds
  obtain ⟨-, hkept, -⟩ := honly.run_kept w'
  obtain ⟨-, hkept₁, -⟩ := honly.run_kept w₁
  rw [hresult, hfirst, hkept, hkept₁, hasked, hasked₁, hempty, hempty₀, List.append_nil,
    List.append_nil, List.length_replicate, List.length_replicate]
  exact ⟨rfl, rfl, hreply, hafter.store⟩

/-- No counter of a message of a running conversation is full. -/
def Spared (s : Store) : Prop :=
  ∀ r ∈ s.messages, s.isRunning r.conversationId = true → r.failures < 4294967295

/-- In a store that is spared no message that is attended to has a full counter. -/
theorem Spared.failuresOf (hs : Spared s) (hregular : s.Regular) {m : Int} {s₁ : Store}
    (ha : Attends c s m s₁) : s.failuresOf m < 4294967295 := by
  -- a message that was not there before has no failures yet
  by_cases hold : ∃ c₀, s.Owns c₀ m
  · obtain ⟨c₀, r, hr, rfl, rfl⟩ := hold
    rw [failuresOf_of_mem hregular.ordered hr]
    refine hs r hr ?_
    have hown : s₁.Owns r.conversationId r.id := ha.prepared.owns ⟨r, hr, rfl, rfl⟩
    rw [ha.regular.ordered.owner_unique hown ha.owns]
    exact Attends.running_before ha
  · rw [failuresOf_of_missing fun c₀ hc₀ => hold ⟨c₀, hc₀⟩]
    decide

/-- A store that has lived under a budget is spared. -/
theorem spared_live (hd : Budgeted d) {occasions : List Occasion}
    (hoccasions : ∀ o ∈ occasions, o.Under d) : Spared (Store.empty.live occasions) := by
  intro r hr hrunning
  have hw := within_live hd hoccasions
  have hbelow := (hw.few r.conversationId r.id ⟨r, hr, rfl, rfl⟩).resolve_right (by
    rw [isRunning_iff.1 hrunning]
    decide)
  rw [failuresOf_of_mem hw.regular.ordered hr] at hbelow
  have hgreatest : (d.maxConsecutiveFailures : Int) ≤ 4294967295 :=
    ((WordRange.holds_iff _ _).1 hd.2).2
  omega

/-- If no answer is a decision, the last fault is told, and no action is added. -/
theorem answering_fails (hfits : PausesFit d) {errand : Errand} {w : World} {e : Fault}
    (hregular : s.Regular) (hcounting : s.Counting) (hready : Ready c s errand w.store)
    (hempty : w.asked = [])
    (hturns : w.turns = script times answers (d.maxRetries + 1) ++ more)
    (hfailed : ∀ i < d.maxRetries, ∃ e, judged (answers i) = .error e)
    (hlast : judged (answers d.maxRetries) = .error e) :
    let result := (settle d (.ok (.inr errand))).run w
    result.2.asked = List.replicate (d.maxRetries + 1) errand.context ∧
      s.Adds result.2.store [] ∧
      (Spared s → result.1 =
        some (lament d (s.failuresOf errand.context.message.id + 1).toNat e)) := by
  intro result
  obtain ⟨w', hw', hstore, hnow, hasked⟩ :
      ∃ w', (decideRound d errand.message.id errand.context).runIn w = (.ok (.error e), w') ∧
        w'.store = w.store ∧ w'.now = times d.maxRetries ∧
        w'.asked = List.replicate (d.maxRetries + 1) errand.context ++ w.asked :=
    decideFrom_fails _ _ hfits hturns hfailed hlast
  have hresult : result = ((conclude d errand (.error e)).run.bind told).run w' := settle_run hw'
  obtain ⟨-, hkept, -⟩ := (conclude_only d errand (.error e)).run_kept w'
  obtain ⟨hactions, hreply⟩ := decisionFailed_run d errand.conversation errand.message.id e w'
  refine ⟨by rw [hresult, hkept, hasked, hempty, List.append_nil], ?_, ?_⟩
  · refine hready.attends.prepared.adds.of_actions ?_
    rw [hresult, conclude, told_run, hactions, hstore, List.append_nil]
  · intro hspared
    have hcount : (w'.store.recordFailure errand.message.id).1 =
        .ok (s.failuresOf errand.message.id + 1).toNat := by
      have hsame := hready.attends.prepared.failuresOf errand.message.id
      have hfew := hspared.failuresOf hregular hready.attends
      have hpositive := hcounting.failuresOf errand.message.id
      rw [hstore, recordFailure_eq hready.attends.owns, hsame, counter_succ hpositive hfew]
    rw [hresult, conclude, told_run, hreply _ hcount, hready.about]

/-- A store that has lived is one that calls have made. -/
theorem live_replay (occasions : List Occasion) :
    ∃ history, Store.empty.live occasions = Store.empty.replay history := by
  refine live_induction (I := fun s => ∃ history, s = Store.empty.replay history) ?_ ⟨[], rfl⟩
  intro s o _ hs
  refine Occasion.past_induction (I := fun h => ∃ history, h.store = Store.empty.replay history)
    ?_ (fun _ _ _ _ hh => hh) o hs
  rintro h who now call ⟨history, hh⟩
  refine ⟨history ++ [(now, call)], ?_⟩
  rw [Past.called_store, hh, replay_append]
  rfl

end Answer

/-- **Failures that pass are not seen.** Take any store that calls have made of the empty one, any
frame and any settings whose pauses fit their word, and let the model answer one call after the
other at times of its own. If it is asked at all, and the first answer that is a decision is number
`k`, counted from zero and within the repetitions, then it is asked `k + 1` times, and the reply and
the store are those of a world in which this answer comes at once. If there is no such answer, it is
asked once more than there are repetitions, every time the same; no action is added; and the fault
that is told is the one of the last call, unless the counter of the message is full. Every life of a
store, in which frames are answered one at a time under a budget, comes down to calls, and in none a
counter becomes full. -/
theorem transient_failures (history : List (Instant × Store.Call)) {d : Settings.Decision}
    (hfits : PausesFit d) (c : Int) (frame : ClientFrame) (now : Instant) (times : Nat → Instant)
    (answers : Nat → Except Fault Decision) (more : List Turn) :
    let s := Store.empty.replay history
    let result := answering d c frame s now (script times answers (d.maxRetries + 1) ++ more)
    (result.2.asked ≠ [] →
      (∀ k decision, k ≤ d.maxRetries → (∀ i < k, ∃ e, judged (answers i) = .error e) →
        judged (answers k) = .ok decision →
          let first := answering d c frame s now [.arriving (times k) (answers k)]
          result.2.asked.length = k + 1 ∧ first.2.asked.length = 1 ∧ result.1 = first.1 ∧
            result.2.store = first.2.store) ∧
      ∀ e, (∀ i < d.maxRetries, ∃ e, judged (answers i) = .error e) →
        judged (answers d.maxRetries) = .error e →
          ∃ context, result.2.asked = List.replicate (d.maxRetries + 1) context ∧
            s.Adds result.2.store [] ∧
            (Spared s → result.1 =
              some (lament d (s.failuresOf context.message.id + 1).toNat e))) ∧
      ∀ occasions : List Occasion, Budgeted d → (∀ o ∈ occasions, o.Under d) →
        (∃ calls, Store.empty.live occasions = Store.empty.replay calls) ∧
          Spared (Store.empty.live occasions) := by
  intro s result
  refine ⟨?_, fun occasions hd hunder => ⟨live_replay occasions, spared_live hd hunder⟩⟩
  intro hasked
  have hregular : s.Regular := replay_regular history
  obtain ⟨errand, s₁, hready, hrun⟩ := errand_of_asked hasked
  obtain ⟨w, hstore, hturns, hempty, hresult⟩ :=
    hrun (script times answers (d.maxRetries + 1) ++ more)
  refine ⟨?_, ?_⟩
  · intro k decision hk hfailed hdecision first
    obtain ⟨w₀, hstore₀, hturns₀, hempty₀, hfirst⟩ := hrun [.arriving (times k) (answers k)]
    obtain ⟨rest, hrest⟩ := script_append times answers (Nat.succ_le_succ hk)
    rw [hrest, List.append_assoc] at hturns
    have hanswer := answering_decides hfits errand hk (hstore₀.trans hstore.symm) hempty hempty₀
      hturns hturns₀ hfailed hdecision
    rwa [← hresult, ← hfirst] at hanswer
  · intro e hfailed hlast
    have hanswer := answering_fails hfits hregular (replay_counting history)
      (hstore.symm ▸ hready hregular) hempty hturns hfailed hlast
    rw [← hresult] at hanswer
    exact ⟨errand.context, hanswer⟩

end Coordinator

namespace Sample

/-- A fault, a click that names nothing to click on, and a click. -/
def hesitant : Nat → Except Fault Decision
  | 0 => .error .emptyPage
  | 1 => .ok (.act .click ⟨none, none, none, none, none⟩)
  | _ => .ok click

/-- A file that asks for very long pauses. -/
def slowFile : String :=
  "\x7b\"decision\": \x7b\"retryDelayMs\": 9223372036854775808\x7d\x7d"

/-- The settings of that file. -/
def slow : Settings :=
  { Settings.standard with
    decision := { Settings.Decision.standard with retryDelay := 9223372036854775808 } }

/-- The settings with long pauses are accepted. -/
theorem load_slowFile : Settings.load slowFile = .ok slow := by decide +kernel

end Sample

namespace Coordinator

/-- The third call gives the first decision: the reply is the one to a model that decides at
once. If no call gives one, the reply is the fault of the last. -/
theorem transient_failures_third :
    let s := Store.empty.replay Sample.freshCalls
    let slow := answering .standard 1 Sample.task s Sample.moment
      (script (fun _ => Sample.moment) Sample.hesitant (Settings.Decision.standard.maxRetries + 1)
        ++ [])
    let quick := answering .standard 1 Sample.task s Sample.moment
      [.arriving Sample.moment (.ok Sample.click)]
    let silent := answering .standard 1 Sample.task s Sample.moment
      (script (fun _ => Sample.moment) (fun _ => .error .emptyPage)
        (Settings.Decision.standard.maxRetries + 1) ++ [])
    PausesFit .standard ∧ slow.2.asked.length = 3 ∧ slow.1 = quick.1 ∧
      slow.2.store = quick.2.store ∧ silent.2.asked.length = 3 ∧ s.Adds silent.2.store [] ∧
      silent.1 = some (lament .standard 1 .emptyPage) := by
  have hfits : PausesFit .standard := by decide
  have hspared : Spared (Store.empty.replay Sample.freshCalls) := by
    unfold Spared
    decide +kernel
  have hinvalid : ∀ i < 2, ∃ e, judged (Sample.hesitant i) = .error e := by
    intro i hi
    match i, hi with
    | 0, _ => exact ⟨_, rfl⟩
    | 1, _ => exact ⟨_, rfl⟩
  obtain ⟨hdecides, -⟩ := (transient_failures Sample.freshCalls hfits 1 Sample.task
    Sample.moment (fun _ => Sample.moment) Sample.hesitant []).1 (by decide +kernel)
  obtain ⟨-, hfails⟩ := (transient_failures Sample.freshCalls hfits 1 Sample.task
    Sample.moment (fun _ => Sample.moment) (fun _ => .error .emptyPage) []).1 (by decide +kernel)
  obtain ⟨hlength, -, hreply, hstore⟩ := hdecides 2 Sample.click (Nat.le_refl 2) hinvalid rfl
  obtain ⟨context, hcontexts, hadds, hlament⟩ := hfails .emptyPage (fun _ _ => ⟨_, rfl⟩) rfl
  have hzero : ∀ r ∈ (Store.empty.replay Sample.freshCalls).messages, r.failures = 0 := by
    decide +kernel
  have hcount : (Store.empty.replay Sample.freshCalls).failuresOf context.message.id = 0 := by
    rw [Store.failuresOf]
    cases hfind : (Store.empty.replay Sample.freshCalls).message? context.message.id with
    | none => rfl
    | some r => exact hzero r (List.mem_of_find?_eq_some hfind)
  refine ⟨hfits, hlength, hreply, hstore, ?_, hadds, (hlament hspared).trans ?_⟩
  · exact (congrArg List.length hcontexts).trans List.length_replicate
  · rw [hcount]
    rfl

/-- Settings are accepted whose second pause does not fit. Then the third call is not made, although
it would give a decision, and there is no reply; a model that decides at once is heard. -/
theorem transient_failures_slow :
    let s := Store.empty.replay Sample.freshCalls
    let late := answering Sample.slow.decision 1 Sample.task s Sample.moment
      (script (fun _ => Sample.moment) Sample.hesitant
        (Sample.slow.decision.maxRetries + 1) ++ [])
    let quick := answering Sample.slow.decision 1 Sample.task s Sample.moment
      [.arriving Sample.moment (.ok Sample.click)]
    Settings.load Sample.slowFile = .ok Sample.slow ∧ ¬ PausesFit Sample.slow.decision ∧
      judged (Sample.hesitant 2) = .ok Sample.click ∧ late.2.asked.length = 2 ∧
      late.1 = none ∧ late.2.store.actions.length = 0 ∧
      quick.1 = some (.action ⟨1, .click, ⟨none, some "#a", none, none, none⟩⟩) ∧
      quick.2.store.actions.length = 1 := by
  exact ⟨Sample.load_slowFile, by decide +kernel, rfl, by decide +kernel, by decide +kernel,
    by decide +kernel, by decide +kernel, by decide +kernel⟩

end Coordinator

end ControlPlane
