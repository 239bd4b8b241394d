/-
How long a round of calls waits.

A round makes a call for a decision again after a pause, and the pauses are meant to double, four
times at most. A pause is a word of 64 bits, and the base can be any such word: the shift is bounded
and the product is not. In every world the pauses of a round are the first few of one sequence, as
many as there are calls that follow another one, and where the next one does not fit the word the
round is broken off (`decideFrom_spec`). A model that says nothing brings about all of them.

So every pause that is made is what it is meant to be, and pauses do not get shorter. That all
pauses are made which the failures call for is another matter: it holds exactly if the last one
that the settings allow fits the word (`decideRound_pauses_iff`). Nothing in the settings sees to
that (`load_retryDelay`): the base that they accept is any word.
-/
import ControlPlane.Proofs.Patience
import ControlPlane.Proofs.Saving

set_option autoImplicit false

namespace ControlPlane

/-! ## The pauses of a program -/

namespace World

/-- What others do asks nothing of the model. -/
theorem asked_interrupt (w : World) (i : Interruption) : (w.interrupt i).asked = w.asked := by
  cases i <;> rfl

/-- What others do is no pause. -/
theorem waited_interrupt (w : World) (i : Interruption) : (w.interrupt i).waited = w.waited := by
  cases i <;> rfl

/-- What is asked is remembered, and nothing else is counted meanwhile. -/
theorem ask_spec (w : World) (context : Decision.Context) :
    (w.ask context).2.asked = context :: w.asked ∧ (w.ask context).2.waited = w.waited := by
  have hmeanwhile : ∀ (is : List Interruption) (v : World),
      (is.foldl interrupt v).asked = v.asked ∧ (is.foldl interrupt v).waited = v.waited := by
    intro is
    induction is with
    | nil => exact fun v => ⟨rfl, rfl⟩
    | cons i is ih =>
        intro v
        obtain ⟨hasked, hwaited⟩ := ih (v.interrupt i)
        exact ⟨hasked.trans (v.asked_interrupt i), hwaited.trans (v.waited_interrupt i)⟩
  unfold ask
  cases hturns : w.turns with
  | nil => exact ⟨rfl, rfl⟩
  | cons turn rest =>
      exact hmeanwhile _ _

end World

namespace Program

variable {α β : Type}

/-- The pauses that a program makes in a world, one after the other. -/
def pauses : Program α → World → List Nat
  | done _, _ => []
  | call c next, w => (next (w.call c).1).pauses (w.call c).2
  | decide context next, w => (next (w.ask context).1).pauses (w.ask context).2
  | pause ms next, w => ms :: (next ()).pauses { w with waited := w.waited + ms }
  | clock next, w => (next w.now).pauses w

/-- The pauses of two programs, one after the other, follow one another. -/
theorem pauses_bind (p : Program α) (f : α → Program β) (w : World) :
    (p.bind f).pauses w = p.pauses w ++ (f (p.run w).1).pauses (p.run w).2 := by
  induction p generalizing w with
  | done a => rfl
  | call c next ih => exact ih _ _
  | decide context next ih => exact ih _ _
  | pause ms next ih => exact congrArg (ms :: ·) (ih () _)
  | clock next ih => exact ih _ _

/-- The pauses are what the world counts as waiting. -/
theorem run_waited (p : Program α) (w : World) :
    (p.run w).2.waited = w.waited + (p.pauses w).sum := by
  induction p generalizing w with
  | done a => rfl
  | call c next ih => exact ih _ _
  | decide context next ih =>
      have hask := (w.ask_spec context).2
      exact (ih _ _).trans (by rw [hask]; rfl)
  | pause ms next ih =>
      refine (ih () _).trans ?_
      rw [pauses, List.sum_cons, Nat.add_assoc]
  | clock next ih => exact ih _ _

end Program

namespace Procedure

variable {α β : Type} {p : Procedure α} {f : α → Procedure β} {w w' : World}

/-- The pauses that a procedure makes in a world. -/
def pausesIn (p : Procedure α) (w : World) : List Nat := Program.pauses p.run w

/-- The pauses of a procedure that goes on follow those of its first part. -/
theorem pausesIn_bind_ok {a : α} (hp : p.runIn w = (.ok a, w')) :
    (p >>= f).pausesIn w = p.pausesIn w ++ (f a).pausesIn w' := by
  refine (Program.pauses_bind p.run (ExceptT.bindCont f) w).trans ?_
  change _ ++ Program.pauses (ExceptT.bindCont f (p.runIn w).1) (p.runIn w).2 = _
  rw [hp]
  rfl

end Procedure

namespace Coordinator

open Procedure

/-! ## The pauses of a round -/

section Round

variable {base n : Nat} (m : Int) (context : Decision.Context)

/-- The pause before call number `n`, if there is one. -/
def lead (base n : Nat) : List Nat := if 0 < n then [retryPause base n] else []

/-- The world after the pause before call number `n`. -/
def rested (base n : Nat) (w : World) : World :=
  { w with waited := w.waited + (lead base n).sum }

/-- A call makes no pause. -/
theorem decideOnce_pausesIn (w : World) : (decideOnce context).pausesIn w = [] := by
  have hasked : (Procedure.decide context).runIn w =
      (.ok (w.ask context).1, (w.ask context).2) := rfl
  rw [decideOnce, pausesIn_bind_ok hasked]
  cases (w.ask context).1 with
  | error e => rfl
  | ok decision =>
      simp only
      cases decision.check <;> rfl

/-- A pause that fits is made, and it is the only one. -/
theorem waitBefore_pausesIn (hfits : retryPause base n < 2 ^ 64) (w : World) :
    (waitBefore base n).pausesIn w = [retryPause base n] := by
  rw [waitBefore, if_pos (unsigned64_holds_iff.2 hfits)]
  rfl

/-- A call begins with its pause, if there is one, and goes on as one without. -/
theorem decideOr_rested (hfits : retryPause base n < 2 ^ 64)
    (otherwise : Fault → Procedure (Except Fault Decision)) (w : World) :
    ∃ first : Procedure Unit, first.runIn w = (.ok (), rested base n w) ∧
      first.pausesIn w = lead base n ∧
      decideOr base m context n otherwise =
        first >>= fun _ => decideOr base m context 0 otherwise := by
  by_cases hn : 0 < n
  · refine ⟨waitBefore base n, ?_, ?_, ?_⟩
    · rw [waitBefore_run hfits, rested, lead, if_pos hn, List.sum_singleton]
    · rw [waitBefore_pausesIn hfits, lead, if_pos hn]
    · simp only [decideOr, if_pos hn]
      rfl
  · refine ⟨pure (), ?_, ?_, ?_⟩
    · simp only [rested, lead, if_neg hn]
      rfl
    · simp only [lead, if_neg hn]
      rfl
    · obtain rfl : n = 0 := by omega
      rfl

/-- One call after its pause either fails, and what is to follow then is done, or ends the round
without another pause. A model that has nothing to say fails. -/
theorem decideOr_spec (hfits : retryPause base n < 2 ^ 64)
    (otherwise : Fault → Procedure (Except Fault Decision)) (w : World) :
    ∃ w', w'.asked = context :: w.asked ∧ (w.turns = [] → w'.turns = []) ∧
      ((∃ e, (decideOr base m context n otherwise).pausesIn w =
            lead base n ++ (otherwise e).pausesIn w' ∧
          (decideOr base m context n otherwise).runIn w = (otherwise e).runIn w') ∨
        (w.turns ≠ [] ∧ (decideOr base m context n otherwise).pausesIn w = lead base n ∧
          ∃ r w'', (decideOr base m context n otherwise).runIn w = (.ok r, w'') ∧
            w''.asked = context :: w.asked)) := by
  obtain ⟨first, hrun, hpauses, hdecide⟩ := decideOr_rested m context hfits otherwise w
  obtain ⟨r, w', hanswer⟩ : ∃ r w', (rested base n w).ask context = (r, w') := ⟨_, _, rfl⟩
  have honce : (decideOnce context).runIn (rested base n w) = (.ok (judged r), w') := by
    rw [decideOnce_run, hanswer]
  have hasked : w'.asked = context :: w.asked := by
    have hspec := ((rested base n w).ask_spec context).1
    rwa [hanswer] at hspec
  have hsilent : w.turns = [] → judged r = .error w.silence ∧ w'.turns = [] := by
    intro hturns
    obtain ⟨store, now, turns, silence, asked, waited⟩ := w
    obtain rfl : turns = [] := hturns
    cases hanswer
    exact ⟨rfl, rfl⟩
  refine ⟨w', hasked, fun hturns => (hsilent hturns).2, ?_⟩
  rw [hdecide, pausesIn_bind_ok hrun, runIn_bind_ok hrun, hpauses, decideOr,
    if_neg (Nat.lt_irrefl 0)]
  dsimp only
  rw [pausesIn_bind_ok honce, runIn_bind_ok honce, decideOnce_pausesIn, List.nil_append]
  cases hjudged : judged r with
  | error e => exact Or.inl ⟨e, rfl, rfl⟩
  | ok decision =>
      refine Or.inr ⟨fun hturns => ?_, ?_⟩
      · rw [(hsilent hturns).1] at hjudged
        cases hjudged
      · have hreset : (Procedure.call (.resetFailures m)).attempt.runIn w' =
            (.ok (w'.call (.resetFailures m)).1, (w'.call (.resetFailures m)).2) := rfl
        dsimp only
        rw [pausesIn_bind_ok hreset, runIn_bind_ok hreset]
        cases (w'.call (.resetFailures m)).1 with
        | error e => exact ⟨List.append_nil _, _, _, rfl, hasked⟩
        | ok _ => exact ⟨List.append_nil _, _, _, rfl, hasked⟩

/-- A pause that does not fit breaks off the round before it is made. -/
theorem decideFrom_breaks (hn : 0 < n) (hlong : ¬ retryPause base n < 2 ^ 64) (left : Nat)
    (w : World) :
    (decideFrom base m context n left).runIn w = (.error .overflow, w) ∧
      (decideFrom base m context n left).pausesIn w = [] := by
  obtain ⟨otherwise, hcall⟩ := decideFrom_call base m context n left
  have hwait : waitBefore base n = Procedure.fail .overflow := by
    rw [waitBefore, if_neg (mt unsigned64_holds_iff.1 hlong)]
  rw [hcall, decideOr, if_pos hn, hwait]
  exact ⟨rfl, rfl⟩

/-- What is known of a round from call number `n` on, of which `k` calls follow the first one: the
pauses before them, and that it was broken off only if the next pause does not fit. -/
structure Waits (base : Nat) (context : Decision.Context) (n left k : Nat)
    (p : Procedure (Except Fault Decision)) (w : World) : Prop where
  /-- No more calls are made than may be. -/
  few : k ≤ left
  /-- There is a pause before every call, and no other. -/
  pauses : p.pausesIn w = lead base n ++ (List.range' (n + 1) k).map (retryPause base)
  /-- All pauses fit. -/
  fits : retryPause base (n + k) < 2 ^ 64
  /-- Every call is about the same. -/
  asked : (p.runIn w).2.asked = List.replicate (k + 1) context ++ w.asked
  /-- The round comes to a result, or the next pause does not fit. -/
  ends : (∃ r, (p.runIn w).1 = .ok r) ∨
    ((p.runIn w).1 = .error .overflow ∧ k < left ∧ ¬ retryPause base (n + k + 1) < 2 ^ 64)
  /-- A model that says nothing is called as often as may be. -/
  silent : w.turns = [] → k = left ∨ (p.runIn w).1 = .error .overflow

/-- **A round waits a first part of one sequence**: before every call that follows a failed one
there is a pause, and there is no other. -/
theorem decideFrom_spec (hfits : retryPause base n < 2 ^ 64) (left : Nat) (w : World) :
    ∃ k, Waits base context n left k (decideFrom base m context n left) w := by
  induction left generalizing n w with
  | zero =>
      rw [decideFrom]
      obtain ⟨w', hasked, -, ⟨e, hpauses, hrun⟩ | ⟨-, hpauses, r, w'', hrun, hlast⟩⟩ :=
        decideOr_spec m context hfits (fun e => pure (.error e)) w
      · exact ⟨0, Nat.le_refl 0, hpauses, hfits, by rw [hrun]; exact hasked,
          Or.inl ⟨_, by rw [hrun]; rfl⟩, fun _ => Or.inl rfl⟩
      · exact ⟨0, Nat.le_refl 0, by rw [hpauses]; exact (List.append_nil _).symm, hfits,
          by rw [hrun]; exact hlast, Or.inl ⟨r, by rw [hrun]⟩, fun _ => Or.inl rfl⟩
  | succ left ih =>
      rw [decideFrom]
      obtain ⟨w', hasked, hturns', ⟨e, hpauses, hrun⟩ | ⟨hturns, hpauses, r, w'', hrun, hlast⟩⟩ :=
        decideOr_spec m context hfits (fun _ => decideFrom base m context (n + 1) left) w
      · by_cases hnext : retryPause base (n + 1) < 2 ^ 64
        · -- the pause before the next call is the head of the rest of the sequence
          obtain ⟨k, hk⟩ := ih hnext w'
          have hplace : n + (k + 1) = n + 1 + k := by omega
          refine ⟨k + 1, Nat.succ_le_succ hk.few, ?_, by rw [hplace]; exact hk.fits, ?_, ?_, ?_⟩
          · rw [hpauses, hk.pauses, List.range'_succ, List.map_cons]
            rfl
          · rw [hrun, hk.asked, hasked, List.append_cons, ← List.replicate_succ']
          · rw [hrun, hplace]
            exact hk.ends.imp_right fun hbroken =>
              ⟨hbroken.1, Nat.succ_lt_succ hbroken.2.1, hbroken.2.2⟩
          · rw [hrun]
            exact fun hturns => (hk.silent (hturns' hturns)).imp_left fun hall => by rw [hall]
        · -- the next pause does not fit, and this call was the last one
          obtain ⟨hbroken, hnone⟩ := decideFrom_breaks m context (Nat.succ_pos n) hnext left w'
          rw [hbroken] at hrun
          rw [hnone] at hpauses
          exact ⟨0, Nat.zero_le _, hpauses, hfits, by rw [hrun]; exact hasked,
            Or.inr ⟨by rw [hrun], Nat.succ_pos left, hnext⟩, fun _ => Or.inr (by rw [hrun])⟩
      · exact ⟨0, Nat.zero_le _, by rw [hpauses]; exact (List.append_nil _).symm, hfits,
          by rw [hrun]; exact hlast, Or.inl ⟨r, by rw [hrun]⟩, fun h => absurd h hturns⟩

end Round

end Coordinator

/-! ## Accepted settings -/

namespace Settings

/-- What is read as a word of 64 bits is one. -/
theorem word64_holds (wanted : String) :
    (word64 wanted).Yields fun n => WordRange.unsigned64.holds n = true :=
  Decoder.natural_holds isUnsigned64 wanted

/-- The base of the pauses is read as a word of 64 bits. -/
theorem Decision.retryDelay_yields : Decision.decoder.Yields fun d => d.retryDelay < 2 ^ 64 := by
  refine RecordReader.yields_start ?_
    |>.defaulted (Decoder.yields_any _) trivial
    |>.defaulted (Decoder.yields_any _) trivial
    |>.defaulted (Decoder.yields_any _) trivial
    |>.defaulted (Decoder.yields_any _) trivial
    |>.defaulted (Decoder.yields_any _) trivial
    |>.defaulted (Decoder.yields_any _) trivial
    |>.defaulted (Decoder.yields_any _) trivial
    |>.defaulted (word64_holds "u64") (by decide)
    |>.defaulted (Decoder.yields_any _) trivial
    |>.decoder _
  intro _ _ _ _ _ _ _ _ _ _ _ _ _ _ delay hdelay _ _
  obtain ⟨-, hgreatest⟩ := Bool.and_eq_true_iff.1 hdelay
  have hle := of_decide_eq_true hgreatest
  change (delay : Int) ≤ 18446744073709551615 at hle
  change delay < 2 ^ 64
  omega

/-- The base of the pauses of accepted settings is a word of 64 bits. -/
theorem load_retryDelay {text : String} {s : Settings} (h : load text = .ok s) :
    s.decision.retryDelay < 2 ^ 64 := by
  have hyields : decoder.Yields fun s => s.decision.retryDelay < 2 ^ 64 := by
    refine RecordReader.yields_start ?_
      |>.defaulted (Decoder.yields_any _) trivial
      |>.defaulted (Decoder.yields_any _) trivial
      |>.defaulted Decision.retryDelay_yields (by decide)
      |>.defaulted (Decoder.yields_any _) trivial
      |>.defaulted (Decoder.yields_any _) trivial
      |>.decoder _
    intro _ _ _ _ _ hdecision _ _ _ _
    exact hdecision
  exact hyields .streaming _ s (load_ok h).1

end Settings

namespace Coordinator

/-! ## All rounds -/

section Rounds

variable {d : Settings.Decision} (m : Int) (context : Decision.Context)

/-- What is known of a round from its first call on. -/
theorem decideRound_spec (hdelay : d.retryDelay < 2 ^ 64) (w : World) :
    ∃ k, Waits d.retryDelay context 0 d.maxRetries k (decideRound d m context) w :=
  decideFrom_spec m context (by simpa [retryPause, Integer.twoTo] using hdelay) d.maxRetries w

/-- **Every pause is right, and all are made exactly if they fit the word.** Take any settings whose
base is a word of 64 bits, any message and any context. In every world there is some number of calls
beyond the first, at most as many as the settings allow, and before each of them a pause, which is
the doubled base; that is all the waiting there is, and pauses do not get shorter. A round is broken
off only if the next pause does not fit the word. There is no world in which a round is broken off
exactly if the last pause that the settings allow fits. -/
theorem decideRound_pauses_iff (hdelay : d.retryDelay < 2 ^ 64) :
    (∀ w, ∃ k ≤ d.maxRetries,
      ((decideRound d m context).runIn w).2.asked = List.replicate (k + 1) context ++ w.asked ∧
        ((decideRound d m context).runIn w).2.waited =
          w.waited + ((decideRound d m context).pausesIn w).sum ∧
        (decideRound d m context).pausesIn w =
          (List.range' 1 k).map (fun n => d.retryDelay * 2 ^ min (n - 1) 4) ∧
        (∀ ms ∈ (decideRound d m context).pausesIn w, ms < 2 ^ 64) ∧
        ((decideRound d m context).pausesIn w).Pairwise (· ≤ ·) ∧
        (((decideRound d m context).runIn w).1 = .error .overflow →
          k < d.maxRetries ∧ 2 ^ 64 ≤ d.retryDelay * 2 ^ min k 4)) ∧
    ((∀ w, ((decideRound d m context).runIn w).1 ≠ .error .overflow) ↔
      d.retryDelay * 2 ^ min (d.maxRetries - 1) 4 < 2 ^ 64) := by
  refine ⟨?_, ?_, ?_⟩
  · intro w
    obtain ⟨k, hk⟩ := decideRound_spec m context hdelay w
    have hpauses : (decideRound d m context).pausesIn w =
        (List.range' 1 k).map (retryPause d.retryDelay) := hk.pauses
    refine ⟨k, hk.few, hk.asked, Program.run_waited _ w, hpauses, ?_, ?_, ?_⟩
    · intro ms hms
      rw [hpauses] at hms
      obtain ⟨n, hn, rfl⟩ := List.mem_map.1 hms
      rw [List.mem_range'_1] at hn
      exact Nat.lt_of_le_of_lt (retryPause_mono (by omega)) hk.fits
    · rw [hpauses, List.pairwise_map]
      exact (List.pairwise_lt_range' 1).imp fun hlt => retryPause_mono (Nat.le_of_lt hlt)
    · intro hbroken
      rcases hk.ends with ⟨r, hr⟩ | ⟨-, hleft, hlong⟩
      · rw [hr] at hbroken
        cases hbroken
      · refine ⟨hleft, Nat.le_of_not_lt ?_⟩
        rwa [Nat.zero_add] at hlong
  · -- a model that says nothing gets to the last pause
    intro hunbroken
    obtain ⟨k, hk⟩ := decideRound_spec m context hdelay default
    obtain rfl := (hk.silent rfl).resolve_right (hunbroken default)
    have hfits := hk.fits
    rwa [Nat.zero_add] at hfits
  · intro hfits w hbroken
    obtain ⟨k, hk⟩ := decideRound_spec m context hdelay w
    rcases hk.ends with ⟨r, hr⟩ | ⟨-, hleft, hlong⟩
    · rw [hr] at hbroken
      cases hbroken
    · rw [Nat.zero_add] at hlong
      exact hlong (Nat.lt_of_le_of_lt (retryPause_mono hleft) hfits)

end Rounds

end Coordinator

namespace Sample

/-- A question about the first message. -/
def question : Decision.Context :=
  .task ⟨⟨1, 1, .user, "Sign up as Alice", moment⟩, page, []⟩

end Sample

namespace Coordinator

/-- The default settings fit: a model that says nothing is waited for twice, the second time twice
as long. -/
theorem decideRound_pauses_standard :
    Settings.Decision.standard.retryDelay < 2 ^ 64 ∧
      (decideRound .standard 1 Sample.question).pausesIn default = [2000, 4000] ∧
      ∀ w, ((decideRound .standard 1 Sample.question).runIn w).1 ≠ .error .overflow := by
  have hdelay : Settings.Decision.standard.retryDelay < 2 ^ 64 := by decide
  obtain ⟨-, hunbroken⟩ := decideRound_pauses_iff 1 Sample.question hdelay
  exact ⟨hdelay, by decide +kernel, hunbroken.2 (by decide)⟩

/-- Settings are accepted with a base that does not fit even once doubled: of two pauses the second
one is not made, and the round is broken off after two calls. -/
theorem decideRound_pauses_slow :
    Settings.load Sample.slowFile = .ok Sample.slow ∧ Sample.slow.decision.maxRetries = 2 ∧
      ¬ Sample.slow.decision.retryDelay * 2 ^ min (2 - 1) 4 < 2 ^ 64 ∧
      (decideRound Sample.slow.decision 1 Sample.question).pausesIn default =
        [9223372036854775808] ∧
      ((decideRound Sample.slow.decision 1 Sample.question).runIn default).2.asked.length = 2 ∧
      ((decideRound Sample.slow.decision 1 Sample.question).runIn default).1 = .error .overflow :=
  ⟨Sample.load_slowFile, rfl, by decide, by decide +kernel, by decide +kernel, rfl⟩

end Coordinator

end ControlPlane
