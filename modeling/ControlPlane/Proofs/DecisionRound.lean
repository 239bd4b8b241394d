/-
Rounds of questions.

For one frame the coordinator asks for a decision about one message, and asks again after
a call that failed. What it asked and what it was answered is its round (`Past.questions`).
A round about a message is *exhausted* when every call that may be made was made and failed
or gave a decision that cannot be carried out; it has *succeeded* when there is a decision
that can be. Other frames ask nothing.

The last section counts exhausted rounds: the streak of a message (`streak`) is the number
of its exhausted rounds since its last round that succeeded.
-/
import ControlPlane.Proofs.Outline

set_option autoImplicit false

namespace ControlPlane

/-! ## Questions -/

/-- What was asked, and what the answer was. -/
structure Question where
  /-- What the decision was to be made from. -/
  context : Decision.Context
  /-- The answer. -/
  answer : Except Fault Decision

namespace Question

/-- Whether it is about a message. -/
def isAbout (m : Int) (q : Question) : Bool := q.context.message.id == m

/-- Whether the answer is a decision that has what it needs. -/
def isValid (q : Question) : Bool :=
  match q.answer with
  | .ok d => decide (d.check = .ok ())
  | .error _ => false

end Question

/-- The question, if one was asked. -/
def Entry.question? : Entry → Option Question
  | called _ _ _ _ => none
  | asked _ context answer => some ⟨context, answer⟩

/-- All questions so far. -/
def Past.questions (h : Past) : List Question := h.log.filterMap Entry.question?

@[simp] theorem Past.questions_start (s : Store) : (start s).questions = [] := rfl

@[simp] theorem Past.questions_called (h : Past) (who : Actor) (now : Instant)
    (c : Store.Call) : (h.called who now c).questions = h.questions := by
  rw [questions, called_log, List.filterMap_append]
  exact List.append_nil _

@[simp] theorem Past.questions_asked (h : Past) (who : Actor) (context : Decision.Context)
    (answer : Except Fault Decision) :
    (h.asked who context answer).questions = h.questions ++ [⟨context, answer⟩] := by
  rw [questions, asked_log, List.filterMap_append]
  rfl

/-! ## Rounds -/

namespace Round

variable {retries : Nat} {m m' : Int} {qs : List Question} {d : Decision}

/-- Every call was about a message, and failed. -/
def Failing (m : Int) (qs : List Question) : Prop :=
  ∀ q ∈ qs, q.isAbout m = true ∧ q.isValid = false

/-- All calls that may be made failed. -/
def exhausted (retries : Nat) (m : Int) (qs : List Question) : Bool :=
  qs.length == retries + 1 && qs.all fun q => q.isAbout m && !q.isValid

/-- There is a decision about a message that can be carried out. -/
def succeeded (m : Int) (qs : List Question) : Bool :=
  qs.any fun q => q.isAbout m && q.isValid

/-- The last call gave a decision that can be carried out, the others failed. -/
def Decided (retries : Nat) (m : Int) (d : Decision) (qs : List Question) : Prop :=
  ∃ failed context, qs = failed ++ [⟨context, .ok d⟩] ∧ Failing m failed ∧
    failed.length ≤ retries ∧ context.message.id = m ∧ d.check = .ok ()

theorem failing_nil (m : Int) : Failing m [] := fun _ h => absurd h List.not_mem_nil

/-- One more call that fails leaves all of them failing. -/
theorem Failing.append (h : Failing m qs) {q : Question} (habout : q.isAbout m = true)
    (hinvalid : q.isValid = false) : Failing m (qs ++ [q]) :=
  List.forall_mem_append.2 ⟨h, List.forall_mem_singleton.2 ⟨habout, hinvalid⟩⟩

/-- A round is exhausted if there were as many calls as may be made, and all of them failed. -/
theorem exhausted_iff :
    exhausted retries m qs = true ↔ qs.length = retries + 1 ∧ Failing m qs := by
  simp only [exhausted, Failing, Bool.and_eq_true, beq_iff_eq, List.all_eq_true,
    Bool.not_eq_true']

/-- A round succeeds if one of its calls gave a decision that can be carried out. -/
theorem succeeded_iff :
    succeeded m qs = true ↔ ∃ q ∈ qs, q.isAbout m = true ∧ q.isValid = true := by
  simp only [succeeded, List.any_eq_true, Bool.and_eq_true]

/-- A question is about one message. -/
theorem isAbout_unique {q : Question} (h : q.isAbout m = true) (h' : q.isAbout m' = true) :
    m = m' :=
  (beq_iff_eq.1 h).symm.trans (beq_iff_eq.1 h')

/-- A round is exhausted for one message. -/
theorem exhausted_unique (h : exhausted retries m qs = true)
    (h' : exhausted retries m' qs = true) : m = m' := by
  obtain ⟨hlength, hfailing⟩ := exhausted_iff.1 h
  obtain ⟨_, hfailing'⟩ := exhausted_iff.1 h'
  cases qs with
  | nil => cases hlength
  | cons q rest =>
      exact isAbout_unique (hfailing q List.mem_cons_self).1 (hfailing' q List.mem_cons_self).1

/-- A round in which every call failed has not succeeded, for whatever message. -/
theorem Failing.not_succeeded (h : Failing m qs) (m' : Int) : succeeded m' qs = false := by
  refine Bool.eq_false_iff.2 ?_
  intro hsucceeded
  obtain ⟨q, hq, _, hvalid⟩ := succeeded_iff.1 hsucceeded
  rw [(h q hq).2] at hvalid
  cases hvalid

/-- An exhausted round succeeds for no message. -/
theorem succeeded_of_exhausted (h : exhausted retries m qs = true) (m' : Int) :
    succeeded m' qs = false :=
  (exhausted_iff.1 h).2.not_succeeded m'

/-- With fewer calls than may be made no round is exhausted. -/
theorem not_exhausted_of_length (h : qs.length ≤ retries) (m : Int) :
    exhausted retries m qs = false := by
  refine Bool.eq_false_iff.2 fun hexhausted => ?_
  have hlength := (exhausted_iff.1 hexhausted).1
  omega

/-- A round that comes to a decision succeeds. -/
theorem Decided.succeeded (h : Decided retries m d qs) : succeeded m qs = true := by
  obtain ⟨failed, context, rfl, _, _, hmessage, hcheck⟩ := h
  refine succeeded_iff.2 ⟨⟨context, .ok d⟩, ?_, beq_iff_eq.2 hmessage, decide_eq_true hcheck⟩
  exact List.mem_append_right _ (List.mem_singleton.2 rfl)

/-- It succeeds for no other message. -/
theorem Decided.unique (h : Decided retries m d qs) (h' : Round.succeeded m' qs = true) :
    m = m' := by
  obtain ⟨failed, context, rfl, hfailing, _, hmessage, _⟩ := h
  obtain ⟨q, hq, habout, hvalid⟩ := succeeded_iff.1 h'
  rcases List.mem_append.1 hq with hq | hq
  · rw [(hfailing q hq).2] at hvalid
    cases hvalid
  · rw [List.mem_singleton.1 hq] at habout
    exact hmessage.symm.trans (beq_iff_eq.1 habout)

/-- It is exhausted for none. -/
theorem Decided.not_exhausted (h : Decided retries m d qs) (m' : Int) :
    exhausted retries m' qs = false := by
  refine Bool.eq_false_iff.2 ?_
  intro hexhausted
  have hfailed := succeeded_of_exhausted hexhausted m
  rw [h.succeeded] at hfailed
  cases hfailed

/-! ## Streaks -/

/-- How long a streak is after one more round. -/
def next (retries : Nat) (m : Int) (qs : List Question) (n : Nat) : Nat :=
  if succeeded m qs then 0 else n + if exhausted retries m qs then 1 else 0

theorem next_nil (retries : Nat) (m : Int) (n : Nat) : next retries m [] n = n := rfl

/-- A round that was broken off before it was exhausted counts for nothing. -/
theorem next_failing (h : Failing m qs) (hlength : qs.length ≤ retries) (m' : Int) (n : Nat) :
    next retries m' qs n = n := by
  rw [next, h.not_succeeded m', if_neg Bool.false_ne_true, not_exhausted_of_length hlength m',
    if_neg Bool.false_ne_true]
  rfl

/-- An exhausted round makes the streak of its own message longer. -/
theorem next_exhausted (h : exhausted retries m qs = true) (m' : Int) (n : Nat) :
    next retries m' qs n = n + if m' = m then 1 else 0 := by
  rw [next, succeeded_of_exhausted h m', if_neg Bool.false_ne_true]
  by_cases hm : m' = m
  · rw [hm, h, if_pos rfl, if_pos rfl]
  · have hother : exhausted retries m' qs = false :=
      Bool.eq_false_iff.2 fun h' => hm (exhausted_unique h' h)
    rw [if_neg hm, hother, if_neg Bool.false_ne_true]

/-- A round that succeeded ends the streak of its own message. -/
theorem next_decided (h : Decided retries m d qs) (m' : Int) (n : Nat) :
    next retries m' qs n = if m' = m then 0 else n := by
  rw [next, h.not_exhausted m', if_neg Bool.false_ne_true]
  by_cases hm : m' = m
  · rw [hm, h.succeeded, if_pos rfl, if_pos rfl]
  · have hother : succeeded m' qs = false := Bool.eq_false_iff.2 fun h' => hm (h.unique h').symm
    rw [if_neg hm, hother, if_neg Bool.false_ne_true]
    rfl

/-- How many rounds of a message were exhausted since the last one that succeeded. -/
def streak (retries : Nat) (m : Int) (rounds : List (List Question)) : Nat :=
  (rounds.reverse.takeWhile fun qs => !succeeded m qs).countP (exhausted retries m)

/-- A streak goes on with the last round. -/
theorem streak_append (retries : Nat) (m : Int) (rounds : List (List Question))
    (qs : List Question) :
    streak retries m (rounds ++ [qs]) = next retries m qs (streak retries m rounds) := by
  -- read backwards, the new round comes first
  rw [streak, List.reverse_append, List.reverse_singleton, List.singleton_append,
    List.takeWhile_cons, next]
  cases succeeded m qs with
  | true => rfl
  | false => rw [Bool.not_false, if_pos rfl, List.countP_cons]; rfl

end Round

end ControlPlane
