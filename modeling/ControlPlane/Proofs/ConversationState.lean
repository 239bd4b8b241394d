/-
How a conversation stands.

A conversation stands in a state, or there is none with its number (`Store.stateOf`). Of
all calls two move this: one that adds a conversation, and one that brings a running one to
an end (`Call.Ends`). Everything else leaves every conversation as it stands
(`Change.stateOf`), and an end that comes too late does so too.
-/
import ControlPlane.Proofs.Answer

set_option autoImplicit false

namespace ControlPlane

/-- The state with a name. -/
theorem Conversation.State.name_of_ofName? {raw : String} {st : Conversation.State}
    (h : Conversation.State.ofName? raw = some st) : raw = st.name := by
  have hname := List.find?_some h
  rw [beq_iff_eq] at hname
  exact hname.symm

namespace Store

variable {s s' : Store} {now : Instant} {call : Call} {c : Int}

/-- The name of the state in which a conversation stands. -/
def stateOf (s : Store) (c : Int) : Option String := (s.conversation? c).map (·.state)

/-- The call is to bring a conversation to an end. -/
def Call.Ends (c : Int) : Call → Prop
  | .endConversation id st => id = c ∧ st.isTerminal = true
  | _ => False

/-- The call adds a conversation. -/
def Call.Founds : Call → Prop
  | .createConversation _ _ _ => True
  | _ => False

/-- A conversation is found by its number. -/
theorem conversation?_id {r : ConversationRow} (h : s.conversation? c = some r) : r.id = c := by
  simpa using List.find?_some h

/-- How conversations stand is a matter of their table alone. -/
theorem stateOf_congr (h : s'.conversations = s.conversations) (c : Int) :
    s'.stateOf c = s.stateOf c := by
  rw [stateOf, stateOf, conversation?, conversation?, h]

/-- A conversation is running if that is the state in which it stands. -/
theorem isRunning_iff :
    s.isRunning c = true ↔ s.stateOf c = some Conversation.State.running.name := by
  unfold isRunning stateOf
  cases s.conversation? c with
  | none => simp only [Bool.false_eq_true, Option.map_none, reduceCtorEq]
  | some r => simp only [beq_iff_eq, Option.map_some, Option.some.injEq]

/-- A conversation that was found in a state stands in it. -/
theorem stateOf_of_found {v : Conversation} (h : s.getConversation c = .ok (some v)) :
    s.stateOf c = some v.state.name := by
  obtain ⟨_, r, hfind, hstate⟩ := getConversation_some h
  rw [stateOf, hfind, Option.map_some, Conversation.State.name_of_ofName? hstate]

/-- A conversation that was found in no state that ends it is running. -/
theorem isRunning_of_found {v : Conversation} (h : s.getConversation c = .ok (some v))
    (hstate : ¬ v.state.isTerminal = true) : s.isRunning c = true := by
  rw [isRunning_iff, stateOf_of_found h]
  cases hv : v.state with
  | running => rfl
  | finished => rw [hv] at hstate; exact absurd rfl hstate
  | error => rw [hv] at hstate; exact absurd rfl hstate

/-- Conversations that change in place stand as their rows do. -/
theorem stateOf_map {f : ConversationRow → ConversationRow} (hf : ∀ r, (f r).id = r.id) :
    Store.stateOf { s with conversations := s.conversations.map f } c =
      (s.conversation? c).map fun r => (f r).state := by
  have hsame : ((fun r : ConversationRow => r.id == c) ∘ f) = fun r => r.id == c := by
    funext r
    rw [Function.comp_apply, hf]
  rw [stateOf, conversation?, List.find?_map, hsame, Option.map_map]
  rfl

/-- **What moves a conversation.** A call that adds none and does not bring this one to an
end while it is running leaves it as it stands. -/
theorem Change.stateOf (h : s.Change now call s') (hfounds : ¬ call.Founds)
    (hends : ¬ (call.Ends c ∧ s.isRunning c = true)) : s'.stateOf c = s.stateOf c := by
  cases h with
  | nothing => rfl
  | actions => rfl
  | messages => rfl
  | newMessage => rfl
  | newAction => rfl
  | newConversation => exact absurd trivial hfounds
  | conversations _ f hf =>
      rw [stateOf_map fun r => (hf r).becomes.id]
      unfold Store.stateOf
      cases hfind : s.conversation? c with
      | none => rfl
      | some r =>
          -- of what the row may become only the end of a running conversation has another state
          have hmoves := hf r
          rw [Option.map_some, Option.map_some]
          generalize f r = r' at hmoves
          cases hmoves with
          | stays => rfl
          | renames => rfl
          | ends st hst hcall hrunning t =>
              refine absurd ⟨?_, ?_⟩ hends
              · rw [hcall]
                exact ⟨conversation?_id hfind, hst⟩
              · rw [isRunning, hfind]
                exact hrunning

/-- A running conversation that is brought to an end stands there. -/
theorem stateOf_endConversation {st : Conversation.State} (hst : st.isTerminal = true)
    (hrunning : s.isRunning c = true) :
    (s.endConversation now c st).2.stateOf c = some st.name := by
  have hstate := isRunning_iff.1 hrunning
  unfold stateOf at hstate
  cases hfind : s.conversation? c with
  | none =>
      rw [hfind] at hstate
      cases hstate
  | some r =>
      rw [hfind, Option.map_some] at hstate
      have hhit : (r.id == c && r.state == Conversation.State.running.name) = true := by
        rw [conversation?_id hfind, Option.some.inj hstate, beq_self_eq_true, beq_self_eq_true,
          Bool.and_self]
      unfold endConversation modify
      rw [if_pos hst]
      simp only
      rw [stateOf_map, hfind, Option.map_some, if_pos hhit]
      intro r
      split
      · rfl
      · rfl

end Store

end ControlPlane
