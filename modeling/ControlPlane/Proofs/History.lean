/-
The history of a store.

From the empty store on, whatever is called, with whatever arguments and at whatever
times, the store moves one way: no row goes away, no number is given out twice, and a
row only becomes what it may become (`ActionRow.Becomes` and its two companions). In
particular nothing touches an action that has ended, and no conversation leaves the
state in which it has ended.

The relation between an earlier and a later store is `OneWay`. It is transitive, so
it is proved for a single call and then holds across any number of them. What a
single call needs to know of the store is that its tables are numbered (`Ordered`);
the reading of the states and statuses is a fact of its own (`Settled`).
-/
import ControlPlane.Proofs.Change

set_option autoImplicit false

namespace ControlPlane

namespace Store

/-- Carries out calls one after the other, each at a time of its own. -/
def replay (s : Store) : List (Instant × Call) → Store
  | [] => s
  | (now, c) :: rest => replay (s.perform now c).2 rest

/-- Calls are carried out one part after the other. -/
theorem replay_append (s : Store) (calls more : List (Instant × Call)) :
    s.replay (calls ++ more) = (s.replay calls).replay more := by
  induction calls generalizing s with
  | nil => rfl
  | cons head rest ih => exact ih _

/-- What every single call keeps, any number of calls keeps. -/
theorem replay_induction {P : Store → Prop} {calls : List (Instant × Call)}
    (hstep : ∀ s, ∀ e ∈ calls, P s → P (s.perform e.1 e.2).2) {s : Store} (hs : P s) :
    P (s.replay calls) := by
  induction calls generalizing s with
  | nil => exact hs
  | cons head rest ih =>
      refine ih (fun s e he => hstep s e (List.mem_cons_of_mem _ he)) ?_
      exact hstep s head List.mem_cons_self hs

/-! ## Numbered tables -/

/-- The three tables are numbered. -/
structure Ordered (s : Store) : Prop where
  /-- The conversations are numbered. -/
  conversations : Numbered (·.id) s.conversations s.lastConversation
  /-- The messages are numbered. -/
  messages : Numbered (·.id) s.messages s.lastMessage
  /-- The actions are numbered. -/
  actions : Numbered (·.id) s.actions s.lastAction

theorem empty_ordered : Store.empty.Ordered := ⟨.nil, .nil, .nil⟩

/-- A change leaves the tables numbered. -/
theorem Change.ordered {s s' : Store} {now : Instant} {c : Call} (h : s.Change now c s')
    (hs : s.Ordered) : s'.Ordered := by
  cases h with
  | nothing => exact hs
  | actions _ f hf =>
      exact ⟨hs.conversations, hs.messages, hs.actions.map fun a => (hf a).becomes.id⟩
  | messages _ f hf => exact ⟨hs.conversations, hs.messages.map fun m => (hf m).id, hs.actions⟩
  | conversations _ f hf =>
      exact ⟨hs.conversations.map fun r => (hf r).becomes.id, hs.messages, hs.actions⟩
  | newConversation => exact ⟨hs.conversations.append rfl, hs.messages, hs.actions⟩
  | newMessage => exact ⟨hs.conversations, hs.messages.append rfl, hs.actions⟩
  | newAction => exact ⟨hs.conversations, hs.messages, hs.actions.append rfl⟩

/-- Any number of calls does. -/
theorem replay_ordered {s : Store} (hs : s.Ordered) (calls : List (Instant × Call)) :
    (s.replay calls).Ordered :=
  replay_induction (fun s e _ hs => (s.perform_change e.1 e.2).ordered hs) hs

/-! ## Known states and statuses -/

/-- Every action is open or has ended, and every conversation is running or has
ended. -/
structure Settled (s : Store) : Prop where
  /-- Every action is open or has ended. -/
  actions : ∀ a ∈ s.actions, a.isSettled = true
  /-- Every conversation is running or has ended. -/
  conversations : ∀ r ∈ s.conversations, r.isRunning = true ∨ r.isEnded = true

/-- In an empty store nothing is unsettled. -/
theorem empty_settled : Store.empty.Settled :=
  ⟨fun _ h => absurd h List.not_mem_nil, fun _ h => absurd h List.not_mem_nil⟩

/-- A change leaves every action open or ended, and every conversation running or ended. -/
theorem Change.settled {s s' : Store} {now : Instant} {c : Call} (h : s.Change now c s')
    (hs : s.Settled) : s'.Settled := by
  cases h with
  | nothing => exact hs
  | actions _ f hf =>
      refine ⟨?_, hs.conversations⟩
      intro b hb
      obtain ⟨a, ha, rfl⟩ := List.mem_map.1 hb
      exact (hf a).becomes.isSettled (hs.actions a ha)
  | messages _ f hf => exact ⟨hs.actions, hs.conversations⟩
  | conversations _ f hf =>
      refine ⟨hs.actions, ?_⟩
      intro b hb
      obtain ⟨r, hr, rfl⟩ := List.mem_map.1 hb
      -- a state that changed is one in which conversations end
      rcases (hf r).becomes.state with hsame | ⟨_, hended⟩
      · have hbefore := hs.conversations r hr
        rw [ConversationRow.isRunning, ConversationRow.isEnded] at hbefore ⊢
        rwa [hsame]
      · exact Or.inr hended
  | newConversation =>
      refine ⟨hs.actions, ?_⟩
      intro b hb
      rcases List.mem_append.1 hb with hb | hb
      · exact hs.conversations b hb
      · rw [List.mem_singleton.1 hb]
        exact Or.inl rfl
  | newMessage => exact ⟨hs.actions, hs.conversations⟩
  | newAction =>
      refine ⟨?_, hs.conversations⟩
      intro b hb
      rcases List.mem_append.1 hb with hb | hb
      · exact hs.actions b hb
      · rw [List.mem_singleton.1 hb]
        rfl

/-- Any number of calls does. -/
theorem replay_settled {s : Store} (hs : s.Settled) (calls : List (Instant × Call)) :
    (s.replay calls).Settled :=
  replay_induction (fun s e _ hs => (s.perform_change e.1 e.2).settled hs) hs

/-! ## Earlier and later tables -/

section Continues

variable {ρ : Type} {id : ρ → Int} {R : ρ → ρ → Prop} {rows rows' rows'' : List ρ} {last : Int}

/-- A later state of a table. -/
structure Continues (id : ρ → Int) (R : ρ → ρ → Prop) (rows rows' : List ρ) : Prop where
  /-- The later rows stand in the order of their numbers, so each has its own. -/
  ascending : rows'.Pairwise fun a b => id a < id b
  /-- No row goes away: each is there later as something that it may become. -/
  kept : ∀ r ∈ rows, ∃ r' ∈ rows', R r r'
  /-- Any other row has a number above all earlier ones. -/
  added : ∀ r' ∈ rows', (∃ r ∈ rows, R r r') ∨ ∀ r ∈ rows, id r < id r'

theorem Numbered.continues_self (h : Numbered id rows last) (hrefl : ∀ r, R r r) :
    Continues id R rows rows :=
  ⟨h.ascending, fun r hr => ⟨r, hr, hrefl r⟩, fun r hr => Or.inl ⟨r, hr, hrefl r⟩⟩

/-- A table whose rows become something in place is a later state. -/
theorem Numbered.continues_map (h : Numbered id rows last) {f : ρ → ρ}
    (hid : ∀ r, id (f r) = id r) (hf : ∀ r, R r (f r)) :
    Continues id R rows (rows.map f) where
  ascending := (h.map hid).ascending
  kept := fun r hr => ⟨f r, List.mem_map.2 ⟨r, hr, rfl⟩, hf r⟩
  added := by
    intro r' hr'
    obtain ⟨r, hr, rfl⟩ := List.mem_map.1 hr'
    exact Or.inl ⟨r, hr, hf r⟩

/-- So is one with a row that has the next number. -/
theorem Numbered.continues_append (h : Numbered id rows last) (hrefl : ∀ r, R r r) {x : ρ}
    (hx : id x = last + 1) : Continues id R rows (rows ++ [x]) where
  ascending := (h.append hx).ascending
  kept := fun r hr => ⟨r, List.mem_append_left _ hr, hrefl r⟩
  added := by
    intro r' hr'
    rcases List.mem_append.1 hr' with hr' | hr'
    · exact Or.inl ⟨r', hr', hrefl r'⟩
    · refine Or.inr ?_
      intro r hr
      rw [List.mem_singleton.1 hr', hx]
      have := h.bounded r hr
      omega

/-- A later state of a later state is a later state. -/
theorem Continues.trans (h : Continues id R rows rows') (h' : Continues id R rows' rows'')
    (hid : ∀ a b, R a b → id b = id a) (htrans : ∀ a b c, R a b → R b c → R a c) :
    Continues id R rows rows'' where
  ascending := h'.ascending
  kept := by
    intro a ha
    obtain ⟨b, hb, hab⟩ := h.kept a ha
    obtain ⟨c, hc, hbc⟩ := h'.kept b hb
    exact ⟨c, hc, htrans a b c hab hbc⟩
  added := by
    intro c hc
    -- a row at the end was there in between, or is new since then; and so was that one
    rcases h'.added c hc with ⟨b, hb, hbc⟩ | hnew
    · rcases h.added b hb with ⟨a, ha, hab⟩ | hnew
      · exact Or.inl ⟨a, ha, htrans a b c hab hbc⟩
      · refine Or.inr ?_
        intro a ha
        rw [hid b c hbc]
        exact hnew a ha
    · refine Or.inr ?_
      intro a ha
      obtain ⟨b, hb, hab⟩ := h.kept a ha
      rw [← hid a b hab]
      exact hnew b hb

end Continues

/-- A later store: each table is a later state of the earlier one. -/
structure OneWay (s s' : Store) : Prop where
  /-- The conversations are a later state of the earlier ones. -/
  conversations : Continues (·.id) ConversationRow.Becomes s.conversations s'.conversations
  /-- The messages are a later state of the earlier ones. -/
  messages : Continues (·.id) MessageRow.Becomes s.messages s'.messages
  /-- The actions are a later state of the earlier ones. -/
  actions : Continues (·.id) ActionRow.Becomes s.actions s'.actions

/-- A store is a later one of itself. -/
theorem Ordered.oneWay_self {s : Store} (h : s.Ordered) : s.OneWay s :=
  ⟨h.conversations.continues_self ConversationRow.Becomes.refl,
    h.messages.continues_self MessageRow.Becomes.refl,
    h.actions.continues_self ActionRow.Becomes.refl⟩

/-- What is later than a later store is later. -/
theorem OneWay.trans {s s' s'' : Store} (h : s.OneWay s') (h' : s'.OneWay s'') :
    s.OneWay s'' where
  conversations := h.conversations.trans h'.conversations (fun _ _ hab => hab.id)
    fun _ _ _ hab hbc => hab.trans hbc
  messages := h.messages.trans h'.messages (fun _ _ hab => hab.id)
    fun _ _ _ hab hbc => hab.trans hbc
  actions := h.actions.trans h'.actions (fun _ _ hab => hab.id)
    fun _ _ _ hab hbc => hab.trans hbc

/-- One change goes one way. -/
theorem Change.oneWay {s s' : Store} {now : Instant} {c : Call} (h : s.Change now c s')
    (hs : s.Ordered) : s.OneWay s' := by
  have hself := hs.oneWay_self
  cases h with
  | nothing => exact hself
  | actions _ f hf =>
      exact { hself with
        actions := hs.actions.continues_map (fun a => (hf a).becomes.id) fun a => (hf a).becomes }
  | messages _ f hf =>
      exact { hself with messages := hs.messages.continues_map (fun m => (hf m).id) hf }
  | conversations _ f hf =>
      exact { hself with
        conversations := hs.conversations.continues_map (fun r => (hf r).becomes.id)
          fun r => (hf r).becomes }
  | newConversation =>
      exact { hself with
        conversations := hs.conversations.continues_append ConversationRow.Becomes.refl rfl }
  | newMessage =>
      exact { hself with
        messages := hs.messages.continues_append MessageRow.Becomes.refl rfl }
  | newAction =>
      exact { hself with actions := hs.actions.continues_append ActionRow.Becomes.refl rfl }

/-- **Calls lead one way**: what they make of a store is a later one. -/
theorem replay_oneWay {s : Store} (hs : s.Ordered) (calls : List (Instant × Call)) :
    s.OneWay (s.replay calls) := by
  -- one more call goes one way only from numbered tables, so both are carried along
  have hboth : s.OneWay (s.replay calls) ∧ (s.replay calls).Ordered := by
    refine replay_induction (P := fun s' => s.OneWay s' ∧ s'.Ordered) ?_ ⟨hs.oneWay_self, hs⟩
    rintro s' e _ ⟨honeWay, hordered⟩
    have hchange := s'.perform_change e.1 e.2
    exact ⟨honeWay.trans (hchange.oneWay hordered), hchange.ordered hordered⟩
  exact hboth.1

/-- **The store moves one way.** Take any store that calls make of the empty one, and
any calls after that, one or many. Then every row is still there as something that it
may become, every other row has a number above all that were there, and no two rows
of a table share a number; and every action is open or has ended, every conversation
is running or has ended. -/
theorem history_oneWay (history later : List (Instant × Call)) :
    (Store.empty.replay history).OneWay ((Store.empty.replay history).replay later) ∧
      ((Store.empty.replay history).replay later).Settled := by
  have hordered := replay_ordered empty_ordered history
  refine ⟨replay_oneWay hordered later, ?_⟩
  rw [← replay_append]
  exact replay_settled empty_settled (history ++ later)

end Store

end ControlPlane
