/-
One live connection per conversation.

Connections are made, admitted, served, closed and retired in any order and at any
time; all of them may be closed at once as well. A connection is admitted once, its
loops begin when it was admitted, and it leaves when its reader has stopped. Nothing
else restricts what comes when: between two of these moves any of the connections may
do any of its steps.

The invariant ties the flags of all connections there ever were to the registry as it
is now: a connection that was admitted and is not closed holds its conversation. What
a connection does by itself never endangers it, since no step opens a closed
connection or changes its conversation (`Onward`); only admitting, retiring and
closing all change the registry, and each of them closes whom it takes out.
-/
import ControlPlane.Connection.Hub
import ControlPlane.Proofs.Passage

set_option autoImplicit false

namespace ControlPlane

/-! ## The registry -/

namespace Registry

/-- No conversation is held twice. -/
def Distinct (r : Registry) : Prop := (r.holders.map (·.1)).Nodup

theorem distinct_empty : empty.Distinct := List.nodup_nil

/-- A registry without a conversation holds none twice. -/
theorem Distinct.without {r : Registry} (hdistinct : r.Distinct) (conversation : Int) :
    (r.without conversation).Distinct :=
  hdistinct.sublist (List.filter_sublist.map _)

/-- Whoever holds a conversation is written down for it. -/
theorem mem_of_holder? {r : Registry} {conversation : Int} {key : ConnectionKey}
    (hholds : r.holder? conversation = some key) : (conversation, key) ∈ r.holders := by
  rw [holder?, Option.map_eq_some_iff] at hholds
  obtain ⟨entry, hfound, rfl⟩ := hholds
  have hsame : entry.1 = conversation := by simpa using List.find?_some hfound
  exact hsame ▸ List.mem_of_find?_eq_some hfound

/-- Whoever is written down for a conversation holds it. -/
theorem Distinct.holder? {r : Registry} (hdistinct : r.Distinct) {conversation : Int}
    {key : ConnectionKey} (hentry : (conversation, key) ∈ r.holders) :
    r.holder? conversation = some key := by
  obtain ⟨holders⟩ := r
  unfold Registry.holder?
  induction holders with
  | nil => cases hentry
  | cons first rest ih =>
      have hapart := List.nodup_cons.mp hdistinct
      obtain rfl | hlater := List.mem_cons.mp hentry
      · simp
      · have hother : first.1 ≠ conversation := fun hsame =>
          hapart.1 (List.mem_map.mpr ⟨_, hlater, hsame.symm⟩)
        rw [List.find?_cons_of_neg (by simpa using hother)]
        exact ih hapart.2 hlater

/-- Without a conversation all other entries are left. -/
theorem mem_without {r : Registry} {conversation : Int} {entry : Int × ConnectionKey} :
    entry ∈ (r.without conversation).holders ↔ entry ∈ r.holders ∧ entry.1 ≠ conversation := by
  simp [without]

/-- The other conversations are held as before. -/
theorem holder?_without {r : Registry} {conversation other : Int}
    (hdifferent : other ≠ conversation) :
    (r.without conversation).holder? other = r.holder? other := by
  rw [holder?, holder?, without, List.find?_filter]
  congr 2
  funext entry
  by_cases hown : entry.1 = other
  · simp [hown, hdifferent]
  · simp [hown]

/-- Who takes a conversation over is the only one who holds it. -/
theorem Distinct.install {r : Registry} (hdistinct : r.Distinct) (conversation : Int)
    (key : ConnectionKey) : (r.install conversation key).2.Distinct := by
  refine List.nodup_cons.mpr ⟨fun hagain => ?_, hdistinct.without conversation⟩
  obtain ⟨entry, hkept, hown⟩ := List.mem_map.mp hagain
  exact (mem_without.mp hkept).2 hown

/-- Who takes a conversation over holds it. -/
theorem holder?_install_self (r : Registry) (conversation : Int) (key : ConnectionKey) :
    (r.install conversation key).2.holder? conversation = some key := by
  simp [install, holder?]

/-- The other conversations are held as before. -/
theorem holder?_install_other {r : Registry} {conversation other : Int} {key : ConnectionKey}
    (hdifferent : other ≠ conversation) :
    (r.install conversation key).2.holder? other = r.holder? other := by
  rw [← holder?_without (r := r) hdifferent]
  simp only [install, holder?]
  rw [List.find?_cons_of_neg (by simpa using hdifferent.symm)]

/-- Only a connection's own entry goes when it gives its conversation up. -/
theorem holder?_retire {r : Registry} {conversation other : Int} {key another : ConnectionKey}
    (hdifferent : another ≠ key) (hholds : r.holder? other = some another) :
    (r.retire conversation key).2.holder? other = some another := by
  unfold retire
  split
  next hown =>
    have hapart : other ≠ conversation := by
      rintro rfl
      exact hdifferent (Option.some.inj (hholds.symm.trans hown))
    rw [holder?_without hapart, hholds]
  next => exact hholds

end Registry

/-! ## What a connection keeps -/

/-- What a client keeps whatever its connection does: its conversation, that it is
closed, that its loops have not begun or its reader has stopped, and whether it has
left. -/
structure Onward (c d : Client) : Prop where
  /-- It has left if it had. -/
  left : d.left = c.left
  /-- It serves the same conversation. -/
  same : d.connection.conversationId = c.connection.conversationId
  /-- A closed connection stays closed. -/
  closed : c.connection.closed → d.connection.closed
  /-- A proper connection stays proper. -/
  proper : c.connection.Proper → d.connection.Proper
  /-- Loops that have not begun have not begun. -/
  unstarted : c.connection.Proper → c.connection.reader = .unstarted →
    d.connection.reader = .unstarted
  /-- A reader that has stopped has stopped. -/
  stopped : c.connection.Proper → c.connection.reader = .stopped → d.connection.reader = .stopped

theorem Onward.refl (c : Client) : Onward c c := ⟨rfl, rfl, id, id, fun _ => id, fun _ => id⟩

/-- Who goes on twice goes on. -/
theorem Onward.trans {c d e : Client} (hfirst : Onward c d) (hsecond : Onward d e) :
    Onward c e where
  left := hsecond.left.trans hfirst.left
  same := hsecond.same.trans hfirst.same
  closed h := hsecond.closed (hfirst.closed h)
  proper h := hsecond.proper (hfirst.proper h)
  unstarted hproper h := hsecond.unstarted (hfirst.proper hproper) (hfirst.unstarted hproper h)
  stopped hproper h := hsecond.stopped (hfirst.proper hproper) (hfirst.stopped hproper h)

/-- A client goes on when its connection does a step. -/
theorem onward_of_turn {c d : Client} {event : Connection.Event} {effects : List Effect}
    (hturn : Connection.Turn c.connection event d.connection effects) (hleft : d.left = c.left) :
    Onward c d where
  left := hleft
  same := hturn.same.1
  closed := hturn.closed
  proper := hturn.proper
  unstarted hproper h := (hturn.deaf hproper (by rw [h]; rfl) (by simp [h])).1.trans h
  stopped hproper h := (hturn.deaf hproper (by rw [h]; rfl) (by simp [h])).1.trans h

/-- A client whose connection is not touched goes on. -/
theorem onward_of_same {c d : Client} (hsame : d.connection = c.connection)
    (hleft : d.left = c.left) : Onward c d := by
  refine ⟨hleft, ?_, ?_, ?_, ?_, ?_⟩ <;> rw [hsame] <;> simp

namespace Hub

variable {σ : Type}

/-- Hubs with the same connections, each of which has gone on. -/
def Onwards (h g : Hub σ) : Prop :=
  g.clients.length = h.clients.length ∧
    ∀ key d, g.client? key = some d → ∃ c, h.client? key = some c ∧ Onward c d

theorem Onwards.refl (h : Hub σ) : h.Onwards h := ⟨rfl, fun _ d hclient => ⟨d, hclient, .refl d⟩⟩

/-- Connections that go on twice go on. -/
theorem Onwards.trans {h g k : Hub σ} (hfirst : h.Onwards g) (hsecond : g.Onwards k) :
    h.Onwards k := by
  refine ⟨hsecond.1.trans hfirst.1, fun key e hclient => ?_⟩
  obtain ⟨d, hbetween, hlater⟩ := hsecond.2 key e hclient
  obtain ⟨c, hbefore, hearlier⟩ := hfirst.2 key d hbetween
  exact ⟨c, hbefore, hearlier.trans hlater⟩

/-- A connection that is there is there afterwards. -/
theorem Onwards.forward {h g : Hub σ} (hon : h.Onwards g) {key : ConnectionKey} {c : Client}
    (hclient : h.client? key = some c) : ∃ d, g.client? key = some d ∧ Onward c d := by
  have hthere : key < g.clients.length := hon.1 ▸ (List.getElem?_eq_some_iff.mp hclient).1
  refine ⟨_, List.getElem?_eq_getElem hthere, ?_⟩
  obtain ⟨c', hbefore, honward⟩ := hon.2 key _ (List.getElem?_eq_getElem hthere)
  exact Option.some.inj (hclient.symm.trans hbefore) ▸ honward

/-- To change one connection changes this one only. -/
theorem client?_modify (h : Hub σ) (key other : ConnectionKey) (f : Client → Client) :
    (h.modify key f).client? other =
      if key = other then (h.client? other).map f else h.client? other := by
  unfold client? modify
  rw [List.getElem?_modify]
  split <;> simp_all

/-- Changing one connection in a way that goes on leaves the others alone. -/
theorem onwards_modify (h : Hub σ) (key : ConnectionKey) {f : Client → Client}
    (hon : ∀ c, h.client? key = some c → Onward c (f c)) : h.Onwards (h.modify key f) := by
  refine ⟨by simp [modify], fun other d hclient => ?_⟩
  rw [client?_modify] at hclient
  split at hclient
  next hown =>
    subst hown
    obtain ⟨c, hbefore, rfl⟩ := Option.map_eq_some_iff.mp hclient
    exact ⟨c, hbefore, hon c hbefore⟩
  next => exact ⟨d, hclient, .refl d⟩

/-- Closing a connection is a step of it. -/
theorem onwards_close (h : Hub σ) (key : ConnectionKey) : h.Onwards (h.close key) :=
  h.onwards_modify key fun _ _ => onward_of_turn .close rfl

/-- A connection that was closed is closed. -/
theorem closed_close {h : Hub σ} {key : ConnectionKey} {c : Client}
    (hclient : (h.close key).client? key = some c) : c.connection.closed := by
  rw [close, client?_modify, if_pos rfl] at hclient
  obtain ⟨_, -, rfl⟩ := Option.map_eq_some_iff.mp hclient
  rfl

/-- What the handler does leaves the connections and the registry alone. -/
theorem onwards_handleEffect (s : Service σ) (now : Nat) (key : ConnectionKey) (conversation : Int)
    (h : Hub σ) (effect : Effect) :
    h.Onwards (h.handleEffect s now key conversation effect) ∧
      (h.handleEffect s now key conversation effect).registry = h.registry := by
  unfold handleEffect
  split
  next frame =>
    refine ⟨?_, rfl⟩
    exact onwards_modify { h with surroundings := (s.handler conversation frame h.surroundings).2 }
      key fun _ _ => onward_of_same rfl rfl
  next => exact ⟨.refl h, rfl⟩

/-- So does all that it does, one thing after the other. -/
theorem onwards_handleEffects (s : Service σ) (now : Nat) (key : ConnectionKey) (conversation : Int)
    (effects : List Effect) (h : Hub σ) :
    h.Onwards (effects.foldl (handleEffect s now key conversation) h) ∧
      (effects.foldl (handleEffect s now key conversation) h).registry = h.registry := by
  induction effects generalizing h with
  | nil => exact ⟨.refl h, rfl⟩
  | cons effect rest ih =>
      obtain ⟨hfirst, hsame⟩ := onwards_handleEffect s now key conversation h effect
      obtain ⟨hlater, hkept⟩ := ih (h.handleEffect s now key conversation effect)
      exact ⟨hfirst.trans hlater, hkept.trans hsame⟩

/-- **Whatever happens to a connection, all connections go on and the registry stays.** -/
theorem onwards_apply (s : Service σ) (now : Nat) (key : ConnectionKey) (event : Connection.Event)
    (h : Hub σ) :
    h.Onwards (h.apply s now key event) ∧ (h.apply s now key event).registry = h.registry := by
  unfold apply
  split
  next => exact ⟨.refl h, rfl⟩
  next c hclient =>
    have hon : Onward c (c.apply s.timings now event).1 := by
      unfold Client.apply
      split
      next after effects hstep => exact onward_of_turn (Connection.turn_of_step hstep) rfl
      next => exact .refl c
    have hmoved : h.Onwards (h.modify key fun _ => (c.apply s.timings now event).1) :=
      h.onwards_modify key fun d hagain => Option.some.inj (hclient.symm.trans hagain) ▸ hon
    obtain ⟨hhandled, hsame⟩ := onwards_handleEffects s now key c.connection.conversationId
      (c.apply s.timings now event).2
      { h.modify key fun _ => (c.apply s.timings now event).1 with
        log := ((c.apply s.timings now event).2.map fun e => ⟨now, key, e⟩).reverse ++ h.log }
    exact ⟨hmoved.trans hhandled, hsame⟩

/-- To close connections leaves the registry alone. -/
theorem registry_closes (keys : List ConnectionKey) (h : Hub σ) :
    (keys.foldl close h).registry = h.registry := by
  induction keys generalizing h with
  | nil => rfl
  | cons first rest ih => exact ih (h.close first)

/-- Closing connections lets all of them go on, and closes each of these. -/
theorem onwards_closes (keys : List ConnectionKey) (h : Hub σ) :
    h.Onwards (keys.foldl close h) ∧ ∀ key ∈ keys, ∀ c,
      (keys.foldl close h).client? key = some c → c.connection.closed := by
  induction keys generalizing h with
  | nil => exact ⟨.refl h, by simp⟩
  | cons first rest ih =>
      obtain ⟨hlater, hclosed⟩ := ih (h.close first)
      refine ⟨(h.onwards_close first).trans hlater, fun key hamong c hclient => ?_⟩
      obtain rfl | hamong := List.mem_cons.mp hamong
      · obtain ⟨d, hbetween, hon⟩ := hlater.2 key c hclient
        exact hon.closed (closed_close hbetween)
      · exact hclosed key hamong c hclient

end Hub

/-! ## Admissions -/

/-- A hub, and the connections that have been admitted. -/
structure Admissions (σ : Type) where
  /-- The hub. -/
  hub : Hub σ
  /-- The connections that have been admitted. -/
  admitted : List ConnectionKey

namespace Admissions

variable {σ : Type}

/-- What can happen to a hub. -/
inductive Move where
  /-- A connection is made. -/
  | add (conversationId : Int)
  /-- A connection is admitted. -/
  | enter (key : ConnectionKey)
  /-- The loops of a connection begin. -/
  | start (now : Nat) (key : ConnectionKey)
  /-- Something happens to a connection. -/
  | happen (now : Nat) (key : ConnectionKey) (event : Connection.Event)
  /-- A connection whose reader has stopped leaves. -/
  | depart (key : ConnectionKey)
  /-- All connections are closed. -/
  | closeAll

/-- Whether a connection is there and has not been admitted. -/
def isNew (a : Admissions σ) (key : ConnectionKey) : Bool :=
  !a.admitted.contains key && (a.hub.client? key).isSome

/-- Whether a connection has been admitted and its loops have not begun. -/
def isReady (a : Admissions σ) (key : ConnectionKey) : Bool :=
  a.admitted.contains key && (a.hub.client? key).any (·.connection.reader == .unstarted)

/-- Whether a connection has to leave. -/
def isDeparting (a : Admissions σ) (key : ConnectionKey) : Bool :=
  (a.hub.client? key).any Hub.mustDepart

/-- What a move does. A connection is admitted only once, its loops begin only when it
was admitted, and it leaves only when its reader has stopped; a move that cannot be
made does nothing. -/
def move (s : Service σ) (a : Admissions σ) : Move → Admissions σ
  | .add conversationId => { a with hub := (a.hub.add s conversationId).2 }
  | .enter key => if a.isNew key then ⟨(a.hub.install key).2, key :: a.admitted⟩ else a
  | .start now key => if a.isReady key then { a with hub := a.hub.start s now key } else a
  | .happen now key event => { a with hub := a.hub.apply s now key event }
  | .depart key => if a.isDeparting key then { a with hub := a.hub.depart key } else a
  | .closeAll => { a with hub := a.hub.closeAll.2 }

/-- What moves make of a hub without connections. -/
def play (s : Service σ) (surroundings : σ) (moves : List Move) : Admissions σ :=
  moves.foldl (move s) ⟨.empty surroundings, []⟩

/-- What holds of a hub whatever is done to it. -/
structure Kept (a : Admissions σ) : Prop where
  /-- No conversation is held twice. -/
  distinct : a.hub.registry.Distinct
  /-- Who is written down was admitted, and stands under its own conversation. -/
  own : ∀ entry ∈ a.hub.registry.holders, entry.2 ∈ a.admitted ∧
    ∃ c, a.hub.client? entry.2 = some c ∧ c.connection.conversationId = entry.1
  /-- Who was admitted and is not closed holds its conversation. -/
  live : ∀ key ∈ a.admitted, ∀ c, a.hub.client? key = some c → c.connection.closed = false →
    a.hub.registry.holder? c.connection.conversationId = some key
  /-- Who was admitted is there. -/
  known : ∀ key ∈ a.admitted, key < a.hub.clients.length
  /-- All connections are proper. -/
  proper : ∀ key c, a.hub.client? key = some c → c.connection.Proper
  /-- Whose loops have begun was admitted. -/
  begun : ∀ key c, a.hub.client? key = some c → c.connection.reader ≠ .unstarted →
    key ∈ a.admitted
  /-- Who has left has stopped to read, and is not written down. -/
  left : ∀ key c, a.hub.client? key = some c → c.left →
    c.connection.reader = .stopped ∧ key ∉ a.hub.registry.keys

/-- It holds of a hub without connections. -/
theorem kept_empty (surroundings : σ) : Kept ⟨.empty surroundings, []⟩ := by
  constructor <;> simp [Hub.empty, Hub.client?, Registry.empty, Registry.Distinct]

/-- What the connections do by themselves changes nothing of this. -/
theorem Kept.onwards {a : Admissions σ} (hkept : a.Kept) {hub : Hub σ} (hon : a.hub.Onwards hub)
    (hsame : hub.registry = a.hub.registry) : Kept { a with hub := hub } where
  distinct := hsame ▸ hkept.distinct
  own entry hwritten := by
    obtain ⟨hadmitted, c, hclient, hown⟩ := hkept.own entry (hsame ▸ hwritten)
    obtain ⟨d, hthere, honward⟩ := hon.forward hclient
    exact ⟨hadmitted, d, hthere, honward.same.trans hown⟩
  live key hadmitted d hclient husable := by
    obtain ⟨c, hbefore, honward⟩ := hon.2 key d hclient
    have husable : c.connection.closed = false := by
      cases hclosed : c.connection.closed with
      | false => rfl
      | true =>
          rw [honward.closed hclosed] at husable
          cases husable
    rw [hsame, honward.same]
    exact hkept.live key hadmitted c hbefore husable
  known key hadmitted := hon.1 ▸ hkept.known key hadmitted
  proper key d hclient := by
    obtain ⟨c, hbefore, honward⟩ := hon.2 key d hclient
    exact honward.proper (hkept.proper key c hbefore)
  begun key d hclient hstarted := by
    obtain ⟨c, hbefore, honward⟩ := hon.2 key d hclient
    exact hkept.begun key c hbefore fun hunstarted =>
      hstarted (honward.unstarted (hkept.proper key c hbefore) hunstarted)
  left key d hclient hgone := by
    obtain ⟨c, hbefore, honward⟩ := hon.2 key d hclient
    obtain ⟨hstopped, hnowhere⟩ := hkept.left key c hbefore (honward.left ▸ hgone)
    exact ⟨honward.stopped (hkept.proper key c hbefore) hstopped, hsame ▸ hnowhere⟩

/-- A registry with fewer entries will do, if nobody who is not closed has lost its
conversation. -/
theorem Kept.shrink {a : Admissions σ} (hkept : a.Kept) {r : Registry} (hdistinct : r.Distinct)
    (hfewer : ∀ entry ∈ r.holders, entry ∈ a.hub.registry.holders)
    (hlive : ∀ key ∈ a.admitted, ∀ c, a.hub.client? key = some c → c.connection.closed = false →
      r.holder? c.connection.conversationId = some key) :
    Kept { a with hub := { a.hub with registry := r } } where
  distinct := hdistinct
  own entry hwritten := hkept.own entry (hfewer entry hwritten)
  live := hlive
  known := hkept.known
  proper := hkept.proper
  begun := hkept.begun
  left key c hclient hgone := by
    obtain ⟨hstopped, hnowhere⟩ := hkept.left key c hclient hgone
    refine ⟨hstopped, fun hwritten => hnowhere ?_⟩
    obtain ⟨entry, hamong, rfl⟩ := List.mem_map.mp hwritten
    exact List.mem_map_of_mem (hfewer entry hamong)

/-- A connection is made: it is not admitted yet. -/
theorem Kept.add {a : Admissions σ} (hkept : a.Kept) (s : Service σ) (conversationId : Int) :
    Kept { a with hub := (a.hub.add s conversationId).2 } := by
  -- a connection that is there now was there before, or is the new one
  have hthere : ∀ key c, (a.hub.add s conversationId).2.client? key = some c →
      a.hub.client? key = some c ∨
        key = a.hub.clients.length ∧ c = .fresh s.timings conversationId := by
    intro key c hclient
    simp only [Hub.add, Hub.client?, List.getElem?_append] at hclient ⊢
    split at hclient
    next => exact .inl hclient
    next hbeyond =>
      rw [List.getElem?_singleton] at hclient
      split at hclient
      next hlast =>
        have hsame := Nat.le_antisymm (Nat.sub_eq_zero_iff_le.mp hlast) (Nat.le_of_not_lt hbeyond)
        exact .inr ⟨hsame, (Option.some.inj hclient).symm⟩
      next => cases hclient
  have hbefore : ∀ key c, a.hub.client? key = some c →
      (a.hub.add s conversationId).2.client? key = some c := fun key c hclient =>
    (List.getElem?_append_left (List.getElem?_eq_some_iff.mp hclient).1).trans hclient
  constructor
  case distinct => exact hkept.distinct
  case own =>
    intro entry hwritten
    obtain ⟨hadmitted, c, hclient, hown⟩ := hkept.own entry hwritten
    exact ⟨hadmitted, c, hbefore _ c hclient, hown⟩
  case live =>
    intro key hadmitted c hclient husable
    obtain hclient | ⟨rfl, -⟩ := hthere key c hclient
    · exact hkept.live key hadmitted c hclient husable
    · exact absurd (hkept.known _ hadmitted) (Nat.lt_irrefl _)
  case known =>
    intro key hadmitted
    simp only [Hub.add, List.length_append, List.length_singleton]
    exact Nat.lt_succ_of_lt (hkept.known key hadmitted)
  case proper =>
    intro key c hclient
    obtain hclient | ⟨-, rfl⟩ := hthere key c hclient
    · exact hkept.proper key c hclient
    · exact Connection.proper_fresh conversationId s.timings.sendBuffer
  case begun =>
    intro key c hclient hstarted
    obtain hclient | ⟨-, rfl⟩ := hthere key c hclient
    · exact hkept.begun key c hclient hstarted
    · exact absurd rfl hstarted
  case left =>
    intro key c hclient hgone
    obtain hclient | ⟨-, rfl⟩ := hthere key c hclient
    · exact hkept.left key c hclient hgone
    · cases hgone

/-- A connection whose predecessor is closed takes the conversation over. -/
theorem Kept.install {a : Admissions σ} (hkept : a.Kept) {key : ConnectionKey} {c : Client}
    (hclient : a.hub.client? key = some c) (hnew : key ∉ a.admitted)
    (hevicted : ∀ old, a.hub.registry.holder? c.connection.conversationId = some old →
      ∀ d, a.hub.client? old = some d → d.connection.closed) :
    Kept ⟨{ a.hub with
      registry := (a.hub.registry.install c.connection.conversationId key).2 },
      key :: a.admitted⟩ where
  distinct := hkept.distinct.install _ _
  own entry hwritten := by
    obtain rfl | holder := List.mem_cons.mp hwritten
    · exact ⟨List.mem_cons_self, c, hclient, rfl⟩
    · obtain ⟨hadmitted, d, hthere, hown⟩ := hkept.own entry (Registry.mem_without.mp holder).1
      exact ⟨List.mem_cons_of_mem _ hadmitted, d, hthere, hown⟩
  live another hadmitted d hthere husable := by
    obtain rfl | holder := List.mem_cons.mp hadmitted
    · cases hclient.symm.trans hthere
      exact Registry.holder?_install_self _ _ _
    · have hholds := hkept.live another holder d hthere husable
      by_cases hsame : d.connection.conversationId = c.connection.conversationId
      · -- it held the conversation, so it has been closed
        rw [hevicted another (hsame ▸ hholds) d hthere] at husable
        cases husable
      · exact (Registry.holder?_install_other hsame).trans hholds
  known another hadmitted := by
    obtain rfl | holder := List.mem_cons.mp hadmitted
    · exact (List.getElem?_eq_some_iff.mp hclient).1
    · exact hkept.known another holder
  proper := hkept.proper
  begun another d hthere hstarted := List.mem_cons_of_mem _ (hkept.begun another d hthere hstarted)
  left another d hthere hgone := by
    obtain ⟨hstopped, hnowhere⟩ := hkept.left another d hthere hgone
    refine ⟨hstopped, fun hwritten => ?_⟩
    obtain ⟨entry, hamong, rfl⟩ := List.mem_map.mp hwritten
    obtain rfl | holder := List.mem_cons.mp hamong
    · -- it was served, so it had been admitted before
      exact hnew (hkept.begun _ d hthere (by simp [hstopped]))
    · exact hnowhere (List.mem_map_of_mem (Registry.mem_without.mp holder).1)

/-- A connection is admitted: the one before is closed, and then gives way. -/
theorem Kept.enter {a : Admissions σ} (hkept : a.Kept) {key : ConnectionKey} (hnew : a.isNew key) :
    Kept ⟨(a.hub.install key).2, key :: a.admitted⟩ := by
  simp only [isNew, Bool.and_eq_true, Bool.not_eq_true', List.contains_eq_mem,
    decide_eq_false_iff_not] at hnew
  obtain ⟨hnew, hthere⟩ := hnew
  obtain ⟨c, hclient⟩ := Option.isSome_iff_exists.mp hthere
  unfold Hub.install
  simp only [hclient, Registry.install]
  cases hdisplaced : a.hub.registry.holder? c.connection.conversationId with
  | none => exact hkept.install hclient hnew (by simp [hdisplaced])
  | some old =>
      have hother : old ≠ key := fun hsame =>
        hnew (hsame ▸ (hkept.own _ (Registry.mem_of_holder? hdisplaced)).1)
      have hclosed : Kept { a with hub := a.hub.close old } :=
        hkept.onwards (a.hub.onwards_close old) rfl
      have hstill : (a.hub.close old).client? key = some c := by
        rw [Hub.close, Hub.client?_modify, if_neg hother, hclient]
      simp only [if_neg hother]
      refine hclosed.install hstill hnew fun last hholds d hgone => ?_
      cases hdisplaced.symm.trans hholds
      exact Hub.closed_close hgone

/-- A connection may be changed, if it stays under its conversation and as closed as it
was, and is what it has to be. -/
theorem Kept.modify {a : Admissions σ} (hkept : a.Kept) {key : ConnectionKey} {c : Client}
    (hclient : a.hub.client? key = some c) {f : Client → Client}
    (hsame : (f c).connection.conversationId = c.connection.conversationId)
    (hclosed : (f c).connection.closed = c.connection.closed) (hproper : (f c).connection.Proper)
    (hbegun : (f c).connection.reader ≠ .unstarted → key ∈ a.admitted)
    (hleft : (f c).left → (f c).connection.reader = .stopped ∧ key ∉ a.hub.registry.keys) :
    Kept { a with hub := a.hub.modify key f } := by
  -- a connection that is there now is the changed one, or was there before
  have hthere : ∀ another d, (a.hub.modify key f).client? another = some d →
      another = key ∧ d = f c ∨ a.hub.client? another = some d := by
    intro another d hnow
    rw [Hub.client?_modify] at hnow
    split at hnow
    next hown =>
      subst hown
      rw [hclient] at hnow
      exact .inl ⟨rfl, (Option.some.inj hnow).symm⟩
    next => exact .inr hnow
  constructor
  case distinct => exact hkept.distinct
  case own =>
    intro entry hwritten
    obtain ⟨hadmitted, d, hbefore, hown⟩ := hkept.own entry hwritten
    rw [Hub.client?_modify, hbefore]
    split
    next hchanged =>
      subst hchanged
      cases hclient.symm.trans hbefore
      exact ⟨hadmitted, _, rfl, hsame.trans hown⟩
    next => exact ⟨hadmitted, d, rfl, hown⟩
  case live =>
    intro another hadmitted d hnow husable
    obtain ⟨rfl, rfl⟩ | hbefore := hthere another d hnow
    · rw [hsame]
      exact hkept.live another hadmitted c hclient (hclosed ▸ husable)
    · exact hkept.live another hadmitted d hbefore husable
  case known =>
    intro another hadmitted
    simp only [Hub.modify, List.length_modify]
    exact hkept.known another hadmitted
  case proper =>
    intro another d hnow
    obtain ⟨rfl, rfl⟩ | hbefore := hthere another d hnow
    · exact hproper
    · exact hkept.proper another d hbefore
  case begun =>
    intro another d hnow hstarted
    obtain ⟨rfl, rfl⟩ | hbefore := hthere another d hnow
    · exact hbegun hstarted
    · exact hkept.begun another d hbefore hstarted
  case left =>
    intro another d hnow hgone
    obtain ⟨rfl, rfl⟩ | hbefore := hthere another d hnow
    · exact hleft hgone
    · exact hkept.left another d hbefore hgone

/-- The loops of an admitted connection begin. -/
theorem Kept.start {a : Admissions σ} (hkept : a.Kept) (s : Service σ) (now : Nat)
    {key : ConnectionKey} (hready : a.isReady key) :
    Kept { a with hub := a.hub.start s now key } := by
  simp only [isReady, Bool.and_eq_true, List.contains_eq_mem, decide_eq_true_eq,
    Option.any_eq_true, beq_iff_eq] at hready
  obtain ⟨hadmitted, c, hclient, hunstarted⟩ := hready
  refine hkept.modify hclient rfl rfl ((hkept.proper key c hclient).start hunstarted)
    (fun _ => hadmitted) fun hgone => ?_
  -- it cannot have left before it began
  rw [(hkept.left key c hclient hgone).1] at hunstarted
  cases hunstarted

/-- A connection that is closed gives its conversation up, and is not written down any
more. -/
theorem Kept.retire {a : Admissions σ} (hkept : a.Kept) {key : ConnectionKey} {c : Client}
    (hclient : a.hub.client? key = some c) (hclosed : c.connection.closed) :
    Kept { a with hub := (a.hub.retire key).2 } ∧ key ∉ (a.hub.retire key).2.registry.keys := by
  unfold Hub.retire
  simp only [hclient, Registry.retire]
  split
  next hholds =>
    refine ⟨hkept.shrink (hkept.distinct.without _)
      (fun _ hwritten => (Registry.mem_without.mp hwritten).1)
      fun another hadmitted d hthere husable => ?_, fun hwritten => ?_⟩
    · have hstill := hkept.live another hadmitted d hthere husable
      -- whoever is not closed is not the one that goes
      have hother : d.connection.conversationId ≠ c.connection.conversationId := fun hsame => by
        cases (hsame ▸ hstill).symm.trans hholds
        cases hclient.symm.trans hthere
        rw [hclosed] at husable
        cases husable
      rw [Registry.holder?_without hother, hstill]
    · obtain ⟨entry, hamong, rfl⟩ := List.mem_map.mp hwritten
      obtain ⟨holder, hother⟩ := Registry.mem_without.mp hamong
      obtain ⟨-, d, hthere, hown⟩ := hkept.own entry holder
      cases hclient.symm.trans hthere
      exact hother hown.symm
  next hlost =>
    refine ⟨hkept, fun hwritten => ?_⟩
    obtain ⟨⟨conversation, _⟩, hamong, rfl⟩ := List.mem_map.mp hwritten
    obtain ⟨-, d, hthere, hown⟩ := hkept.own _ hamong
    cases hclient.symm.trans hthere
    simp only at hown
    exact hlost (hkept.distinct.holder? (hown ▸ hamong))

/-- A connection that is not written down leaves. -/
theorem Kept.leave {a : Admissions σ} (hkept : a.Kept) {key : ConnectionKey} {c : Client}
    (hclient : a.hub.client? key = some c) (hstopped : c.connection.reader = .stopped)
    (hnowhere : key ∉ a.hub.registry.keys) :
    Kept { a with hub := a.hub.modify key fun c => { c with left := true } } :=
  hkept.modify hclient rfl rfl (hkept.proper key c hclient) (hkept.begun key c hclient)
    fun _ => ⟨hstopped, hnowhere⟩

/-- All connections that are written down are closed. -/
theorem Kept.closeAll {a : Admissions σ} (hkept : a.Kept) :
    Kept { a with hub := a.hub.closeAll.2 } := by
  obtain ⟨hon, hclosed⟩ := Hub.onwards_closes a.hub.registry.keys a.hub
  have hsame := Hub.registry_closes a.hub.registry.keys a.hub
  have hafter : Kept { a with hub := a.hub.registry.keys.foldl Hub.close a.hub } :=
    hkept.onwards hon hsame
  refine hafter.shrink Registry.distinct_empty (fun _ hnone => by cases hnone)
    fun key hadmitted c hclient husable => ?_
  -- it would hold its conversation, and so have been closed
  have hholds := Registry.mem_of_holder? (hafter.live key hadmitted c hclient husable)
  simp only [hsame] at hholds
  rw [hclosed key (List.mem_map_of_mem hholds) c hclient] at husable
  cases husable

/-- **Every move keeps what holds of a hub.** -/
theorem Kept.move {a : Admissions σ} (hkept : a.Kept) (s : Service σ) (m : Move) :
    (a.move s m).Kept := by
  cases m with
  | add conversationId => exact hkept.add s conversationId
  | enter key =>
      simp only [Admissions.move]
      split
      next hnew => exact hkept.enter hnew
      next => exact hkept
  | start now key =>
      simp only [Admissions.move]
      split
      next hready => exact hkept.start s now hready
      next => exact hkept
  | happen now key event =>
      obtain ⟨hon, hsame⟩ := Hub.onwards_apply s now key event a.hub
      exact hkept.onwards hon hsame
  | depart key =>
      simp only [Admissions.move]
      split
      next hdeparts =>
        rw [isDeparting, Option.any_eq_true] at hdeparts
        obtain ⟨c, hclient, hdeparts⟩ := hdeparts
        simp only [Hub.mustDepart, Bool.and_eq_true, beq_iff_eq] at hdeparts
        obtain ⟨hretired, hnowhere⟩ :=
          hkept.retire hclient ((hkept.proper key c hclient).stopped hdeparts.1)
        refine hretired.leave ?_ hdeparts.1 hnowhere
        unfold Hub.retire
        simp only [hclient]
        exact hclient
      next => exact hkept
  | closeAll => exact hkept.closeAll

/-- It holds of a hub whatever is done to it. -/
theorem kept_play (s : Service σ) (surroundings : σ) (moves : List Move) :
    (play s surroundings moves).Kept :=
  List.foldlRecOn moves (move s) (kept_empty surroundings) fun _ hkept m _ => hkept.move s m

/-! ## One live connection -/

/-- **At most one live connection for each conversation.** Whatever is done to a hub, in
whatever order: who was admitted and is not closed holds its conversation, so that no
two of them share one; when a connection gives its conversation up, even one whose place
has been taken long since, no other connection loses its own; who is written down stands
under its own conversation, and no conversation is written down twice; and who has left,
its loops being over, is closed and not written down. -/
theorem one_live_connection (s : Service σ) (surroundings : σ) (moves : List Move) :
    let a := play s surroundings moves
    (∀ key ∈ a.admitted, ∀ c, a.hub.client? key = some c → c.connection.closed = false →
      a.hub.registry.holder? c.connection.conversationId = some key) ∧
    (∀ key ∈ a.admitted, ∀ another ∈ a.admitted, ∀ c d,
      a.hub.client? key = some c → a.hub.client? another = some d →
      c.connection.closed = false → d.connection.closed = false →
      c.connection.conversationId = d.connection.conversationId → key = another) ∧
    (∀ key another conversation, another ≠ key →
      a.hub.registry.holder? conversation = some another →
      (a.hub.retire key).2.registry.holder? conversation = some another) ∧
    ((a.hub.registry.holders.map (·.1)).Nodup ∧ ∀ entry ∈ a.hub.registry.holders,
      ∃ c, a.hub.client? entry.2 = some c ∧ c.connection.conversationId = entry.1) ∧
    ∀ key c, a.hub.client? key = some c → c.left → c.connection.isOver →
      c.connection.closed ∧ key ∉ a.hub.registry.keys := by
  intro a
  have hkept : a.Kept := kept_play s surroundings moves
  refine ⟨hkept.live, ?_, ?_, ⟨hkept.distinct, fun entry hwritten => (hkept.own entry hwritten).2⟩,
    ?_⟩
  · intro key hadmitted another hadmitted' c d hclient hclient' husable husable' hsame
    have hfirst := hkept.live key hadmitted c hclient husable
    have hsecond := hkept.live another hadmitted' d hclient' husable'
    rw [hsame] at hfirst
    exact Option.some.inj (hfirst.symm.trans hsecond)
  · intro key another conversation hother hholds
    unfold Hub.retire
    split
    next => exact hholds
    next c hclient => exact Registry.holder?_retire hother hholds
  · intro key c hclient hgone _
    obtain ⟨hstopped, hnowhere⟩ := hkept.left key c hclient hgone
    exact ⟨(hkept.proper key c hclient).stopped hstopped, hnowhere⟩

end Admissions

end ControlPlane
