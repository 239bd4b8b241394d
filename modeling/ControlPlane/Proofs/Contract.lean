/-
Contracts between procedures side by side.

A worker is proved right once, by itself, and not once for every order of steps. Its
contract says what it relies on: what the others do to the store between two of its
steps (`rely`), and an invariant that everybody keeps. In return it says which calls
it makes (`allows`) and of which decisions it asks what (`asks`). `Program.Meets` says
that a program keeps to a contract from some past on, whatever happens in between.

The first half of this file is the calculus: one rule for each way to build a
procedure. The second half is the soundness of the whole (`play_sound`): where each
actor keeps to its contract, and the calls that one contract allows are what the others
rely on, the invariant holds after every schedule.
-/
import ControlPlane.Proofs.Scene

set_option autoImplicit false

namespace ControlPlane

/-- What a worker relies on and what it keeps to, beside an invariant of all. -/
structure Contract (inv : Past → Prop) where
  /-- What may happen between two steps. -/
  rely : Past → Past → Prop
  /-- Nothing may happen. -/
  rely_refl : ∀ h, rely h h
  /-- What may happen twice may happen at once. -/
  rely_trans : ∀ h h' h'', rely h h' → rely h' h'' → rely h h''
  /-- Which calls are made. -/
  allows : Past → Store.Call → Prop
  /-- Which decisions are asked for. -/
  asks : Past → Decision.Context → Prop

variable {inv : Past → Prop} {α β : Type}

/-- Something about the past lasts, whatever may happen in between. -/
def Contract.Lasts (k : Contract inv) (Q : Past → Prop) : Prop :=
  ∀ h h', k.rely h h' → Q h → Q h'

/-! ## Programs -/

namespace Program

/-- From a past on, a program keeps to a contract and ends in what is wanted. -/
def Meets (k : Contract inv) (who : Actor) (post : α → Past → Prop) :
    Program α → Past → Prop
  | done a, h => post a h
  | call c next, h => ∀ h', k.rely h h' → inv h' → k.allows h' c ∧
      ∀ now, Meets k who post (next (h'.store.perform now c).1) (h'.called who now c)
  | decide context next, h => ∀ h', k.rely h h' → inv h' → k.asks h' context ∧
      ∀ r, Meets k who post (next r) (h'.asked who context r)
  | pause _ next, h => Meets k who post (next ()) h
  | clock next, h => ∀ t, Meets k who post (next t) h

variable {k : Contract inv} {who : Actor} {post post' : α → Past → Prop}

/-- What others do in between does not matter, if it does not matter in the end. -/
theorem Meets.stable (hpost : ∀ a h h', k.rely h h' → inv h' → post a h → post a h')
    {p : Program α} {h h' : Past} (hp : Meets k who post p h) (hr : k.rely h h')
    (hinv : inv h') : Meets k who post p h' := by
  induction p with
  | done a => exact hpost a h h' hr hinv hp
  | call c next ih =>
      intro h'' hr'' hinv''
      exact hp h'' (k.rely_trans h h' h'' hr hr'') hinv''
  | decide context next ih =>
      intro h'' hr'' hinv''
      exact hp h'' (k.rely_trans h h' h'' hr hr'') hinv''
  | pause _ next ih => exact ih () hp
  | clock next ih => exact fun t => ih t (hp t)

/-- A program that meets more than is wanted meets it. -/
theorem Meets.mono (hpost : ∀ a h, post a h → post' a h) {p : Program α} {h : Past}
    (hp : Meets k who post p h) : Meets k who post' p h := by
  induction p generalizing h with
  | done a => exact hpost a h hp
  | call c next ih =>
      intro h' hr hinv
      obtain ⟨hallows, hnext⟩ := hp h' hr hinv
      exact ⟨hallows, fun now => ih _ (hnext now)⟩
  | decide context next ih =>
      intro h' hr hinv
      obtain ⟨hasks, hnext⟩ := hp h' hr hinv
      exact ⟨hasks, fun r => ih r (hnext r)⟩
  | pause _ next ih => exact ih () hp
  | clock next ih => exact fun t => ih t (hp t)

/-- One program after the other. -/
theorem Meets.bind {post : β → Past → Prop} {p : Program α} {f : α → Program β} {h : Past}
    (hp : Meets k who (fun a h => Meets k who post (f a) h) p h) :
    Meets k who post (p.bind f) h := by
  induction p generalizing h with
  | done a => exact hp
  | call c next ih =>
      intro h' hr hinv
      obtain ⟨hallows, hnext⟩ := hp h' hr hinv
      exact ⟨hallows, fun now => ih _ (hnext now)⟩
  | decide context next ih =>
      intro h' hr hinv
      obtain ⟨hasks, hnext⟩ := hp h' hr hinv
      exact ⟨hasks, fun r => ih r (hnext r)⟩
  | pause _ next ih => exact ih () hp
  | clock next ih => exact fun t => ih t (hp t)

end Program

/-! ## Procedures -/

namespace Procedure

/-- From a past on, a procedure keeps to a contract, and its result or its fault is as
wanted. -/
def Meets (k : Contract inv) (who : Actor) (post : Except Fault α → Past → Prop)
    (p : Procedure α) (h : Past) : Prop :=
  Program.Meets k who post p.run h

variable {k : Contract inv} {who : Actor} {h : Past}

/-- So does a procedure. -/
theorem Meets.mono {post post' : Except Fault α → Past → Prop}
    (hpost : ∀ r h, post r h → post' r h) {p : Procedure α} (hp : p.Meets k who post h) :
    p.Meets k who post' h :=
  Program.Meets.mono hpost hp

/-- A result at once meets what holds of it. -/
theorem meets_pure {post : Except Fault α → Past → Prop} {a : α} (ha : post (.ok a) h) :
    (pure a : Procedure α).Meets k who post h := ha

/-- A fault at once meets what holds of it. -/
theorem meets_fail {post : Except Fault α → Past → Prop} {f : Fault}
    (hf : post (.error f) h) : (fail f : Procedure α).Meets k who post h := hf

/-- One procedure after the other; a fault of the first is the fault of both. -/
theorem meets_bind {post : Except Fault β → Past → Prop} {p : Procedure α}
    {f : α → Procedure β}
    (hp : p.Meets k who
      (fun r h => match r with
        | .ok a => (f a).Meets k who post h
        | .error e => post (.error e) h) h) :
    (p >>= f).Meets k who post h := by
  -- a fault ends the procedure here, so the rest is not entered
  refine Program.Meets.bind (Program.Meets.mono ?_ hp)
  intro r h hr
  cases r with
  | ok a => exact hr
  | error e => exact hr

/-- What is made of a result is wanted of the result. -/
theorem meets_map {post : Except Fault β → Past → Prop} {p : Procedure α} {f : α → β}
    (hp : p.Meets k who
      (fun r h => match r with
        | .ok a => post (.ok (f a)) h
        | .error e => post (.error e) h) h) :
    (f <$> p).Meets k who post h := by
  refine Program.Meets.bind (Program.Meets.mono ?_ hp)
  intro r h hr
  cases r with
  | ok a => exact hr
  | error e => exact hr

/-- A call: it has to be allowed after whatever others did, and what follows is seen
from the store after it. -/
theorem meets_call {c : Store.Call} {post : Except Fault c.Answer → Past → Prop}
    (hc : ∀ h', k.rely h h' → inv h' → k.allows h' c ∧
      ∀ now, post (h'.store.perform now c).1 (h'.called who now c)) :
    (call c).Meets k who post h := hc

/-- To ask for a decision is allowed, and any answer will do. -/
theorem meets_decide {context : Decision.Context}
    {post : Except Fault (Except Fault Decision) → Past → Prop}
    (hd : ∀ h', k.rely h h' → inv h' → k.asks h' context ∧
      ∀ r, post (.ok r) (h'.asked who context r)) :
    (decide context).Meets k who post h := hd

theorem meets_pause {ms : Nat} {post : Except Fault Unit → Past → Prop}
    (hp : post (.ok ()) h) : (pause ms).Meets k who post h := hp

/-- A fault that is caught is a result. -/
theorem meets_attempt {p : Procedure α} {post : Except Fault (Except Fault α) → Past → Prop}
    (hp : p.Meets k who (fun r h => post (.ok r) h) h) :
    p.attempt.Meets k who post h := by
  refine Program.Meets.bind (Program.Meets.mono ?_ hp)
  intro r h hr
  exact hr

end Procedure

/-! ## Scenes -/

/-- Two actors do not get into each other's way: they are not the handlers of one
conversation. -/
def Actor.Apart (p q : Actor) : Prop := p = q → p = .sweeper

/-- Who does not get in another's way does not have that one in the way. -/
theorem Actor.Apart.symm {p q : Actor} (h : p.Apart q) : q.Apart p := by
  intro hqp
  rw [hqp]
  exact h hqp.symm

/-- What makes the contracts of all actors fit together. -/
structure Discipline (rules : Rules) (k : Actor → Contract inv)
    (post : Actor → Outcome → Past → Prop) : Prop where
  /-- An allowed call keeps the invariant. -/
  call_inv : ∀ p h now c, inv h → (k p).allows h c → inv (h.called p now c)
  /-- An allowed call is what the others rely on. -/
  call_rely : ∀ p q h now c, inv h → (k p).allows h c → p.Apart q →
    (k q).rely h (h.called p now c)
  /-- A decision keeps the invariant. -/
  asked_inv : ∀ p h context r, inv h → inv (h.asked p context r)
  /-- A decision is what the others rely on. -/
  asked_rely : ∀ p q h context r, p.Apart q → (k q).rely h (h.asked p context r)
  /-- What a client may call is allowed. -/
  request : ∀ h c, rules.accepts c = true → (k .client).allows h c
  /-- Who is admitted is apart from those at work. -/
  admitted : ∀ ws p, p ≠ .client → rules.admits ws p = true → ∀ w ∈ ws, w.actor.Apart p
  /-- The answer to a frame keeps to its contract. -/
  handling : ∀ ws s c frame h, rules.admits ws (.handler c) = true → inv h →
    Program.Meets (k (.handler c)) (.handler c) (post (.handler c))
      (Worker.handling s c frame).program h
  /-- A sweep keeps to its contract. -/
  sweeping : ∀ s t h, inv h →
    Program.Meets (k .sweeper) .sweeper (post .sweeper) (Worker.sweeping s t).program h
  /-- What is wanted in the end lasts. -/
  lasting : ∀ p a h h', (k p).rely h h' → inv h' → post p a h → post p a h'

/-- The invariant holds, nobody is in another's way, and everybody keeps to their
contract. -/
structure Scene.Sound (k : Actor → Contract inv) (post : Actor → Outcome → Past → Prop)
    (σ : Scene) : Prop where
  /-- The invariant holds. -/
  inv : inv σ.past
  /-- Nobody is a client, and nobody is in another's way. -/
  apart : (σ.workers.map (·.actor)).Pairwise Actor.Apart
  /-- Nobody at work is a client, whose requests are single calls. -/
  working : ∀ w ∈ σ.workers, w.actor ≠ .client
  /-- Everybody keeps to their contract. -/
  meets : ∀ w ∈ σ.workers, Program.Meets (k w.actor) w.actor (post w.actor) w.program σ.past

namespace Scene

variable {k : Actor → Contract inv} {post : Actor → Outcome → Past → Prop} {rules : Rules}
  {σ : Scene}

/-- A scene in which nobody is at work is sound. -/
theorem sound_start {s : Store} (hs : inv (Past.start s)) :
    (Scene.start s).Sound k post where
  inv := hs
  apart := List.Pairwise.nil
  working := fun _ h => absurd h List.not_mem_nil
  meets := fun _ h => absurd h List.not_mem_nil

/-- A worker that begins joins those at work. -/
theorem Sound.enter (d : Discipline rules k post) (hσ : σ.Sound k post) {w : Worker}
    (hclient : w.actor ≠ .client)
    (hw : rules.admits σ.workers w.actor = true →
      Program.Meets (k w.actor) w.actor (post w.actor) w.program σ.past) :
    (σ.enter rules w).Sound k post := by
  unfold Scene.enter
  by_cases hadmits : rules.admits σ.workers w.actor = true
  · rw [if_pos hadmits]
    refine ⟨hσ.inv, ?_, ?_, ?_⟩
    · simp only [List.map_append, List.map_cons, List.map_nil]
      -- who was admitted is apart from everybody at work
      refine List.pairwise_append.2 ⟨hσ.apart, List.pairwise_singleton _ w.actor, ?_⟩
      intro p hp q hq
      obtain ⟨v, hv, rfl⟩ := List.mem_map.1 hp
      rw [List.mem_singleton.1 hq]
      exact d.admitted σ.workers w.actor hclient hadmits v hv
    · intro v hv
      rcases List.mem_append.1 hv with hv | hv
      · exact hσ.working v hv
      · rw [List.mem_singleton.1 hv]
        exact hclient
    · intro v hv
      rcases List.mem_append.1 hv with hv | hv
      · exact hσ.meets v hv
      · rw [List.mem_singleton.1 hv]
        exact hw hadmits
  · rw [if_neg hadmits]
    exact hσ

/-- A step of a worker keeps the invariant, its own contract, and what the others rely
on. -/
theorem act_sound (d : Discipline rules k post) {w : Worker} {h : Past} (hinv : inv h)
    (hw : Program.Meets (k w.actor) w.actor (post w.actor) w.program h) (now : Instant)
    (answer : Except Fault Decision) :
    inv (w.act now answer h).2 ∧
      Program.Meets (k w.actor) w.actor (post w.actor) (w.act now answer h).1.program
        (w.act now answer h).2 ∧
      ∀ q, w.actor.Apart q → (k q).rely h (w.act now answer h).2 := by
  obtain ⟨actor, program⟩ := w
  cases program with
  | done a => exact ⟨hinv, hw, fun q _ => (k q).rely_refl h⟩
  | call c next =>
      obtain ⟨hallows, hnext⟩ := hw h ((k actor).rely_refl h) hinv
      exact ⟨d.call_inv actor h now c hinv hallows, hnext now,
        fun q hq => d.call_rely actor q h now c hinv hallows hq⟩
  | decide context next =>
      obtain ⟨_, hnext⟩ := hw h ((k actor).rely_refl h) hinv
      exact ⟨d.asked_inv actor h context answer hinv, hnext answer,
        fun q hq => d.asked_rely actor q h context answer hq⟩
  | pause _ next => exact ⟨hinv, hw, fun q _ => (k q).rely_refl h⟩
  | clock next => exact ⟨hinv, hw now, fun q _ => (k q).rely_refl h⟩

/-- Whoever is at work stays right while another takes a step. -/
theorem Sound.set (d : Discipline rules k post) (hσ : σ.Sound k post) {i : Nat} {w w' : Worker}
    {h' : Past} (hi : σ.workers[i]? = some w) (hactor : w'.actor = w.actor) (hinv : inv h')
    (hw' : Program.Meets (k w.actor) w.actor (post w.actor) w'.program h')
    (hrely : ∀ q, w.actor.Apart q → (k q).rely σ.past h') :
    (⟨h', σ.workers.set i w'⟩ : Scene).Sound k post := by
  obtain ⟨hlt, hget⟩ := List.getElem?_eq_some_iff.1 hi
  have hwmem : w ∈ σ.workers := hget ▸ List.getElem_mem hlt
  have hsame : (σ.workers.set i w').map (·.actor) = σ.workers.map (·.actor) := by
    rw [List.map_set, hactor, ← hget]
    have hlt' : i < (σ.workers.map (·.actor)).length := by rwa [List.length_map]
    have hself := List.set_getElem_self hlt'
    rwa [List.getElem_map] at hself
  have hpair := List.pairwise_iff_getElem.1 hσ.apart
  simp only [List.length_map, List.getElem_map] at hpair
  refine ⟨hinv, hsame ▸ hσ.apart, ?_, ?_⟩
  · intro v hv
    rcases List.mem_or_eq_of_mem_set hv with hv | rfl
    · exact hσ.working v hv
    · rw [hactor]
      exact hσ.working w hwmem
  · intro v hv
    obtain ⟨j, hj, rfl⟩ := List.getElem_of_mem hv
    rw [List.getElem_set]
    split
    next heq =>
      rw [hactor]
      exact hw'
    next hne =>
      have hj' : j < σ.workers.length := by simpa using hj
      -- the two stand at different places, so one of the two orders gives their distance
      have happart : w.actor.Apart (σ.workers[j]).actor := by
        rw [← hget]
        rcases Nat.lt_or_gt_of_ne hne with hij | hji
        · exact hpair i j hlt hj' hij
        · exact (hpair j i hj' hlt hji).symm
      exact (hσ.meets _ (List.getElem_mem hj')).stable (d.lasting _) (hrely _ happart) hinv

/-- A request of a client keeps everybody right. -/
theorem Sound.request (d : Discipline rules k post) (hσ : σ.Sound k post) (now : Instant)
    {c : Store.Call} (hc : rules.accepts c = true) :
    ({ σ with past := σ.past.called .client now c } : Scene).Sound k post := by
  have hallows := d.request σ.past c hc
  have hinv := d.call_inv .client σ.past now c hσ.inv hallows
  refine ⟨hinv, hσ.apart, hσ.working, ?_⟩
  intro w hw
  refine (hσ.meets w hw).stable (d.lasting _) ?_ hinv
  refine d.call_rely .client w.actor σ.past now c hσ.inv hallows ?_
  intro hclient
  exact absurd hclient.symm (hσ.working w hw)

/-- **Every choice leaves a scene sound.** -/
theorem Sound.step (d : Discipline rules k post) (hσ : σ.Sound k post) (choice : Choice) :
    (σ.step rules choice).Sound k post := by
  cases choice with
  | request now c =>
      simp only [Scene.step]
      split
      next hc => exact hσ.request d now hc
      next => exact hσ
  | frame s conversation frame =>
      refine hσ.enter d (fun h => Actor.noConfusion h) ?_
      intro hadmits
      exact d.handling σ.workers s conversation frame σ.past hadmits hσ.inv
  | sweep s time =>
      refine hσ.enter d (fun h => Actor.noConfusion h) ?_
      intro _
      exact d.sweeping s time σ.past hσ.inv
  | act index now answer =>
      simp only [Scene.step]
      split
      next => exact hσ
      next w hw =>
        have hmem : w ∈ σ.workers := List.mem_of_getElem? hw
        obtain ⟨hinv, hmeets, hrely⟩ := act_sound d hσ.inv (hσ.meets w hmem) now answer
        exact hσ.set d hw (w.act_actor now answer σ.past) hinv hmeets hrely
  | leave index =>
      have hsub := List.eraseIdx_sublist σ.workers index
      exact ⟨hσ.inv, hσ.apart.sublist (hsub.map _), fun w hw => hσ.working w (hsub.subset hw),
        fun w hw => hσ.meets w (hsub.subset hw)⟩
  | reopen =>
      exact ⟨hσ.inv, List.Pairwise.nil, fun _ h => absurd h List.not_mem_nil,
        fun _ h => absurd h List.not_mem_nil⟩

/-- **Soundness.** Where the contracts fit together, they are kept in every schedule. -/
theorem play_sound (d : Discipline rules k post) (hσ : σ.Sound k post)
    (schedule : List Choice) : (σ.play rules schedule).Sound k post :=
  play_induction (fun _ choice _ h => h.step d choice) hσ

/-- Whoever waits for a decision may ask for it. -/
theorem Sound.asks (hσ : σ.Sound k post) {w : Worker} (hw : w ∈ σ.workers)
    {context : Decision.Context} {next : Except Fault Decision → Program Outcome}
    (hprogram : w.program = .decide context next) : (k w.actor).asks σ.past context := by
  have hmeets := hσ.meets w hw
  rw [hprogram] at hmeets
  exact (hmeets σ.past ((k w.actor).rely_refl σ.past) hσ.inv).1

end Scene

end ControlPlane
