/-
What a user changes through the gateway.

The calls that a request makes touch nothing that belongs to others, whoever else is at work.
This is a contract (`sparing`): what is relied on is only that the others make calls, any and as
many as they like, and each own call is to leave the rest of the store as it is, at the moment
when it is made.

Most of what is done only reads. Where a call writes, it names a conversation, and the session
has looked at that conversation before. What a session may see belongs to its user
(`seen_mine`), and goes on belonging to the user, because no call gives a conversation away
(`mine_lasts`). So it does not matter what others did between the look and the write.
-/
import ControlPlane.Proofs.Alone
import ControlPlane.Proofs.Requesting
import ControlPlane.Proofs.Share

set_option autoImplicit false

namespace ControlPlane

variable {α : Type} {u : Int} {who : Actor} {h : Past}

/-- A store in which every message has its conversation and every action its message. -/
structure Store.Grown (s : Store) : Prop where
  /-- The tables are as calls make them. -/
  regular : s.Regular
  /-- Every message has its conversation. -/
  rooted : s.Rooted

theorem Store.grown_replay (history : List (Instant × Store.Call)) :
    (Store.empty.replay history).Grown :=
  ⟨Store.replay_regular history, Store.replay_rooted history⟩

theorem Store.Change.mine {s s' : Store} {now : Instant} {call : Store.Call}
    (h : s.Change now call s') {id : Int} (hown : s.Mine u id) : s'.Mine u id := by
  cases h with
  | conversations _ f hf => exact (Store.mine_map (fun r => (hf r).becomes) u id).2 hown
  | newConversation =>
      obtain ⟨r, hr, hid, hu⟩ := hown
      exact ⟨r, List.mem_append_left _ hr, hid, hu⟩
  | _ => exact hown

/-- No call gives a conversation of a user away. -/
theorem Store.mine_lasts {s : Store} {id : Int} (hown : s.Mine u id)
    (calls : List (Instant × Store.Call)) : (s.replay calls).Mine u id :=
  Store.replay_induction (P := fun s => s.Mine u id)
    (fun s e _ hs => (s.perform_change e.1 e.2).mine hs) hown

/-! ## The contract -/

/-- Others make any calls; an own call leaves alone what does not belong to the user. -/
def sparing (u : Int) : Contract fun h => h.store.Grown where
  rely h h' := ∃ calls, h'.store = h.store.replay calls
  rely_refl := fun _ => ⟨[], rfl⟩
  rely_trans := by
    rintro h h' h'' ⟨calls, hcalls⟩ ⟨more, hmore⟩
    exact ⟨calls ++ more, by rw [Store.replay_append, ← hcalls, hmore]⟩
  allows h c := ∀ now, (h.store.perform now c).2.besides u = h.store.besides u
  asks _ _ := False

/-- What does not belong to the user is the same at the end of a program that keeps to it. -/
theorem Program.Meets.spares {post : α → Past → Prop} {p : Program α}
    (hp : Meets (sparing u) who post p h) (hh : h.store.Grown) (k : Course) :
    (p.follow who k h).2.store.besides u = h.store.besides u := by
  induction p generalizing k h with
  | done a => rfl
  | call c next ih =>
      obtain ⟨hallows, hnext⟩ := hp h ((sparing u).rely_refl h) hh
      have hchange := h.store.perform_change (k.clock 0) c
      have hgrown : (h.called who (k.clock 0) c).store.Grown :=
        ⟨hchange.regular hh.regular, hchange.rooted hh.rooted⟩
      exact (ih _ (hnext (k.clock 0)) hgrown k.rest).trans (hallows (k.clock 0))
  | decide context next => exact (hp h ((sparing u).rely_refl h) hh).1.elim
  | pause _ next ih => exact ih () hp hh k
  | clock next ih => exact ih _ (hp (k.clock 0)) hh k.rest

namespace Gateway

open Procedure

-- what is changed does not depend on what a text becomes when it is trimmed
attribute [local irreducible] Text.trim

/-- To look is allowed. -/
theorem looks_meets {p : Program α} (hp : p.Only Looks) (h : Past) :
    Program.Meets (sparing u) who (fun _ _ => True) p h :=
  hp.meets (fun _ hc h _ now => by rw [hc.store]) h

/-! ## What a session may see -/

/-- What a session of a user makes of a look at a conversation. -/
def seen (u id : Int) : Except Fault (Option Conversation) → Except Fault Conversation
  | .error e => .error e
  | .ok found =>
    match found.filter fun c => Access.Session.canAccess ⟨some u⟩ c.userId with
    | some c => .ok c
    | none => .error (.missing .conversation id)

theorem loadConversation_run (u id : Int) :
    (loadConversation ⟨some u⟩ id).run =
      .call (.getConversation id) fun r => .done (seen u id r) := by
  refine congrArg (Program.call (.getConversation id)) (funext fun r => ?_)
  cases r with
  | error e => rfl
  | ok found =>
      show (Procedure.orFail _ (found.filter _)).run = _
      simp only [seen]
      cases found.filter fun c => Access.Session.canAccess ⟨some u⟩ c.userId <;> rfl

/-- A conversation that a session may see belongs to its user. -/
theorem seen_mine {s : Store} {id : Int} {v : Conversation}
    (hv : seen u id (s.getConversation id) = .ok v) : s.Mine u id := by
  cases hget : s.getConversation id with
  | error e =>
      rw [hget] at hv
      cases hv
  | ok found =>
      rw [hget] at hv
      simp only [seen] at hv
      split at hv
      next c hfilter =>
        obtain ⟨hfound, hcan⟩ := Option.filter_eq_some_iff.1 hfilter
        rw [hfound] at hget
        obtain ⟨r, hfind, hread⟩ := Store.answer?_some hget
        refine ⟨r, List.mem_of_find?_eq_some hfind, by simpa using List.find?_some hfind, ?_⟩
        rw [← Store.read_userId hread]
        exact beq_iff_eq.1 hcan
      next => cases hv

/-- After a look at a conversation that a session may see, the conversation belongs to its user. -/
theorem load_meets (id : Int) (h : Past) :
    (loadConversation ⟨some u⟩ id).Meets (sparing u) who
      (fun r h => ∀ v, r = .ok v → h.store.Mine u id) h := by
  show Program.Meets _ _ _ (loadConversation ⟨some u⟩ id).run h
  rw [loadConversation_run]
  intro h' _ _
  exact ⟨fun _ => rfl, fun now v hv => seen_mine hv⟩

/-! ## Writes -/

theorem meets_ofExcept {inv : Past → Prop} {k : Contract inv}
    {post : Except Fault α → Past → Prop} {r : Except Fault α} (hr : post r h) :
    (Procedure.ofExcept r).Meets k who post h := by
  cases r with
  | ok a => exact hr
  | error f => exact hr

theorem meets_orFail {inv : Past → Prop} {k : Contract inv}
    {post : Except Fault α → Past → Prop} {f : Fault} {found : Option α}
    (hsome : ∀ a, post (.ok a) h) (hnone : post (.error f) h) :
    (Procedure.orFail f found).Meets k who post h := by
  cases found with
  | some a => exact hsome a
  | none => exact hnone

theorem createConversation_meets (body : NewConversation) (h : Past) :
    (createConversation ⟨some u⟩ body).Meets (sparing u) who (fun _ _ => True) h := by
  unfold createConversation
  refine meets_bind (meets_ofExcept ?_)
  cases checkTitle body.title with
  | error e => exact trivial
  | ok title =>
      refine meets_call ?_
      intro h' _ hh'
      refine ⟨fun now => ?_, fun _ => trivial⟩
      exact hh'.regular.ordered.besides_createConversation hh'.rooted now title _

theorem renameConversation_meets (id : Int) (raw : String) (h : Past) :
    (renameConversation ⟨some u⟩ id raw).Meets (sparing u) who (fun _ _ => True) h := by
  unfold renameConversation
  refine meets_bind (meets_ofExcept ?_)
  cases checkTitle raw with
  | error e => exact trivial
  | ok title =>
      refine meets_bind ((load_meets id h).mono ?_)
      intro r h hmine
      cases r with
      | error e => exact trivial
      | ok v =>
          refine meets_bind (meets_call ?_)
          rintro h' ⟨calls, hcalls⟩ hh'
          have hown : h'.store.Mine u id := hcalls ▸ Store.mine_lasts (hmine v rfl) calls
          refine ⟨fun now => hh'.regular.ordered.besides_renameConversation now hown title, ?_⟩
          intro now
          -- what follows the write is one more look, or nothing
          split
          next renamed _ =>
            cases renamed with
            | true => exact looks_meets (loadConversation_only _ id) _
            | false => exact trivial
          next => exact trivial

theorem createMessage_meets (id : Int) (raw : String) (h : Past) :
    (createMessage ⟨some u⟩ id raw).Meets (sparing u) who (fun _ _ => True) h := by
  unfold createMessage
  refine meets_bind ((load_meets id h).mono ?_)
  intro r h hmine
  cases r with
  | error e => exact trivial
  | ok v =>
      simp only
      split
      · exact trivial
      · refine meets_bind (meets_orFail (fun content => ?_) trivial)
        refine meets_call ?_
        rintro h' ⟨calls, hcalls⟩ hh'
        have hown : h'.store.Mine u id := hcalls ▸ Store.mine_lasts (hmine v rfl) calls
        refine ⟨fun now => ?_, fun _ => trivial⟩
        exact hh'.regular.ordered.besides_createMessage hh'.regular.anchored now hown .user content

/-! ## Requests -/

theorem reply_meets (toJson : α → Json) {p : Procedure α} {h : Past}
    (hp : p.Meets (sparing u) who (fun _ _ => True) h) :
    Program.Meets (sparing u) who (fun _ _ => True) (reply toJson p) h := by
  refine Program.Meets.bind (Program.Meets.mono ?_ hp)
  intro r h _
  cases r with
  | ok a => exact trivial
  | error f => exact trivial

theorem Serving.meets {p : Program Outcome} (hp : Serving ⟨some u⟩ p) (h : Past) :
    Program.Meets (sparing u) who (fun _ _ => True) p h := by
  cases hp with
  | looking hp => exact looks_meets hp h
  | creating body => exact reply_meets _ (createConversation_meets body h)
  | retitling id title => exact reply_meets _ (renameConversation_meets id title h)
  | telling id content => exact reply_meets _ (createMessage_meets id content h)

/-- **A request of a user changes nothing that belongs to others**, whatever they do at the same
time. -/
theorem handle_meets {tokens : Access.Tokens} {r : Http.Request}
    (hsession : sessionOf tokens r = .ok ⟨some u⟩) (policy : Http.Cors) (connections : Nat)
    (upgradable : Bool) (h : Past) :
    Program.Meets (sparing u) who (fun _ _ => True)
      (handle policy tokens connections upgradable r) h := by
  refine handle_induction
    (Q := fun p => ∀ h, Program.Meets (sparing u) who (fun _ _ => True) p h) ?_ ?_ ?_ policy h
  · exact fun _ _ => trivial
  · intro p f _ hp h
    exact Program.Meets.bind (Program.Meets.mono (fun _ _ _ => trivial) (hp h))
  · intro session resource verb hsession' _ h
    obtain rfl := Except.ok.inj (hsession'.symm.trans hsession)
    exact (serve_serving _ r connections upgradable resource verb).meets h

end Gateway

end ControlPlane
