/-
Every end is claimed once.

Three calls end actions: `completeAction` records a result, `forceAction` ends an action
from outside, and `skipOpenActions` ends all open actions of a message. Whoever makes
such a call learns from the answer what it has ended. A *claim* is one such piece of
news: the action, and what was written about its end.

The ledger is a conservation law (`Past.Balanced`): at any moment the claims of all
calls so far are, in some order, the actions that have ended, with what their rows say.
It holds for one call (`perform_balance`), because a call ends open actions only and
says which. So it holds in every schedule, and as no two actions share a number, no
action is claimed twice.

The law needs readable rows: a call that skips an action it cannot read fails, and
nobody learns that the action has ended. Rows are readable while the clock reads years of
four digits (`Store.replay_readable`).
-/
import ControlPlane.Proofs.Readable
import ControlPlane.Proofs.Scene

set_option autoImplicit false

namespace ControlPlane

/-! ## Claims -/

/-- The news that an action has ended, and how. -/
structure Claim where
  /-- The action. -/
  action : Int
  /-- The name of the status in which it has ended. -/
  status : String
  /-- Why it did not succeed. -/
  errorMessage : Option String
  /-- How long the browser took, in milliseconds. -/
  executionTime : Option Int
deriving DecidableEq, Repr

/-- What the row of an action says about its end. -/
def ActionRow.claim (a : ActionRow) : Claim :=
  ⟨a.id, a.status, a.errorMessage, a.executionTime⟩

/-- What a call with an answer has ended, and what it wrote. -/
def Store.Call.claims : (c : Store.Call) → Except Fault c.Answer → List Claim
  | .completeAction id status e x, .ok true => [⟨id, status.name, e, x⟩]
  | .forceAction id status reason, .ok true => [⟨id, status.name, some reason, none⟩]
  | .skipOpenActions _ reason, .ok skipped =>
    skipped.map fun a => ⟨a.id, Action.Status.skipped.name, some reason, none⟩
  | _, _ => []

/-- A call that completes an action claims it if it answers yes. -/
theorem Store.Call.claims_completeAction (id : Int) (status : Action.Status)
    (e : Option String) (x : Option Int) (answer : Bool) :
    claims (.completeAction id status e x) (.ok answer) =
      if answer then [⟨id, status.name, e, x⟩] else [] := by
  cases answer <;> rfl

/-- A call that fails an action claims it if it answers yes. -/
theorem Store.Call.claims_forceAction (id : Int) (status : Action.Status) (reason : String)
    (answer : Bool) :
    claims (.forceAction id status reason) (.ok answer) =
      if answer then [⟨id, status.name, some reason, none⟩] else [] := by
  cases answer <;> rfl

/-- How many results a call has recorded: one if it was to record one and answered
true. -/
def Store.Call.completed : (c : Store.Call) → Except Fault c.Answer → Nat
  | .completeAction _ _ _ _, .ok true => 1
  | _, _ => 0

/-- How many actions a call has forced: one if it was to force one and answered true. -/
def Store.Call.forced : (c : Store.Call) → Except Fault c.Answer → Nat
  | .forceAction _ _ _, .ok true => 1
  | _, _ => 0

/-- How many actions a call has skipped: as many as its answer lists. -/
def Store.Call.skipped : (c : Store.Call) → Except Fault c.Answer → Nat
  | .skipOpenActions _ _, .ok skipped => skipped.length
  | _, _ => 0

/-- A call claims what it has recorded, skipped and forced. -/
theorem Store.Call.length_claims (c : Store.Call) (r : Except Fault c.Answer) :
    (c.claims r).length = c.completed r + c.skipped r + c.forced r := by
  cases c <;> cases r <;> try rfl
  case completeAction.ok id status e x answer => cases answer <;> rfl
  case forceAction.ok id status reason answer => cases answer <;> rfl
  case skipOpenActions.ok m reason answer =>
    simp only [claims, completed, skipped, forced, List.length_map]
    omega

/-! ## Changes in place and what has ended -/

namespace Store

variable {s : Store} {now : Instant}

/-- What the rows of the ended actions say. -/
def endings (rows : List ActionRow) : List Claim :=
  (rows.filter (·.isEnded)).map ActionRow.claim

/-- A change that ends the rows it changes, and changes none that has ended, adds what
the changed rows say. -/
theorem endings_modify {p : ActionRow → Bool} {f : ActionRow → ActionRow}
    {rows : List ActionRow} (hopen : ∀ a, p a = true → a.isEnded = false)
    (hends : ∀ a, p a = true → (f a).isEnded = true) :
    (endings (modify p f rows)).Perm
      (endings rows ++ (rows.filter p).map fun a => (f a).claim) := by
  induction rows with
  | nil => exact List.Perm.refl _
  | cons a rest ih =>
      unfold endings modify at ih ⊢
      rw [List.map_cons]
      -- a row that changes was no ending before and is one now
      by_cases hp : p a = true
      · rw [if_pos hp, List.filter_cons_of_pos (hends a hp), List.map_cons,
          List.filter_cons_of_neg (by rw [hopen a hp]; decide), List.filter_cons_of_pos hp,
          List.map_cons]
        exact (ih.cons _).trans List.perm_middle.symm
      · rw [if_neg hp, List.filter_cons_of_neg hp]
        by_cases hended : a.isEnded = true
        · rw [List.filter_cons_of_pos hended, List.filter_cons_of_pos hended, List.map_cons,
            List.map_cons, List.cons_append]
          exact ih.cons _
        · rw [List.filter_cons_of_neg hended, List.filter_cons_of_neg hended]
          exact ih

/-- A change of open rows into open rows ends nothing. -/
theorem endings_modify_open {p : ActionRow → Bool} {f : ActionRow → ActionRow}
    {rows : List ActionRow} (hopen : ∀ a, p a = true → a.isEnded = false)
    (hstays : ∀ a, p a = true → (f a).isEnded = false) :
    endings (modify p f rows) = endings rows := by
  induction rows with
  | nil => rfl
  | cons a rest ih =>
      unfold endings modify at ih ⊢
      rw [List.map_cons]
      by_cases hp : p a = true
      · rw [if_pos hp, List.filter_cons_of_neg (by rw [hstays a hp]; decide),
          List.filter_cons_of_neg (by rw [hopen a hp]; decide)]
        exact ih
      · rw [if_neg hp]
        by_cases hended : a.isEnded = true
        · rw [List.filter_cons_of_pos hended, List.filter_cons_of_pos hended, List.map_cons,
            List.map_cons, ih]
        · rw [List.filter_cons_of_neg hended, List.filter_cons_of_neg hended]
          exact ih

/-- Rows that all have the number of one of them are that one alone. -/
theorem Numbered.filter_eq_singleton {ρ : Type} {id : ρ → Int} {rows : List ρ} {last : Int}
    (h : Numbered id rows last) {a : ρ} (ha : a ∈ rows) {p : ρ → Bool} (hp : p a = true)
    (hid : ∀ b, p b = true → id b = id a) : rows.filter p = [a] := by
  have hasc : (rows.filter p).Pairwise fun a b => id a < id b :=
    h.ascending.sublist List.filter_sublist
  have hmem : a ∈ rows.filter p := List.mem_filter.2 ⟨ha, hp⟩
  have hall : ∀ b ∈ rows.filter p, id b = id a :=
    fun b hb => hid b (List.mem_filter.1 hb).2
  cases hrows : rows.filter p with
  | nil => rw [hrows] at hmem; cases hmem
  | cons x rest =>
      rw [hrows] at hasc hmem hall
      cases rest with
      | nil => rw [List.mem_singleton.1 hmem]
      | cons y rest =>
          -- two rows in ascending order cannot have the same number
          have hlt := List.rel_of_pairwise_cons hasc List.mem_cons_self
          have hx := hall x List.mem_cons_self
          have hy := hall y (List.mem_cons_of_mem _ List.mem_cons_self)
          omega

/-! ## No time without a result -/

/-- No time is noted for an action that is open. -/
def Untimed (s : Store) : Prop :=
  ∀ a ∈ s.actions, a.isOpen = true → a.executionTime = none

/-- In the empty store there is no action with a time. -/
theorem empty_untimed : Store.empty.Untimed := fun _ h => absurd h List.not_mem_nil

/-- An action that is open after a move was open before, and no time has been noted for it. -/
theorem untimed_of_moves {a b : ActionRow} (h : a.Moves now b)
    (ha : a.isOpen = true → a.executionTime = none) (hb : b.isOpen = true) :
    b.executionTime = none := by
  have hopen := h.becomes.isOpen_of_isOpen hb
  cases h with
  | stays => exact ha hopen
  | starts => exact ha hopen
  | completes _ st hst _ _ =>
      -- what has completed is not open any more
      have hterminal : st.isTerminal = true := by
        rcases hst with rfl | rfl <;> rfl
      rw [ActionRow.isOpen_eq_false_of_isEnded
        (ActionRow.isEnded_of_terminal hterminal rfl)] at hb
      cases hb
  | ends => exact ha hopen

/-- No call notes a time for an action and leaves it open. -/
theorem Change.untimed {s' : Store} {call : Call} (h : s.Change now call s')
    (hs : s.Untimed) : s'.Untimed := by
  cases h with
  | nothing => exact hs
  | actions _ f hf =>
      intro b hb hopen
      obtain ⟨a, ha, rfl⟩ := List.mem_map.1 hb
      exact untimed_of_moves (hf a) (hs a ha) hopen
  | messages => exact hs
  | conversations => exact hs
  | newConversation => exact hs
  | newMessage => exact hs
  | newAction m kind parameters _ =>
      intro a ha hopen
      rcases List.mem_append.1 ha with ha | ha
      · exact hs a ha hopen
      · rw [List.mem_singleton.1 ha]
        rfl

/-- After any calls no time is noted for an open action. -/
theorem replay_untimed (hs : s.Untimed) (calls : List (Instant × Call)) :
    (s.replay calls).Untimed :=
  replay_induction (fun s e _ hs => (s.perform_change e.1 e.2).untimed hs) hs

/-! ## One call -/

/-- A change that ends at most the open action with one number adds what is written
about its end. -/
theorem endings_single (hs : s.Ordered) {id : Int} {p : ActionRow → Bool}
    {f : ActionRow → ActionRow} {c : Claim} (hid : ∀ a, p a = true → a.id = id)
    (hopen : ∀ a, p a = true → a.isOpen = true) (hends : ∀ a, p a = true → (f a).isEnded = true)
    (hclaim : ∀ a ∈ s.actions, p a = true → (f a).claim = c) :
    (endings (modify p f s.actions)).Perm
      (endings s.actions ++ if s.actions.any p then [c] else []) := by
  refine (endings_modify ?_ hends).trans (List.Perm.append_left _ ?_)
  · exact fun a ha => ActionRow.isEnded_eq_false_of_isOpen (hopen a ha)
  · by_cases hany : s.actions.any p = true
    · obtain ⟨a, ha, hit⟩ := List.any_eq_true.1 hany
      have hfilter : s.actions.filter p = [a] :=
        hs.actions.filter_eq_singleton ha hit fun b hb => (hid b hb).trans (hid a hit).symm
      rw [if_pos hany, hfilter, List.map_singleton, hclaim a ha hit]
    · have hfilter : s.actions.filter p = [] := by
        rw [List.filter_eq_nil_iff]
        intro a ha hit
        exact hany (List.any_eq_true.2 ⟨a, ha, hit⟩)
      rw [if_neg hany, hfilter, List.map_nil]

/-- A result that was recorded is the end of the one action that it names. -/
theorem completeAction_balance (hs : s.Ordered) (id : Int) (st : Action.Status)
    (e : Option String) (x : Option Int) :
    (endings (s.completeAction now id st e x).2.actions).Perm
      (endings s.actions ++
        Call.claims (.completeAction id st e x) (s.completeAction now id st e x).1) := by
  unfold completeAction
  by_cases hst : st = .success ∨ st = .failed
  · have hterminal : st.isTerminal = true := by
      rcases hst with rfl | rfl <;> rfl
    have hrunning : ∀ a : ActionRow,
        (a.id == id && a.status == Action.Status.running.name) = true →
          a.id = id ∧ a.isOpen = true := by
      intro a ha
      simp only [Bool.and_eq_true, beq_iff_eq] at ha
      exact ⟨ha.1, (ActionRow.isOpen_iff a).2 (Or.inr ha.2)⟩
    rw [if_pos hst]
    have hbalance := endings_single hs (c := ⟨id, st.name, e, x⟩)
      (f := fun a : ActionRow => { a with
        status := st.name, errorMessage := e, executionTime := x,
        finishedAt := some now.storedText })
      (fun a ha => (hrunning a ha).1) (fun a ha => (hrunning a ha).2)
      (fun a _ => ActionRow.isEnded_of_terminal hterminal rfl)
      (fun a _ ha => by rw [← (hrunning a ha).1]; rfl)
    exact hbalance.trans
      (List.Perm.append_left _ (List.Perm.of_eq (Call.claims_completeAction id st e x _).symm))
  · rw [if_neg hst]
    change (endings s.actions).Perm (endings s.actions ++ [])
    rw [List.append_nil]

/-- An action that was forced is the one action that the call names. -/
theorem forceAction_balance (hs : s.Ordered) (huntimed : s.Untimed) (id : Int)
    (st : Action.Status) (reason : String) :
    (endings (s.forceAction now id st reason).2.actions).Perm
      (endings s.actions ++
        Call.claims (.forceAction id st reason) (s.forceAction now id st reason).1) := by
  unfold forceAction
  by_cases hst : st.isTerminal = true
  · have hhit : ∀ a : ActionRow, (a.id == id && a.isOpen) = true →
        a.id = id ∧ a.isOpen = true := by
      intro a ha
      simpa only [Bool.and_eq_true, beq_iff_eq] using ha
    rw [if_pos hst]
    have hbalance := endings_single hs (c := ⟨id, st.name, some reason, none⟩)
      (f := forced now st reason)
      (fun a ha => (hhit a ha).1) (fun a ha => (hhit a ha).2)
      (fun a _ => ActionRow.isEnded_of_terminal hst rfl)
      (fun a hmem ha => by
        unfold forced ActionRow.claim
        rw [(hhit a ha).1, huntimed a hmem (hhit a ha).2])
    exact hbalance.trans
      (List.Perm.append_left _ (List.Perm.of_eq (Call.claims_forceAction id st reason _).symm))
  · rw [if_neg hst]
    change (endings s.actions).Perm (endings s.actions ++ [])
    rw [List.append_nil]

/-- The actions that a call lists as skipped are those that it has ended, if it does not
fail. -/
theorem skipOpenActions_balance (hs : s.Ordered) (huntimed : s.Untimed) (m : Int)
    (reason : String) {skipped : List Action}
    (hanswer : (s.skipOpenActions now m reason).1 = .ok skipped) :
    (endings (s.skipOpenActions now m reason).2.actions).Perm
      (endings s.actions ++
        Call.claims (.skipOpenActions m reason) (s.skipOpenActions now m reason).1) := by
  have hclaims : Call.claims (.skipOpenActions m reason) (.ok skipped) =
      (s.openIds m).map fun i => ⟨i, Action.Status.skipped.name, some reason, none⟩ := by
    rw [← skipOpenActions_ids hs hanswer, List.map_map]
    rfl
  -- the answer lists the actions by sequence, the table has them by number
  have hids : (s.openIds m).Perm
      ((s.actions.filter fun a => a.messageId == m && a.isOpen).map (·.id)) := by
    have hperm := ((actionsOf_perm s m).filter (·.isOpen)).map (·.id)
    rw [List.filter_filter] at hperm
    refine hperm.trans (List.Perm.of_eq ?_)
    congr 2
    funext a
    exact Bool.and_comm _ _
  rw [hanswer, skipOpenActions_store hs hanswer]
  refine (endings_modify ?_ ?_).trans (List.Perm.append_left _ ?_)
  · exact fun a ha => ActionRow.isEnded_eq_false_of_isOpen (Bool.and_eq_true_iff.1 ha).2
  · exact fun a _ => (ActionRow.isEnded_iff _).2 ⟨.skipped, rfl, rfl⟩
  · rw [hclaims]
    refine List.Perm.trans (List.Perm.of_eq ?_) (hids.symm.map _)
    rw [List.map_map]
    refine List.map_congr_left ?_
    intro a ha
    obtain ⟨hmem, hit⟩ := List.mem_filter.1 ha
    simp only [Function.comp_apply, forced, ActionRow.claim,
      huntimed a hmem (Bool.and_eq_true_iff.1 hit).2]

/-- Any other call ends nothing. -/
theorem endings_startAction (id : Int) :
    endings (s.startAction now id).2.actions = endings s.actions := by
  refine endings_modify_open ?_ ?_
  · intro a ha
    have hpending : a.status = Action.Status.pending.name := by
      simpa using (Bool.and_eq_true_iff.1 ha).2
    exact ActionRow.isEnded_eq_false_of_isOpen ((ActionRow.isOpen_iff a).2 (Or.inl hpending))
  · intro a _
    exact ActionRow.isEnded_eq_false_of_isOpen ((ActionRow.isOpen_iff _).2 (Or.inr rfl))

/-- A new action has not ended. -/
theorem endings_createAction (m : Int) (kind : Action.Kind) (parameters : Action.Parameters) :
    endings (s.createAction now m kind parameters).2.actions = endings s.actions := by
  unfold createAction
  split
  · have hopen : (s.pendingRow now m kind parameters).isEnded = false :=
      ActionRow.isEnded_eq_false_of_isOpen ((ActionRow.isOpen_iff _).2 (Or.inl rfl))
    have hrow : endings [s.pendingRow now m kind parameters] = [] := by
      unfold endings
      rw [List.filter_cons_of_neg (by rw [hopen]; decide)]
      rfl
    change endings (s.actions ++ [s.pendingRow now m kind parameters]) = endings s.actions
    unfold endings at hrow ⊢
    rw [List.filter_append, List.map_append, hrow, List.append_nil]
  · rfl

/-- **One call.** After a call that does not fail to read what it has skipped, the
actions that have ended are those from before and those that the call claims. -/
theorem perform_balance (hs : s.Ordered) (huntimed : s.Untimed) (hreadable : s.Readable)
    (hnow : now.Legible) (c : Call) :
    (endings (s.perform now c).2.actions).Perm
      (endings s.actions ++ c.claims (s.perform now c).1) := by
  have hsame : ∀ {s' : Store} {claims : List Claim}, endings s'.actions = endings s.actions →
      claims = [] → (endings s'.actions).Perm (endings s.actions ++ claims) := by
    intro s' claims hendings hclaims
    rw [hendings, hclaims, List.append_nil]
  cases c with
  | createAction m kind parameters => exact hsame (endings_createAction m kind parameters) rfl
  | startAction id => exact hsame (endings_startAction id) rfl
  | completeAction id st e x => exact completeAction_balance hs id st e x
  | forceAction id st reason => exact forceAction_balance hs huntimed id st reason
  | skipOpenActions m reason =>
      obtain ⟨skipped, hanswer⟩ := skipOpenActions_answers hnow hreadable m reason
      exact skipOpenActions_balance hs huntimed m reason hanswer
  | endConversation id state =>
      refine hsame ?_ rfl
      simp only [perform, endConversation]
      split <;> rfl
  | createMessage c role content =>
      refine hsame ?_ rfl
      simp only [perform, createMessage]
      split <;> rfl
  | recordFailure m =>
      refine hsame ?_ rfl
      simp only [perform, recordFailure]
      split <;> rfl
  | createConversation title browserType userId => exact hsame rfl rfl
  | renameConversation id title => exact hsame rfl rfl
  | resetFailures m => exact hsame rfl rfl
  | getConversation id => exact hsame rfl rfl
  | listConversations userId limit offset => exact hsame rfl rfl
  | getMessage id => exact hsame rfl rfl
  | listMessages c => exact hsame rfl rfl
  | failures m => exact hsame rfl rfl
  | getAction id => exact hsame rfl rfl
  | listActions m => exact hsame rfl rfl
  | staleActions cutoff => exact hsame rfl rfl
  | staleMessages cutoff => exact hsame rfl rfl
  | stats => exact hsame rfl rfl
  | countMessages window => exact hsame rfl rfl
  | countActions window status => exact hsame rfl rfl
  | dailyActivity userId first days => exact hsame rfl rfl

end Store

/-! ## Every schedule -/

namespace Entry

/-- What was claimed when it happened. -/
def claims : Entry → List Claim
  | called _ now c before => c.claims (before.perform now c).1
  | asked _ _ _ => []

/-- How many results were recorded when it happened. -/
def completed : Entry → Nat
  | called _ now c before => c.completed (before.perform now c).1
  | asked _ _ _ => 0

/-- How many actions were skipped when it happened, as far as the answer lists them. -/
def skipped : Entry → Nat
  | called _ now c before => c.skipped (before.perform now c).1
  | asked _ _ _ => 0

/-- How many actions were forced when it happened. -/
def forced : Entry → Nat
  | called _ now c before => c.forced (before.perform now c).1
  | asked _ _ _ => 0

/-- Each claim of an entry is counted once, under its kind. -/
theorem length_claims (e : Entry) : e.claims.length = e.completed + e.skipped + e.forced := by
  cases e with
  | called who now c before => exact c.length_claims _
  | asked who context answer => rfl

end Entry

namespace Past

variable {h : Past}

/-- What was claimed so far. -/
def claims (h : Past) : List Claim := h.log.flatMap Entry.claims

/-- How many results were recorded so far. -/
def completed (h : Past) : Nat := Integer.total (h.log.map Entry.completed)

/-- How many actions the answers so far list as skipped. -/
def skipped (h : Past) : Nat := Integer.total (h.log.map Entry.skipped)

/-- How many actions were forced so far. -/
def forced (h : Past) : Nat := Integer.total (h.log.map Entry.forced)

/-- So is each claim of the past. -/
theorem length_claims (h : Past) : h.claims.length = h.completed + h.skipped + h.forced := by
  unfold claims completed skipped forced
  induction h.log with
  | nil => rfl
  | cons e rest ih =>
      simp only [List.flatMap_cons, List.length_append, List.map_cons, Integer.total, ih,
        e.length_claims]
      omega

/-- The books balance: the claims so far are the actions that have ended, in some order
and with what their rows say. -/
structure Balanced (h : Past) : Prop where
  /-- The tables are numbered. -/
  ordered : h.store.Ordered
  /-- No time is noted for an action that is open. -/
  untimed : h.store.Untimed
  /-- All actions can be read. -/
  readable : h.store.Readable
  /-- The claims are the endings. -/
  balance : h.claims.Perm (Store.endings h.store.actions)

/-- A call at a legible time leaves the books in balance. -/
theorem Balanced.called (hh : h.Balanced) (who : Actor) {now : Instant} (hnow : now.Legible)
    (c : Store.Call) : (h.called who now c).Balanced := by
  have hchange := h.store.perform_change now c
  refine ⟨hchange.ordered hh.ordered, hchange.untimed hh.untimed,
    hchange.readable hnow hh.readable, ?_⟩
  have hclaims : (h.called who now c).claims =
      h.claims ++ c.claims (h.store.perform now c).1 := by
    unfold claims
    rw [called_log, List.flatMap_append, List.flatMap_singleton]
    rfl
  rw [hclaims]
  exact (hh.balance.append_right _).trans
    (Store.perform_balance hh.ordered hh.untimed hh.readable hnow c).symm

/-- A question to the model claims nothing. -/
theorem Balanced.asked (hh : h.Balanced) (who : Actor) (context : Decision.Context)
    (answer : Except Fault Decision) : (h.asked who context answer).Balanced := by
  refine ⟨hh.ordered, hh.untimed, hh.readable, ?_⟩
  have hclaims : (h.asked who context answer).claims = h.claims := by
    unfold claims
    rw [asked_log, List.flatMap_append, List.flatMap_singleton]
    exact List.append_nil _
  rw [hclaims]
  exact hh.balance

/-- A store that calls have made of the empty one, and in which no action has ended. -/
theorem balanced_start {history : List (Instant × Store.Call)}
    (hhistory : ∀ e ∈ history, e.1.Legible)
    (hfresh : ∀ a ∈ (Store.empty.replay history).actions, a.isEnded = false) :
    (Past.start (Store.empty.replay history)).Balanced where
  ordered := Store.replay_ordered Store.empty_ordered history
  untimed := Store.replay_untimed Store.empty_untimed history
  readable := Store.replay_readable hhistory Store.empty_readable
  balance := by
    have hnone : (Store.empty.replay history).actions.filter (·.isEnded) = [] := by
      rw [List.filter_eq_nil_iff]
      intro a ha
      rw [hfresh a ha]
      decide
    change List.Perm [] (Store.endings (Store.empty.replay history).actions)
    unfold Store.endings
    rw [hnone]
    exact List.Perm.refl _

/-- In balanced books every action that has ended is claimed once, and no other. -/
theorem Balanced.claims_filter (hh : h.Balanced) {a : ActionRow} (ha : a ∈ h.store.actions) :
    h.claims.filter (·.action == a.id) = if a.isEnded then [a.claim] else [] := by
  have hperm := hh.balance.filter (·.action == a.id)
  have hfilter : (Store.endings h.store.actions).filter (·.action == a.id) =
      (h.store.actions.filter fun b => b.id == a.id && b.isEnded).map ActionRow.claim := by
    unfold Store.endings
    rw [List.filter_map, List.filter_filter]
    rfl
  -- no two actions share a number, so at most one ending has the number of this one
  rw [hfilter] at hperm
  by_cases hended : a.isEnded = true
  · have hone : h.store.actions.filter (fun b => b.id == a.id && b.isEnded) = [a] := by
      refine hh.ordered.actions.filter_eq_singleton ha ?_ ?_
      · rw [hended, beq_self_eq_true]
        rfl
      · intro b hb
        simpa using (Bool.and_eq_true_iff.1 hb).1
    rw [hone, List.map_singleton] at hperm
    rw [if_pos hended]
    exact List.perm_singleton.1 hperm
  · have hnone : h.store.actions.filter (fun b => b.id == a.id && b.isEnded) = [] := by
      rw [List.filter_eq_nil_iff]
      intro b hb hit
      have hid : b.id = a.id := by simpa using (Bool.and_eq_true_iff.1 hit).1
      rw [hh.ordered.actions.eq_of_id_eq hb ha hid] at hit
      exact hended (Bool.and_eq_true_iff.1 hit).2
    rw [hnone, List.map_nil] at hperm
    rw [if_neg hended]
    exact List.perm_nil.1 hperm

end Past

namespace Scene

/-- **Every end is claimed once.** Take any store that calls at legible times have made
of the empty one and in which no action has ended, and any schedule in which the clock
reads legible times: answers to frames and sweeps, any number of them at once, take
their calls in any order. At any moment the actions that have ended are as many as there
were results recorded, actions listed as skipped and actions forced. Each of them was
claimed by one of these calls and by no other, and its row says what that call wrote; no
call claims an action that has not ended. -/
theorem claimed_once (rules : Rules) (history : List (Instant × Store.Call))
    (hhistory : ∀ e ∈ history, e.1.Legible)
    (hfresh : ∀ a ∈ (Store.empty.replay history).actions, a.isEnded = false)
    (schedule : List Choice) (hschedule : ∀ choice ∈ schedule, choice.Legible) :
    let h := ((start (Store.empty.replay history)).play rules schedule).past
    (h.store.actions.filter (·.isEnded)).length = h.completed + h.skipped + h.forced ∧
      ∀ a ∈ h.store.actions,
        h.claims.filter (·.action == a.id) =
          if a.isEnded then [⟨a.id, a.status, a.errorMessage, a.executionTime⟩] else [] := by
  have hbalanced : ((start (Store.empty.replay history)).play rules schedule).past.Balanced := by
    refine play_past ?_ ?_ (Past.balanced_start hhistory hfresh)
    · rintro h who now c ⟨choice, hchoice, hclock⟩ hh
      exact hh.called who (hschedule choice hchoice now hclock) c
    · intro h who context answer hh
      exact hh.asked who context answer
  refine ⟨?_, fun a ha => hbalanced.claims_filter ha⟩
  rw [← Past.length_claims, hbalanced.balance.length_eq, Store.endings, List.length_map]

end Scene

namespace Sample

/-- An hour later. -/
def hourLater : Instant := ⟨1704070800, 0⟩

/-- A result and a sweep race for the action: both have looked at it when the result is
recorded, and then the sweep tries to force it. -/
def race : List Choice :=
  [.frame .standard 1 result, .sweep .standard hourLater, act 0 moment, act 0 moment,
    act 1 moment, act 1 moment, act 0 moment, act 1 moment]

end Sample

namespace Scene

/-- The result wins the race, and the sweep is told so. -/
theorem claimed_once_race :
    (∀ e ∈ Sample.calls, e.1.Legible) ∧
      (∀ a ∈ (Store.empty.replay Sample.calls).actions, a.isEnded = false) ∧
      (∀ choice ∈ Sample.race, choice.Legible) ∧
      let h := ((start (Store.empty.replay Sample.calls)).play .crowded Sample.race).past
      (h.completed = 1 ∧ h.skipped = 0 ∧ h.forced = 0) ∧
        (h.store.actions.filter (·.isEnded)).length = h.completed + h.skipped + h.forced ∧
        ∀ a ∈ h.store.actions,
          h.claims.filter (·.action == a.id) =
            if a.isEnded then [⟨a.id, a.status, a.errorMessage, a.executionTime⟩] else [] := by
  have hcalls : ∀ e ∈ Sample.calls, e.1.Legible := by decide +kernel
  have hfresh : ∀ a ∈ (Store.empty.replay Sample.calls).actions, a.isEnded = false := by
    decide +kernel
  have hrace : ∀ choice ∈ Sample.race, choice.Legible := by decide +kernel
  refine ⟨hcalls, hfresh, hrace, by decide +kernel, ?_⟩
  exact claimed_once .crowded Sample.calls hcalls hfresh Sample.race hrace

end Scene

end ControlPlane
