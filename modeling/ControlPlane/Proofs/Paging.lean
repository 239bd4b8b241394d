/-
Page after page.

The conversations of a user are answered in pages, the newest first. Somebody who wants all of them
asks for one page after the other, until a page is not full. In between others add conversations and
rename them.

Renaming leaves a conversation in its place, and a new one goes to the front (`Change.matching`), so
that the place of the others, counted from the front, can only grow. A conversation that no page has
held so far is therefore never before the place at which the next page begins, and the last page
reaches to the end (`Fetched.appears`). If nothing is added the pages follow one another
without a gap (`Fetched.flatten`).
-/
import ControlPlane.Proofs.Census
import ControlPlane.Proofs.Condition
import ControlPlane.Proofs.Marking

set_option autoImplicit false

namespace ControlPlane

namespace Store

variable {s s' : Store} {user : Option Int}

/-! ## Places -/

/-- The numbers of the conversations that pass a filter by user, the oldest first. -/
def matching (s : Store) (user : Option Int) : List Int :=
  (s.conversations.filter fun r => decide (r.Passes user)).map (·.id)

/-- A number is among those that pass if its conversation does. -/
theorem mem_matching {i : Int} :
    i ∈ s.matching user ↔ ∃ r ∈ s.conversations, r.Passes user ∧ r.id = i := by
  simp only [matching, List.mem_map, List.mem_filter, decide_eq_true_eq, and_assoc]

/-- The call adds a conversation. -/
def Call.creates : Call → Bool
  | .createConversation _ _ _ => true
  | _ => false

/-- **New conversations go to the front**, and the others stay where they are. -/
theorem Change.matching {now : Instant} {call : Call} (h : s.Change now call s')
    (user : Option Int) :
    ∃ added, s'.matching user = s.matching user ++ added ∧ (call.creates = false → added = []) := by
  cases h with
  | conversations _ f hf =>
      refine ⟨[], ?_, fun _ => rfl⟩
      have hpasses : ∀ r, decide ((f r).Passes user) = decide (r.Passes user) := by
        intro r
        rw [decide_eq_decide, ConversationRow.Passes, (hf r).becomes.userId]
        rfl
      have hid : ∀ r, (f r).id = r.id := fun r => (hf r).becomes.id
      unfold Store.matching
      rw [List.append_nil, List.filter_map, List.map_map]
      simp only [Function.comp_def, hpasses, hid]
  | newConversation title browserType owner =>
      refine ⟨(([s.runningRow now title browserType owner].filter fun r =>
        decide (r.Passes user)).map (·.id)), ?_, fun hcreates => by cases hcreates⟩
      unfold Store.matching
      rw [List.filter_append, List.map_append]
  | nothing | actions | messages | newMessage | newAction =>
      exact ⟨[], (List.append_nil _).symm, fun _ => rfl⟩

/-- Calls take no conversation away, and put new ones at the end; without a creation there are none.
-/
theorem replay_matching (s : Store) (gap : List (Instant × Call)) (user : Option Int) :
    ∃ added, (s.replay gap).matching user = s.matching user ++ added ∧
      ((∀ e ∈ gap, e.2.creates = false) → added = []) := by
  induction gap generalizing s with
  | nil => exact ⟨[], (List.append_nil _).symm, fun _ => rfl⟩
  | cons e rest ih =>
      obtain ⟨first, hfirst, hnone⟩ := (s.perform_change e.1 e.2).matching user
      obtain ⟨more, hmore, hnone'⟩ := ih (s.perform e.1 e.2).2
      refine ⟨first ++ more, ?_, ?_⟩
      · rw [replay, hmore, hfirst, List.append_assoc]
      · intro hgap
        rw [hnone (hgap e List.mem_cons_self),
          hnone' fun e' he' => hgap e' (List.mem_cons_of_mem e he'), List.append_nil]

/-! ## One page -/

/-- A page begins after its offset and has at most as many items as its limit. -/
theorem page_natCast {α : Type} (limit offset : Nat) (items : List α) :
    page limit offset items = (items.drop offset).take limit := by
  unfold page
  simp only
  rw [if_neg (Int.not_lt.2 (Int.natCast_nonneg limit)), Int.toNat_natCast, Int.toNat_natCast]

/-- Conversations that are read have the numbers of their rows. -/
theorem ids_of_forall₂ {rows : List ConversationRow} {values : List Conversation}
    (h : List.Forall₂ (fun r v => r.read = .ok v) rows values) :
    values.map (·.id) = rows.map (·.id) := by
  induction h with
  | nil => rfl
  | cons hread _ ih => rw [List.map_cons, List.map_cons, ih, (read_conversation hread).1]

/-- A page holds the conversations at some places, counted from the front. -/
theorem listConversations_page {size offset : Nat} {values : List Conversation}
    (h : s.listConversations user size offset = .ok values) (hsize : size < 9223372036854775808)
    (hoffset : offset < 9223372036854775808) :
    values.map (·.id) = ((s.matching user).reverse.drop offset).take size ∧
      ∀ v ∈ values, user = none ∨ v.userId = user := by
  have hfilter : (fun r : ConversationRow => user.isNone || r.userId == user) =
      fun r => decide (r.Passes user) := funext fun r => filter_eq user r.userId
  unfold listConversations at h
  simp only [hfilter, WordRange.wrapSigned64_natCast hsize, WordRange.wrapSigned64_natCast hoffset,
    page_natCast] at h
  have hrows := forall₂_of_readAll (answer_ok h)
  constructor
  · rw [ids_of_forall₂ hrows, List.map_take, List.map_drop, List.map_reverse]
    rfl
  · intro v hv
    obtain ⟨r, hr, hread⟩ := exists_of_forall₂ hrows hv
    have hpasses := (List.mem_filter.1 (List.mem_reverse.1
      (List.mem_of_mem_drop (List.mem_of_mem_take hr)))).2
    rw [read_userId hread]
    exact of_decide_eq_true hpasses

/-- The numbers on a page descend, and belong to conversations that pass the filter. -/
theorem Ordered.listConversations_descends (hs : s.Ordered) {size offset : Nat}
    {values : List Conversation} (h : s.listConversations user size offset = .ok values)
    (hsize : size < 9223372036854775808) (hoffset : offset < 9223372036854775808) :
    values.Pairwise (fun v v' => v'.id < v.id) ∧ ∀ v ∈ values, v.id ∈ s.matching user := by
  obtain ⟨hids, -⟩ := listConversations_page h hsize hoffset
  have hsublist : (values.map (·.id)).Sublist (s.matching user).reverse := by
    rw [hids]
    exact (List.take_sublist _ _).trans (List.drop_sublist _ _)
  constructor
  · have hascending : (s.matching user).Pairwise fun i j => i < j :=
      List.pairwise_map.2 (hs.conversations.ascending.sublist List.filter_sublist)
    exact List.pairwise_map.1 ((List.pairwise_reverse.2 hascending).sublist hsublist)
  · intro v hv
    exact List.mem_reverse.1 (hsublist.subset (List.mem_map_of_mem hv))

/-! ## A run -/

/-- A run: pages are fetched one after the other, each at the place where the one before has ended,
until a page is not full. In the gaps between, others call the store. -/
inductive Fetched (user : Option Int) (size : Nat) :
    Store → Nat → List (List (Instant × Call)) → List (List Conversation) → Prop
  /-- The last page is not full. -/
  | last {s : Store} {offset : Nat} {values : List Conversation}
      (hpage : s.listConversations user size offset = .ok values) (hshort : values.length < size) :
      Fetched user size s offset [] [values]
  /-- A full page is followed by others. -/
  | more {s : Store} {offset : Nat} {values : List Conversation} {gap : List (Instant × Call)}
      {gaps : List (List (Instant × Call))} {pages : List (List Conversation)}
      (hpage : s.listConversations user size offset = .ok values) (hfull : values.length = size)
      (hrest : Fetched user size (s.replay gap) (offset + size) gaps pages) :
      Fetched user size s offset (gap :: gaps) (values :: pages)

/-- What is after some others, counted from the front, is on the page if the page reaches there. -/
theorem mem_page_of_place {i : Int} {older newer : List Int} {offset size : Nat}
    (hlow : offset ≤ newer.length) (hhigh : newer.length < offset + size) :
    i ∈ (((older ++ i :: newer).reverse.drop offset).take size) := by
  refine List.mem_of_getElem? (i := newer.length - offset) ?_
  rw [List.getElem?_take_of_lt (by omega), List.getElem?_drop, Nat.add_sub_cancel' hlow,
    List.reverse_append, List.reverse_cons, List.append_assoc,
    List.getElem?_append_right (Nat.le_of_eq List.length_reverse),
    List.length_reverse, Nat.sub_self]
  rfl

variable {size offset : Nat} {gaps : List (List (Instant × Call))}
  {pages : List (List Conversation)}

/-- **Nothing is passed over.** A conversation that is not before the place at which a run begins
appears on one of its pages. -/
theorem Fetched.appears (h : Fetched user size s offset gaps pages)
    (hsize : size < 9223372036854775808)
    (hoffsets : offset + gaps.length * size < 9223372036854775808) {i : Int}
    {older newer : List Int}
    (hplace : s.matching user = older ++ i :: newer) (hlow : offset ≤ newer.length) :
    ∃ values ∈ pages, i ∈ values.map (·.id) := by
  -- on the run: new conversations only add to what is before the place
  induction h generalizing newer with
  | @last s offset values hpage hshort =>
      obtain ⟨hids, -⟩ := listConversations_page hpage hsize (by omega)
      refine ⟨values, List.mem_singleton_self _, ?_⟩
      -- a page that is not full reaches to the oldest conversation
      have hend : newer.length < offset + size := by
        have hlength := congrArg List.length hids
        rw [hplace] at hlength
        simp only [List.length_map, List.length_take, List.length_drop, List.length_reverse,
          List.length_append, List.length_cons] at hlength
        omega
      rw [hids, hplace]
      exact mem_page_of_place hlow hend
  | @more s offset values gap gaps pages hpage hfull hrest ih =>
      rw [List.length_cons, Nat.succ_mul] at hoffsets
      by_cases hend : newer.length < offset + size
      · obtain ⟨hids, -⟩ := listConversations_page hpage hsize (by omega)
        refine ⟨values, List.mem_cons_self, ?_⟩
        rw [hids, hplace]
        exact mem_page_of_place hlow hend
      · -- it is at the next page or after it, also when others have moved it back
        obtain ⟨added, hadded, -⟩ := s.replay_matching gap user
        have hnext : (s.replay gap).matching user = older ++ i :: (newer ++ added) := by
          rw [hadded, hplace, List.append_assoc, List.cons_append]
        obtain ⟨values', hvalues', hi⟩ :=
          ih (by omega) hnext (by rw [List.length_append]; omega)
        exact ⟨values', List.mem_cons_of_mem _ hvalues', hi⟩

/-- If nothing is added, the pages of a run follow one another without a gap. -/
theorem Fetched.flatten (h : Fetched user size s offset gaps pages)
    (hsize : size < 9223372036854775808)
    (hoffsets : offset + gaps.length * size < 9223372036854775808)
    (hgaps : ∀ gap ∈ gaps, ∀ e ∈ gap, e.2.creates = false) :
    pages.flatten.map (·.id) = (s.matching user).reverse.drop offset := by
  -- on the run: what follows a page begins where the page has ended
  induction h with
  | @last s offset values hpage hshort =>
      obtain ⟨hids, -⟩ := listConversations_page hpage hsize (by omega)
      have hlength : ((s.matching user).reverse.drop offset).length ≤ size := by
        have hlength := congrArg List.length hids
        rw [List.length_map, List.length_take] at hlength
        omega
      rw [List.flatten_cons, List.flatten_nil, List.append_nil, hids,
        List.take_of_length_le hlength]
  | @more s offset values gap gaps pages hpage hfull hrest ih =>
      rw [List.length_cons, Nat.succ_mul] at hoffsets
      obtain ⟨hids, -⟩ := listConversations_page hpage hsize (by omega)
      obtain ⟨added, hadded, hnone⟩ := s.replay_matching gap user
      rw [hnone (hgaps gap List.mem_cons_self), List.append_nil] at hadded
      rw [List.flatten_cons, List.map_append, hids,
        ih (by omega) fun g hg => hgaps g (List.mem_cons_of_mem _ hg), hadded, ← List.drop_drop]
      exact List.take_append_drop size _

/-- Every page of a run descends, and holds conversations that pass the filter. -/
theorem Fetched.page (h : Fetched user size s offset gaps pages) (hs : s.Ordered)
    (hsize : size < 9223372036854775808)
    (hoffsets : offset + gaps.length * size < 9223372036854775808) :
    ∀ values ∈ pages, values.Pairwise (fun v v' => v'.id < v.id) ∧
      ∀ v ∈ values, (user = none ∨ v.userId = user) ∧
        v.id ∈ (s.replay gaps.flatten).matching user := by
  induction h with
  | @last s offset values hpage hshort =>
      intro values' hvalues'
      rw [List.mem_singleton.1 hvalues']
      obtain ⟨-, hpasses⟩ := listConversations_page hpage hsize (by omega)
      obtain ⟨hdescends, hmem⟩ := hs.listConversations_descends hpage hsize (by omega)
      exact ⟨hdescends, fun v hv => ⟨hpasses v hv, hmem v hv⟩⟩
  | @more s offset values gap gaps pages hpage hfull hrest ih =>
      rw [List.length_cons, Nat.succ_mul] at hoffsets
      intro values' hvalues'
      rcases List.mem_cons.1 hvalues' with rfl | hvalues'
      · obtain ⟨-, hpasses⟩ := listConversations_page hpage hsize (by omega)
        obtain ⟨hdescends, hmem⟩ := hs.listConversations_descends hpage hsize (by omega)
        obtain ⟨added, hadded, -⟩ := s.replay_matching (gap :: gaps).flatten user
        refine ⟨hdescends, fun v hv => ⟨hpasses v hv, ?_⟩⟩
        rw [hadded]
        exact List.mem_append_left _ (hmem v hv)
      · rw [List.flatten_cons, replay_append]
        exact ih (replay_ordered hs gap) (by omega) values' hvalues'

/-- **Paging loses nothing.** In every store that calls have made, at whatever times, and for every
run that fetches page after page until one is not full, with any calls in between: a conversation
that passes the filter and was there at the first fetch appears on a page; the pages descend and
hold nothing but such conversations; and if nothing is added meanwhile, it appears once. If
all calls are made at legible times, every fetch is answered. -/
theorem replay_paging (history : List (Instant × Call)) (user : Option Int) {size : Nat}
    (hsize : size < 9223372036854775808) :
    let s := Store.empty.replay history
    (∀ calls, (∀ e ∈ history ++ calls, e.1.Legible) →
      ∀ offset, ∃ values, (s.replay calls).listConversations user size offset = .ok values) ∧
    ∀ gaps pages, Fetched user size s 0 gaps pages → gaps.length * size < 9223372036854775808 →
      (∀ r ∈ s.conversations, r.Passes user → ∃ values ∈ pages, ∃ v ∈ values, v.id = r.id) ∧
      (∀ values ∈ pages, values.Pairwise (fun v v' => v'.id < v.id) ∧
        ∀ v ∈ values, (user = none ∨ v.userId = user) ∧
          ∃ r ∈ (s.replay gaps.flatten).conversations, r.Passes user ∧ r.id = v.id) ∧
      ((∀ gap ∈ gaps, ∀ e ∈ gap, e.2.creates = false) →
        ∀ r ∈ s.conversations, r.Passes user → (pages.flatten.map (·.id)).count r.id = 1) := by
  intro s
  have hs : s.Ordered := replay_ordered empty_ordered history
  refine ⟨fun calls hlegible offset => ?_, fun gaps pages hrun hoffsets => ⟨?_, ?_, ?_⟩⟩
  · rw [← replay_append]
    exact listConversations_ok
      (fun r hr => (replay_conversations_readable hlegible r hr).read) user size offset
  · intro r hr hpasses
    obtain ⟨older, newer, hplace⟩ := List.append_of_mem (mem_matching.2 ⟨r, hr, hpasses, rfl⟩)
    obtain ⟨values, hvalues, hid⟩ :=
      hrun.appears hsize (by omega) hplace (Nat.zero_le _)
    exact ⟨values, hvalues, List.mem_map.1 hid⟩
  · intro values hvalues
    obtain ⟨hdescends, hmem⟩ := hrun.page hs hsize (by omega) values hvalues
    exact ⟨hdescends, fun v hv => ⟨(hmem v hv).1, mem_matching.1 (hmem v hv).2⟩⟩
  · intro hgaps r hr hpasses
    have hnodup : (s.matching user).reverse.Nodup :=
      List.nodup_reverse.2 (hs.conversations.nodup.sublist (List.filter_sublist.map _))
    rw [hrun.flatten hsize (by omega) hgaps, List.drop_zero]
    exact List.count_eq_one_of_mem hnodup
      (List.mem_reverse.2 (mem_matching.2 ⟨r, hr, hpasses, rfl⟩))

end Store

namespace Sample

/-- Two conversations of one user, and one of nobody between them. -/
def shelf : List (Instant × Store.Call) :=
  [(moment, .createConversation "First" "chrome" (some 7)),
    (moment, .createConversation "Nobody's" "chrome" none),
    (moment, .createConversation "Second" "chrome" (some 7))]

/-- While the pages are fetched, a conversation is added and another one is renamed. -/
def busy : List (List (Instant × Store.Call)) :=
  [[(moment, .createConversation "Third" "chrome" (some 7))],
    [(moment, .renameConversation 1 "Last")],
    []]

/-- While the pages are fetched, nothing is added. -/
def quiet : List (List (Instant × Store.Call)) := [[(moment, .renameConversation 1 "Last")], []]

end Sample

namespace Store

/-- With a conversation added in front, the one before is answered twice, and none is missing. -/
theorem shelf_paging :
    let s := Store.empty.replay Sample.shelf
    (∃ values, (s.replay Sample.busy.flatten).listConversations (some 7) 1 0 = .ok values) ∧
    (∃ pages, Fetched (some 7) 1 s 0 Sample.busy pages ∧
      pages.map (·.map (·.id)) = [[3], [3], [1], []] ∧
      ∀ r ∈ s.conversations, r.Passes (some 7) → ∃ values ∈ pages, ∃ v ∈ values, v.id = r.id) ∧
    ∃ pages, Fetched (some 7) 1 s 0 Sample.quiet pages ∧
      pages.map (·.map (·.id)) = [[3], [1], []] ∧
      ∀ r ∈ s.conversations, r.Passes (some 7) → (pages.flatten.map (·.id)).count r.id = 1 := by
  obtain ⟨hanswers, hruns⟩ :=
    replay_paging Sample.shelf (some 7) (show 1 < 9223372036854775808 by decide)
  have hbusy : Fetched (some 7) 1 (Store.empty.replay Sample.shelf) 0 Sample.busy _ :=
    .more rfl rfl (.more rfl rfl (.more rfl rfl (.last rfl (by decide))))
  have hquiet : Fetched (some 7) 1 (Store.empty.replay Sample.shelf) 0 Sample.quiet _ :=
    .more rfl rfl (.more rfl rfl (.last rfl (by decide)))
  refine ⟨hanswers Sample.busy.flatten (by decide +kernel) 0, ⟨_, hbusy, rfl, ?_⟩,
    ⟨_, hquiet, rfl, ?_⟩⟩
  · exact (hruns _ _ hbusy (by decide)).1
  · exact (hruns _ _ hquiet (by decide)).2.2 (by decide)

end Store

end ControlPlane
