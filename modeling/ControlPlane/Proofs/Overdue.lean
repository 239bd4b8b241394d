/-
The two passes of a sweep.

A message is overdue if it was created before the message cutoff and has something to do: an
open action, or a running conversation in which it is the newest (`Store.overdue`). The first
pass skips the open actions of overdue messages and stops their running conversations. The
second lets fail what is open still and was handed out, or else created, before the action
cutoff.

Both go through lists that were read before, while the store changes under them. The first pass
is carried by the messages that are done: the rows are marked by them, and the report is theirs
(`Store.Expiring`, `follow_expireMessages`). The second is carried in the same way by actions
(`Store.TimingOut`, `follow_timeOutActions`). All of it is said of the store as it was before
the sweep.
-/
import ControlPlane.Proofs.Alone
import ControlPlane.Proofs.Chronology
import ControlPlane.Proofs.Condition
import ControlPlane.Proofs.Marking

set_option autoImplicit false

namespace ControlPlane

namespace ActionRow

/-- The clock of a readable action starts at a time that can be read. -/
theorem Readable.clockStart {a : ActionRow} (h : a.Readable) : Stamp.IsStored a.clockStart := by
  unfold ActionRow.clockStart
  cases hstarted : a.startedAt with
  | none => exact h.createdAt
  | some text => exact h.startedAt text hstarted

/-- The kind that was read from a readable action is the one that is named. -/
theorem Readable.read_kind {a : ActionRow} (h : a.Readable) {v : Action} (hv : a.read = .ok v) :
    v.kind.name = a.kind := by
  obtain ⟨kind, hkind⟩ := h.kind
  obtain ⟨read, _, _, _, _, hname, _, _, rfl⟩ := Store.read_action_columns hv
  rw [hkind, Action.Kind.ofName?_name] at hname
  rw [hkind, Option.some.inj hname]

end ActionRow

namespace Store

variable {s s' : Store} {now : Instant}

/-! ## What is overdue -/

/-- Whether a message was created before a time and still has something to do: an open action,
or a running conversation in which it is the newest. -/
def isOverdue (s : Store) (cutoff : Instant) (m : MessageRow) : Bool :=
  Stamp.isBefore m.createdAt cutoff &&
    (s.hasOpen m.id || (s.isNewest m && s.isRunning m.conversationId))

/-- The messages whose time is up. -/
def overdue (s : Store) (cutoff : Instant) : List MessageRow :=
  s.messages.filter (s.isOverdue cutoff)

/-- Whether an action is open and serves one of some messages. -/
def skippedWith (messages : List MessageRow) (a : ActionRow) : Bool :=
  (messages.any fun m => m.id == a.messageId) && a.isOpen

/-- Whether a conversation is running and owns one of some messages. -/
def stoppedWith (messages : List MessageRow) (c : ConversationRow) : Bool :=
  (messages.any fun m => m.conversationId == c.id) && c.isRunning

/-- Whether something ends when the turn of an overdue message comes: it has an open action, or
it is the first of its conversation that is overdue. -/
def endsSomething (s : Store) (cutoff : Instant) (m : MessageRow) : Bool :=
  s.hasOpen m.id ||
    (s.overdue cutoff).all fun x => x.conversationId != m.conversationId || decide (m.id ≤ x.id)

/-- What clients are told about an overdue message. -/
def overdueNotice (m : MessageRow) : Sweep.Notice :=
  (m.conversationId, "message " ++ Integer.text m.id ++ " timed out; the conversation was stopped")

/-- What clients are told about an action that took too long; its message has to be there. -/
def overtimeNotices (s : Store) (a : ActionRow) : List Sweep.Notice :=
  (s.message? a.messageId).toList.map fun m =>
    (m.conversationId,
      "action " ++ Integer.text a.id ++ " (" ++ a.kind ++ ") timed out without a result")

/-- The report of a sweep after some overdue messages. -/
def expiryReport (s : Store) (cutoff : Instant) (messages : List MessageRow) : Sweep.Report where
  timedOutActions := 0
  skippedActions := s.actions.countP (skippedWith messages)
  expiredMessages := (messages.filter (s.endsSomething cutoff)).length
  erroredConversations := (s.conversations.filter (stoppedWith messages)).map (·.id)
  notices := (messages.filter (s.endsSomething cutoff)).map overdueNotice

/-! ## Texts and times -/

/-- Up to the year 9999 a legible text is compared as its time is. -/
theorem lt_storedText_iff {raw : String} {cutoff : Instant} (hraw : Stamp.IsStored raw)
    (hcutoff : cutoff.Possible) (hyear : cutoff.date.year ≤ 9999) :
    decide (raw < cutoff.storedText) = Stamp.isBefore raw cutoff := by
  obtain ⟨t, ht, rfl⟩ := hraw
  rw [Stamp.isBefore_storedText ht, Bool.eq_iff_iff, decide_eq_true_eq]
  exact Instant.storedText_lt_iff_of_year_le ht hcutoff hyear

/-- The overdue messages are answered. -/
theorem Legible.staleMessages (hs : s.Legible) {cutoff : Instant} (hcutoff : cutoff.Possible)
    (hyear : cutoff.date.year ≤ 9999) :
    ∃ values, s.staleMessages cutoff = .ok values ∧
      List.Forall₂ (fun r v => r.read s.messageTimeColumn = .ok v) (s.overdue cutoff) values := by
  have hrows : s.messages.filter (s.isStale cutoff) = s.overdue cutoff := by
    refine List.filter_congr fun r hr => ?_
    rw [isStale, isOverdue, lt_storedText_iff (hs.messages r hr).createdAt hcutoff hyear]
  have hread : ∀ r ∈ s.overdue cutoff, ∃ v, r.read s.messageTimeColumn = .ok v :=
    fun r hr => (hs.messages r (List.mem_of_mem_filter hr)).read s.messageTimeColumn
  obtain ⟨values, hvalues⟩ := readAll_ok hread
  refine ⟨values, ?_, forall₂_of_readAll hvalues⟩
  rw [Store.staleMessages, hrows, hvalues, answer]

/-- The open actions whose clock started too early are answered. -/
theorem Legible.staleActions (hs : s.Legible) {cutoff : Instant} (hcutoff : cutoff.Possible)
    (hyear : cutoff.date.year ≤ 9999) :
    ∃ values, s.staleActions cutoff = .ok values ∧
      List.Forall₂ (fun a v => a.read = .ok v)
        (s.actions.filter fun a => a.isOpen && Stamp.isBefore a.clockStart cutoff) values := by
  have hrows : (s.actions.filter fun a => a.isOpen && decide (a.clockStart < cutoff.storedText)) =
      s.actions.filter fun a => a.isOpen && Stamp.isBefore a.clockStart cutoff := by
    refine List.filter_congr fun a ha => ?_
    rw [lt_storedText_iff (hs.actions a ha).clockStart hcutoff hyear]
  have hread : ∀ a ∈ s.actions.filter fun a => a.isOpen && Stamp.isBefore a.clockStart cutoff,
      ∃ v, a.read = .ok v := fun a ha => (hs.actions a (List.mem_of_mem_filter ha)).read
  obtain ⟨values, hvalues⟩ := readAll_ok hread
  refine ⟨values, ?_, forall₂_of_readAll hvalues⟩
  rw [Store.staleActions, hrows, hvalues, answer]

/-! ## Groups of messages -/

/-- One more message adds its own open actions. -/
theorem skippedWith_append (messages : List MessageRow) (m : MessageRow) (a : ActionRow) :
    skippedWith (messages ++ [m]) a =
      (skippedWith messages a || (a.messageId == m.id && a.isOpen)) := by
  rw [skippedWith, skippedWith, List.any_append, List.any_cons, List.any_nil, Bool.or_false,
    Bool.and_or_distrib_right, Bool.beq_comm (a := m.id)]

/-- One more message adds its own conversation, if that is running. -/
theorem stoppedWith_append (messages : List MessageRow) (m : MessageRow) (c : ConversationRow) :
    stoppedWith (messages ++ [m]) c =
      (stoppedWith messages c || (c.id == m.conversationId && c.isRunning)) := by
  rw [stoppedWith, stoppedWith, List.any_append, List.any_cons, List.any_nil, Bool.or_false,
    Bool.and_or_distrib_right, Bool.beq_comm (a := m.conversationId)]

/-- The action is what it was, but for its end from outside. -/
def EndedBy (status : Action.Status) (reason : String) (a a' : ActionRow) : Prop :=
  ∃ t : Instant, a' = forced t status reason a

/-- An action that has ended is not open any more. -/
theorem EndedBy.closed {status : Action.Status} {reason : String}
    (hstatus : status.isTerminal = true) (p : ActionRow → Bool) (a a' : ActionRow)
    (h : EndedBy status reason a a') : (p a' && a'.isOpen) = false := by
  obtain ⟨t, rfl⟩ := h
  rw [forced_isOpen status hstatus, Bool.and_false]

/-- The conversation is what it was, but for its end with an error. -/
def Stopped (c c' : ConversationRow) : Prop :=
  ∃ t : Instant, c' = { c with state := Conversation.State.error.name, updatedAt := t.storedText }

/-- A conversation that was stopped is not running any more. -/
theorem Stopped.closed (p : ConversationRow → Bool) (c c' : ConversationRow)
    (h : Stopped c c') : (p c' && c'.isRunning) = false := by
  obtain ⟨t, rfl⟩ := h
  have hstopped : ConversationRow.isRunning
      { c with state := Conversation.State.error.name, updatedAt := t.storedText } = false := rfl
  rw [hstopped, Bool.and_false]

/-! ## The first pass -/

/-- As many actions are answered as were open. -/
theorem skipOpenActions_length (hs : s.Ordered) {m : Int} {reason : String}
    {skipped : List Action} (h : (s.skipOpenActions now m reason).1 = .ok skipped) :
    skipped.length = s.actions.countP fun a => a.messageId == m && a.isOpen := by
  have hperm := (actionsOf_perm s m).filter (·.isOpen)
  have hsame : (s.actions.filter fun a => a.isOpen && a.messageId == m) =
      s.actions.filter fun a => a.messageId == m && a.isOpen :=
    List.filter_congr fun a _ => Bool.and_comm _ _
  calc skipped.length = (skipped.map (·.id)).length := (List.length_map _).symm
    _ = (s.openIds m).length := by rw [skipOpenActions_ids hs h]
    _ = ((s.actions.filter (·.messageId == m)).filter (·.isOpen)).length := by
        rw [openIds, List.length_map, hperm.length_eq]
    _ = s.actions.countP fun a => a.messageId == m && a.isOpen := by
        rw [List.filter_filter, hsame, List.countP_eq_length_filter]

/-- A store on the way through the overdue messages, when some of them are done. -/
structure Expiring (s : Store) (cutoff : Instant) (done : List MessageRow) (s' : Store)
    (report : Sweep.Report) : Prop where
  /-- Their open actions are skipped. -/
  actions : Marked (skippedWith done) (EndedBy .skipped Sweep.messageReason) s.actions s'.actions
  /-- Their running conversations are stopped. -/
  conversations : Marked (stoppedWith done) Stopped s.conversations s'.conversations
  /-- The rest is as it was. -/
  kept : s' = { s with actions := s'.actions, conversations := s'.conversations }
  /-- The report is about them. -/
  report : report = s.expiryReport cutoff done

/-- At the start nothing is done. -/
theorem Expiring.start (s : Store) (cutoff : Instant) : s.Expiring cutoff [] s .empty where
  actions := .none fun _ _ => rfl
  conversations := .none fun _ _ => rfl
  kept := rfl
  report := by
    have hactions : s.actions.countP (skippedWith []) = 0 :=
      List.countP_eq_zero.2 fun _ _ h => Bool.noConfusion h
    have hconversations : s.conversations.filter (stoppedWith []) = [] :=
      List.filter_eq_nil_iff.2 fun _ _ h => Bool.noConfusion h
    rw [expiryReport, hactions, hconversations]
    rfl

section Turn

variable {cutoff : Instant} {done rest : List MessageRow} {m : MessageRow}

/-- Overdue messages stand in the order of their numbers. -/
theorem Ordered.overdue_split (hs : s.Ordered) (hsplit : s.overdue cutoff = done ++ m :: rest) :
    (∀ x ∈ done, x.id < m.id) ∧ ∀ x ∈ rest, m.id < x.id := by
  have hascending : (s.overdue cutoff).Pairwise fun a b => a.id < b.id :=
    hs.messages.ascending.sublist List.filter_sublist
  rw [hsplit, List.pairwise_append] at hascending
  obtain ⟨-, hrest, hcross⟩ := hascending
  exact ⟨fun x hx => hcross x hx m List.mem_cons_self, (List.pairwise_cons.1 hrest).1⟩

/-- At its turn an overdue message has the open actions that it had before the sweep. -/
theorem Ordered.fresh_actions (hs : s.Ordered)
    (hsplit : s.overdue cutoff = done ++ m :: rest) (a : ActionRow) :
    (!skippedWith done a && (a.messageId == m.id && a.isOpen)) =
      (a.messageId == m.id && a.isOpen) := by
  cases hm : a.messageId == m.id with
  | false => rw [Bool.false_and, Bool.and_false]
  | true =>
      have hnone : (done.any fun x => x.id == a.messageId) = false := by
        refine List.any_eq_false.2 fun x hx hid => ?_
        have hlt := (hs.overdue_split hsplit).1 x hx
        have hmid : a.messageId = m.id := beq_iff_eq.1 hm
        have hxid : x.id = a.messageId := beq_iff_eq.1 hid
        omega
      rw [skippedWith, hnone, Bool.false_and, Bool.not_false, Bool.true_and]

/-- Its conversation is stopped at its turn if it was running before the sweep and no earlier
message of it was overdue. -/
theorem Ordered.fresh_conversation (hs : s.Ordered) :
    (s.conversations.any fun c =>
        !stoppedWith done c && (c.id == m.conversationId && c.isRunning)) =
      (s.isRunning m.conversationId &&
        !done.any fun x => x.conversationId == m.conversationId) := by
  rw [Bool.eq_iff_iff, List.any_eq_true]
  simp only [Bool.and_eq_true, Bool.not_eq_true', beq_iff_eq]
  constructor
  · rintro ⟨c, hc, hfresh, hid, hrunning⟩
    have hfind : s.conversation? m.conversationId = some c := hs.conversations.find?_eq hc hid
    refine ⟨by rw [isRunning, hfind]; exact hrunning, ?_⟩
    rw [stoppedWith, hrunning, Bool.and_true, hid] at hfresh
    exact hfresh
  · rintro ⟨hrunning, hfresh⟩
    rw [isRunning] at hrunning
    cases hfind : s.conversation? m.conversationId with
    | none =>
        rw [hfind] at hrunning
        cases hrunning
    | some c =>
        rw [hfind] at hrunning
        have hid : c.id = m.conversationId := by simpa using List.find?_some hfind
        refine ⟨c, List.mem_of_find?_eq_some hfind, ?_, hid, hrunning⟩
        rw [stoppedWith, hid, hfresh, Bool.false_and]

/-- Whether anything ends at its turn can be told from the store before the sweep. -/
theorem Ordered.endsSomething_eq (hs : s.Ordered)
    (hsplit : s.overdue cutoff = done ++ m :: rest) :
    s.endsSomething cutoff m =
      (s.hasOpen m.id || (s.isRunning m.conversationId &&
        !done.any fun x => x.conversationId == m.conversationId)) := by
  obtain ⟨hbefore, hafter⟩ := hs.overdue_split hsplit
  have hmem : m ∈ s.overdue cutoff := by
    rw [hsplit]
    exact List.mem_append_right _ List.mem_cons_self
  obtain ⟨-, hstale⟩ := Bool.and_eq_true_iff.1 (List.mem_filter.1 hmem).2
  rw [endsSomething]
  cases hopen : s.hasOpen m.id with
  | true => rfl
  | false =>
      -- without an open action it is overdue for its conversation alone, which is running
      rw [hopen, Bool.false_or, Bool.and_eq_true] at hstale
      rw [hstale.2, Bool.true_and, Bool.false_or, Bool.false_or, Bool.eq_iff_iff,
        List.all_eq_true, Bool.not_eq_true', List.any_eq_false, hsplit]
      simp only [Bool.or_eq_true, bne_iff_ne, ne_eq, decide_eq_true_eq, beq_iff_eq]
      constructor
      · intro hfirst x hx hconversation
        have hlt := hbefore x hx
        rcases hfirst x (List.mem_append_left _ hx) with hne | hle
        · exact hne hconversation
        · omega
      · intro hnone x hx
        rcases List.mem_append.1 hx with hdone | hrest
        · exact Or.inl (hnone x hdone)
        · rcases List.mem_cons.1 hrest with rfl | hlater
          · exact Or.inr (Int.le_refl _)
          · have := hafter x hlater
            exact Or.inr (by omega)

/-- The conversations that are stopped after one more message. -/
theorem Ordered.stopped_append (hs : s.Ordered) {ended : Bool}
    (hended : ended = s.conversations.any fun c =>
      !stoppedWith done c && (c.id == m.conversationId && c.isRunning)) :
    (s.conversations.filter (stoppedWith (done ++ [m]))).map (·.id) =
      if ended then
        Sweep.insertId m.conversationId ((s.conversations.filter (stoppedWith done)).map (·.id))
      else (s.conversations.filter (stoppedWith done)).map (·.id) := by
  have hsplit : s.conversations.filter (stoppedWith (done ++ [m])) =
      s.conversations.filter fun c =>
        stoppedWith done c || (c.id == m.conversationId && c.isRunning) :=
    List.filter_congr fun c _ => stoppedWith_append done m c
  rw [hsplit]
  cases hany : ended with
  | false =>
      have hnone := List.any_eq_false.1 (hended.symm.trans hany)
      rw [if_neg Bool.false_ne_true]
      refine congrArg (List.map ConversationRow.id) (List.filter_congr fun c hc => ?_)
      cases hdone : stoppedWith done c with
      | true => rfl
      | false =>
          have hnot := hnone c hc
          rw [hdone, Bool.not_false, Bool.true_and] at hnot
          rw [Bool.false_or, Bool.eq_false_iff.2 hnot]
  | true =>
      obtain ⟨c, hc, hfresh⟩ := List.any_eq_true.1 (hended.symm.trans hany)
      rw [Bool.and_eq_true, Bool.not_eq_true', Bool.and_eq_true, beq_iff_eq] at hfresh
      obtain ⟨hnew, hid, hrunning⟩ := hfresh
      rw [if_pos rfl, ← hid, insertId_filter hs.conversations.ascending hc hnew]
      -- the row with this number is the one that was running
      refine congrArg (List.map ConversationRow.id) (List.filter_congr fun x hx => ?_)
      cases hsame : x.id == c.id with
      | false => rw [Bool.false_and]
      | true =>
          rw [hs.conversations.eq_of_id_eq hx hc (beq_iff_eq.1 hsame), hrunning, Bool.and_true]

/-- The report after one more message. -/
theorem Ordered.expiryReport_append (hs : s.Ordered)
    (hsplit : s.overdue cutoff = done ++ m :: rest) {fresh : Nat} {ended : Bool}
    (hfresh : fresh = s.actions.countP fun a =>
      !skippedWith done a && (a.messageId == m.id && a.isOpen))
    (hended : ended = s.conversations.any fun c =>
      !stoppedWith done c && (c.id == m.conversationId && c.isRunning)) :
    s.expiryReport cutoff (done ++ [m]) =
      let report := s.expiryReport cutoff done
      if (fresh == 0 && !ended) = true then report
      else
        { report with
          expiredMessages := report.expiredMessages + 1
          skippedActions := report.skippedActions + fresh
          erroredConversations :=
            if ended then Sweep.insertId m.conversationId report.erroredConversations
            else report.erroredConversations
          notices := report.notices ++ [overdueNotice m] } := by
  have hskipped : s.actions.countP (skippedWith (done ++ [m])) =
      s.actions.countP (skippedWith done) + fresh := by
    rw [hfresh, ← countP_or]
    exact List.countP_congr fun a _ => by rw [skippedWith_append]
  have hopen : (fresh == 0) = !s.hasOpen m.id := by
    have hsame : fresh = s.actions.countP fun a => a.messageId == m.id && a.isOpen := by
      rw [hfresh]
      exact List.countP_congr fun a _ => by rw [hs.fresh_actions hsplit]
    rw [Bool.eq_iff_iff, beq_iff_eq, Bool.not_eq_true', hsame, List.countP_eq_zero, hasOpen,
      List.any_eq_false]
  have hturn : s.endsSomething cutoff m = !(fresh == 0 && !ended) := by
    rw [hs.endsSomething_eq hsplit, hopen, hended, hs.fresh_conversation, Bool.not_and,
      Bool.not_not, Bool.not_not]
  have hconversations := hs.stopped_append hended
  rw [expiryReport, List.filter_append, hskipped, hconversations]
  cases hcount : (fresh == 0 && !ended) with
  | true =>
      -- nothing ends: no action was open, and the conversation is not stopped now
      obtain ⟨hzero, hnot⟩ := Bool.and_eq_true_iff.1 hcount
      rw [Bool.not_eq_true'] at hnot
      rw [hcount] at hturn
      have hnone : [m].filter (s.endsSomething cutoff) = [] := by
        rw [List.filter_cons, hturn]
        rfl
      rw [hnone, List.append_nil, beq_iff_eq.1 hzero, hnot]
      rfl
  | false =>
      rw [hcount] at hturn
      have hone : [m].filter (s.endsSomething cutoff) = [m] := by
        rw [List.filter_cons, hturn]
        rfl
      rw [hone, List.length_append, List.map_append]
      rfl

/-- **One turn of the first pass**: the open actions of the message are skipped, its
conversation is stopped if it is running, and the report is brought up to date. -/
theorem Expiring.step {report : Sweep.Report} (h : s.Expiring cutoff done s' report)
    (hs : s.Ordered) (hs' : s'.Ordered) (hsplit : s.overdue cutoff = done ++ m :: rest)
    {skipped : List Action} {t u : Instant}
    (hskipped : (s'.skipOpenActions t m.id Sweep.messageReason).1 = .ok skipped) :
    ∃ ended,
      ((s'.skipOpenActions t m.id Sweep.messageReason).2.endConversation u m.conversationId
        .error).1 = .ok ended ∧
      s.Expiring cutoff (done ++ [m])
        ((s'.skipOpenActions t m.id Sweep.messageReason).2.endConversation u m.conversationId
          .error).2
        (if (skipped.isEmpty && !ended) = true then report
          else
            { report with
              expiredMessages := report.expiredMessages + 1
              skippedActions := report.skippedActions + skipped.length
              erroredConversations :=
                if ended then Sweep.insertId m.conversationId report.erroredConversations
                else report.erroredConversations
              notices := report.notices ++ [overdueNotice m] }) := by
  have hstore := skipOpenActions_store hs' hskipped
  have hlength : skipped.length = s.actions.countP fun a =>
      !skippedWith done a && (a.messageId == m.id && a.isOpen) := by
    rw [skipOpenActions_length hs' hskipped]
    exact h.actions.countP (EndedBy.closed rfl fun a => a.messageId == m.id)
  have hended := h.conversations.any (Stopped.closed fun c => c.id == m.conversationId)
  have hempty : skipped.isEmpty = (skipped.length == 0) := by
    cases skipped <;> rfl
  refine ⟨s'.conversations.any fun c => c.id == m.conversationId && c.isRunning, ?_, ?_⟩
  · rw [hstore]
    rfl
  · rw [hstore]
    refine ⟨?_, ?_, ?_, ?_⟩
    · refine (h.actions.modify (EndedBy.closed rfl fun a => a.messageId == m.id)
        fun a _ => ⟨t, rfl⟩).congr fun a _ => (skippedWith_append done m a).symm
    · refine (h.conversations.modify (Stopped.closed fun c => c.id == m.conversationId)
        fun c _ => ⟨u, rfl⟩).congr fun c _ => (stoppedWith_append done m c).symm
    · exact congrArg
        (fun x : Store => { x with
          actions := modify (fun a => a.messageId == m.id && a.isOpen)
                       (forced t .skipped Sweep.messageReason) s'.actions
          conversations := modify (fun c => c.id == m.conversationId && c.isRunning)
                             (fun c => { c with
                               state := Conversation.State.error.name, updatedAt := u.storedText })
                             s'.conversations }) h.kept
    · rw [h.report, hempty, hs.expiryReport_append hsplit hlength hended]

end Turn

/-! ## The second pass -/

/-- A store on the way through the actions whose clock started too early, when some of them are
done. -/
structure TimingOut (s : Store) (first : Sweep.Report) (done : List ActionRow) (s' : Store)
    (report : Sweep.Report) : Prop where
  /-- They have failed. -/
  actions : Marked (fun a => done.any fun x => x.id == a.id)
    (EndedBy .failed Sweep.actionReason) s.actions s'.actions
  /-- The rest is as it was. -/
  kept : s' = { s with actions := s'.actions }
  /-- The report goes on about them. -/
  report : report =
    { first with
      timedOutActions := first.timedOutActions + done.length
      notices := first.notices ++ done.flatMap s.overtimeNotices }

/-- At the start of the second pass nothing of it is done. -/
theorem TimingOut.start (s : Store) (first : Sweep.Report) : s.TimingOut first [] s first where
  actions := .none fun _ _ => rfl
  kept := rfl
  report := by
    rw [List.flatMap_nil, List.append_nil]
    rfl

/-- The notices are about the messages that were there. -/
theorem TimingOut.overtimeNotices_eq {first report : Sweep.Report} {done : List ActionRow}
    (h : s.TimingOut first done s' report) (a : ActionRow) :
    s'.overtimeNotices a = s.overtimeNotices a := by
  rw [h.kept]
  rfl

/-- **One turn of the second pass**: the action is open still, and fails. -/
theorem TimingOut.step {first report : Sweep.Report} {done : List ActionRow}
    (h : s.TimingOut first done s' report) (hs : s.Ordered) {a : ActionRow} (ha : a ∈ s.actions)
    (hopen : a.isOpen = true) (hnew : ∀ x ∈ done, x.id ≠ a.id) (t : Instant) :
    (s'.forceAction t a.id .failed Sweep.actionReason).1 = .ok true ∧
      s.TimingOut first (done ++ [a]) (s'.forceAction t a.id .failed Sweep.actionReason).2
        { report with
          timedOutActions := report.timedOutActions + 1
          notices := report.notices ++ s.overtimeNotices a } := by
  have hfresh : (done.any fun x => x.id == a.id) = false :=
    List.any_eq_false.2 fun x hx hid => hnew x hx (beq_iff_eq.1 hid)
  have hmem : a ∈ s'.actions := h.actions.mem_of_not_hit ha hfresh
  have hfound : (s'.actions.any fun x => x.id == a.id && x.isOpen) = true :=
    List.any_eq_true.2 ⟨a, hmem, by rw [hopen, Bool.and_true, beq_self_eq_true]⟩
  refine ⟨congrArg Except.ok hfound, ?_, ?_, ?_⟩
  · refine (h.actions.modify (EndedBy.closed rfl fun x => x.id == a.id)
      fun x _ => ⟨t, rfl⟩).congr ?_
    intro x hx
    rw [List.any_append, List.any_cons, List.any_nil, Bool.or_false, Bool.beq_comm (a := a.id)]
    -- the row with this number is the one that is open
    cases hsame : x.id == a.id with
    | false => rw [Bool.false_and]
    | true => rw [hs.actions.eq_of_id_eq hx ha (beq_iff_eq.1 hsame), hopen, Bool.and_true]
  · exact congrArg
      (fun x : Store => { x with
        actions := modify (fun b => b.id == a.id && b.isOpen)
                     (forced t .failed Sweep.actionReason) s'.actions }) h.kept
  · rw [h.report]
    simp only [List.length_append, List.length_singleton, List.flatMap_append,
      List.flatMap_singleton, List.append_assoc, Nat.add_assoc]

/-- What is found of the message of an action gives the notice about the action. -/
theorem Legible.getMessage_notices (hs : s.Legible) {a : ActionRow} {v : Action}
    (ha : a.Readable) (hv : a.read = .ok v) :
    ∃ found, s.getMessage v.messageId = .ok found ∧
      (match found with
        | some m => [Sweep.actionNotice m v]
        | none => []) = s.overtimeNotices a := by
  obtain ⟨hid, hmessage⟩ := read_action hv
  have hkind := ha.read_kind hv
  unfold Store.getMessage overtimeNotices
  rw [hmessage]
  cases hfind : s.message? a.messageId with
  | none => exact ⟨none, rfl, rfl⟩
  | some r =>
      obtain ⟨m, hm⟩ := (hs.messages r (List.mem_of_find?_eq_some hfind)).read s.messageTimeColumn
      refine ⟨some m, by simp only [answer?, hm, answer, Except.map], ?_⟩
      simp only [Sweep.actionNotice, (read_message hm).2, hid, hkind]
      rfl

section Follow

variable (who : Actor) {k : Course} {h : Past}

/-- The notice about a message that was read says what its row says. -/
theorem messageNotice_eq {column : Nat} {r : MessageRow} {v : Message}
    (h : r.read column = .ok v) : Sweep.messageNotice v = overdueNotice r := by
  obtain ⟨hid, hconversation⟩ := read_message h
  rw [Sweep.messageNotice, overdueNotice, hid, hconversation]

/-- **The first pass** comes to all overdue messages. -/
theorem follow_expireMessages {cutoff : Instant} {done rest : List MessageRow}
    {values : List Message} {report : Sweep.Report} (hs : s.Ordered)
    (hread : List.Forall₂ (fun r v => r.read s.messageTimeColumn = .ok v) rest values)
    (hsplit : s.overdue cutoff = done ++ rest) (hk : k.Legible)
    (hpart : s.Expiring cutoff done h.store report) (hordered : h.store.Ordered)
    (hlegible : h.store.Legible) :
    ∃ report' h', (Sweep.expireMessages report values).run.follow who k h = (.ok report', h') ∧
      s.Expiring cutoff (s.overdue cutoff) h'.store report' ∧ h'.store.Ordered ∧
      h'.store.Legible := by
  -- on the messages that are left, with the store and the report after those that are done
  induction hread generalizing done report k h with
  | nil =>
      rw [List.append_nil] at hsplit
      rw [hsplit]
      exact ⟨report, h, rfl, hpart, hordered, hlegible⟩
  | @cons r v rest values hr _ ih =>
      obtain ⟨hid, hconversation⟩ := read_message hr
      obtain ⟨skipped, hskipped⟩ := skipOpenActions_answers (hk 0) hlegible.actions r.id
        Sweep.messageReason
      obtain ⟨ended, hended, hnext⟩ := hpart.step (u := k.rest.clock 0) hs hordered hsplit hskipped
      rw [← messageNotice_eq hr] at hnext
      rw [← hid] at hskipped hended hnext
      rw [← hconversation] at hended hnext
      -- the two calls of the turn keep the store ordered and legible
      let first := h.called who (k.clock 0) (.skipOpenActions v.id Sweep.messageReason)
      let second := first.called who (k.rest.clock 0) (.endConversation v.conversationId .error)
      have hchange := h.store.perform_change (k.clock 0) (.skipOpenActions v.id Sweep.messageReason)
      have hchange' := first.store.perform_change (k.rest.clock 0)
        (.endConversation v.conversationId .error)
      have hordered' : second.store.Ordered := hchange'.ordered (hchange.ordered hordered)
      have hlegible' : second.store.Legible :=
        hchange'.legible (hk.rest 0) (hchange.legible (hk 0) hlegible)
      have hsplit' : s.overdue cutoff = done ++ [r] ++ rest := by
        rw [hsplit, List.append_assoc, List.singleton_append]
      obtain ⟨report', h', hrun, hdone, hgood⟩ := ih hsplit' hk.rest.rest hnext hordered' hlegible'
      refine ⟨report', h', ?_, hdone, hgood⟩
      rw [← hrun, Sweep.expireMessages,
        Procedure.follow_call (c := .skipOpenActions v.id Sweep.messageReason) hskipped,
        Procedure.follow_call (h := first) (c := .endConversation v.conversationId .error) hended]
      split <;> rfl

/-- **The second pass** comes to all actions of its list. -/
theorem follow_timeOutActions {first report : Sweep.Report} {done rest : List ActionRow}
    {values : List Action} (hs : s.Ordered) (hs' : s.Legible)
    (hread : List.Forall₂ (fun a v => a.read = .ok v) rest values)
    (hrows : ∀ a ∈ rest, a ∈ s.actions ∧ a.isOpen = true)
    (hnew : (done ++ rest).Pairwise fun a b => a.id < b.id) (hk : k.Legible)
    (hpart : s.TimingOut first done h.store report) (hlegible : h.store.Legible) :
    ∃ report' h', (Sweep.timeOutActions report values).run.follow who k h = (.ok report', h') ∧
      s.TimingOut first (done ++ rest) h'.store report' := by
  -- on the actions that are left, with the store and the report after those that are done
  induction hread generalizing done report k h with
  | nil =>
      rw [List.append_nil]
      exact ⟨report, h, rfl, hpart⟩
  | @cons a v rest values hr _ ih =>
      obtain ⟨ha, hopen⟩ := hrows a List.mem_cons_self
      have hbefore : ∀ x ∈ done, x.id ≠ a.id := by
        intro x hx
        have := (List.pairwise_append.1 hnew).2.2 x hx a List.mem_cons_self
        omega
      obtain ⟨hforced, hnext⟩ := hpart.step hs ha hopen hbefore (k.clock 0)
      rw [← (read_action hr).1] at hforced hnext
      let first := h.called who (k.clock 0) (.forceAction v.id .failed Sweep.actionReason)
      have hchange := h.store.perform_change (k.clock 0)
        (.forceAction v.id .failed Sweep.actionReason)
      have hlegible' : first.store.Legible := hchange.legible (hk 0) hlegible
      obtain ⟨found, hfound, hnotices⟩ := hlegible'.getMessage_notices (hs'.actions a ha) hr
      have hsame : first.store.overtimeNotices a = s.overtimeNotices a :=
        hnext.overtimeNotices_eq a
      rw [← hsame, ← hnotices] at hnext
      have hnew' : (done ++ [a] ++ rest).Pairwise fun a b => a.id < b.id := by
        rwa [List.append_assoc, List.singleton_append]
      obtain ⟨report', h', hrun, hdone⟩ := ih (h := first.called who (k.rest.clock 0)
          (.getMessage v.messageId)) (fun x hx => hrows x (List.mem_cons_of_mem a hx)) hnew'
        hk.rest.rest hnext hlegible'
      refine ⟨report', h', ?_, ?_⟩
      · rw [← hrun, Sweep.timeOutActions,
          Procedure.follow_call (c := .forceAction v.id .failed Sweep.actionReason) hforced,
          if_pos rfl, Procedure.follow_call (h := first) (c := .getMessage v.messageId) hfound]
        cases found <;> rfl
      · rwa [List.append_assoc, List.singleton_append] at hdone

end Follow

end Store

end ControlPlane
