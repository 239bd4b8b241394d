/-
Totals.

The statistics of a store count its rows one table at a time; the other figures count through the
tables above, and a row whose message or conversation is not there is not counted. In a store that
calls have made every action has its message and every message its conversation
(`Store.Regular.anchored`, `Store.Rooted`). So nothing is lost on the way up
(`Regular.countActions_all`), and the rate of the statistics is the one of the summary.

What is counted is counted once for each owner (`Ordered.countMessages_owners`,
`Ordered.countActions_owners`).

A rate is a share in percent of what is counted, and no more have succeeded than were counted, in
a window as on a day (`within_entryOf`). So it lies between zero and a hundred, if the part fits
into a signed word a hundred times over. What a database can hold is far smaller (`Store.Fits`).
-/
import ControlPlane.Proofs.Daily
import ControlPlane.Proofs.Ending

set_option autoImplicit false

namespace ControlPlane

/-! ## Shares in percent -/

namespace Dashboard

/-- A rate in percent. -/
def IsRate (n : Int) : Prop := 0 ≤ n ∧ n ≤ 100

/-- **A share** of what is counted lies between zero and a hundred percent. -/
theorem isRate_percent {part whole : Nat} (hle : part ≤ whole)
    (hword : part * 100 < 9223372036854775808) : IsRate (percent part whole) := by
  have hkept : WordRange.wrapSigned64 ((part : Int) * 100) = ((part * 100 : Nat) : Int) := by
    rw [← WordRange.wrapSigned64_natCast hword, Int.natCast_mul]
    rfl
  unfold percent
  split
  · exact ⟨Int.le_refl 0, by decide⟩
  · rename_i hwhole
    have hpositive : 0 < whole := by omega
    rw [hkept, ← Int.ofNat_tdiv]
    refine ⟨Int.natCast_nonneg _, ?_⟩
    have hbound : part * 100 / whole ≤ 100 :=
      Nat.div_le_of_le_mul (Nat.mul_le_mul_right 100 hle)
    omega

-- The bound is needed: a product that does not fit wraps around.
example : percent 92233720368547759 92233720368547759 = -99 := by decide

/-- The summary of a store. -/
def summaryOf (s : Store) (user : Option Int) (now : Instant) : Summary :=
  let today := midnight now.date
  let tasks := s.countMessages ⟨user, some today, none⟩
  let rate := windowRate s ⟨user, none, none⟩
  ⟨tasks, growth tasks (s.countMessages ⟨user, some (midnight (daysBack now.date 1)), some today⟩),
    rate, growth rate (windowRate s ⟨user, some (midnight (daysBack now.date week)), some today⟩)⟩

theorem runIn_countMessages (window : Window) (w : World) :
    (Procedure.call (.countMessages window)).runIn w =
      (.ok (w.store.countMessages window), w) := rfl

theorem runIn_actionRate (window : Window) (w : World) :
    (actionRate window).runIn w = (.ok (windowRate w.store window), w) := rfl

theorem runIn_summary (user : Option Int) (now : Instant) (w : World) :
    (summary user now).runIn w = (.ok (summaryOf w.store user now), w) := by
  unfold summary
  simp only [Procedure.runIn_bind_ok (runIn_countMessages _ w),
    Procedure.runIn_bind_ok (runIn_actionRate _ w)]
  rfl

end Dashboard

namespace Store

variable {s : Store}

/-! ## Counts by state and status -/

theorem countOf_states (s : Store) (name : String) :
    countOf s.stats.conversations name =
      (s.conversations.filter fun c => c.state == name).length := by
  rw [stats, countOf_tallies, List.count_eq_countP, List.countP_map, List.countP_eq_length_filter]
  rfl

theorem countOf_statuses (s : Store) (name : String) :
    countOf s.stats.actions name = (s.actions.filter fun a => a.status == name).length := by
  rw [stats, countOf_tallies, List.count_eq_countP, List.countP_map, List.countP_eq_length_filter]
  rfl

theorem total_states (s : Store) :
    Integer.total (s.stats.conversations.map (·.2)) = s.conversations.length := by
  rw [stats, total_tallies, List.length_map]

theorem total_statuses (s : Store) :
    Integer.total (s.stats.actions.map (·.2)) = s.actions.length := by
  rw [stats, total_tallies, List.length_map]

/-! ## Nothing is lost on the way up -/

/-- In a store in which messages and conversations are there, all actions are counted. -/
theorem Regular.countActions_all (hs : s.Regular) (hrooted : s.Rooted)
    (status : Option Action.Status) :
    s.countActions ⟨none, none, none⟩ status = (s.actions.filter (ofStatus status)).length := by
  rw [hs.ordered.countActions_eq]
  refine congrArg List.length (List.filter_congr fun a ha => ?_)
  obtain ⟨m, hm, hid⟩ := hs.anchored a ha
  obtain ⟨c, hc, hparent⟩ := hrooted m hm
  have hpassing : s.PassingToo none a.messageId := ⟨m, hm, hid, c, hc, hparent, Or.inl rfl⟩
  rw [decide_eq_true hpassing, Bool.and_true]
  rfl

theorem statsRate_eq (s : Store) :
    Dashboard.statsRate s.stats =
      Dashboard.percent (s.actions.filter (ofStatus (some .success))).length s.actions.length := by
  have hsuccesses : Dashboard.statsSuccesses s.stats =
      countOf s.stats.actions Action.Status.success.name := by
    unfold Dashboard.statsSuccesses countOf
    cases s.stats.actions.find? (·.1 == Action.Status.success.name) with
    | none => rfl
    | some e => rfl
  rw [Dashboard.statsRate, hsuccesses, countOf_statuses, Dashboard.statsActionTotal, total_statuses]
  rfl

/-- The rate of the statistics is the one of all actions. -/
theorem Regular.windowRate_all (hs : s.Regular) (hrooted : s.Rooted) :
    Dashboard.windowRate s ⟨none, none, none⟩ = Dashboard.statsRate s.stats := by
  have hnone : s.actions.filter (ofStatus none) = s.actions := List.filter_eq_self.2 fun _ _ => rfl
  rw [Dashboard.windowRate, hs.countActions_all hrooted, hs.countActions_all hrooted, hnone,
    statsRate_eq]

/-! ## No more have succeeded than there are -/

theorem countActions_le_none (s : Store) (w : Window) (status : Option Action.Status) :
    s.countActions w status ≤ s.countActions w none := by
  unfold countActions
  rw [← List.countP_eq_length_filter, ← List.countP_eq_length_filter]
  refine List.countP_mono_left fun a _ h => ?_
  rw [Bool.and_true]
  exact (Bool.and_eq_true_iff.1 h).1

theorem countActions_le (s : Store) (w : Window) (status : Option Action.Status) :
    s.countActions w status ≤ s.actions.length :=
  List.length_filter_le _ _

/-- No more rows of a day have succeeded than begin with its text. -/
theorem successes_le_count {rows : List ActionRow} {counts : ActionRow → Bool} (text : String) :
    ((rows.filter counts).filter fun a =>
        a.status == Action.Status.success.name && dayText a.createdAt == text).length ≤
      (dayTexts rows counts (·.createdAt)).count text := by
  rw [dayTexts, List.count_eq_countP, List.countP_map, ← List.countP_eq_length_filter]
  exact List.countP_mono_left fun a _ h => (Bool.and_eq_true_iff.1 h).2

/-- No more of the actions of a day have succeeded than there are, and these are no more than a
number. -/
structure Within (n : Nat) (a : DailyActivity) : Prop where
  /-- No more have succeeded than there are. -/
  successful : a.successful ≤ a.actions
  /-- There are no more than the number. -/
  actions : a.actions ≤ n

/-- The entries of a day are within what is in the table. -/
theorem within_entryOf (s : Store) (w : Window) (day : Date) :
    Within s.actions.length (s.entryOf w day) := by
  have hmessages : ∀ counts, Within s.actions.length (entered setMessages counts ⟨day, 0, 0, 0⟩) :=
    fun counts => entered_induction (fun _ _ _ ha => ⟨ha.successful, ha.actions⟩)
      ⟨Nat.le_refl 0, Nat.zero_le _⟩
  refine entered_induction ?_ (hmessages _)
  intro e he a _
  have hcount := count_of_mem_tallies he
  have hlength :
      (dayTexts s.actions (s.actionCounts w) (·.createdAt)).length ≤ s.actions.length := by
    rw [dayTexts, List.length_map]
    exact List.length_filter_le _ _
  exact ⟨hcount ▸ successes_le_count e.1, hcount ▸ Nat.le_trans List.count_le_length hlength⟩

theorem within_dailyActivity (s : Store) (user : Option Int) (first : Date) (days : Nat) :
    (s.dailyActivity user first days).length ≤ days ∧
      ∀ a ∈ s.dailyActivity user first days, Within s.actions.length a := by
  rw [dailyActivity_map]
  constructor
  · refine Nat.le_trans (Nat.le_of_eq (List.length_map _)) ?_
    refine Nat.le_trans (List.length_filter_le _ _) ?_
    rw [List.length_map, List.length_range]
  · intro a ha
    obtain ⟨day, -, rfl⟩ := List.mem_map.1 ha
    exact within_entryOf s _ day

theorem totals_le {n : Nat} {days : List DailyActivity} (h : ∀ a ∈ days, Within n a) :
    Dashboard.successTotal days ≤ Dashboard.actionTotal days ∧
      Dashboard.actionTotal days ≤ days.length * n := by
  induction days with
  | nil => exact ⟨Nat.le_refl 0, Nat.zero_le _⟩
  | cons a rest ih =>
      obtain ⟨hsuccesses, hactions⟩ := ih fun b hb => h b (List.mem_cons_of_mem a hb)
      obtain ⟨hsuccessful, hbound⟩ := h a List.mem_cons_self
      rw [Dashboard.successTotal, Dashboard.actionTotal] at hsuccesses
      rw [Dashboard.actionTotal] at hactions
      rw [Dashboard.successTotal, Dashboard.actionTotal]
      simp only [List.map_cons, Integer.total, List.length_cons, Nat.succ_mul]
      omega

/-! ## Rates -/

/-- The number of bytes that a database has at most: SQLite keeps up to 4294967294 pages, of up to
65536 bytes each. -/
def capacity : Nat := 4294967294 * 65536

/-- What a database can hold. A row takes a byte or more, so there are no more rows than bytes. -/
def Fits (s : Store) : Prop :=
  s.conversations.length + s.messages.length + s.actions.length ≤ capacity

instance (s : Store) : Decidable s.Fits := inferInstanceAs (Decidable (_ ≤ _))

/-- A week of counts of a store that fits into a file, a hundred times over, fits into a word. -/
theorem Fits.word (h : s.Fits) {n : Nat} (hn : n ≤ 7 * s.actions.length) :
    n * 100 < 9223372036854775808 := by
  have hactions : s.actions.length ≤ capacity := by
    unfold Fits at h
    omega
  unfold capacity at hactions
  omega

/-- Every rate that is reported lies between zero and a hundred percent. -/
structure RatesInRange (s : Store) : Prop where
  /-- The rate of the statistics. -/
  stats : Dashboard.IsRate (Dashboard.statsRate s.stats)
  /-- The rate of the summary. -/
  summary : ∀ (user : Option Int) (now : Instant) (w : World), w.store = s →
    ∃ v, (Dashboard.summary user now).runIn w = (.ok v, w) ∧ Dashboard.IsRate v.successRate
  /-- The rate of a week and those of its days. -/
  weekly : ∀ (user : Option Int) (today : Date) (w : World), w.store = s →
    ∃ v, (Dashboard.weeklySuccessRate user today).runIn w = (.ok v, w) ∧
      Dashboard.IsRate v.figure ∧ ∀ n ∈ v.chart, Dashboard.IsRate n

theorem Fits.isRate_window (h : s.Fits) (w : Window) :
    Dashboard.IsRate (Dashboard.windowRate s w) := by
  refine Dashboard.isRate_percent (s.countActions_le_none w _) (h.word ?_)
  have := s.countActions_le w (some .success)
  omega

/-- **Rates.** -/
theorem Fits.rates (h : s.Fits) : s.RatesInRange := by
  constructor
  · rw [statsRate_eq]
    refine Dashboard.isRate_percent (List.length_filter_le _ _) (h.word ?_)
    have := List.length_filter_le (ofStatus (some .success)) s.actions
    omega
  · rintro user now w rfl
    exact ⟨_, Dashboard.runIn_summary user now w, h.isRate_window _⟩
  · rintro user today w rfl
    refine ⟨_, Dashboard.runIn_weeklySuccessRate user today w, ?_, ?_⟩
    · obtain ⟨hlength, hwithin⟩ :=
        w.store.within_dailyActivity user (Dashboard.daysBack today 6) Dashboard.week
      obtain ⟨hsuccesses, hactions⟩ := totals_le hwithin
      refine Dashboard.isRate_percent hsuccesses (h.word ?_)
      exact Nat.le_trans hsuccesses (Nat.le_trans hactions (Nat.mul_le_mul_right _ hlength))
    · intro n hn
      obtain ⟨a, ha, rfl⟩ := List.mem_map.1 hn
      obtain ⟨hsuccessful, hactions⟩ := (w.store.within_dailyActivity user _ _).2 a ha
      exact Dashboard.isRate_percent hsuccessful (h.word (by omega))

/-! ## Totals -/

/-- The totals of a store agree with its tables and with one another. -/
structure TotalsAgree (s : Store) : Prop where
  /-- The conversations by state: each state with its number, and all of them together. -/
  states : (∀ name, countOf s.stats.conversations name =
      (s.conversations.filter fun c => c.state == name).length) ∧
    Integer.total (s.stats.conversations.map (·.2)) = s.conversations.length
  /-- The actions by status: each status with its number, and all of them together. -/
  statuses : (∀ name, countOf s.stats.actions name =
      (s.actions.filter fun a => a.status == name).length) ∧
    Integer.total (s.stats.actions.map (·.2)) = s.actions.length
  /-- The rate of the statistics is the one of the summary for all users. -/
  rate : ∀ (now : Instant) (w : World), w.store = s →
    ∃ v, (Dashboard.summary none now).runIn w = (.ok v, w) ∧
      v.successRate = Dashboard.statsRate s.stats
  /-- The messages in a window by owner. -/
  messages : ∀ since until_ : Option Instant, s.countMessages ⟨none, since, until_⟩ =
    Integer.total (s.owners.map fun u => s.countMessages ⟨some u, since, until_⟩) +
      (s.messages.filter fun m => Window.covers ⟨none, since, until_⟩ m.createdAt &&
        decide (s.Owned none m.conversationId)).length
  /-- The actions in a window by owner. -/
  actions : ∀ (since until_ : Option Instant) (status : Option Action.Status),
    s.countActions ⟨none, since, until_⟩ status =
      Integer.total (s.owners.map fun u => s.countActions ⟨some u, since, until_⟩ status) +
        (s.actions.filter fun a =>
          (Window.covers ⟨none, since, until_⟩ a.createdAt && ofStatus status a) &&
            decide (s.OwnedToo none a.messageId)).length

/-- **The totals of the dashboard are consistent** in every store that calls have made, however
large it is. If the store is no larger than a database can be (`Store.Fits`), the rates of the
statistics, the summary and the weekly chart lie between zero and a hundred percent as well. -/
theorem replay_totals_agree (history : List (Instant × Call)) :
    let s := Store.empty.replay history
    s.TotalsAgree ∧ (s.Fits → s.RatesInRange) := by
  intro s
  have hregular : s.Regular := replay_regular history
  have hrooted : s.Rooted := replay_rooted history
  refine ⟨⟨⟨countOf_states s, total_states s⟩, ⟨countOf_statuses s, total_statuses s⟩, ?_,
    hregular.ordered.countMessages_owners, hregular.ordered.countActions_owners⟩, Fits.rates⟩
  intro now w hw
  refine ⟨_, Dashboard.runIn_summary none now w, ?_⟩
  rw [hw]
  exact hregular.windowRate_all hrooted

/-- A small store fits, and half of its actions have succeeded. -/
theorem yearEnd_totals_agree :
    let s := Store.empty.replay Sample.yearEnd
    s.Fits ∧ Dashboard.statsRate s.stats = 50 ∧ s.TotalsAgree ∧ s.RatesInRange := by
  have hfits : (Store.empty.replay Sample.yearEnd).Fits := by decide +kernel
  obtain ⟨htotals, hrates⟩ := replay_totals_agree Sample.yearEnd
  exact ⟨hfits, by decide +kernel, htotals, hrates hfits⟩

end Store

end ControlPlane
