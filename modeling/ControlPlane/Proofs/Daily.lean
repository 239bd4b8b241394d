/-
Days and windows.

There are two ways to ask what happened on some days. A window counts what was created from one
midnight on and before another one. The daily series groups what was created in that window by
the text in which a stored time begins, reads the text as a date, and enters the numbers into the
days. The text is that of the day in which the time lies, and it is read back as that day
(`dayText_storedText`, `readDate?_text`), so every entry holds what was created on its day
(`Legible.dailyActivity_eq`). The days are consecutive, and a time lies in the window exactly if it
lies in one of them (`covers_days`). Hence the entries add up to what the window counts
(`Legible.agrees`).

A week is a daily series of seven days, so its figures are figures of windows
(`replay_days_agree`).
-/
import ControlPlane.Dashboard
import ControlPlane.Proofs.Blank
import ControlPlane.Proofs.Census
import ControlPlane.Proofs.Chronology
import ControlPlane.Proofs.Condition

set_option autoImplicit false

namespace ControlPlane

/-! ## Texts of days -/

namespace Date

/-- The year of the date has four digits. -/
def Legible (d : Date) : Prop := 0 ≤ d.year ∧ d.year ≤ 9999

instance (d : Date) : Decidable d.Legible := inferInstanceAs (Decidable (_ ∧ _))

/-- A date is written with four digits for the year and two each for the month and the day. -/
theorem Legible.chars_eq {d : Date} (h : d.Legible) :
    d.chars = Integer.padded 4 d.year.toNat ++ ('-' :: (Integer.padded 2 d.month ++
      ('-' :: Integer.padded 2 d.day))) := by
  rw [chars, yearChars, if_pos ⟨h.1, h.2⟩, List.append_assoc]
  rfl

end Date

namespace Stamp

/-- A number with digits begins with no blank. -/
theorem trimStart_padded {width n : Nat} (hwidth : 0 < width) (hn : n < Integer.tenTo width)
    (rest : List Char) :
    Text.trimStart (Integer.padded width n ++ rest) = Integer.padded width n ++ rest := by
  have hlength := Integer.length_padded hwidth hn
  cases hdigits : Integer.padded width n with
  | nil =>
      rw [hdigits] at hlength
      exact absurd hlength (Nat.ne_of_lt hwidth)
  | cons c cs =>
      have hc : c.isDigit = true := Integer.isDigit_of_mem_padded (hdigits ▸ List.mem_cons_self)
      exact List.dropWhile_cons_of_neg (by rw [Text.isBlank_of_isDigit hc]; decide)

/-- A part of a date of two digits is read back. -/
theorem relaxedPart_padded {n least greatest : Nat} (hn : n < 100) (hleast : least ≤ n)
    (hgreatest : n ≤ greatest) (rest : List Char) :
    relaxedPart least greatest (Integer.padded 2 n ++ rest) = .ok (n, rest) := by
  unfold relaxedPart
  rw [trimStart_padded (by decide) hn]
  exact bounded_padded_of_le (by decide) (by decide) hn hleast hgreatest rest

/-- A year of four digits is read back. -/
theorem relaxedYear_padded {n : Nat} (hn : n < 10000) (rest : List Char) :
    relaxedYear (Integer.padded 4 n ++ rest) = .ok ((n : Int), rest) := by
  have hnumber : number 1 (some 4) (Integer.padded 4 n ++ rest) = .ok (n, rest) :=
    number_padded_of_le (by decide) (by decide) hn rest
  have hlength : (Integer.padded 4 n).length = 4 := Integer.length_padded (by decide) hn
  unfold relaxedYear
  rw [trimStart_padded (by decide) hn]
  cases hdigits : Integer.padded 4 n with
  | nil =>
      rw [hdigits] at hlength
      cases hlength
  | cons c cs =>
      -- the first digit is no sign
      have hc : c.isDigit = true := Integer.isDigit_of_mem_padded (hdigits ▸ List.mem_cons_self)
      rw [hdigits, List.cons_append] at hnumber
      rw [List.cons_append]
      split
      · rename_i heq
        rw [(List.cons.inj heq).1] at hc
        cases hc
      · rename_i heq
        rw [(List.cons.inj heq).1] at hc
        cases hc
      · rw [hnumber]
        simp only [Except.map, bind, Except.bind]
        rw [if_neg (by omega)]

/-- **The text of a day** is read back as the day. -/
theorem readDate?_text {n : Int} (h : (Date.ofDayNumber n).Legible) :
    readDate? (Date.ofDayNumber n).text = some (Date.ofDayNumber n) := by
  obtain ⟨hmonth, hmonth'⟩ := Date.ofDayNumber_month n
  obtain ⟨hday, hday'⟩ := Date.ofDayNumber_day n
  have hvalid := Date.ofDayNumber_isValid n
  have hlast := relaxedPart_padded (n := (Date.ofDayNumber n).day) (by omega) hday hday' []
  rw [List.append_nil] at hlast
  have hyear : (((Date.ofDayNumber n).year.toNat : Nat) : Int) = (Date.ofDayNumber n).year :=
    Int.toNat_of_nonneg h.1
  obtain ⟨hyear₀, hyear₁⟩ := h
  unfold readDate?
  rw [Date.text, String.toList_ofList, Date.Legible.chars_eq ⟨hyear₀, hyear₁⟩]
  simp only [relaxedYear_padded (n := (Date.ofDayNumber n).year.toNat) (by omega),
    relaxedPart_padded (n := (Date.ofDayNumber n).month) (by omega) hmonth hmonth', hlast, expect,
    bind, Except.bind, if_true, hyear, hvalid]

/-- Days with the same text are the same day. -/
theorem text_inj {m n : Int} (hm : (Date.ofDayNumber m).Legible) (hn : (Date.ofDayNumber n).Legible)
    (h : (Date.ofDayNumber m).text = (Date.ofDayNumber n).text) : m = n := by
  have hread := readDate?_text hm
  rw [h, readDate?_text hn] at hread
  exact (Date.ofDayNumber_inj (Option.some.inj hread)).symm

/-- A stored time begins with the text of its day. -/
theorem dayText_storedText {t : Instant} (h : t.Legible) :
    Store.dayText t.storedText = t.date.text := by
  have hyear : t.date.Legible := h.year
  have hlength : t.date.chars.length = 10 := by
    have hmonth := (Date.ofDayNumber_month t.dayNumber).2
    have hday := (Date.ofDayNumber_day t.dayNumber).2
    have hfour : Integer.tenTo 4 = 10000 := rfl
    have htwo : Integer.tenTo 2 = 100 := rfl
    have hyear' := hyear.2
    rw [hyear.chars_eq, List.length_append, List.length_cons, List.length_append,
      List.length_cons, Integer.length_padded (by decide) (by omega),
      Integer.length_padded (by decide) (by unfold Instant.date; omega),
      Integer.length_padded (by decide) (by unfold Instant.date; omega)]
  unfold Store.dayText Instant.storedText Instant.charsWith Date.text
  rw [String.toList_ofList, List.append_assoc, List.take_left' hlength]

/-- The day in which a stored time lies. -/
def date? (raw : String) : Option Date :=
  match read raw with
  | .ok t => some t.date
  | .error _ => none

/-- A stored time lies in the day of that time. -/
theorem date?_storedText {t : Instant} (h : t.Legible) : date? t.storedText = some t.date := by
  rw [date?, read_storedText h]
  rfl

end Stamp

/-! ## Windows of whole days -/

namespace Window

/-- What a user did, or everybody, from the beginning of one day on and before that of another. -/
def ofDays (user : Option Int) (first last : Int) : Window :=
  ⟨user, some (.startOfDay first), some (.startOfDay last)⟩

theorem startOfDay_second (n : Int) : (Instant.startOfDay n).second = n * 86400 := rfl

theorem startOfDay_nano (n : Int) : (Instant.startOfDay n).nano = 0 := rfl

/-- The first moment of a day lies in that day. -/
theorem startOfDay_dayNumber (n : Int) : (Instant.startOfDay n).dayNumber = n := by
  unfold Instant.dayNumber Instant.secondsPerDay
  rw [startOfDay_second]
  omega

/-- The first moment of a day can be read if the day can. -/
theorem legible_startOfDay {n : Int} (h : (Date.ofDayNumber n).Legible) :
    (Instant.startOfDay n).Legible := by
  refine ⟨?_, Or.inl (by rw [startOfDay_nano]; decide)⟩
  rw [Instant.date, startOfDay_dayNumber]
  exact h

/-- A legible time is before the beginning of a day if its own day is before that day. -/
theorem storedText_lt_startOfDay {t : Instant} (ht : t.Legible) {n : Int}
    (hn : (Date.ofDayNumber n).Legible) :
    t.storedText < (Instant.startOfDay n).storedText ↔ t.dayNumber < n := by
  rw [Instant.storedText_lt_iff ht (legible_startOfDay hn), Instant.before_micros_iff,
    startOfDay_second, startOfDay_nano]
  unfold Instant.dayNumber Instant.secondsPerDay
  omega

/-- **A window of whole days** is open at the times that lie in these days. -/
theorem covers_storedText {t : Instant} (ht : t.Legible) (user : Option Int) {first last : Int}
    (hfirst : (Date.ofDayNumber first).Legible) (hlast : (Date.ofDayNumber last).Legible) :
    (ofDays user first last).covers t.storedText =
      decide (first ≤ t.dayNumber ∧ t.dayNumber < last) := by
  have hsince : decide ((Instant.startOfDay first).storedText ≤ t.storedText) =
      decide (first ≤ t.dayNumber) := by
    rw [decide_eq_decide, ← String.not_lt, storedText_lt_startOfDay ht hfirst, Int.not_lt]
  have huntil : decide (t.storedText < (Instant.startOfDay last).storedText) =
      decide (t.dayNumber < last) := by
    rw [decide_eq_decide, storedText_lt_startOfDay ht hlast]
  unfold ofDays covers Store.inWindow
  rw [Bool.decide_and, ← hsince, ← huntil, Option.isNone_none, Bool.true_or, Bool.true_and]

end Window

/-! ## What happened on a day -/

namespace Store

variable {s : Store}

/-- The messages that were created on a day in conversations that pass a filter by user. -/
def messagesOn (s : Store) (user : Option Int) (day : Date) : List MessageRow :=
  s.messages.filter fun m =>
    decide (s.Passing user m.conversationId) && Stamp.date? m.createdAt == some day

/-- The actions that were created on a day, for messages of such conversations. -/
def actionsOn (s : Store) (user : Option Int) (day : Date) : List ActionRow :=
  s.actions.filter fun a =>
    decide (s.PassingToo user a.messageId) && Stamp.date? a.createdAt == some day

/-- What happened on a day. -/
def activityOn (s : Store) (user : Option Int) (day : Date) : DailyActivity :=
  ⟨day, (s.messagesOn user day).length, (s.actionsOn user day).length,
    ((s.actionsOn user day).filter fun a => a.status == Action.Status.success.name).length⟩

/-! ## The series -/

/-- Some days and the day after them lie in years of four digits. -/
def LegibleDays (first : Int) (days : Nat) : Prop :=
  ∀ i : Nat, i ≤ days → (Date.ofDayNumber (first + i)).Legible

/-- Days between the first and the last can be read. -/
theorem LegibleDays.within {first n : Int} {days : Nat} (h : LegibleDays first days)
    (hlow : first ≤ n) (hhigh : n ≤ first + days) : (Date.ofDayNumber n).Legible := by
  have hday := h (n - first).toNat (by omega)
  rwa [show first + ((n - first).toNat : Int) = n by omega] at hday

/-- Days that can be read follow one another by their numbers. -/
theorem daysFrom_eq {first : Date} {days : Nat} (h : LegibleDays first.dayNumber days) :
    daysFrom first days =
      (List.range days).map fun i : Nat => Date.ofDayNumber (first.dayNumber + (i : Int)) := by
  unfold daysFrom
  rw [List.filter_eq_self]
  intro d hd
  obtain ⟨i, hi, rfl⟩ := List.mem_map.1 hd
  obtain ⟨-, hyear⟩ := h i (Nat.le_of_lt (List.mem_range.1 hi))
  rw [decide_eq_true_eq, Date.lastYear]
  omega

/-- The midnight after a day is the first moment of the next one. -/
theorem midnightAfter_eq {n : Int} (h : (Date.ofDayNumber (n + 1)).Legible) :
    midnightAfter (Date.ofDayNumber n) = .startOfDay (n + 1) := by
  obtain ⟨-, hyear⟩ := h
  unfold midnightAfter
  rw [Date.dayNumber_ofDayNumber]
  simp only
  rw [if_pos (by rw [Date.lastYear]; omega)]

/-- The text of a stored time is read as a day exactly if it is the text of the day. -/
theorem readDate?_dayText_iff {raw : String} (h : Stamp.IsStored raw) {n : Int}
    (hn : (Date.ofDayNumber n).Legible) :
    Stamp.readDate? (dayText raw) = some (Date.ofDayNumber n) ↔
      dayText raw = (Date.ofDayNumber n).text := by
  obtain ⟨t, ht, rfl⟩ := h
  have hday : (Date.ofDayNumber t.dayNumber).Legible := ht.year
  rw [Stamp.dayText_storedText ht]
  constructor
  · intro hread
    rw [Instant.date, Stamp.readDate?_text hday] at hread
    rw [Instant.date, Option.some.inj hread]
  · intro htext
    rw [htext, Stamp.readDate?_text hn]

/-- In a window of whole days, what begins with the text of one of the days lies in it. -/
theorem covers_and_dayText {raw : String} (h : Stamp.IsStored raw) (user : Option Int)
    {first last n : Int} (hfirst : (Date.ofDayNumber first).Legible)
    (hlast : (Date.ofDayNumber last).Legible) (hn : (Date.ofDayNumber n).Legible)
    (hwithin : first ≤ n ∧ n < last) :
    ((Window.ofDays user first last).covers raw && dayText raw == (Date.ofDayNumber n).text) =
      (Stamp.date? raw == some (Date.ofDayNumber n)) := by
  obtain ⟨t, ht, rfl⟩ := h
  rw [Window.covers_storedText ht user hfirst hlast, Stamp.dayText_storedText ht,
    Stamp.date?_storedText ht]
  refine Bool.eq_iff_iff.2 ?_
  simp only [Bool.and_eq_true, decide_eq_true_eq, beq_iff_eq, Option.some.injEq]
  constructor
  · rintro ⟨-, htext⟩
    rw [Instant.date, Stamp.text_inj ht.year hn htext]
  · intro hday
    refine ⟨?_, by rw [hday]⟩
    rw [Date.ofDayNumber_inj hday]
    exact hwithin

/-- No day comes twice. -/
theorem nodup_days (first : Int) (days : Nat) :
    ((List.range days).map fun i : Nat => Date.ofDayNumber (first + (i : Int))).Nodup := by
  refine List.nodup_range.map ?_
  intro i j h
  have := Date.ofDayNumber_inj h
  omega

section Grouping

variable {ρ : Type} {rows : List ρ} {counts p : ρ → Bool} {raw : ρ → String} {user : Option Int}
  {first last n : Int}

/-- The texts of the days on which the counted rows were created. -/
def dayTexts (rows : List ρ) (counts : ρ → Bool) (raw : ρ → String) : List String :=
  (rows.filter counts).map fun r => dayText (raw r)

/-- The text of a day is listed once for each row of the window that was created on the day. -/
theorem count_dayTexts (hraw : ∀ r ∈ rows, Stamp.IsStored (raw r))
    (hcounts : ∀ r ∈ rows, counts r = (p r && (Window.ofDays user first last).covers (raw r)))
    (hfirst : (Date.ofDayNumber first).Legible) (hlast : (Date.ofDayNumber last).Legible)
    (hn : (Date.ofDayNumber n).Legible) (hwithin : first ≤ n ∧ n < last) :
    (dayTexts rows counts raw).count (Date.ofDayNumber n).text =
      (rows.filter fun r => p r && Stamp.date? (raw r) == some (Date.ofDayNumber n)).length := by
  unfold dayTexts
  rw [List.count_eq_countP, List.countP_map, List.countP_filter, List.countP_eq_length_filter]
  refine congrArg List.length (List.filter_congr ?_)
  intro r hr
  rw [hcounts r hr, ← covers_and_dayText (hraw r hr) user hfirst hlast hn hwithin,
    Bool.and_comm, Bool.and_assoc]
  rfl

/-- What is entered for a day is how often its text is listed. -/
theorem entered_dayTexts (set : String → Nat → DailyActivity → DailyActivity)
    (hset : ∀ text n a, (set text n a).day = a.day)
    (hraw : ∀ r ∈ rows, Stamp.IsStored (raw r)) (hn : (Date.ofDayNumber n).Legible)
    {a : DailyActivity} (ha : a.day = Date.ofDayNumber n)
    (hzero : (dayTexts rows counts raw).count (Date.ofDayNumber n).text = 0 →
      set (Date.ofDayNumber n).text 0 a = a) :
    entered set (tallies (dayTexts rows counts raw)) a =
      set (Date.ofDayNumber n).text
        ((dayTexts rows counts raw).count (Date.ofDayNumber n).text) a := by
  rw [← countOf_tallies] at hzero ⊢
  refine entered_of_unique (tallies_spec _).1 hset hzero fun e he => ?_
  obtain ⟨r, hr, htext⟩ := List.mem_map.1 (mem_of_mem_tallies he)
  rw [ha, ← htext]
  exact readDate?_dayText_iff (hraw r (List.mem_of_mem_filter hr)) hn

end Grouping

section Entries

variable {user : Option Int} {first last n : Int}

/-- Enters a number of messages. -/
def setMessages (_ : String) (k : Nat) (a : DailyActivity) : DailyActivity :=
  { a with messages := k }

/-- Enters a number of actions, and of those that succeeded. -/
def setActions (actions : List ActionRow) (text : String) (k : Nat) (a : DailyActivity) :
    DailyActivity :=
  { a with
    actions := k
    successful := (actions.filter fun a =>
      a.status == Action.Status.success.name && dayText a.createdAt == text).length }

/-- The entry of a day in the series of a window. -/
def entryOf (s : Store) (w : Window) (day : Date) : DailyActivity :=
  entered (setActions (s.actions.filter (s.actionCounts w)))
    (tallies (dayTexts s.actions (s.actionCounts w) (·.createdAt)))
    (entered setMessages (tallies (dayTexts s.messages (s.messageCounts w) (·.createdAt)))
      ⟨day, 0, 0, 0⟩)

/-- **The daily series** has one entry for each day, into which both tallies of the window are
entered. -/
theorem dailyActivity_map (s : Store) (user : Option Int) (first : Date) (days : Nat) :
    s.dailyActivity user first days =
      (daysFrom first days).map (s.entryOf
        ⟨user, some (.startOfDay first.dayNumber),
          (daysFrom first days).getLast?.map midnightAfter⟩)
    := by
  have hnodup : (daysFrom first days).Nodup := (nodup_days first.dayNumber days).filter _
  unfold dailyActivity
  cases hlast : (daysFrom first days).getLast? with
  | none =>
      rw [List.getLast?_eq_none_iff.1 hlast]
      rfl
  | some last =>
      simp only [hlast]
      change enter (setActions _) (tallies (dayTexts s.actions _ _))
        (enter setMessages (tallies (dayTexts s.messages _ _)) _) = _
      rw [enter_map setMessages (fun _ _ _ => rfl) _ hnodup fun _ => rfl,
        enter_map (setActions _) (fun _ _ _ => rfl) _ hnodup fun _ =>
          entered_day setMessages (fun _ _ _ => rfl) _]
      rfl

/-- The messages that are entered for a day are those of the day. -/
theorem Legible.entered_messages (hs : s.Legible) (hordered : s.Ordered)
    (hfirst : (Date.ofDayNumber first).Legible) (hlast : (Date.ofDayNumber last).Legible)
    (hn : (Date.ofDayNumber n).Legible) (hwithin : first ≤ n ∧ n < last) :
    entered setMessages
        (tallies (dayTexts s.messages (s.messageCounts (.ofDays user first last)) (·.createdAt)))
        ⟨Date.ofDayNumber n, 0, 0, 0⟩ =
      ⟨Date.ofDayNumber n, (s.messagesOn user (Date.ofDayNumber n)).length, 0, 0⟩ := by
  have hraw : ∀ m ∈ s.messages, Stamp.IsStored m.createdAt :=
    fun m hm => (hs.messages m hm).createdAt
  have hcount :=
    count_dayTexts hraw (fun m _ => hordered.messageCounts_eq (.ofDays user first last) m)
    hfirst hlast hn hwithin
  rw [entered_dayTexts setMessages (fun _ _ _ => rfl) hraw hn rfl fun _ => rfl, hcount]
  rfl

/-- The actions that are entered for a day are those of the day. -/
theorem Legible.entered_actions (hs : s.Legible) (hordered : s.Ordered)
    (hfirst : (Date.ofDayNumber first).Legible) (hlast : (Date.ofDayNumber last).Legible)
    (hn : (Date.ofDayNumber n).Legible) (hwithin : first ≤ n ∧ n < last) (k : Nat) :
    entered (setActions (s.actions.filter (s.actionCounts (.ofDays user first last))))
        (tallies (dayTexts s.actions (s.actionCounts (.ofDays user first last)) (·.createdAt)))
        ⟨Date.ofDayNumber n, k, 0, 0⟩ =
      { s.activityOn user (Date.ofDayNumber n) with messages := k } := by
  have hraw : ∀ a ∈ s.actions, Stamp.IsStored a.createdAt :=
    fun a ha => (hs.actions a ha).createdAt
  have hcount :=
    count_dayTexts hraw (fun a _ => hordered.actionCounts_eq (.ofDays user first last) a)
    hfirst hlast hn hwithin
  have hsuccessful : ((s.actions.filter (s.actionCounts (.ofDays user first last))).filter fun a =>
        a.status == Action.Status.success.name &&
          dayText a.createdAt == (Date.ofDayNumber n).text) =
      (s.actionsOn user (Date.ofDayNumber n)).filter fun a =>
        a.status == Action.Status.success.name := by
    unfold actionsOn
    rw [List.filter_filter, List.filter_filter]
    refine List.filter_congr fun a ha => ?_
    rw [hordered.actionCounts_eq, ← covers_and_dayText (hraw a ha) user hfirst hlast hn hwithin]
    ac_rfl
  have hset : ∀ j : Nat, j = (s.actionsOn user (Date.ofDayNumber n)).length →
      setActions (s.actions.filter (s.actionCounts (.ofDays user first last)))
          (Date.ofDayNumber n).text j ⟨Date.ofDayNumber n, k, 0, 0⟩ =
        { s.activityOn user (Date.ofDayNumber n) with messages := k } := by
    rintro j rfl
    unfold setActions
    rw [hsuccessful]
    rfl
  rw [entered_dayTexts (setActions _) (fun _ _ _ => rfl) hraw hn rfl fun hzero => ?_,
    hset _ hcount]
  -- of no actions none has succeeded
  rw [hcount] at hzero
  have hnone : s.actionsOn user (Date.ofDayNumber n) = [] := List.eq_nil_of_length_eq_zero hzero
  rw [hset 0 hzero.symm]
  unfold activityOn
  rw [hnone]
  rfl

/-- The entry of a day holds what happened on it. -/
theorem Legible.entryOf_eq (hs : s.Legible) (hordered : s.Ordered)
    (hfirst : (Date.ofDayNumber first).Legible) (hlast : (Date.ofDayNumber last).Legible)
    (hn : (Date.ofDayNumber n).Legible) (hwithin : first ≤ n ∧ n < last) :
    s.entryOf (.ofDays user first last) (Date.ofDayNumber n) =
      s.activityOn user (Date.ofDayNumber n) := by
  unfold entryOf
  rw [hs.entered_messages hordered hfirst hlast hn hwithin,
    hs.entered_actions hordered hfirst hlast hn hwithin]
  rfl

end Entries

/-- **The daily series** holds what happened on each of its days. -/
theorem Legible.dailyActivity_eq (hs : s.Legible) (hordered : s.Ordered) (user : Option Int)
    {first : Date} {days : Nat} (hpositive : 0 < days)
    (hdays : LegibleDays first.dayNumber days) :
    s.dailyActivity user first days =
      (List.range days).map fun i : Nat =>
        s.activityOn user (Date.ofDayNumber (first.dayNumber + (i : Int))) := by
  -- the window ends with the midnight after the last of the days, of which there is one
  obtain ⟨k, rfl⟩ : ∃ k, days = k + 1 := ⟨days - 1, by omega⟩
  have hlast : (daysFrom first (k + 1)).getLast? =
      some (Date.ofDayNumber (first.dayNumber + (k : Int))) := by
    rw [daysFrom_eq hdays, List.range_succ, List.map_append, List.map_singleton,
      List.getLast?_append, List.getLast?_singleton, Option.some_or]
  have hbegin : (Date.ofDayNumber first.dayNumber).Legible := hdays.within (by omega) (by omega)
  have hafter : (Date.ofDayNumber (first.dayNumber + (k : Int) + 1)).Legible :=
    hdays.within (by omega) (by omega)
  rw [dailyActivity_map, hlast, Option.map_some, midnightAfter_eq hafter, daysFrom_eq hdays,
    List.map_map]
  refine List.map_congr_left fun i hi => ?_
  have hi := List.mem_range.1 hi
  have hday := hdays i (Nat.le_of_lt hi)
  exact hs.entryOf_eq hordered hbegin hafter hday (by omega)

/-! ## Adding up the days -/

/-- A stored time lies in a window of whole days exactly if it lies in one of the days. -/
theorem covers_days {raw : String} (h : Stamp.IsStored raw) (user : Option Int) {first : Int}
    {days : Nat} (hdays : LegibleDays first days) :
    (Window.ofDays user first (first + days)).covers raw =
      (List.range days).any fun i : Nat =>
        Stamp.date? raw == some (Date.ofDayNumber (first + (i : Int))) := by
  obtain ⟨t, ht, rfl⟩ := h
  rw [Window.covers_storedText ht user (hdays.within (by omega) (by omega))
    (hdays.within (by omega) (by omega)), Stamp.date?_storedText ht]
  refine Bool.eq_iff_iff.2 ?_
  simp only [decide_eq_true_eq, List.any_eq_true, List.mem_range, beq_iff_eq, Option.some.injEq]
  constructor
  · rintro ⟨hlow, hhigh⟩
    -- the place of its day among the days
    refine ⟨(t.dayNumber - first).toNat, by omega, ?_⟩
    rw [Instant.date]
    congr 1
    omega
  · rintro ⟨i, hi, hday⟩
    have := Date.ofDayNumber_inj hday
    omega

/-- What is counted day by day is what is counted in the window. -/
theorem total_days {ρ : Type} {rows : List ρ} {raw : ρ → String}
    (hraw : ∀ r ∈ rows, Stamp.IsStored (raw r)) (p : ρ → Bool) (user : Option Int) {first : Int}
    {days : Nat} (hdays : LegibleDays first days) :
    Integer.total ((List.range days).map fun i : Nat => (rows.filter fun r =>
        p r && Stamp.date? (raw r) == some (Date.ofDayNumber (first + (i : Int)))).length) =
      (rows.filter fun r =>
        p r && (Window.ofDays user first (first + days)).covers (raw r)).length := by
  have hone : ∀ r ∈ rows, ∀ i j : Nat,
      (Stamp.date? (raw r) == some (Date.ofDayNumber (first + (i : Int)))) = true →
      (Stamp.date? (raw r) == some (Date.ofDayNumber (first + (j : Int)))) = true → i = j := by
    intro r _ i j hi hj
    rw [beq_iff_eq] at hi hj
    have := Date.ofDayNumber_inj (Option.some.inj (hi.symm.trans hj))
    omega
  -- the classes are the days, and a stored time is of one of them at most
  rw [total_filter_classes List.nodup_range p hone]
  refine congrArg List.length (List.filter_congr fun r hr => ?_)
  rw [covers_days (hraw r hr) user hdays]

/-- What a daily series says: its entries hold what happened on consecutive days, and they add up
to what the window of these days counts. -/
structure Agrees (s : Store) (user : Option Int) (first : Date) (days : Nat) : Prop where
  /-- One entry for each day, with what happened on it. -/
  entries : s.dailyActivity user first days =
    (List.range days).map fun i : Nat =>
      s.activityOn user (Date.ofDayNumber (first.dayNumber + (i : Int)))
  /-- The messages of all days. -/
  messages : Dashboard.messageTotal (s.dailyActivity user first days) =
    s.countMessages (.ofDays user first.dayNumber (first.dayNumber + days))
  /-- The actions of all days. -/
  actions : Dashboard.actionTotal (s.dailyActivity user first days) =
    s.countActions (.ofDays user first.dayNumber (first.dayNumber + days)) none
  /-- Those of them that have succeeded. -/
  successes : Dashboard.successTotal (s.dailyActivity user first days) =
    s.countActions (.ofDays user first.dayNumber (first.dayNumber + days)) (some .success)

/-- A daily series says what happened, in a store whose times can be read. -/
theorem Legible.agrees (hs : s.Legible) (hordered : s.Ordered) (user : Option Int) {first : Date}
    {days : Nat} (hpositive : 0 < days) (hdays : LegibleDays first.dayNumber days) :
    s.Agrees user first days := by
  have hmessages : ∀ m ∈ s.messages, Stamp.IsStored m.createdAt :=
    fun m hm => (hs.messages m hm).createdAt
  have hactions : ∀ a ∈ s.actions, Stamp.IsStored a.createdAt :=
    fun a ha => (hs.actions a ha).createdAt
  have hentries := hs.dailyActivity_eq hordered user hpositive hdays
  refine ⟨hentries, ?_, ?_, ?_⟩
  · rw [hentries, Dashboard.messageTotal, List.map_map]
    refine (total_days hmessages _ user hdays).trans ?_
    rw [countMessages]
    congr 2
    funext m
    rw [hordered.messageCounts_eq]
    rfl
  · rw [hentries, Dashboard.actionTotal, List.map_map]
    refine (total_days hactions _ user hdays).trans ?_
    rw [countActions]
    congr 2
    funext a
    rw [hordered.actionCounts_eq, Bool.and_true]
    rfl
  · have hstatus : ∀ i : Nat, ((s.actionsOn user (Date.ofDayNumber (first.dayNumber + (i : Int)))
        ).filter fun a => a.status == Action.Status.success.name).length =
        (s.actions.filter fun a => (a.status == Action.Status.success.name &&
          decide (s.PassingToo user a.messageId)) && Stamp.date? a.createdAt ==
            some (Date.ofDayNumber (first.dayNumber + (i : Int)))).length := by
      intro i
      unfold actionsOn
      rw [List.filter_filter]
      simp only [Bool.and_assoc]
    rw [hentries, Dashboard.successTotal, List.map_map]
    refine (congrArg Integer.total (List.map_congr_left fun i _ => hstatus i)).trans ?_
    refine (total_days hactions _ user hdays).trans ?_
    rw [countActions]
    congr 2
    funext a
    rw [hordered.actionCounts_eq, Bool.and_comm (_ == _), Bool.and_right_comm]
    rfl

end Store

/-! ## Weeks -/

namespace Dashboard

variable {s : Store} {user : Option Int} {today : Date}

/-- Some days back is the day whose number is smaller by as many. -/
theorem daysBack_eq {n : Nat} (h : (Date.ofDayNumber (today.dayNumber - n)).Legible) :
    daysBack today n = Date.ofDayNumber (today.dayNumber - n) := by
  obtain ⟨hyear, -⟩ := h
  unfold daysBack
  simp only
  rw [if_neg (by rw [Date.firstYear]; omega)]

/-- The share of the actions in a window that have succeeded. -/
def windowRate (s : Store) (w : Window) : Int :=
  percent (s.countActions w (some .success)) (s.countActions w none)

/-- What is counted in the week that ends with a day. -/
def thisWeek (user : Option Int) (today : Date) : Window :=
  .ofDays user (today.dayNumber - 6) (today.dayNumber + 1)

/-- What is counted in the week before. -/
def lastWeek (user : Option Int) (today : Date) : Window :=
  .ofDays user (today.dayNumber - 13) (today.dayNumber - 6)

/-- The days of the week that ends with a day. -/
def weekDays (today : Date) : List Date :=
  (List.range week).map fun i : Nat => Date.ofDayNumber (today.dayNumber - 6 + (i : Int))

/-- What the volume of a week says. -/
structure VolumeAgrees (s : Store) (user : Option Int) (today : Date) (v : Series) : Prop where
  /-- Seven days, of which the given one is the last. -/
  days : v.days = weekDays today ∧ v.days.getLast? = some today
  /-- The messages of each day. -/
  chart : v.chart = (weekDays today).map fun d => ((s.messagesOn user d).length : Int)
  /-- The figure is the sum of the chart. -/
  total : v.figure = v.chart.foldr (· + ·) 0
  /-- The figure is what the window of the week counts. -/
  figure : v.figure = s.countMessages (thisWeek user today)
  /-- The week is compared with the seven days before it. -/
  growth : v.growth = Dashboard.growth v.figure (s.countMessages (lastWeek user today))

/-- What the rate of a week says. -/
structure RateAgrees (s : Store) (user : Option Int) (today : Date) (v : Series) : Prop where
  /-- Seven days, of which the given one is the last. -/
  days : v.days = weekDays today ∧ v.days.getLast? = some today
  /-- The rate of each day. -/
  chart : v.chart = (weekDays today).map fun d =>
    percent (s.activityOn user d).successful (s.activityOn user d).actions
  /-- The totals of the days are what the window of the week counts. -/
  totals : Integer.total ((weekDays today).map fun d => (s.activityOn user d).actions) =
      s.countActions (thisWeek user today) none ∧
    Integer.total ((weekDays today).map fun d => (s.activityOn user d).successful) =
      s.countActions (thisWeek user today) (some .success)
  /-- The figure is the rate of the window of the week. -/
  figure : v.figure = windowRate s (thisWeek user today)
  /-- The week is compared with the seven days before it. -/
  growth : v.growth = Dashboard.growth v.figure (windowRate s (lastWeek user today))

/-- The last day of the week is the one with which it ends. -/
theorem getLast?_weekDays (h : today.isValid = true) : (weekDays today).getLast? = some today := by
  have hlast : (weekDays today).getLast? = some (Date.ofDayNumber (today.dayNumber - 6 + 6)) := rfl
  rw [hlast, Int.sub_add_cancel, Date.ofDayNumber_dayNumber h]

/-- The volume of a week, from its days and those of the week before. -/
def volumeSeries (this last : List DailyActivity) : Series :=
  ⟨"volume", messageTotal this, Dashboard.growth (messageTotal this) (messageTotal last),
    this.map (·.day), this.map fun d => (d.messages : Int)⟩

/-- The rate of a week, from its days and those of the week before. -/
def rateSeries (this last : List DailyActivity) : Series :=
  ⟨"rate", rateOf this, Dashboard.growth (rateOf this) (rateOf last), this.map (·.day),
    this.map fun d => percent d.successful d.actions⟩

/-- The volume of a week is made of two daily series. -/
theorem runIn_weeklyVolume (user : Option Int) (today : Date) (w : World) :
    (weeklyVolume user today).runIn w =
      (.ok (volumeSeries (w.store.dailyActivity user (daysBack today 6) week)
        (w.store.dailyActivity user (daysBack today 13) week)), w) := rfl

/-- So is the rate of a week. -/
theorem runIn_weeklySuccessRate (user : Option Int) (today : Date) (w : World) :
    (weeklySuccessRate user today).runIn w =
      (.ok (rateSeries (w.store.dailyActivity user (daysBack today 6) week)
        (w.store.dailyActivity user (daysBack today 13) week)), w) := rfl

/-- Both weeks agree with their windows. -/
theorem agrees_weeks (hs : s.Legible) (hordered : s.Ordered) (user : Option Int)
    (hdays : Store.LegibleDays (today.dayNumber - 13) (2 * week)) :
    s.Agrees user (Date.ofDayNumber (today.dayNumber - 6)) week ∧
      s.Agrees user (Date.ofDayNumber (today.dayNumber - 13)) week := by
  have hweek : week = 7 := rfl
  constructor <;>
  · refine hs.agrees hordered user (by decide) fun i hi => ?_
    rw [Date.dayNumber_ofDayNumber]
    exact hdays.within (by omega) (by omega)

/-- The totals of a week are what the window from its first day on counts. -/
theorem totals_week {first next : Int} (hnext : first + 7 = next)
    (h : s.Agrees user (Date.ofDayNumber first) week) :
    messageTotal (s.dailyActivity user (Date.ofDayNumber first) week) =
        s.countMessages (.ofDays user first next) ∧
      actionTotal (s.dailyActivity user (Date.ofDayNumber first) week) =
        s.countActions (.ofDays user first next) none ∧
      successTotal (s.dailyActivity user (Date.ofDayNumber first) week) =
        s.countActions (.ofDays user first next) (some .success) := by
  subst hnext
  obtain ⟨-, hmessages, hactions, hsuccesses⟩ := h
  rw [Date.dayNumber_ofDayNumber] at hmessages hactions hsuccesses
  exact ⟨hmessages, hactions, hsuccesses⟩

/-- The rate of a week is the one of its window. -/
theorem rateOf_week {first next : Int} (hnext : first + 7 = next)
    (h : s.Agrees user (Date.ofDayNumber first) week) :
    rateOf (s.dailyActivity user (Date.ofDayNumber first) week) =
      windowRate s (.ofDays user first next) := by
  obtain ⟨-, hactions, hsuccesses⟩ := totals_week hnext h
  rw [rateOf, hactions, hsuccesses, windowRate]

section Weeks

variable (hthis : s.Agrees user (Date.ofDayNumber (today.dayNumber - 6)) week)

include hthis

/-- The entries of a week. -/
theorem entries_week :
    s.dailyActivity user (Date.ofDayNumber (today.dayNumber - 6)) week =
      (weekDays today).map (s.activityOn user) := by
  rw [hthis.entries, Date.dayNumber_ofDayNumber, weekDays, List.map_map]
  rfl

/-- A week has seven days, and they end with the given one. -/
theorem days_week (htoday : today.isValid = true) :
    let days := (s.dailyActivity user (Date.ofDayNumber (today.dayNumber - 6)) week).map (·.day)
    days = weekDays today ∧ days.getLast? = some today := by
  have hdays : (s.dailyActivity user (Date.ofDayNumber (today.dayNumber - 6)) week).map (·.day) =
      weekDays today := by
    rw [entries_week hthis, List.map_map]
    exact List.map_id _
  exact ⟨hdays, (congrArg List.getLast? hdays).trans (getLast?_weekDays htoday)⟩

/-- **The volume of a week** agrees with windows, as the daily series of both weeks do. -/
theorem volumeSeries_agrees (htoday : today.isValid = true)
    (hlast : s.Agrees user (Date.ofDayNumber (today.dayNumber - 13)) week) :
    VolumeAgrees s user today
      (volumeSeries (s.dailyActivity user (Date.ofDayNumber (today.dayNumber - 6)) week)
        (s.dailyActivity user (Date.ofDayNumber (today.dayNumber - 13)) week)) := by
  have hend : today.dayNumber - 6 + 7 = today.dayNumber + 1 := by omega
  have hend' : today.dayNumber - 13 + 7 = today.dayNumber - 6 := by omega
  obtain ⟨hmessages, -⟩ := totals_week hend hthis
  obtain ⟨hmessages', -⟩ := totals_week hend' hlast
  constructor
  · exact days_week hthis htoday
  · rw [volumeSeries, entries_week hthis, List.map_map]
    rfl
  · rw [volumeSeries, messageTotal, Integer.natCast_total, List.map_map]
    rfl
  · exact congrArg Nat.cast hmessages
  · rw [volumeSeries, hmessages']
    rfl

/-- **The rate of a week** agrees with windows, as the daily series of both weeks do. -/
theorem rateSeries_agrees (htoday : today.isValid = true)
    (hlast : s.Agrees user (Date.ofDayNumber (today.dayNumber - 13)) week) :
    RateAgrees s user today
      (rateSeries (s.dailyActivity user (Date.ofDayNumber (today.dayNumber - 6)) week)
        (s.dailyActivity user (Date.ofDayNumber (today.dayNumber - 13)) week)) := by
  have hend : today.dayNumber - 6 + 7 = today.dayNumber + 1 := by omega
  have hend' : today.dayNumber - 13 + 7 = today.dayNumber - 6 := by omega
  obtain ⟨-, hactions, hsuccesses⟩ := totals_week hend hthis
  constructor
  · exact days_week hthis htoday
  · rw [rateSeries, entries_week hthis, List.map_map]
    rfl
  · rw [actionTotal, entries_week hthis, List.map_map] at hactions
    rw [successTotal, entries_week hthis, List.map_map] at hsuccesses
    exact ⟨hactions, hsuccesses⟩
  · exact rateOf_week hend hthis
  · rw [rateSeries, rateOf_week hend' hlast]
    rfl

end Weeks

end Dashboard

/-- **Daily series and windows agree.** In every store that was built up by calls at legible
times, the daily series of any days holds what happened on each of them, and adds up to what the
window from the first midnight to the one after the last day counts. The figures of a week are
those of the seven days that end with the given day, and are compared with the seven days
directly before. -/
theorem replay_days_agree {calls : List (Instant × Store.Call)} (hcalls : ∀ e ∈ calls, e.1.Legible)
    (user : Option Int) :
    let s := Store.empty.replay calls
    (∀ (first : Date) (days : Nat), first.isValid = true → 0 < days →
      Store.LegibleDays first.dayNumber days →
        s.Agrees user first days ∧ Date.ofDayNumber first.dayNumber = first) ∧
    ∀ (today : Date) (w : World), today.isValid = true →
      Store.LegibleDays (today.dayNumber - 13) 14 → w.store = s →
        (∃ v, (Dashboard.weeklyVolume user today).runIn w = (.ok v, w) ∧
          Dashboard.VolumeAgrees s user today v) ∧
        ∃ v, (Dashboard.weeklySuccessRate user today).runIn w = (.ok v, w) ∧
          Dashboard.RateAgrees s user today v := by
  intro s
  have hs : s.Legible := Store.replay_legible hcalls Store.empty_legible
  have hordered : s.Ordered := Store.replay_ordered Store.empty_ordered calls
  constructor
  · intro first days hvalid hpositive hdays
    exact ⟨hs.agrees hordered user hpositive hdays, Date.ofDayNumber_dayNumber hvalid⟩
  · intro today w htoday hdays hw
    obtain ⟨hthis, hlast⟩ := Dashboard.agrees_weeks hs hordered user hdays
    have hbegin : Dashboard.daysBack today 6 = Date.ofDayNumber (today.dayNumber - 6) :=
      Dashboard.daysBack_eq (hdays.within (by omega) (by omega))
    have hbefore : Dashboard.daysBack today 13 = Date.ofDayNumber (today.dayNumber - 13) :=
      Dashboard.daysBack_eq (hdays.within (by omega) (by omega))
    constructor
    · refine ⟨_, Dashboard.runIn_weeklyVolume user today w, ?_⟩
      rw [hbegin, hbefore, hw]
      exact Dashboard.volumeSeries_agrees hthis htoday hlast
    · refine ⟨_, Dashboard.runIn_weeklySuccessRate user today w, ?_⟩
      rw [hbegin, hbefore, hw]
      exact Dashboard.rateSeries_agrees hthis htoday hlast

namespace Sample

/-- A message in the last microsecond of a year, after what happened at the first moment of the
next. -/
def yearEnd : List (Instant × Store.Call) :=
  worked ++ [(⟨moment.second - 1, 999999000⟩, .createMessage 1 .user "Happy new year")]

end Sample

/-- A week across the end of a year, with something in its last moment and in the first one after
it. -/
theorem yearEnd_days_agree :
    let s := Store.empty.replay Sample.yearEnd
    (∀ e ∈ Sample.yearEnd, e.1.Legible) ∧
      s.dailyActivity none ⟨2023, 12, 31⟩ 2 =
        [⟨⟨2023, 12, 31⟩, 1, 0, 0⟩, ⟨⟨2024, 1, 1⟩, 1, 2, 1⟩] ∧
      s.Agrees none ⟨2023, 12, 31⟩ 2 ∧
      (∃ v, (Dashboard.weeklyVolume none ⟨2024, 1, 1⟩).runIn (.start s Sample.moment) =
          (.ok v, .start s Sample.moment) ∧ Dashboard.VolumeAgrees s none ⟨2024, 1, 1⟩ v) ∧
      ∃ v, (Dashboard.weeklySuccessRate none ⟨2024, 1, 1⟩).runIn (.start s Sample.moment) =
          (.ok v, .start s Sample.moment) ∧ Dashboard.RateAgrees s none ⟨2024, 1, 1⟩ v := by
  have hcalls : ∀ e ∈ Sample.yearEnd, e.1.Legible := by decide +kernel
  obtain ⟨hdaily, hweekly⟩ := replay_days_agree hcalls none
  refine ⟨hcalls, by decide +kernel, (hdaily ⟨2023, 12, 31⟩ 2 (by decide) (by decide) ?_).1,
    hweekly ⟨2024, 1, 1⟩ (.start _ Sample.moment) (by decide) ?_ rfl⟩
  · unfold Store.LegibleDays
    decide +kernel
  · unfold Store.LegibleDays
    decide +kernel

end ControlPlane
