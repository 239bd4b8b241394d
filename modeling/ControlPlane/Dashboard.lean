/-
The dashboard.

The dashboard shows how many tasks there were, how many of the actions succeeded,
and how both compare with the time before. Shares are whole percents, cut off;
changes are whole percents, rounded, with a sign.
-/
import ControlPlane.Procedure

set_option autoImplicit false

namespace ControlPlane

namespace Dashboard

/-- The number of days in a week. -/
def week : Nat := 7

/-! ## Figures -/

/-- A part of a whole in percent, cut off toward zero; no part of nothing. The
computation is done in signed 64-bit words. -/
def percent (part whole : Int) : Int :=
  if whole ≤ 0 then 0 else (WordRange.wrapSigned64 (part * 100)).tdiv whole

/-- A hundred. -/
def hundred : Double := (Binary.ofNat? .double 100).getD default

/-- The change from one number to another in percent, in double precision, if the
first is not zero. -/
def change? (current previous : Int) : Option Double :=
  match Binary.ofInt? .double (WordRange.wrapSigned64 (current - previous)),
    Binary.ofInt? .double previous with
  | some difference, some base => (difference.div base).bind (·.mul hundred)
  | _, _ => none

/-- A change in whole percents: rounded, a half to the even neighbour, and with a
sign, also where it rounds to zero. -/
def signedPercent (x : Double) : String :=
  (if !x.negative || x.isZero then "+" else "") ++ (if x.negative then "-" else "") ++
    Integer.text x.roundEvenAbs ++ "%"

/-- The change from one number to another as it is shown. Any growth from nothing
is a hundred percent. -/
def growth (current previous : Int) : String :=
  if previous = 0 then (if 0 < current then "+100%" else "+0%")
  else
    match change? current previous with
    | some x => signedPercent x
    | none => "+0%"

/-! ## Days -/

/-- A day some days before another one; at the beginning of the calendar, the same
day. -/
def daysBack (day : Date) (n : Nat) : Date :=
  let d := Date.ofDayNumber (day.dayNumber - n)
  if d.year < Date.firstYear then day else d

/-- The first moment of a day. -/
def midnight (day : Date) : Instant := .startOfDay day.dayNumber

/-! ## Summary -/

/-- The figures at a glance. -/
structure Summary where
  /-- The tasks created today. -/
  todayTasks : Nat
  /-- Compared with yesterday. -/
  todayGrowth : String
  /-- The share of actions that succeeded, in percent. -/
  successRate : Int
  /-- Compared with the seven days before today. -/
  successGrowth : String
deriving DecidableEq, Repr

/-- A summary as a value. -/
def Summary.toJson (s : Summary) : Json :=
  .object
    [("todayTasks", Json.int s.todayTasks), ("todayGrowth", .string s.todayGrowth),
      ("successRate", Json.int s.successRate), ("successGrowth", .string s.successGrowth)]

/-- The share of the actions in a window that succeeded. -/
def actionRate (w : Window) : Procedure Int := do
  let total ← Procedure.call (.countActions w none)
  let success ← Procedure.call (.countActions w (some .success))
  pure (percent success total)

/-- The summary for a user, or for all, on the day of a given time. -/
def summary (userId : Option Int) (now : Instant) : Procedure Summary := do
  let today := now.date
  let todayStart := midnight today
  let yesterdayStart := midnight (daysBack today 1)
  let weekAgo := midnight (daysBack today week)
  let todayTasks ← Procedure.call (.countMessages ⟨userId, some todayStart, none⟩)
  let yesterdayTasks ←
    Procedure.call (.countMessages ⟨userId, some yesterdayStart, some todayStart⟩)
  let successRate ← actionRate ⟨userId, none, none⟩
  let lastWeekRate ← actionRate ⟨userId, some weekAgo, some todayStart⟩
  pure ⟨todayTasks, growth todayTasks yesterdayTasks, successRate,
    growth successRate lastWeekRate⟩

/-! ## Weeks -/

/-- A week's figure, compared with the week before, and its value day by day. -/
structure Series where
  /-- The name of the figure. -/
  name : String
  /-- The figure of the whole week. -/
  figure : Int
  /-- Compared with the week before. -/
  growth : String
  /-- The days of the week. -/
  days : List Date
  /-- The figure of each day. -/
  chart : List Int
deriving DecidableEq, Repr

/-- A series as a value. -/
def Series.toJson (s : Series) : Json :=
  .object
    [(s.name, Json.int s.figure), ("growth", .string s.growth),
      ("days", .array (s.days.map fun d => .string d.text)),
      ("chartData", .array (s.chart.map Json.int))]

/-- The seven days that end with a day, and the seven days before them. -/
def twoWeeks (userId : Option Int) (today : Date) :
    Procedure (List DailyActivity × List DailyActivity) := do
  let this ← Procedure.call (.dailyActivity userId (daysBack today (week - 1)) week)
  let last ← Procedure.call (.dailyActivity userId (daysBack today (2 * week - 1)) week)
  pure (this, last)

/-- How many messages some days had. -/
def messageTotal (days : List DailyActivity) : Nat := Integer.total (days.map (·.messages))

/-- How many actions some days had. -/
def actionTotal (days : List DailyActivity) : Nat := Integer.total (days.map (·.actions))

/-- How many actions of some days succeeded. -/
def successTotal (days : List DailyActivity) : Nat := Integer.total (days.map (·.successful))

/-- The share of the actions of some days that succeeded. -/
def rateOf (days : List DailyActivity) : Int := percent (successTotal days) (actionTotal days)

/-- The number of tasks in a week. -/
def weeklyVolume (userId : Option Int) (today : Date) : Procedure Series := do
  let (this, last) ← twoWeeks userId today
  let volume := messageTotal this
  pure ⟨"volume", volume, growth volume (messageTotal last), this.map (·.day),
    this.map fun d => (d.messages : Int)⟩

/-- The share of actions that succeeded in a week. -/
def weeklySuccessRate (userId : Option Int) (today : Date) : Procedure Series := do
  let (this, last) ← twoWeeks userId today
  let rate := rateOf this
  pure ⟨"rate", rate, growth rate (rateOf last), this.map (·.day),
    this.map fun d => percent d.successful d.actions⟩

/-! ## Counts by state -/

/-- Counts as a value. -/
def countsJson (counts : List (String × Nat)) : Json :=
  .object (counts.map fun (name, n) => (name, Json.int n))

/-- How many actions there are. -/
def statsActionTotal (s : StoreStats) : Nat := Integer.total (s.actions.map (·.2))

/-- How many actions have succeeded. -/
def statsSuccesses (s : StoreStats) : Nat :=
  match s.actions.find? (·.1 == Action.Status.success.name) with
  | some (_, n) => n
  | none => 0

/-- The share of all actions that have succeeded. -/
def statsRate (s : StoreStats) : Int := percent (statsSuccesses s) (statsActionTotal s)

/-- The counts of the store as a value. -/
def statsJson (s : StoreStats) : Json :=
  .object
    [("actionSuccessRate", Json.int (statsRate s)), ("actions", countsJson s.actions),
      ("conversations", countsJson s.conversations), ("messages", Json.int s.messages)]

end Dashboard

end ControlPlane
