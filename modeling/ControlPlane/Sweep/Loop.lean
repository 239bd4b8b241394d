/-
The loop of sweeps.

The loop keeps the plan for the next sweep between two looks at the clock. It plans
and looks for the first time when it starts; a loop that is switched off never
looks. Since the next plan is made before a sweep begins, and a sweep is made as
soon as a look finds its time come, no planned time is passed over.
-/
import ControlPlane.Sweep
import ControlPlane.World

set_option autoImplicit false

namespace ControlPlane

namespace Sweep

/-- The loop between two looks at the clock. -/
structure Loop where
  /-- The first time after a given one at which a sweep is due. -/
  next : Instant → Option Instant
  /-- The budgets, and whether the loop is switched on. -/
  settings : Settings.Sweeper
  /-- When the next sweep is planned. -/
  planned : Plan

namespace Loop

/-- One look at the clock: what clients are told, and the loop after it. -/
def look (l : Loop) (w : World) : List Notice × Loop × World :=
  if l.settings.enabled then
    let (r, w) := (check l.next l.settings l.planned).runIn w
    match r with
    | .ok (planned, notices) => (notices, { l with planned := planned }, w)
    | .error _ => ([], l, w)
  else ([], l, w)

/-- A look at the clock at a time. -/
def lookAt (l : Loop) (t : Instant) (w : World) : List Notice × Loop × World :=
  l.look { w with now := t }

/-- The loop as it starts. -/
def start (next : Instant → Option Instant) (s : Settings.Sweeper) (w : World) :
    List Notice × Loop × World :=
  look ⟨next, s, next w.now⟩ w

/-- Looks at the clock at some times, one after the other: what clients are told
each time. -/
def lookAll (l : Loop) : List Instant → World → List (List Notice) × Loop × World
  | [], w => ([], l, w)
  | t :: rest, w =>
    let (notices, l, w) := l.lookAt t w
    let (more, l, w) := l.lookAll rest w
    (notices :: more, l, w)

end Loop

end Sweep

end ControlPlane
