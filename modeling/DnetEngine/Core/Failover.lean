import DnetEngine.Core.Domain
import DnetEngine.Lib.Clock
import DnetEngine.Lib.SortFind
import Mathlib.Algebra.Field.Defs

/-! Which path carries traffic, and when that changes. Loss fractions are taken in any ordered
field. -/

namespace DnetEngine

open Lib

instance : LT QualityBand := ⟨fun low high => low.ord < high.ord⟩

instance (low high : QualityBand) : Decidable (low < high) :=
  inferInstanceAs (Decidable (low.ord < high.ord))

structure QualityThresholds (Loss : Type) where
  poorLoss : Loss
  unusableLoss : Loss
  poorRtt : Duration

structure PathQuality (Loss : Type) where
  lossEwma : Loss
  rttEwma : Option Duration

inductive PathRole
  | carrying
  | standby
  | unusable
  deriving DecidableEq

structure NetworkPath (Loss : Type) where
  interfaceId : InterfaceId
  quality : PathQuality Loss
  role : PathRole
  preference : Int

structure FailoverConfig (Loss : Type) where
  thresholds : QualityThresholds Loss
  degradeFor : Duration
  unusableFor : Duration
  stableFor : Duration
  minDwell : Duration
  maxMoves : Nat
  window : Duration

namespace Failover

inductive MoveReason
  | acquired
  | lost
  | degraded
  | preferred
  deriving DecidableEq

inductive Decision
  | stay
  | move (source : Option InterfaceId) (target : InterfaceId) (reason : MoveReason)
  | noPath
  deriving DecidableEq

structure FailoverState where
  carrying : Option InterfaceId := none
  movedAt : Option Instant := none
  belowGoodSince : Option Instant := none
  unusableSince : Option Instant := none
  goodSince : InterfaceId → Option Instant := fun _ => none
  moves : List Instant := []

def FailoverState.new : FailoverState := {}

def FailoverState.carryingOn (path : InterfaceId) : FailoverState := { carrying := some path }

section Evaluation

variable {Loss : Type} [Field Loss] [LinearOrder Loss]

def isMeasured (quality : PathQuality Loss) : Bool :=
  quality.rttEwma.isSome || decide (0 < quality.lossEwma)

def band (quality : PathQuality Loss) (thresholds : QualityThresholds Loss) : QualityBand :=
  if thresholds.unusableLoss ≤ quality.lossEwma then .unusable
  else if thresholds.poorLoss ≤ quality.lossEwma ∨
      quality.rttEwma.any (fun rtt => decide (thresholds.poorRtt ≤ rtt)) = true then .poor
  else .good

variable (cfg : FailoverConfig Loss)

def bandOf (p : NetworkPath Loss) : QualityBand := band p.quality cfg.thresholds

def usable (p : NetworkPath Loss) : Bool := decide (p.role ≠ .unusable)

def sameBandMargin : Loss := 3 / 20

/-- A higher band, or among poor paths a measurably less lossy one. -/
def isBetter (current candidate : NetworkPath Loss) : Bool :=
  decide (bandOf cfg current < bandOf cfg candidate) ||
    (decide (bandOf cfg current = .poor) && decide (bandOf cfg candidate = .poor) &&
      isMeasured candidate.quality &&
      decide (candidate.quality.lossEwma + sameBandMargin ≤ current.quality.lossEwma))

/-- Best band, then the user's preference, then lower round-trip time, then lower loss. -/
def ranking (a b : NetworkPath Loss) : Ordering :=
  let rtt (p : NetworkPath Loss) := p.quality.rttEwma.getD Duration.maximum
  (compare (bandOf cfg b).ord (bandOf cfg a).ord).then
    ((compare b.preference a.preference).then
      ((compare (rtt a) (rtt b)).then (compare a.quality.lossEwma b.quality.lossEwma)))

def best (paths : List (NetworkPath Loss)) (eligible : NetworkPath Loss → Bool) :
    Option (NetworkPath Loss) :=
  minBy (ranking cfg) (paths.filter (fun p => usable p && eligible p))

def proves (p : NetworkPath Loss) : Bool :=
  usable p && decide (bandOf cfg p = .good) && isMeasured p.quality

/-- The clock of one path: it runs on while the path proves itself and stops otherwise. -/
def noteGood (now : Instant) (since : InterfaceId → Option Instant) (p : NetworkPath Loss) :
    InterfaceId → Option Instant :=
  fun id =>
    if id = p.interfaceId then if proves cfg p then some ((since id).getD now) else none
    else since id

/-- The clocks of the paths still usable, each brought up to date. -/
def refreshGood (paths : List (NetworkPath Loss)) (now : Instant)
    (since : InterfaceId → Option Instant) : InterfaceId → Option Instant :=
  let retained := fun id =>
    if paths.any (fun p => decide (p.interfaceId = id) && usable p) then since id else none
  paths.foldl (noteGood cfg now) retained

namespace FailoverState

/-- The moves that still count at `now`. -/
def recentMoves (s : FailoverState) (now : Instant) : List Instant :=
  recent cfg.window now s.moves

def refreshed (s : FailoverState) (paths : List (NetworkPath Loss)) (now : Instant) :
    FailoverState :=
  { s with
    goodSince := refreshGood cfg paths now s.goodSince
    moves := s.recentMoves cfg now }

def carryingPath (s : FailoverState) (paths : List (NetworkPath Loss)) :
    Option (NetworkPath Loss) :=
  (s.carrying.bind (fun id => paths.find? (fun p => decide (p.interfaceId = id)))).filter usable

def resetTimers (s : FailoverState) : FailoverState :=
  { s with movedAt := none, belowGoodSince := none, unusableSince := none }

/-- A move that replaces what was carrying counts against the budget and starts the dwell. -/
def movedTo (s : FailoverState) (target : InterfaceId) (now : Instant) (counts : Bool) :
    FailoverState :=
  let s := { s with carrying := some target, belowGoodSince := none, unusableSince := none }
  if counts then { s with movedAt := some now, moves := s.moves ++ [now] } else s

/-- How long the carrying path has been bad. -/
def timed (s : FailoverState) (current : NetworkPath Loss) (paths : List (NetworkPath Loss))
    (now : Instant) : FailoverState :=
  { s.refreshed cfg paths now with
    belowGoodSince := if bandOf cfg current < .good then some (s.belowGoodSince.getD now) else none
    unusableSince :=
      if bandOf cfg current = .unusable then some (s.unusableSince.getD now) else none }

def dwelled (s : FailoverState) (now : Instant) : Bool :=
  s.movedAt.all (fun moved => decide (cfg.minDwell ≤ now - moved))

/-- A timer has run for at least this long. -/
def held (since : Option Instant) (now : Instant) (long : Duration) : Bool :=
  since.any (fun s => decide (long ≤ now - s))

def stable (s : FailoverState) (now : Instant) (p : NetworkPath Loss) : Bool :=
  decide (bandOf cfg p = .good) && held (s.goodSince p.interfaceId) now cfg.stableFor

def urgent (s : FailoverState) (current : NetworkPath Loss) (now : Instant) : Bool :=
  decide (bandOf cfg current = .unusable) && held s.unusableSince now cfg.unusableFor

def proven (s : FailoverState) (now : Instant) (p : NetworkPath Loss) : Bool :=
  if bandOf cfg p = .good then s.stable cfg now p else isMeasured p.quality

/-- A path worth leaving the carrying one for. -/
def ready (s : FailoverState) (current : NetworkPath Loss) (now : Instant)
    (p : NetworkPath Loss) : Bool :=
  decide (p.interfaceId ≠ current.interfaceId) && isBetter cfg current p &&
    (s.urgent cfg current now || s.proven cfg now p)

def preferred (s : FailoverState) (current : NetworkPath Loss) (now : Instant)
    (p : NetworkPath Loss) : Bool :=
  decide (p.interfaceId ≠ current.interfaceId) && decide (current.preference < p.preference) &&
    s.stable cfg now p

def leaveFor (s : FailoverState) (current : NetworkPath Loss) (paths : List (NetworkPath Loss))
    (now : Instant) : Option (NetworkPath Loss) :=
  let sustained := s.urgent cfg current now || held s.belowGoodSince now cfg.degradeFor
  if bandOf cfg current < .good ∧ sustained = true then best cfg paths (s.ready cfg current now)
  else none

def returnTo (s : FailoverState) (current : NetworkPath Loss) (paths : List (NetworkPath Loss))
    (now : Instant) : Option (NetworkPath Loss) :=
  if bandOf cfg current = .good then best cfg paths (s.preferred cfg current now) else none

def evaluate (s : FailoverState) (paths : List (NetworkPath Loss)) (now : Instant) :
    FailoverState × Decision :=
  match s.carryingPath paths with
  | none =>
    let lost := s.carrying.isSome
    match best cfg paths (fun _ => true) with
    | none => ({ (s.refreshed cfg paths now).resetTimers with carrying := none }, .noPath)
    | some target =>
      ((s.refreshed cfg paths now).movedTo target.interfaceId now lost,
        .move s.carrying target.interfaceId (if lost then .lost else .acquired))
  | some current =>
    let next := s.timed cfg current paths now
    if s.dwelled cfg now && decide (next.moves.length < cfg.maxMoves) then
      match next.leaveFor cfg current paths now with
      | some target =>
        (next.movedTo target.interfaceId now true,
          .move (some current.interfaceId) target.interfaceId .degraded)
      | none =>
        match next.returnTo cfg current paths now with
        | some target =>
          (next.movedTo target.interfaceId now true,
            .move (some current.interfaceId) target.interfaceId .preferred)
        | none => (next, .stay)
    else (next, .stay)

/-- Why the machine stays on the carrying path: the first of these that is true. With nothing
carrying there is nothing to stay on. -/
def explainStaying (s : FailoverState) (paths : List (NetworkPath Loss)) (now : Instant) : NoMove :=
  match s.carryingPath paths with
  | none => .onlyPath
  | some current =>
    let others := paths.filter (fun p => usable p && decide (p.interfaceId ≠ current.interfaceId))
    if others.isEmpty then .onlyPath
    else if !others.any (isBetter cfg current) then .noBetterPath
    else if !s.dwelled cfg now then .dwell
    else if cfg.maxMoves ≤ (s.recentMoves cfg now).length then .budget
    else .proving

/-- What one evaluation can do. -/
inductive Outcome (s : FailoverState) (paths : List (NetworkPath Loss)) (now : Instant) :
    FailoverState → Decision → Prop
  | exhausted (idle : s.carryingPath paths = none) (nothing : best cfg paths (fun _ => true) = none) :
      Outcome s paths now { (s.refreshed cfg paths now).resetTimers with carrying := none } .noPath
  | acquired (target : NetworkPath Loss) (idle : s.carryingPath paths = none)
      (fresh : s.carrying = none) (chosen : best cfg paths (fun _ => true) = some target) :
      Outcome s paths now ((s.refreshed cfg paths now).movedTo target.interfaceId now false)
        (.move none target.interfaceId .acquired)
  | lost (source : InterfaceId) (target : NetworkPath Loss) (idle : s.carryingPath paths = none)
      (carried : s.carrying = some source) (chosen : best cfg paths (fun _ => true) = some target) :
      Outcome s paths now ((s.refreshed cfg paths now).movedTo target.interfaceId now true)
        (.move (some source) target.interfaceId .lost)
  | stays (current : NetworkPath Loss) (carries : s.carryingPath paths = some current) :
      Outcome s paths now (s.timed cfg current paths now) .stay
  | degraded (current target : NetworkPath Loss) (carries : s.carryingPath paths = some current)
      (rested : s.dwelled cfg now = true) (budget : (s.recentMoves cfg now).length < cfg.maxMoves)
      (leaves : (s.timed cfg current paths now).leaveFor cfg current paths now = some target) :
      Outcome s paths now ((s.timed cfg current paths now).movedTo target.interfaceId now true)
        (.move (some current.interfaceId) target.interfaceId .degraded)
  | preferred (current target : NetworkPath Loss) (carries : s.carryingPath paths = some current)
      (rested : s.dwelled cfg now = true) (budget : (s.recentMoves cfg now).length < cfg.maxMoves)
      (returns : (s.timed cfg current paths now).returnTo cfg current paths now = some target) :
      Outcome s paths now ((s.timed cfg current paths now).movedTo target.interfaceId now true)
        (.move (some current.interfaceId) target.interfaceId .preferred)

theorem evaluate_outcome (s : FailoverState) (paths : List (NetworkPath Loss)) (now : Instant) :
    Outcome cfg s paths now (s.evaluate cfg paths now).1 (s.evaluate cfg paths now).2 := by
  unfold evaluate
  cases carries : s.carryingPath paths with
  | none =>
    cases chosen : best cfg paths (fun _ => true) with
    | none => exact .exhausted carries chosen
    | some target =>
      cases carried : s.carrying with
      | none => exact .acquired target carries carried chosen
      | some source => exact .lost source target carries carried chosen
  | some current =>
    dsimp only
    split
    next free =>
      simp only [Bool.and_eq_true, decide_eq_true_eq] at free
      cases leaves : (s.timed cfg current paths now).leaveFor cfg current paths now with
      | some target => exact .degraded current target carries free.1 free.2 leaves
      | none =>
        cases returns : (s.timed cfg current paths now).returnTo cfg current paths now with
        | some target => exact .preferred current target carries free.1 free.2 returns
        | none => exact .stays current carries
    next => exact .stays current carries

end FailoverState

end Evaluation

end Failover

end DnetEngine
