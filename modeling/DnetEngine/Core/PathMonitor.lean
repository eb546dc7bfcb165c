import DnetEngine.Core.Endpoints
import DnetEngine.Core.FailoverEvidence
import DnetEngine.Lib.IpText

/-! The path monitor: what the machine's paths are, how good each is, and which carries. -/

namespace DnetEngine

open Lib Failover

inductive PathKind
  | wifi
  | cellular
  | ethernet
  | other
  deriving DecidableEq

/-- A path as the system lists it: what the failover machine sees of it, its kind and its gateway. -/
structure ListedPath (Loss : Type) extends NetworkPath Loss where
  kind : PathKind
  gateway : Option IpAddr

inductive PathSample
  | answered (rtt : Duration)
  | lost
  deriving DecidableEq

namespace PathQuality

variable {Loss : Type} [Field Loss] [LinearOrder Loss]

def unmeasured : PathQuality Loss := { lossEwma := 0, rttEwma := none }

def lossEwmaAlpha : Loss := 1 / 8

/-- Fold one sample into the smoothed quality; a lost one measures no round trip. -/
def observe (quality : PathQuality Loss) (sample : PathSample) : Except Panic (PathQuality Loss) :=
  let lost : Loss := if sample = .lost then 1 else 0
  let loss := lossEwmaAlpha * lost + (1 - lossEwmaAlpha) * quality.lossEwma
  let lossEwma := max 0 (min 1 loss)
  match sample, quality.rttEwma with
  | .lost, _ => .ok { quality with lossEwma }
  | .answered rtt, none => .ok { lossEwma, rttEwma := some rtt }
  | .answered rtt, some srtt => do
      let newSrtt := (1 - rttEwmaAlpha) * Duration.asSecsF64 srtt +
        rttEwmaAlpha * Duration.asSecsF64 rtt
      let rttEwma ← orError .secondsOutOfRange (Duration.fromSecsF64 (max newSrtt 0))
      .ok { lossEwma, rttEwma := some rttEwma }

end PathQuality

/-- The carrying path kept its adapter but its gateway changed. -/
structure GatewayChange where
  interface : InterfaceId
  source : Option IpAddr
  target : Option IpAddr
  deriving DecidableEq

/-- What a refresh of the system's list amounted to. -/
structure PathsDelta where
  changed : Bool
  carryingGateway : Option GatewayChange
  deriving DecidableEq

structure ProbeCadence where
  carryingEvery : Duration := Duration.ofSecs 10
  standbyEvery : Duration := Duration.ofSecs 30
  deriving DecidableEq

def staleAfterIntervals : Nat := 3

structure PathMonitor (Loss : Type) where
  cfg : FailoverConfig Loss
  cadence : ProbeCadence := {}
  paths : List (ListedPath Loss) := []
  state : FailoverState := .new
  /-- When each path was last handed out to be probed, and when it last produced a sample. -/
  probedAt : InterfaceId → Option Instant := fun _ => none
  sampledAt : InterfaceId → Option Instant := fun _ => none

/-- Everything of a path but its quality and the role the monitor gives it. -/
def shape {Loss : Type} (path : ListedPath Loss) :
    InterfaceId × PathKind × Option IpAddr × Bool :=
  (path.interfaceId, path.kind, path.gateway, decide (path.role ≠ .unusable))

def shapes {Loss : Type} (paths : List (ListedPath Loss)) :
    List (InterfaceId × PathKind × Option IpAddr × Bool) :=
  sortByKey (fun shape => shape.1.luid.toNat) (paths.map shape)

namespace PathMonitor

variable {Loss : Type} [Field Loss] [LinearOrder Loss]

def carrying (m : PathMonitor Loss) : Option InterfaceId := m.state.carrying

def path? (m : PathMonitor Loss) (id : InterfaceId) : Option (ListedPath Loss) :=
  m.paths.find? (fun p => decide (p.interfaceId = id))

/-- Exactly the carrying path is `carrying`; paths the system calls unusable stay so. -/
def applyRoles (m : PathMonitor Loss) : PathMonitor Loss :=
  { m with
    paths := m.paths.map (fun path =>
      { path with
        role :=
          if path.role = .unusable then .unusable
          else if some path.interfaceId = m.state.carrying then .carrying
          else .standby }) }

def setCarrying (m : PathMonitor Loss) (path : InterfaceId) : PathMonitor Loss :=
  { m with state := .carryingOn path }.applyRoles

def every (m : PathMonitor Loss) (path : ListedPath Loss) : Duration :=
  if path.role = .carrying then m.cadence.carryingEvery else m.cadence.standbyEvery

/-- The paths to probe at `now`, marked as handed out. -/
def dueProbes (m : PathMonitor Loss) (now : Instant) : PathMonitor Loss × List InterfaceId :=
  let isDue (path : ListedPath Loss) :=
    decide (path.role ≠ .unusable) &&
      (m.probedAt path.interfaceId).all (fun last => decide (m.every path ≤ now - last))
  let due := (m.paths.filter isDue).map (fun path => path.interfaceId)
  ({ m with probedAt := fun id => if id ∈ due then some now else m.probedAt id }, due)

/-- Replace the system's list. Quality already measured is kept for every interface that is still
there; a path that went is forgotten. -/
def pathsChanged (m : PathMonitor Loss) (observed : List (ListedPath Loss)) :
    PathMonitor Loss × PathsDelta :=
  let carryingBefore := m.state.carrying.bind m.path?
  let observed := observed.map (fun path =>
    match m.path? path.interfaceId with
    | some known => { path with quality := known.quality }
    | none => path)
  let carryingGateway := carryingBefore.bind (fun old =>
    (observed.find? (fun p => decide (p.interfaceId = old.interfaceId))).bind (fun new =>
      if new.role ≠ .unusable ∧ new.gateway ≠ old.gateway then
        some ⟨old.interfaceId, old.gateway, new.gateway⟩
      else none))
  let listed (id : InterfaceId) := observed.any (fun p => decide (p.interfaceId = id))
  let usable (id : InterfaceId) :=
    observed.any (fun p => decide (p.interfaceId = id) && decide (p.role ≠ .unusable))
  let next := { m with
    probedAt := fun id => if usable id then m.probedAt id else none
    sampledAt := fun id => if listed id then m.sampledAt id else none
    paths := observed }
  (next.applyRoles, ⟨decide (shapes m.paths ≠ shapes observed), carryingGateway⟩)

def observe (m : PathMonitor Loss) (path : InterfaceId) (sample : PathSample) (now : Instant) :
    Except Panic (PathMonitor Loss) :=
  match m.path? path with
  | none => .ok m
  | some p => do
      let quality ← p.quality.observe sample
      .ok { m with
        paths := updateFirst (fun p => decide (p.interfaceId = path)) (fun p => { p with quality })
          m.paths
        sampledAt := fun id => if id = path then some now else m.sampledAt id }

/-- The paths as the decision sees them: one whose last sample is stale reads as unmeasured. -/
def evidence (m : PathMonitor Loss) (now : Instant) : List (NetworkPath Loss) :=
  m.paths.map (fun path =>
    let fresh := (m.sampledAt path.interfaceId).any (fun sampled =>
      decide (now - sampled ≤ m.every path * staleAfterIntervals))
    if fresh then path.toNetworkPath
    else { path.toNetworkPath with quality := .unmeasured })

def evaluate (m : PathMonitor Loss) (now : Instant) : PathMonitor Loss × Decision :=
  let (state, decision) := m.state.evaluate m.cfg (m.evidence now) now
  ({ m with state }.applyRoles, decision)

end PathMonitor

end DnetEngine
