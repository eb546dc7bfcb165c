import DnetEngine.Core.Domain
import DnetEngine.Netstate.HostRoute

/-! Bringing one tunnel up, carrying it over to another gateway and taking it down. Everything the
machine does is behind `TunnelHost`, in whatever monad its effects live; the tunnel that is up is
passed from call to call. -/

namespace DnetEngine.Tunnels

open Lib Netstate

inductive SupervisorError
  | coreFailedPersistently (core : CoreBinding)
  | spawn (core : CoreBinding) (detail : String)
  | notReady (core : CoreBinding) (detail : String)
  | runtime (detail : String)
  deriving DecidableEq

structure CoreRuntime (m : Type → Type) (Runtime : Type) where
  reapOrphans : Runtime → ExceptT SupervisorError m Unit
  spawnCore : Runtime → CoreBinding → ExceptT SupervisorError m Unit
  awaitAdapter : Runtime → ExceptT SupervisorError m Unit
  killCore : Runtime → CoreBinding → ExceptT SupervisorError m Unit
  replayUndo : Runtime → ExceptT SupervisorError m Unit

/-- Where the peer of an AmneziaWG plan lives; its keys are left to the machine. -/
structure AwgTunnel where
  address : IpAddr
  prefixLen : UInt8
  deriving DecidableEq

structure TunnelPlan where
  core : CoreBinding
  bypass : ActiveEndpointBypass
  awg : Option AwgTunnel
  deriving DecidableEq

structure Prepared (Runtime Bringup : Type) where
  runtime : Runtime
  bringup : Option Bringup

structure TunnelHost (m : Type → Type) (Runtime Bringup : Type) where
  cores : CoreRuntime m Runtime
  peers : TunnelBringup m Bringup
  gateway : ExceptT NetstateError m IpAddr
  prepare : TunnelPlan → ExceptT String m (Prepared Runtime Bringup)
  discardConfig : m Unit
  flushResolverCache : m Unit

structure Running (Runtime Bringup : Type) where
  runtime : Runtime
  peer : Option (Bringup × HostRoute)
  peerTouched : Bool
  deriving DecidableEq

def causeOf (error : SupervisorError) (started : CoreBinding) : FailureCause :=
  match error with
  | .coreFailedPersistently core => .coreFailedPersistently core
  | .spawn core _ | .notReady core _ => .coreFailedPersistently core
  | .runtime _ => .coreFailedPersistently started

variable {m : Type → Type} [Monad m] {Runtime Bringup : Type}

section Cores

variable (cores : CoreRuntime m Runtime) (runtime : Runtime)

def startCores (active : CoreBinding) : ExceptT SupervisorError m Unit := do
  cores.reapOrphans runtime
  if active = .amneziaWgCore then
    cores.spawnCore runtime .amneziaWgCore
    cores.awaitAdapter runtime
  cores.spawnCore runtime .primaryCore

/-- The replay runs even where a kill failed, and its error goes first. -/
def shutdownAll : m (Except SupervisorError Unit) := do
  let primary ← (cores.killCore runtime .primaryCore).run
  let amnezia ← (cores.killCore runtime .amneziaWgCore).run
  match ← (cores.replayUndo runtime).run with
  | .error error => pure (.error error)
  | .ok () => pure (primary >>= fun _ => amnezia)

end Cores

section Calls

variable (host : TunnelHost m Runtime Bringup)

/-- Peer, route, cores, undo. What fails is logged and stops nothing. -/
def takeDown (running : Running Runtime Bringup) : m Unit := do
  match running.peerTouched, running.peer with
  | true, some (bringup, route) =>
    let _ ← tearDown host.peers bringup route
  | _, _ => pure ()
  let _ ← shutdownAll host.cores running.runtime

def down (running : Running Runtime Bringup) : m Unit := do
  takeDown host running
  host.flushResolverCache

/-- The peer of what was prepared: only a plan for AmneziaWG has one. -/
def peerOf (plan : TunnelPlan) (gateway : IpAddr) (prepared : Prepared Runtime Bringup) :
    Option (Bringup × HostRoute) :=
  match prepared.bringup, plan.awg with
  | some bringup, some _ => some (bringup, .forEndpoint plan.bypass gateway)
  | _, _ => none

/-- The end of a start, from the cores being up: the peer is configured through the AmneziaWG
core's control pipe. -/
def startPeer (running : Running Runtime Bringup) :
    m (Except FailureCause Unit × Option (Running Runtime Bringup)) :=
  match running.peer with
  | none => pure (.ok (), some running)
  | some (bringup, route) => do
      let running := ⟨running.runtime, some (bringup, route), true⟩
      match ← (bringUp host.peers bringup route).run with
      | .error _ =>
        down host running
        pure (.error (.coreFailedPersistently .amneziaWgCore), none)
      | .ok () => pure (.ok (), some running)

/-- The part of a start that has something to take down where it fails. -/
def startPrepared (plan : TunnelPlan) (running : Running Runtime Bringup) :
    m (Except FailureCause Unit × Option (Running Runtime Bringup)) := do
  host.flushResolverCache
  let started ← (startCores host.cores running.runtime plan.core).run
  host.discardConfig
  match started with
  | .error error =>
    down host running
    pure (.error (causeOf error plan.core), none)
  | .ok () => startPeer host running

def takeDownPrevious : Option (Running Runtime Bringup) → m Unit
  | some previous => takeDown host previous
  | none => pure ()

def start (active : Option (Running Runtime Bringup)) (plan : TunnelPlan) :
    m (Except FailureCause Unit × Option (Running Runtime Bringup)) := do
  takeDownPrevious host active
  match ← host.gateway.run with
  | .error _ => pure (.error .noUsablePath, none)
  | .ok gateway =>
    match ← (host.prepare plan).run with
    | .error detail => pure (.error (.configurationInvalid detail), none)
    | .ok prepared =>
      startPrepared host plan ⟨prepared.runtime, peerOf plan gateway prepared, false⟩

/-- The route the table holds is kept even where the rebind failed after the rewrite. -/
def carryOver (active : Option (Running Runtime Bringup)) (gateway : IpAddr) :
    m (Except NetstateError Unit × Option (Running Runtime Bringup)) :=
  match active with
  | none => pure (.error (.operation "no tunnel is up"), none)
  | some running =>
    match running.peer with
    | none => pure (.ok (), some running)
    | some (bringup, route) => do
        let (installed, outcome) ← moveToGateway host.peers bringup route gateway
        pure (outcome, some { running with peer := some (bringup, installed) })

def stop (active : Option (Running Runtime Bringup)) : m (Option (Running Runtime Bringup)) :=
  match active with
  | some running => do
      down host running
      host.discardConfig
      pure none
  | none => pure none

end Calls

end DnetEngine.Tunnels
