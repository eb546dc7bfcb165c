import DnetEngine.Lib.IpText
import Mathlib.Control.Monad.Basic

/-! The host route to the endpoint through the physical gateway, and the order in which it and the
tunnel peer are brought up, moved and torn down. The operations on the machine are behind
`TunnelBringup`, in whatever monad their effects live. -/

namespace DnetEngine.Netstate

open Lib

inductive NetstateError
  | operation (detail : String)
  | journal (detail : String)
  deriving DecidableEq

structure ActiveEndpointBypass where
  host : String
  port : UInt16
  deriving DecidableEq

structure HostRoute where
  destination : String
  gateway : IpAddr
  deriving DecidableEq

def HostRoute.forEndpoint (bypass : ActiveEndpointBypass) (gateway : IpAddr) : HostRoute :=
  ⟨bypass.host, gateway⟩

def HostRoute.via (route : HostRoute) (gateway : IpAddr) : HostRoute :=
  ⟨route.destination, gateway⟩

structure TunnelBringup (m : Type → Type) (Bringup : Type) where
  installHostRoute : Bringup → HostRoute → ExceptT NetstateError m Unit
  removeHostRoute : Bringup → HostRoute → ExceptT NetstateError m Unit
  rewriteHostRoute : Bringup → HostRoute → HostRoute → ExceptT NetstateError m Unit
  startTunnel : Bringup → ExceptT NetstateError m Unit
  stopTunnel : Bringup → ExceptT NetstateError m Unit
  rebindTunnel : Bringup → IpAddr → ExceptT NetstateError m Unit

section Order

variable {m : Type → Type} [Monad m] {Bringup : Type} (ops : TunnelBringup m Bringup)
  (bringup : Bringup)

def bringUp (route : HostRoute) : ExceptT NetstateError m Unit := do
  ops.installHostRoute bringup route
  ops.startTunnel bringup

/-- The route is removed even where the stop failed, and the removal's error goes first. -/
def tearDown (route : HostRoute) : m (Except NetstateError Unit) := do
  let stopped ← (ops.stopTunnel bringup).run
  match ← (ops.removeHostRoute bringup route).run with
  | .error error => pure (.error error)
  | .ok () => pure stopped

/-- The route that is installed afterwards, with the outcome. -/
def moveToGateway (current : HostRoute) (newGateway : IpAddr) :
    m (HostRoute × Except NetstateError Unit) := do
  let updated := current.via newGateway
  match ← (ops.rewriteHostRoute bringup current updated).run with
  | .error error => pure (current, .error error)
  | .ok () =>
    let outcome ← (ops.rebindTunnel bringup newGateway).run
    pure (updated, outcome)

end Order

end DnetEngine.Netstate
