import DnetEngine.Netstate.Undo

/-! The installer of endpoint host routes: it owns exactly what it created, and every row it creates
is in the undo registry first. The routing table and the resolver are effects. -/

namespace DnetEngine.Netstate

open Lib

/-- A host-route row, by its key. -/
structure Row where
  interfaceLuid : UInt64
  destination : IpAddr
  nextHop : IpAddr
  deriving DecidableEq

def Row.record (row : Row) : UndoRecord :=
  .hostRoute row.interfaceLuid row.destination row.nextHop

/-- `lookup` is the system's resolver; `bestRouteTo` answers with the interface of the best route;
`create` finds a row that is already there. -/
structure RouteTable (m : Type → Type) where
  lookup : String → ExceptT NetstateError m (List IpAddr)
  bestRouteTo : IpAddr → ExceptT NetstateError m UInt64
  routeExists : Row → m Bool
  create : Row → ExceptT NetstateError m Mutation
  store : UndoStore m
  executor : UndoExecutor m

structure OwnedRoute where
  destination : String
  gateway : IpAddr
  id : UndoId
  deriving DecidableEq

structure Installer where
  undo : UndoJournal
  owned : List OwnedRoute
  deriving DecidableEq

section Operations

variable {m : Type → Type} [Monad m] (table : RouteTable m)

def matchingFamily (gateway : IpAddr) (candidates : List IpAddr) :
    Except NetstateError (List IpAddr) :=
  let matching := candidates.filter fun ip => ip.isIpv4 == gateway.isIpv4
  if matching.isEmpty then
    .error (.operation "endpoint has no address in the gateway's address family")
  else .ok matching

def resolveDestination (host : String) (gateway : IpAddr) :
    m (Except NetstateError (List IpAddr)) :=
  match parseIpAddr host.toList with
  | some ip => pure (matchingFamily gateway [ip])
  | none => do
      match ← (table.lookup host).run with
      | .error error => pure (.error error)
      | .ok candidates => pure (matchingFamily gateway candidates)

/-- A row someone else owns is used, and never gets a record that would delete it. -/
def installEach (via : UInt64) (route : HostRoute) :
    List IpAddr → Installer → m (Except NetstateError Unit × Installer)
  | [], installer => pure (.ok (), installer)
  | dest :: rest, installer => do
      let row : Row := ⟨via, dest, route.gateway⟩
      if ← table.routeExists row then
        installEach via route rest installer
      else
        let (applied, undo) ← apply table.store installer.undo row.record fun _ => table.create row
        match applied with
        | .error error => pure (.error error, ⟨undo, installer.owned⟩)
        | .ok none => installEach via route rest ⟨undo, installer.owned⟩
        | .ok (some id) =>
          installEach via route rest
            ⟨undo, installer.owned ++ [⟨route.destination, route.gateway, id⟩]⟩

/-- The interface is the one the system uses to reach the gateway. -/
def install (installer : Installer) (route : HostRoute) :
    m (Except NetstateError Unit × Installer) := do
  match ← resolveDestination table route.destination route.gateway with
  | .error error => pure (.error error, installer)
  | .ok addrs =>
    match ← (table.bestRouteTo route.gateway).run with
    | .error error => pure (.error error, installer)
    | .ok via => installEach table via route addrs installer

/-- What stays owned, with the first error. -/
def removeEach (route : HostRoute) :
    List OwnedRoute → UndoJournal → m (List OwnedRoute × Option NetstateError × UndoJournal)
  | [], journal => pure ([], none, journal)
  | owned :: rest, journal =>
    if owned.destination ≠ route.destination ∨ owned.gateway ≠ route.gateway then do
      let (kept, first, journal) ← removeEach route rest journal
      pure (owned :: kept, first, journal)
    else do
      let (undone, journal) ← undo table.store table.executor journal owned.id
      let (kept, first, journal) ← removeEach route rest journal
      match undone with
      | .ok () => pure (kept, first, journal)
      | .error error => pure (owned :: kept, some error, journal)

def remove (installer : Installer) (route : HostRoute) :
    m (Except NetstateError Unit × Installer) := do
  let (kept, first, journal) ← removeEach table route installer.owned installer.undo
  match first with
  | none => pure (.ok (), ⟨journal, kept⟩)
  | some error => pure (.error error, ⟨journal, kept⟩)

/-- The new route first, so that there is no instant without one. -/
def rewrite (installer : Installer) (current updated : HostRoute) :
    m (Except NetstateError Unit × Installer) :=
  if current = updated then pure (.ok (), installer)
  else do
    match ← install table installer updated with
    | (.error error, installer) => pure (.error error, installer)
    | (.ok (), installer) => remove table installer current

end Operations

/-- The bring-up over an installer, which is kept beside whatever else there is. The tunnel's own
operations are given. -/
def bringupOver {m : Type → Type} [Monad m] (table : RouteTable m)
    (startTunnel stopTunnel : ExceptT NetstateError m Unit)
    (rebindTunnel : IpAddr → ExceptT NetstateError m Unit) :
    TunnelBringup (StateT Installer m) Unit where
  installHostRoute _ route := fun installer => install table installer route
  removeHostRoute _ route := fun installer => remove table installer route
  rewriteHostRoute _ current updated := fun installer => rewrite table installer current updated
  startTunnel _ := fun installer => do pure (← startTunnel.run, installer)
  stopTunnel _ := fun installer => do pure (← stopTunnel.run, installer)
  rebindTunnel _ gateway := fun installer => do pure (← (rebindTunnel gateway).run, installer)

end DnetEngine.Netstate
