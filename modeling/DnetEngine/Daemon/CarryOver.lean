import DnetEngine.Core.PathMonitor
import DnetEngine.Daemon.Tunnels
import DnetEngine.Lib.Run
import DnetEngine.Netstate.RouteInstaller

/-! Where a carry-over puts the tunnel. From the watch to the routing table only the gateway is
handed on, and the interface is looked up again; here every operation of the system succeeds, and
the interface the route is on is compared with the one of the path. -/

namespace DnetEngine.CarryOver

open Lib Netstate Tunnels

/-- The watch of a tunnel on this system: a path is carried over to by its gateway. -/
def carryOver {m : Type → Type} [Monad m] {Runtime Bringup Loss : Type}
    (host : TunnelHost m Runtime Bringup) (active : Option (Running Runtime Bringup))
    (path : ListedPath Loss) : m (Except String Unit × Option (Running Runtime Bringup)) :=
  match path.gateway with
  | none => pure (.error "the path has no gateway", active)
  | some gateway => do
      let (outcome, active) ← Tunnels.carryOver host active gateway
      pure (outcome.mapError NetstateError.display, active)

/-- The network at the time of a call: which addresses are on-link on which interface, and the
system's default gateway. The interface of the best route to an address is one on which the address
is on-link, if there is one. -/
structure Network where
  onLink : UInt64 → IpAddr → Bool
  gateway : IpAddr
  best : IpAddr → UInt64
  answers : ∀ address, (∃ luid, onLink luid address = true) → onLink (best address) address = true

/-- Every operation of the system succeeds. -/
def Network.table (net : Network) : RouteTable (StateM (List Row)) where
  lookup _ := pure []
  bestRouteTo address := pure (net.best address)
  routeExists row := fun rows => (decide (row ∈ rows), rows)
  create row := fun rows =>
    if row ∈ rows then (.ok .alreadyPresent, rows) else (.ok .applied, row :: rows)
  store := { load := pure .default, save := fun _ => pure () }
  executor := { reverse := fun entry rows => (.ok (), rows.filter (·.record ≠ entry.record)) }

abbrev Host := StateT Installer (StateM (List Row))

def Network.host (net : Network) : TunnelHost Host Unit Unit where
  cores :=
    { reapOrphans := fun _ => pure ()
      spawnCore := fun _ _ => pure ()
      awaitAdapter := fun _ => pure ()
      killCore := fun _ _ => pure ()
      replayUndo := fun _ installer => do
        let (_, undo) ← replay net.table.store net.table.executor installer.undo
        pure (.ok (), ⟨undo, installer.owned⟩) }
  peers := bringupOver net.table (pure ()) (pure ()) fun _ => pure ()
  gateway := pure net.gateway
  -- A tunnel gets an installer of its own.
  prepare plan := fun installer =>
    pure (.ok ⟨(), if plan.awg.isSome then some () else none⟩, ⟨installer.undo, []⟩)
  discardConfig := pure ()
  flushResolverCache := pure ()

/-- The tunnel that is up, its installer with the undo registry, and the routing table. -/
structure State where
  active : Option (Running Unit Unit)
  installer : Installer
  rows : List Row
  deriving DecidableEq

structure Carry (Loss : Type) where
  net : Network
  path : ListedPath Loss
  returned : Except String Unit

def State.next {Loss : Type} (state : State) (carry : Carry Loss) : Option State :=
  let done := carryOver carry.net.host state.active carry.path state.installer state.rows
  if done.1.1.1 = carry.returned then some ⟨done.1.1.2, done.1.2, done.2⟩ else none

def State.Steps {Loss : Type} (state : State) (carry : Carry Loss) (after : State) : Prop :=
  state.next carry = some after

/-- A start on a service that has nothing outstanding, over the rows that others made. -/
def begin (net : Network) (plan : TunnelPlan) (nextId : Nat) (others : List Row) :
    Except FailureCause Unit × State :=
  let done := start net.host none plan ⟨⟨journalVersion, nextId, []⟩, []⟩ others
  (done.1.1.1, ⟨done.1.1.2, done.1.2, done.2⟩)

/-- The gateway the route goes to and the interface it was looked up on, after one more call: a
carry-over to the gateway that is tracked already looks nothing up. -/
def relook {Loss : Type} (looked : IpAddr × UInt64) (carry : Carry Loss) : IpAddr × UInt64 :=
  match carry.path.gateway, carry.returned with
  | some gateway, .ok () =>
    if gateway = looked.1 then looked else (gateway, carry.net.best gateway)
  | _, _ => looked

def lookedUp {Loss : Type} (first : Network) : List (Taken State (Carry Loss)) → IpAddr × UInt64
  | [] => (first.gateway, first.best first.gateway)
  | taken :: older => relook (lookedUp first older) taken.label

theorem bind_rows {Value Result : Type} (first : StateM (List Row) Value)
    (rest : Value → StateM (List Row) Result) (rows : List Row) :
    (first >>= rest) rows = rest (first rows).1 (first rows).2 := rfl

section Installing

variable {host : String} {endpoint : IpAddr} (net : Network)

theorem apply_create {row : Row} {rows : List Row} (new : row ∉ rows) (journal : UndoJournal) :
    apply net.table.store journal row.record (fun _ => net.table.create row) rows =
      match row.record.validate with
      | .error error => ((.error error, journal), rows)
      | .ok () => ((.ok (some journal.nextId), journal.register row.record), row :: rows) := by
  have created : (net.table.create row).run rows = (.ok .applied, row :: rows) := if_neg new
  rw [apply]
  cases row.record.validate with
  | error => rfl
  | ok _ =>
    dsimp only
    rw [bind_rows]
    change (((net.table.create row).run >>= _) rows : _ × _) = _
    rw [bind_rows, created]
    rfl

/-- What an install of the route does: it fails and changes nothing, it finds the row there, or it
creates and owns it. -/
inductive Installs (installer : Installer) (host : String) (row : Row) (rows : List Row) :
    (Except NetstateError Unit × Installer) × List Row → Prop
  | failed (error : NetstateError) : Installs installer host row rows ((.error error, installer), rows)
  | present (there : row ∈ rows) : Installs installer host row rows ((.ok (), installer), rows)
  | created (new : row ∉ rows) : Installs installer host row rows
      ((.ok (), ⟨installer.undo.register row.record,
        installer.owned ++ [⟨host, row.nextHop, installer.undo.nextId⟩]⟩), row :: rows)

theorem installEach_installs (via : UInt64) (gateway : IpAddr) (installer : Installer)
    (rows : List Row) :
    Installs installer host ⟨via, endpoint, gateway⟩ rows
      (installEach net.table via ⟨host, gateway⟩ [endpoint] installer rows) := by
  change Installs _ _ _ _ ((if decide ((⟨via, endpoint, gateway⟩ : Row) ∈ rows) = true then _ else _ :
    StateM (List Row) _) rows)
  by_cases there : (⟨via, endpoint, gateway⟩ : Row) ∈ rows
  · rw [if_pos (decide_eq_true there)]
    exact .present there
  · rw [if_neg (by simpa using there), bind_rows, apply_create net there]
    cases UndoRecord.validate (Row.record ⟨via, endpoint, gateway⟩) with
    | error error => exact .failed error
    | ok => exact .created there

theorem matchingFamily_cases (endpoint gateway : IpAddr) :
    (∃ error, matchingFamily gateway [endpoint] = .error error) ∨
      matchingFamily gateway [endpoint] = .ok [endpoint] := by
  rw [matchingFamily]
  cases same : endpoint.isIpv4 == gateway.isIpv4 with
  | true => exact .inr (by simp [same])
  | false => exact .inl ⟨_, by simp only [List.filter, same]; rfl⟩

theorem install_installs (literal : parseIpAddr host.toList = some endpoint) (installer : Installer)
    (gateway : IpAddr) (rows : List Row) :
    Installs installer host ⟨net.best gateway, endpoint, gateway⟩ rows
      (install net.table installer ⟨host, gateway⟩ rows) := by
  rw [install, resolveDestination, literal]
  dsimp only
  rcases matchingFamily_cases endpoint gateway with ⟨error, family⟩ | family
  · rw [family]
    exact .failed error
  · rw [family]
    exact installEach_installs net (net.best gateway) gateway installer rows

end Installing

section Removing

variable (net : Network) {host : String}

variable {journal : UndoJournal} {route : HostRoute} {rows others : List Row}

theorem removeEach_keep {owned : OwnedRoute} (rest : List OwnedRoute) (journal : UndoJournal)
    (rows : List Row) (other : owned.gateway ≠ route.gateway) :
    removeEach net.table route (owned :: rest) journal rows =
      let done := removeEach net.table route rest journal rows
      ((owned :: done.1.1, done.1.2.1, done.1.2.2), done.2) := by
  rw [removeEach, if_pos (.inr other)]
  rfl

theorem removeEach_undo {id : UndoId} {entry : UndoEntry} (rest : List OwnedRoute) (rows : List Row)
    (found : journal.entries.find? (·.id = id) = some entry) :
    removeEach net.table route (⟨route.destination, route.gateway, id⟩ :: rest) journal rows =
      removeEach net.table route rest (journal.without [id])
        (rows.filter (·.record ≠ entry.record)) := by
  rw [removeEach, if_neg (by simp), undo, found]
  rfl

theorem removeEach_nil :
    removeEach net.table route [] journal rows = (([], none, journal), rows) := rfl

/-- The route is in the table: others made it and nothing is owned, or it is all that is owned. -/
inductive Holds (host : String) (row : Row) (others : List Row) : Installer → List Row → Prop
  | foreign {version nextId : Nat} (there : row ∈ others) :
      Holds host row others ⟨⟨version, nextId, []⟩, []⟩ others
  | own {version nextId id : Nat} (new : row ∉ others) (below : id < nextId) :
      Holds host row others
        ⟨⟨version, nextId, [⟨id, row.record⟩]⟩, [⟨host, row.nextHop, id⟩]⟩ (row :: others)

variable {row : Row} {installer : Installer}

theorem record_injective {other : Row} (same : row.record = other.record) : row = other := by
  cases row
  cases same
  rfl

theorem filter_others (new : row ∉ others) :
    others.filter (·.record ≠ row.record) = others := by
  rw [List.filter_eq_self]
  intro other member
  rw [decide_eq_true_eq]
  intro same
  exact new (record_injective same ▸ member)

theorem filter_own (new : row ∉ others) :
    (row :: others).filter (·.record ≠ row.record) = others := by
  rw [List.filter_cons_of_neg (by simp), filter_others new]

theorem remove_ok {rowsAfter : List Row} {kept : List OwnedRoute}
    (removes : removeEach net.table route installer.owned installer.undo rows =
      ((kept, none, journal), rowsAfter)) :
    remove net.table installer route rows = ((.ok (), ⟨journal, kept⟩), rowsAfter) := by
  rw [remove, bind_rows, removes]
  rfl

/-- Removing the old route once the new one is there. -/
theorem remove_holds {updated : Row}
    {installed : (Except NetstateError Unit × Installer) × List Row}
    (holds : Holds host row others installer rows) (moves : updated.nextHop ≠ row.nextHop)
    (installs : Installs installer host updated rows installed) (ok : installed.1.1 = .ok ()) :
    ∃ after rowsAfter,
      remove net.table installed.1.2 ⟨host, row.nextHop⟩ installed.2 = ((.ok (), after), rowsAfter) ∧
        Holds host updated others after rowsAfter := by
  have differs : updated ≠ row := fun same => moves (congrArg Row.nextHop same)
  have otherRecord : updated.record ≠ row.record := fun same => differs (record_injective same)
  cases holds with
  | @foreign version nextId =>
    cases installs with
    | failed => cases ok
    | present updatedThere => exact ⟨_, _, rfl, .foreign updatedThere⟩
    | created new =>
      refine ⟨⟨⟨version, nextId + 1, [⟨nextId, updated.record⟩]⟩, _⟩, _, remove_ok net ?_,
        .own new (Nat.lt_succ_self nextId)⟩
      rw [List.nil_append, removeEach_keep net _ _ _ moves]
      rfl
  | @own version nextId id new below =>
    have found (rest : List UndoEntry) :
        (⟨id, row.record⟩ :: rest : List UndoEntry).find? (·.id = id) = some ⟨id, row.record⟩ := by
      simp
    cases installs with
    | failed => cases ok
    | present updatedThere =>
      have among : updated ∈ others := (List.mem_cons.mp updatedThere).resolve_left differs
      refine ⟨⟨⟨version, nextId, []⟩, []⟩, others, remove_ok net ?_, .foreign among⟩
      have emptied : (⟨version, nextId, [⟨id, row.record⟩]⟩ : UndoJournal).without [id] =
          ⟨version, nextId, []⟩ := by simp [UndoJournal.without]
      rw [removeEach_undo net [] _ (found []), removeEach_nil, filter_own new, emptied]
    | created updatedNew =>
      have otherId : nextId ≠ id := below.ne'
      refine ⟨⟨⟨version, nextId + 1, [⟨nextId, updated.record⟩]⟩, _⟩, updated :: others,
        remove_ok net ?_, .own (fun old => updatedNew (List.mem_cons_of_mem row old))
          (Nat.lt_succ_self nextId)⟩
      have left : (⟨version, nextId + 1, [⟨id, row.record⟩, ⟨nextId, updated.record⟩]⟩ :
          UndoJournal).without [id] = ⟨version, nextId + 1, [⟨nextId, updated.record⟩]⟩ := by
        simp [UndoJournal.without, otherId]
      have rows : (updated :: row :: others).filter (·.record ≠ row.record) =
          updated :: others := by
        rw [List.filter_cons_of_pos (by simpa using otherRecord), filter_own new]
      rw [List.singleton_append, removeEach_undo net _ _ (found _), rows]
      change removeEach net.table _ _ (UndoJournal.without ⟨version, nextId + 1,
        [⟨id, row.record⟩, ⟨nextId, updated.record⟩]⟩ [id]) _ = _
      rw [left, removeEach_keep net _ _ _ moves]
      rfl

/-- A rewrite to another gateway that succeeded moves the route, one that failed changes nothing. -/
theorem rewrite_holds {endpoint gateway : IpAddr}
    (literal : parseIpAddr host.toList = some endpoint)
    (holds : Holds host row others installer rows) (moves : gateway ≠ row.nextHop) :
    (∃ error, rewrite net.table installer ⟨host, row.nextHop⟩ ⟨host, gateway⟩ rows =
      ((.error error, installer), rows)) ∨
    ∃ after rowsAfter,
      rewrite net.table installer ⟨host, row.nextHop⟩ ⟨host, gateway⟩ rows =
        ((.ok (), after), rowsAfter) ∧
        Holds host ⟨net.best gateway, endpoint, gateway⟩ others after rowsAfter := by
  have differs : (⟨host, row.nextHop⟩ : HostRoute) ≠ ⟨host, gateway⟩ := fun same =>
    moves (congrArg HostRoute.gateway same).symm
  have installs := install_installs net literal installer gateway rows
  rw [rewrite, if_neg differs, bind_rows]
  generalize install net.table installer ⟨host, gateway⟩ rows = installed at installs
  obtain ⟨⟨outcome, installed⟩, rowsInstalled⟩ := installed
  cases outcome with
  | error error =>
    cases installs
    exact .inl ⟨error, rfl⟩
  | ok => exact .inr (remove_holds net holds moves installs rfl)

end Removing

/-- The tunnel is up with its route in the table. -/
structure Placed (host : String) (endpoint : IpAddr) (others : List Row)
    (looked : IpAddr × UInt64) (state : State) : Prop where
  active : state.active = some ⟨(), some ((), ⟨host, looked.1⟩), true⟩
  holds : Holds host ⟨looked.2, endpoint, looked.1⟩ others state.installer state.rows

section Steps

variable {Loss : Type} {host : String} {endpoint : IpAddr} {others : List Row} {first : Network}
  {state after : State}

theorem bind_host {Value Result : Type} (program : Host Value) (rest : Value → Host Result)
    (installer : Installer) (rows : List Row) :
    (program >>= rest) installer rows =
      rest (program installer rows).1.1 (program installer rows).1.2 (program installer rows).2 :=
  rfl

variable {installer installed : Installer} {outcome : Except NetstateError Unit}

theorem carryOver_eq (net : Network) {path : ListedPath Loss} {current gateway : IpAddr}
    (has : path.gateway = some gateway) {rows rowsAfter : List Row}
    (rewrites : rewrite net.table installer ⟨host, current⟩ ⟨host, gateway⟩ rows =
      ((outcome, installed), rowsAfter)) :
    carryOver net.host (some ⟨(), some ((), ⟨host, current⟩), true⟩) path installer rows =
      (((outcome.mapError NetstateError.display,
        some ⟨(), some ((), ⟨host, if outcome.isOk then gateway else current⟩), true⟩), installed),
          rowsAfter) := by
  have moved : (net.host.peers.rewriteHostRoute () ⟨host, current⟩
      (HostRoute.via ⟨host, current⟩ gateway)).run installer rows =
        ((outcome, installed), rowsAfter) := rewrites
  rw [carryOver, has]
  dsimp only
  rw [bind_host, Tunnels.carryOver]
  dsimp only
  rw [bind_host, moveToGateway, bind_host, moved]
  cases outcome with
  | error | ok => rfl

theorem steps_carryOver {carry : Carry Loss} (steps : state.Steps carry after) :
    carryOver carry.net.host state.active carry.path state.installer state.rows =
      (((carry.returned, after.active), after.installer), after.rows) := by
  rw [State.Steps, State.next] at steps
  generalize carryOver carry.net.host state.active carry.path state.installer state.rows = done
    at steps
  obtain ⟨⟨⟨outcome, active⟩, installer⟩, rows⟩ := done
  dsimp only at steps
  split at steps
  next same =>
      cases steps
      rw [same]
  next => cases steps

theorem step_placed (literal : parseIpAddr host.toList = some endpoint) {carry : Carry Loss}
    {older : List (Taken State (Carry Loss))}
    (placed : Placed host endpoint others (lookedUp first older) state)
    (steps : state.Steps carry after) :
    Placed host endpoint others (lookedUp first (⟨state, carry, after⟩ :: older)) after := by
  have carries := steps_carryOver steps
  obtain ⟨net, path, returned⟩ := carry
  obtain ⟨active, installer, rows⟩ := state
  obtain ⟨up, installed, rowsAfter⟩ := after
  obtain ⟨rfl, holds⟩ := placed
  rw [lookedUp]
  generalize lookedUp first older = looked at holds carries ⊢
  obtain ⟨current, via⟩ := looked
  cases has : path.gateway with
  | none =>
    rw [carryOver, has] at carries
    cases carries
    rw [relook, has]
    exact ⟨rfl, holds⟩
  | some gateway =>
    by_cases same : gateway = current
    · -- The tracked gateway: the rewrite sees equal routes and does nothing.
      subst same
      have rewrites : rewrite net.table installer ⟨host, gateway⟩ ⟨host, gateway⟩ rows =
          ((.ok (), installer), rows) := by
        rw [rewrite, if_pos rfl]
        rfl
      rw [carryOver_eq net has rewrites] at carries
      cases carries
      have kept : relook (gateway, via) ⟨net, path, .ok ()⟩ = (gateway, via) := by
        simp [relook, has]
      rw [kept]
      exact ⟨rfl, holds⟩
    · rcases rewrite_holds net literal holds same with ⟨error, rewrites⟩ | ⟨_, _, rewrites, moved⟩
      · rw [carryOver_eq net has rewrites] at carries
        cases carries
        rw [relook, has]
        exact ⟨rfl, holds⟩
      · rw [carryOver_eq net has rewrites] at carries
        cases carries
        have is : relook (current, via) ⟨net, path, .ok ()⟩ = (gateway, net.best gateway) := by
          simp [relook, has, same]
        rw [is]
        exact ⟨rfl, moved⟩

theorem bringUp_eq (net : Network) (route : HostRoute) (installer : Installer) (rows : List Row) :
    (bringUp net.host.peers () route).run installer rows = install net.table installer route rows := by
  change ((net.host.peers.installHostRoute () route).run >>=
    ExceptT.bindCont fun _ => net.host.peers.startTunnel ()) installer rows = _
  rw [bind_host]
  have installs : (net.host.peers.installHostRoute () route).run installer rows =
      install net.table installer route rows := rfl
  rw [installs]
  generalize install net.table installer route rows = installed
  obtain ⟨⟨outcome, installed⟩, rowsAfter⟩ := installed
  cases outcome with
  | error | ok => rfl

theorem startPeer_ok (net : Network) {route : HostRoute} {rows rowsAfter : List Row}
    (installs : install net.table installer route rows = ((outcome, installed), rowsAfter))
    (started : (startPeer net.host ⟨(), some ((), route), false⟩ installer rows).1.1.1 = .ok ()) :
    outcome = .ok () ∧ startPeer net.host ⟨(), some ((), route), false⟩ installer rows =
      (((.ok (), some ⟨(), some ((), route), true⟩), installed), rowsAfter) := by
  rw [startPeer] at started ⊢
  dsimp only at started ⊢
  rw [bind_host, bringUp_eq, installs] at started ⊢
  cases outcome with
  | error => cases started
  | ok => exact ⟨rfl, rfl⟩

theorem begin_placed {plan : TunnelPlan}
    (literal : parseIpAddr plan.bypass.host.toList = some endpoint) (awg : plan.awg.isSome)
    {nextId : Nat} (begins : begin first plan nextId others = (.ok (), state)) :
    Placed plan.bypass.host endpoint others (first.gateway, first.best first.gateway) state := by
  obtain ⟨core, bypass, awgTunnel⟩ := plan
  obtain ⟨tunnel, rfl⟩ := Option.isSome_iff_exists.mp awg
  have installs := install_installs first literal ⟨⟨journalVersion, nextId, []⟩, []⟩ first.gateway
    others
  have starts : start first.host none ⟨core, bypass, some tunnel⟩
      ⟨⟨journalVersion, nextId, []⟩, []⟩ others =
      startPeer first.host ⟨(), some ((), ⟨bypass.host, first.gateway⟩), false⟩
        ⟨⟨journalVersion, nextId, []⟩, []⟩ others := by
    cases core <;> rfl
  rw [begin, starts] at begins
  generalize installed : install first.table ⟨⟨journalVersion, nextId, []⟩, []⟩
    ⟨bypass.host, first.gateway⟩ others = done at installs
  obtain ⟨⟨outcome, installer⟩, rows⟩ := done
  obtain ⟨rfl, peered⟩ := startPeer_ok first installed (congrArg Prod.fst begins)
  rw [peered] at begins
  cases begins
  refine ⟨rfl, ?_⟩
  cases installs with
  | present there => exact .foreign there
  | created new => exact .own new (Nat.lt_succ_self nextId)

end Steps

/-- What a carry-over that succeeded is for: the route to the endpoint is on the path's interface
through its gateway, and the service owns none on another. -/
def OnPath (endpoint gateway : IpAddr) (luid : UInt64) (state : State) : Prop :=
  ⟨luid, endpoint, gateway⟩ ∈ state.rows ∧
    ∀ entry ∈ state.installer.undo.entries, ∀ other nextHop,
      entry.record = .hostRoute other endpoint nextHop → other = luid

theorem Placed.onPath_iff {host : String} {endpoint : IpAddr} {others : List Row}
    {looked : IpAddr × UInt64} {state : State} (placed : Placed host endpoint others looked state)
    (luid : UInt64) :
    OnPath endpoint looked.1 luid state ↔
      looked.2 = luid ∨
        (⟨luid, endpoint, looked.1⟩ ∈ others ∧ ⟨looked.2, endpoint, looked.1⟩ ∈ others) := by
  obtain ⟨active, installer, rows⟩ := state
  obtain ⟨_, holds⟩ := placed
  cases holds with
  | foreign there =>
    constructor
    · exact fun on => .inr ⟨on.1, there⟩
    · rintro (rfl | both)
      · exact ⟨there, nofun⟩
      · exact ⟨both.1, nofun⟩
  | own new =>
    constructor
    · intro on
      exact .inl (on.2 _ List.mem_cons_self _ _ rfl)
    · rintro (rfl | both)
      · refine ⟨List.mem_cons_self, fun entry member other nextHop is => ?_⟩
        rw [List.mem_singleton.mp member] at is
        cases is
        rfl
      · exact absurd both.2 new

/-- After a carry-over that returned `Ok` the tunnel is on the path it names if and only if the
interface of the last lookup is the path's: a lookup is made only where the gateway changes, and
answers any interface on which it is on-link. (Where others made the rows of both interfaces,
nothing is owned and the route is there as well.) -/
theorem carried_over_iff {Loss : Type} {plan : TunnelPlan} {endpoint : IpAddr}
    (literal : parseIpAddr plan.bypass.host.toList = some endpoint) (awg : plan.awg.isSome)
    {first : Network} {nextId : Nat} {others : List Row} {started : State}
    (begins : begin first plan nextId others = (.ok (), started))
    {taken : Taken State (Carry Loss)} {older : List (Taken State (Carry Loss))} {state : State}
    (run : Run State.Steps started (taken :: older) state) {gateway : IpAddr}
    (has : taken.label.path.gateway = some gateway) (ok : taken.label.returned = .ok ()) :
    OnPath endpoint gateway taken.label.path.interfaceId.luid state ↔
      (lookedUp first (taken :: older)).2 = taken.label.path.interfaceId.luid ∨
        (⟨taken.label.path.interfaceId.luid, endpoint, gateway⟩ ∈ others ∧
          ⟨(lookedUp first (taken :: older)).2, endpoint, gateway⟩ ∈ others) := by
  have placed : Placed plan.bypass.host endpoint others (lookedUp first (taken :: older)) state := by
    refine run_invariant (fun history state => Placed plan.bypass.host endpoint others
      (lookedUp first history) state) (begin_placed literal awg begins) ?_ run
    intro history state carry after _ placed steps
    exact step_placed literal placed steps
  have is : (lookedUp first (taken :: older)).1 = gateway := by
    rw [lookedUp, relook, has, ok]
    dsimp only
    split
    next same => exact same.symm
    next => rfl
  have onPath := placed.onPath_iff taken.label.path.interfaceId.luid
  rw [is] at onPath
  exact onPath

section Traces

def single (luid : UInt64) (gateway : IpAddr) : Network where
  onLink other _ := other == luid
  gateway := gateway
  best _ := luid
  answers _ _ := beq_self_eq_true luid

def router : IpAddr := .v4 (.ofOctets 192 168 1 1)
def otherRouter : IpAddr := .v4 (.ofOctets 10 0 0 1)
def server : IpAddr := .v4 (.ofOctets 203 0 113 10)

def serverPlan : TunnelPlan :=
  ⟨.amneziaWgCore, ⟨"203.0.113.10", 51820⟩, some ⟨.v4 (.ofOctets 10 8 0 2), 32⟩⟩

def pathOn (luid : UInt64) (gateway : IpAddr) : ListedPath Rat :=
  ⟨⟨⟨luid⟩, .unmeasured, .standby, 0⟩, .wifi, some gateway⟩

def atHome : State := (begin (single 1 router) serverPlan 1 []).2

def elsewhere (gateway : IpAddr) : Carry Rat := ⟨single 2 gateway, pathOn 2 gateway, .ok ()⟩

def arrived (gateway : IpAddr) : State := (atHome.next (elsewhere gateway)).getD atHome

/-- A network elsewhere whose router has the same address: the gateway is on-link on the path's
interface only, the call returns `Ok`, and the route stays where it was. -/
theorem same_gateway_stays :
    begin (single 1 router) serverPlan 1 [] = (.ok (), atHome) ∧
      atHome.Steps (elsewhere router) (arrived router) ∧
      ¬ OnPath server router 2 (arrived router) := by
  refine ⟨Prod.ext (by decide +kernel) rfl, ?_, fun on => absurd on.1 (by decide +kernel)⟩
  rw [State.Steps]
  decide +kernel

theorem carried_over_iff_elsewhere : OnPath server otherRouter 2 (arrived otherRouter) := by
  have begins : begin (single 1 router) serverPlan 1 [] = (.ok (), atHome) :=
    Prod.ext (by decide +kernel) rfl
  have steps : atHome.Steps (elsewhere otherRouter) (arrived otherRouter) := by
    rw [State.Steps]
    decide +kernel
  have literal : parseIpAddr serverPlan.bypass.host.toList = some server := by decide +kernel
  exact (carried_over_iff literal rfl begins (Run.start.next steps) rfl rfl).mpr
    (.inl (by decide +kernel))

end Traces

end DnetEngine.CarryOver
