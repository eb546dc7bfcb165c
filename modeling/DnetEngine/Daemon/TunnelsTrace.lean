import DnetEngine.Daemon.Tunnels
import DnetEngine.Lib.Recorded
import DnetEngine.Lib.Run

/-! Tunnels on a machine that records what it is asked: every operation is one event with whether it
succeeded, and the machine answers each by everything that happened so far, so that no pattern of
failures is left out. The tunnels are numbered by the calls of `prepare`. -/

namespace DnetEngine.Tunnels

open Lib Netstate

inductive CoreOp
  | reapOrphans
  | spawnCore (core : CoreBinding)
  | awaitAdapter
  | killCore (core : CoreBinding)
  | replayUndo
  deriving DecidableEq

inductive PeerOp
  | installHostRoute (route : HostRoute)
  | removeHostRoute (route : HostRoute)
  | rewriteHostRoute (current updated : HostRoute)
  | startTunnel
  | stopTunnel
  | rebindTunnel (gateway : IpAddr)
  deriving DecidableEq

inductive Op
  | gateway
  | prepare (tunnel : Nat) (plan : TunnelPlan)
  | discardConfig
  | flushResolverCache
  | core (tunnel : Nat) (op : CoreOp)
  | peer (tunnel : Nat) (op : PeerOp)
  deriving DecidableEq

structure Event where
  op : Op
  ok : Bool
  deriving DecidableEq

/-- The tunnel an operation is for. -/
def Op.tunnel? : Op → Option Nat
  | .prepare tunnel _ | .core tunnel _ | .peer tunnel _ => some tunnel
  | .gateway | .discardConfig | .flushResolverCache => none

def Op.isPrepare : Op → Bool
  | .prepare _ _ => true
  | _ => false

def numbered (past : List Event) : Nat :=
  past.countP (·.op.isPrepare)

/-- What the machine answers, by what it was asked so far. Of what it prepared, whether there is a
peer to configure. -/
structure Machine where
  gateway : List Event → Except NetstateError IpAddr
  prepare : List Event → TunnelPlan → Except String Bool
  core : List Event → Nat → CoreOp → Except SupervisorError Unit
  peer : List Event → Nat → PeerOp → Except NetstateError Unit

namespace Machine

variable (machine : Machine)

def onCore (tunnel : Nat) (op : CoreOp) : ExceptT SupervisorError (Recorded Event) Unit :=
  effect (fun past => machine.core past tunnel op) fun _ answer => ⟨.core tunnel op, answer.isOk⟩

def onPeer (tunnel : Nat) (op : PeerOp) : ExceptT NetstateError (Recorded Event) Unit :=
  effect (fun past => machine.peer past tunnel op) fun _ answer => ⟨.peer tunnel op, answer.isOk⟩

def prepared (tunnel : Nat) (bringup : Bool) : Prepared Nat Nat :=
  ⟨tunnel, if bringup then some tunnel else none⟩

def host : TunnelHost (Recorded Event) Nat Nat where
  cores :=
    { reapOrphans := fun tunnel => machine.onCore tunnel .reapOrphans
      spawnCore := fun tunnel core => machine.onCore tunnel (.spawnCore core)
      awaitAdapter := fun tunnel => machine.onCore tunnel .awaitAdapter
      killCore := fun tunnel core => machine.onCore tunnel (.killCore core)
      replayUndo := fun tunnel => machine.onCore tunnel .replayUndo }
  peers :=
    { installHostRoute := fun tunnel route => machine.onPeer tunnel (.installHostRoute route)
      removeHostRoute := fun tunnel route => machine.onPeer tunnel (.removeHostRoute route)
      rewriteHostRoute := fun tunnel current updated =>
        machine.onPeer tunnel (.rewriteHostRoute current updated)
      startTunnel := fun tunnel => machine.onPeer tunnel .startTunnel
      stopTunnel := fun tunnel => machine.onPeer tunnel .stopTunnel
      rebindTunnel := fun tunnel gateway => machine.onPeer tunnel (.rebindTunnel gateway) }
  gateway := effect machine.gateway fun _ answer => ⟨.gateway, answer.isOk⟩
  prepare plan :=
    effect (fun past => (machine.prepare past plan).map (prepared (numbered past)))
      fun past answer => ⟨.prepare (numbered past) plan, answer.isOk⟩
  discardConfig := effect (fun _ => ()) fun _ _ => ⟨.discardConfig, true⟩
  flushResolverCache := effect (fun _ => ()) fun _ _ => ⟨.flushResolverCache, true⟩

end Machine

/-- The tunnel recorded up, and everything the machine was asked. -/
structure State where
  active : Option (Running Nat Nat)
  trace : List Event
  deriving DecidableEq

def State.new : State := ⟨none, []⟩

inductive Call
  | start (plan : TunnelPlan) (returned : Except FailureCause Unit)
  | carryOver (gateway : IpAddr) (returned : Except NetstateError Unit)
  | stop

section Calls

variable (machine : Machine)

def State.next (state : State) : Call → Option State
  | .start plan returned =>
    let done := start machine.host state.active plan state.trace
    if done.1.1 = returned then some ⟨done.1.2, done.2⟩ else none
  | .carryOver gateway returned =>
    let done := carryOver machine.host state.active gateway state.trace
    if done.1.1 = returned then some ⟨done.1.2, done.2⟩ else none
  | .stop =>
    let done := stop machine.host state.active state.trace
    some ⟨done.1, done.2⟩

def State.Steps (state : State) (call : Call) (after : State) : Prop :=
  state.next machine call = some after

end Calls

/-- The operations that take a tunnel down: the peer and its route where the bring-up had begun,
then the cores, then the undo records. -/
def endOf (tunnel : Nat) (route : Option HostRoute) : List Op :=
  (match route with
    | some route => [.peer tunnel .stopTunnel, .peer tunnel (.removeHostRoute route)]
    | none => []) ++
  [.core tunnel (.killCore .primaryCore), .core tunnel (.killCore .amneziaWgCore),
    .core tunnel .replayUndo]

def Running.touched (running : Running Nat Nat) : Option HostRoute :=
  if running.peerTouched then running.peer.map Prod.snd else none

/-- A tunnel of the recording machine: its cores and its peer carry one number. -/
structure Running.Numbered (running : Running Nat Nat) (tunnel : Nat) : Prop where
  runtime : running.runtime = tunnel
  peer : ∀ peer ∈ running.peer, peer.1 = tunnel

/-- The events that end the tunnel that is up, if there is one. -/
def EndsAll (active : Option (Running Nat Nat)) (events : List Event) : Prop :=
  events.map Event.op =
    match active with
    | some running => endOf running.runtime running.touched
    | none => []

theorem numbered_append (past events : List Event) :
    numbered (past ++ events) = numbered past + numbered events :=
  List.countP_append

theorem numbered_eq_zero {events : List Event}
    (none_ : ∀ op ∈ events.map Event.op, op.isPrepare = false) : numbered events = 0 := by
  rw [numbered, List.countP_eq_zero]
  intro event member prepares
  rw [none_ event.op (List.mem_map_of_mem member)] at prepares
  cases prepares

theorem endOf_not_prepare {tunnel : Nat} {route : Option HostRoute} :
    ∀ op ∈ endOf tunnel route, op.isPrepare = false := by
  cases route <;> simp [endOf, Op.isPrepare]

theorem EndsAll.numbered {active : Option (Running Nat Nat)} {events : List Event}
    (ends : EndsAll active events) : numbered events = 0 := by
  apply numbered_eq_zero
  rw [ends]
  cases active with
  | none => nofun
  | some => exact endOf_not_prepare

section Parts

variable (machine : Machine) {past : List Event}

theorem onCore_emits (tunnel : Nat) (op : CoreOp) :
    Emits past (machine.onCore tunnel op).run fun answer events =>
      events = [⟨.core tunnel op, answer.isOk⟩] :=
  ⟨_, rfl, rfl⟩

theorem onPeer_emits (tunnel : Nat) (op : PeerOp) :
    Emits past (machine.onPeer tunnel op).run fun answer events =>
      events = [⟨.peer tunnel op, answer.isOk⟩] :=
  ⟨_, rfl, rfl⟩

theorem flush_emits :
    Emits past machine.host.flushResolverCache fun _ events =>
      events = [⟨.flushResolverCache, true⟩] :=
  ⟨_, rfl, rfl⟩

theorem discard_emits :
    Emits past machine.host.discardConfig fun _ events => events = [⟨.discardConfig, true⟩] :=
  ⟨_, rfl, rfl⟩

theorem gateway_emits :
    Emits past machine.host.gateway.run fun answer events => events = [⟨.gateway, answer.isOk⟩] :=
  ⟨_, rfl, rfl⟩

variable {tunnel : Nat} {running : Running Nat Nat} {active : Option (Running Nat Nat)}

theorem prepare_emits (plan : TunnelPlan) (number : numbered past = tunnel) :
    Emits past (machine.host.prepare plan).run fun answer events =>
      events = [⟨.prepare tunnel plan, answer.isOk⟩] ∧
        ∀ prepared, answer = .ok prepared →
          ∃ bringup, prepared = Machine.prepared tunnel bringup := by
  subst number
  refine ⟨_, rfl, rfl, fun prepared answered => ?_⟩
  change (machine.prepare past plan).map _ = _ at answered
  cases answers : machine.prepare past plan with
  | error =>
    rw [answers] at answered
    cases answered
  | ok bringup =>
    rw [answers] at answered
    cases answered
    exact ⟨bringup, rfl⟩

theorem tearDown_emits (tunnel : Nat) (route : HostRoute) :
    Emits past (tearDown machine.host.peers tunnel route) fun _ events =>
      events.map Event.op = [.peer tunnel .stopTunnel, .peer tunnel (.removeHostRoute route)] := by
  refine Emits.bind (onPeer_emits machine tunnel .stopTunnel) ?_
  rintro stopped _ rfl
  refine Emits.bind (onPeer_emits machine tunnel (.removeHostRoute route)) ?_
  rintro removed _ rfl
  cases removed with
  | error | ok => exact emits_pure rfl

theorem shutdownAll_emits (tunnel : Nat) :
    Emits past (shutdownAll machine.host.cores tunnel) fun _ events =>
      events.map Event.op = endOf tunnel none := by
  refine Emits.bind (onCore_emits machine tunnel (.killCore .primaryCore)) ?_
  rintro primary _ rfl
  refine Emits.bind (onCore_emits machine tunnel (.killCore .amneziaWgCore)) ?_
  rintro amnezia _ rfl
  refine Emits.bind (onCore_emits machine tunnel .replayUndo) ?_
  rintro replayed _ rfl
  cases replayed with
  | error | ok => exact emits_pure rfl

theorem takeDown_emits (numbered : running.Numbered tunnel) :
    Emits past (takeDown machine.host running) fun _ events =>
      events.map Event.op = endOf tunnel running.touched := by
  obtain ⟨runtime, peer, peerTouched⟩ := running
  obtain ⟨rfl, samePeer⟩ := numbered
  have cores (past : List Event) := (shutdownAll_emits machine runtime : Emits past _ _)
  -- Without a touched peer the cores are all there is to end.
  have alone (touched : Bool) (route : Option (Nat × HostRoute))
      (untouched : Running.touched ⟨runtime, route, touched⟩ = none) :
      Emits past (do let _ ← shutdownAll machine.host.cores runtime) fun _ events =>
        events.map Event.op = endOf runtime (Running.touched ⟨runtime, route, touched⟩) := by
    rw [untouched]
    exact Emits.bind (cores past) fun _ events ended => emits_pure (by simpa using ended)
  cases peerTouched with
  | false => exact alone false peer rfl
  | true =>
    cases peer with
    | none => exact alone true none rfl
    | some peer =>
      obtain ⟨bringup, route⟩ := peer
      obtain rfl : bringup = runtime := samePeer _ rfl
      refine Emits.bind (tearDown_emits machine bringup route) fun _ events ended => ?_
      refine Emits.bind (cores _) fun _ more endedCores => emits_pure ?_
      simp only [List.map_append, ended, endedCores]
      rfl

theorem down_emits (numbered : running.Numbered tunnel) :
    Emits past (down machine.host running) fun _ events =>
      ∃ ended, ended.map Event.op = endOf tunnel running.touched ∧
        events = ended ++ [⟨.flushResolverCache, true⟩] := by
  refine Emits.bind (takeDown_emits machine numbered) fun _ ended took => ?_
  refine (flush_emits machine).mono ?_
  rintro _ _ rfl
  exact ⟨ended, took, rfl⟩

/-- The operations that bring the cores of a tunnel up. -/
def CoreOp.begins : CoreOp → Bool
  | .reapOrphans | .spawnCore _ | .awaitAdapter => true
  | .killCore _ | .replayUndo => false

def CoresBegin (tunnel : Nat) (events : List Event) : Prop :=
  ∀ event ∈ events, ∃ op, event.op = .core tunnel op ∧ op.begins = true

theorem CoresBegin.append {first second : List Event} (begins : CoresBegin tunnel first)
    (goesOn : CoresBegin tunnel second) :
    CoresBegin tunnel (first ++ second) :=
  List.forall_mem_append.mpr ⟨begins, goesOn⟩

theorem startCores_emits (tunnel : Nat) (active : CoreBinding) :
    Emits past (startCores machine.host.cores tunnel active).run fun _ events =>
      CoresBegin tunnel events := by
  have one (op : CoreOp) (begins : op.begins = true) (past : List Event) :
      Emits past (machine.onCore tunnel op).run fun _ events => CoresBegin tunnel events := by
    refine (onCore_emits machine tunnel op).mono ?_
    rintro answer _ rfl event member
    rw [List.mem_singleton.mp member]
    exact ⟨op, rfl, begins⟩
  refine Emits.attempt (one .reapOrphans rfl past) (fun _ _ reaps => reaps) fun _ _ reaps => ?_
  cases active with
  | primaryCore =>
    exact (one (.spawnCore .primaryCore) rfl _).mono fun _ _ spawns => reaps.append spawns
  | amneziaWgCore =>
    refine Emits.attempt (one (.spawnCore .amneziaWgCore) rfl _)
      (fun _ _ spawns => reaps.append spawns) fun _ _ spawns => ?_
    refine Emits.attempt (one .awaitAdapter rfl _)
      (fun _ _ awaits => reaps.append (spawns.append awaits)) fun _ _ awaits => ?_
    refine (one (.spawnCore .primaryCore) rfl _).mono fun _ _ last => ?_
    exact reaps.append (spawns.append (awaits.append last))

/-- The peer is brought up as far as its operations succeed. -/
inductive PeerBegins (tunnel : Nat) (route : HostRoute) : List Event → Prop
  | unrouted : PeerBegins tunnel route [⟨.peer tunnel (.installHostRoute route), false⟩]
  | routed (ok : Bool) : PeerBegins tunnel route
      [⟨.peer tunnel (.installHostRoute route), true⟩, ⟨.peer tunnel .startTunnel, ok⟩]

theorem bringUp_emits (tunnel : Nat) (route : HostRoute) :
    Emits past (bringUp machine.host.peers tunnel route).run fun _ events =>
      PeerBegins tunnel route events := by
  refine Emits.attempt (onPeer_emits machine tunnel (.installHostRoute route)) ?_ ?_
  · rintro error _ rfl
    exact .unrouted
  · rintro value _ rfl
    refine (onPeer_emits machine tunnel .startTunnel).mono ?_
    rintro answer _ rfl
    exact .routed _

theorem moveToGateway_emits (tunnel : Nat) (route : HostRoute) (gateway : IpAddr) :
    Emits past (moveToGateway machine.host.peers tunnel route gateway) fun moved events =>
      (moved.1 = route ∧
        events = [⟨.peer tunnel (.rewriteHostRoute route (route.via gateway)), false⟩]) ∨
      (moved.1 = route.via gateway ∧
        events = [⟨.peer tunnel (.rewriteHostRoute route (route.via gateway)), true⟩,
          ⟨.peer tunnel (.rebindTunnel gateway), moved.2.isOk⟩]) := by
  refine Emits.bind (onPeer_emits machine tunnel (.rewriteHostRoute route (route.via gateway))) ?_
  rintro rewritten _ rfl
  cases rewritten with
  | error => exact emits_pure (.inl ⟨rfl, rfl⟩)
  | ok =>
    refine Emits.bind (onPeer_emits machine tunnel (.rebindTunnel gateway)) ?_
    rintro outcome _ rfl
    exact emits_pure (.inr ⟨rfl, rfl⟩)

/-- A tunnel in the hand of a start: its cores have begun, and the peer perhaps. -/
inductive Begins (plan : TunnelPlan) (tunnel : Nat) : Running Nat Nat → List Event → Prop
  | cores {peer : Option (Nat × HostRoute)} {cores : List Event}
      (samePeer : ∀ other ∈ peer, other.1 = tunnel) (begin : CoresBegin tunnel cores) :
      Begins plan tunnel ⟨tunnel, peer, false⟩ (cores ++ [⟨.discardConfig, true⟩])
  | peer {route : HostRoute} {cores peering : List Event}
      (begin : CoresBegin tunnel cores) (destination : route.destination = plan.bypass.host)
      (peers : PeerBegins tunnel route peering) :
      Begins plan tunnel ⟨tunnel, some (tunnel, route), true⟩
        (cores ++ [⟨.discardConfig, true⟩] ++ peering)

theorem Begins.numbered {plan : TunnelPlan} {events : List Event}
    (begins : Begins plan tunnel running events) :
    running.Numbered tunnel := by
  cases begins with
  | cores samePeer => exact ⟨rfl, samePeer⟩
  | peer =>
    refine ⟨rfl, fun peer some_ => ?_⟩
    cases some_
    rfl

/-- What a start adds once there is something to take down: the tunnel begins, and ends where
something failed. -/
inductive Launches (plan : TunnelPlan) (tunnel : Nat) :
    Except FailureCause Unit × Option (Running Nat Nat) → List Event → Prop
  | up {running : Running Nat Nat} {tried : List Event} (begins : Begins plan tunnel running tried)
      (whole : running.peer.isSome → running.peerTouched = true) :
      Launches plan tunnel (.ok (), some running) (⟨.flushResolverCache, true⟩ :: tried)
  | failed {running : Running Nat Nat} {cause : FailureCause} {tried ended : List Event}
      (begins : Begins plan tunnel running tried)
      (ends : ended.map Event.op = endOf tunnel running.touched)
      (neither : cause ≠ .noUsablePath ∧ ∀ detail, cause ≠ .configurationInvalid detail) :
      Launches plan tunnel (.error cause, none)
        (⟨.flushResolverCache, true⟩ :: tried ++ ended ++ [⟨.flushResolverCache, true⟩])

theorem causeOf_core (error : SupervisorError) (started : CoreBinding) :
    ∃ core, causeOf error started = .coreFailedPersistently core := by
  cases error <;> exact ⟨_, rfl⟩

theorem startPeer_emits (plan : TunnelPlan) {peer : Option (Nat × HostRoute)} {cores : List Event}
    (begin : CoresBegin tunnel cores)
    (samePeer : ∀ other ∈ peer, other.1 = tunnel ∧ other.2.destination = plan.bypass.host) :
    Emits past (startPeer machine.host ⟨tunnel, peer, false⟩) fun result events =>
      Launches plan tunnel result
        (⟨.flushResolverCache, true⟩ :: (cores ++ [⟨.discardConfig, true⟩] ++ events)) := by
  cases peer with
  | none =>
    refine emits_pure ?_
    rw [List.append_nil]
    exact .up (.cores nofun begin) nofun
  | some peer =>
    obtain ⟨bringup, route⟩ := peer
    obtain ⟨same, destination⟩ := samePeer _ rfl
    subst same
    refine Emits.bind (bringUp_emits machine bringup route) fun outcome peering peers => ?_
    have begins := Begins.peer begin destination peers
    cases outcome with
    | ok =>
      refine emits_pure ?_
      rw [List.append_nil]
      exact .up begins fun _ => rfl
    | error =>
      refine Emits.bind (down_emits machine begins.numbered) ?_
      rintro _ _ ⟨ended, ends, rfl⟩
      refine emits_pure ?_
      have launches : Launches plan bringup (.error (.coreFailedPersistently .amneziaWgCore), none)
          _ := .failed begins ends ⟨nofun, nofun⟩
      simpa using launches

theorem startPrepared_emits (plan : TunnelPlan) {peer : Option (Nat × HostRoute)}
    (samePeer : ∀ other ∈ peer, other.1 = tunnel ∧ other.2.destination = plan.bypass.host) :
    Emits past (startPrepared machine.host plan ⟨tunnel, peer, false⟩) fun result events =>
      Launches plan tunnel result events := by
  refine Emits.bind (flush_emits machine) ?_
  rintro _ _ rfl
  refine Emits.bind (startCores_emits machine tunnel plan.core) fun started cores begin => ?_
  refine Emits.bind (discard_emits machine) ?_
  rintro _ _ rfl
  cases started with
  | error error =>
    have begins : Begins plan tunnel ⟨tunnel, peer, false⟩ (cores ++ [⟨.discardConfig, true⟩]) :=
      .cores (fun other some_ => (samePeer other some_).1) begin
    refine Emits.bind (down_emits machine begins.numbered) ?_
    rintro _ _ ⟨ended, ends, rfl⟩
    obtain ⟨core, cause⟩ := causeOf_core error plan.core
    refine emits_pure ?_
    rw [cause]
    have launches : Launches plan tunnel (.error (.coreFailedPersistently core), none) _ :=
      .failed begins ends ⟨nofun, nofun⟩
    simpa using launches
  | ok =>
    refine (startPeer_emits machine plan begin samePeer).mono fun result events launches => ?_
    simpa using launches

/-- What a start does: it ends the tunnel that was up, and fails early or launches its own. -/
inductive Starts (active : Option (Running Nat Nat)) (plan : TunnelPlan) (past : List Event) :
    Except FailureCause Unit × Option (Running Nat Nat) → List Event → Prop
  | noPath {older : List Event} (took : EndsAll active older) :
      Starts active plan past (.error .noUsablePath, none) (older ++ [⟨.gateway, false⟩])
  | unprepared {older : List Event} (took : EndsAll active older) (detail : String) :
      Starts active plan past (.error (.configurationInvalid detail), none)
        (older ++ [⟨.gateway, true⟩, ⟨.prepare (numbered past) plan, false⟩])
  | launches {older : List Event} {result : Except FailureCause Unit × Option (Running Nat Nat)}
      {events : List Event} (took : EndsAll active older)
      (launches : Launches plan (numbered past) result events) :
      Starts active plan past result
        (older ++ ⟨.gateway, true⟩ :: ⟨.prepare (numbered past) plan, true⟩ :: events)

theorem takeDownPrevious_emits (numbered : ∀ running ∈ active, running.Numbered running.runtime) :
    Emits past (takeDownPrevious machine.host active) fun _ events => EndsAll active events := by
  cases active with
  | none => exact emits_pure rfl
  | some running => exact takeDown_emits machine (numbered running rfl)

theorem peerOf_prepared {plan : TunnelPlan} {gateway : IpAddr} {bringup : Bool} :
    ∀ other ∈ peerOf plan gateway (Machine.prepared tunnel bringup),
      other.1 = tunnel ∧ other.2.destination = plan.bypass.host := by
  intro other some_
  rw [peerOf] at some_
  cases bringup with
  | false => cases some_
  | true =>
    cases awg : plan.awg with
    | none =>
      rw [awg] at some_
      cases some_
    | some =>
      rw [awg] at some_
      cases some_
      exact ⟨rfl, rfl⟩

theorem start_emits (plan : TunnelPlan)
    (sameNumber : ∀ running ∈ active, running.Numbered running.runtime) :
    Emits past (start machine.host active plan) fun result events =>
      Starts active plan past result events := by
  refine Emits.bind (takeDownPrevious_emits machine sameNumber) fun _ older took => ?_
  refine Emits.bind (gateway_emits machine) ?_
  rintro found _ rfl
  cases found with
  | error => exact emits_pure (.noPath took)
  | ok =>
    have number (ok : Bool) : numbered (past ++ older ++ [⟨.gateway, ok⟩]) = numbered past := by
      rw [numbered_append, numbered_append, took.numbered]
      rfl
    refine Emits.bind (prepare_emits machine plan (number _)) ?_
    rintro prepared _ ⟨rfl, shape⟩
    cases prepared with
    | error detail => exact emits_pure (.unprepared took detail)
    | ok prepared =>
      obtain ⟨bringup, rfl⟩ := shape prepared rfl
      refine (startPrepared_emits machine plan peerOf_prepared).mono ?_
      exact fun result events launches => .launches took launches

/-- What a carry-over does: nothing without a peer, otherwise the rewrite, and the rebind after a
rewrite that succeeded. -/
inductive Carries (gateway : IpAddr) :
    Option (Running Nat Nat) → Option (Running Nat Nat) → List Event → Prop
  | unmoved {active : Option (Running Nat Nat)}
      (without : ∀ running ∈ active, running.peer = none) : Carries gateway active active []
  | unwritten {running : Running Nat Nat} {tunnel : Nat} {route : HostRoute}
      (peer : running.peer = some (tunnel, route)) :
      Carries gateway (some running) (some running)
        [⟨.peer tunnel (.rewriteHostRoute route (route.via gateway)), false⟩]
  | rewritten {running : Running Nat Nat} {tunnel : Nat} {route : HostRoute}
      (peer : running.peer = some (tunnel, route)) (ok : Bool) :
      Carries gateway (some running)
        (some ⟨running.runtime, some (tunnel, route.via gateway), running.peerTouched⟩)
        [⟨.peer tunnel (.rewriteHostRoute route (route.via gateway)), true⟩,
          ⟨.peer tunnel (.rebindTunnel gateway), ok⟩]

theorem carryOver_emits (active : Option (Running Nat Nat)) (gateway : IpAddr) :
    Emits past (carryOver machine.host active gateway) fun result events =>
      Carries gateway active result.2 events := by
  cases active with
  | none => exact emits_pure (.unmoved nofun)
  | some running =>
    obtain ⟨runtime, peer, peerTouched⟩ := running
    cases peer with
    | none =>
      refine emits_pure (.unmoved fun running up => ?_)
      cases up
      rfl
    | some peer =>
      obtain ⟨tunnel, route⟩ := peer
      refine Emits.bind (moveToGateway_emits machine tunnel route gateway) ?_
      rintro ⟨installed, outcome⟩ events moves
      refine emits_pure ?_
      rcases moves with ⟨rfl, rfl⟩ | ⟨rfl, rfl⟩
      · exact .unwritten rfl
      · exact .rewritten rfl _

theorem stop_emits (sameNumber : ∀ running ∈ active, running.Numbered running.runtime) :
    Emits past (stop machine.host active) fun result events =>
      result = none ∧ ∃ ended, EndsAll active ended ∧
        events = ended ++ (if active.isSome then [⟨.flushResolverCache, true⟩, ⟨.discardConfig, true⟩]
          else []) := by
  cases active with
  | none => exact emits_pure ⟨rfl, [], rfl, rfl⟩
  | some running =>
    refine Emits.bind (down_emits machine (sameNumber running rfl)) ?_
    rintro _ _ ⟨ended, ends, rfl⟩
    refine Emits.bind (discard_emits machine) ?_
    rintro _ _ rfl
    refine emits_pure ⟨rfl, ended, ends, ?_⟩
    simp

end Parts

section Inversion

variable {machine : Machine} {state after : State}
  (sameNumber : ∀ running ∈ state.active, running.Numbered running.runtime)

include sameNumber

theorem start_starts {plan : TunnelPlan} {returned : Except FailureCause Unit}
    (steps : state.Steps machine (.start plan returned) after) :
    ∃ events, after.trace = state.trace ++ events ∧
      Starts state.active plan state.trace (returned, after.active) events := by
  have emits : Emits state.trace (start machine.host state.active plan) _ :=
    start_emits machine plan sameNumber
  obtain ⟨events, adds, starts⟩ := emits
  rw [State.Steps, State.next] at steps
  split at steps
  next same =>
      cases steps
      subst same
      exact ⟨events, adds, starts⟩
  next => cases steps

theorem stop_stops (steps : state.Steps machine .stop after) :
    after.active = none ∧ ∃ ended, EndsAll state.active ended ∧
      after.trace = state.trace ++ (ended ++
        if state.active.isSome then [⟨.flushResolverCache, true⟩, ⟨.discardConfig, true⟩]
        else []) := by
  have emits : Emits state.trace (stop machine.host state.active) _ := stop_emits machine sameNumber
  obtain ⟨events, adds, none_, ended, ends, rfl⟩ := emits
  cases steps
  exact ⟨none_, ended, ends, adds⟩

omit sameNumber in
theorem carryOver_carries {gateway : IpAddr} {returned : Except NetstateError Unit}
    (steps : state.Steps machine (.carryOver gateway returned) after) :
    ∃ events, after.trace = state.trace ++ events ∧
      Carries gateway state.active after.active events := by
  have emits : Emits state.trace (carryOver machine.host state.active gateway) _ :=
    carryOver_emits machine state.active gateway
  obtain ⟨events, adds, carries⟩ := emits
  rw [State.Steps, State.next] at steps
  split at steps
  next =>
      cases steps
      exact ⟨events, adds, carries⟩
  next => cases steps

end Inversion

end DnetEngine.Tunnels
