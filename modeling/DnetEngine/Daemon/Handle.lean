import DnetEngine.Daemon.Unasked

/-! What the clients of the orchestrator hold: the handle that asks, the published state it answers
with, and the flag that says a connect is pending. Every atomic operation on them, by any number of
callers and by the actor, is a step of its own. -/

namespace DnetEngine.Orchestrator

open Lib

inductive ConnectionStatus
  | disconnected
  | probing
  | connected
  | failed
  deriving DecidableEq

structure ActiveProfile where
  id : String
  kind : String
  tier : FailoverTier
  deriving DecidableEq

structure ActiveEndpoint where
  id : EndpointId
  label : String
  deriving DecidableEq

inductive Warning
  | tier2ProfileActive
  | brutalEnabled
  | encryptedDnsOverridden
  deriving DecidableEq

inductive RoutingPosture
  | tunnelled (tier : FailoverTier)
  | failClosed
  deriving DecidableEq

structure StateSnapshot where
  status : ConnectionStatus
  activeProfile : Option ActiveProfile := none
  activeEndpoint : Option ActiveEndpoint := none
  failure : Option FailureCause := none
  warnings : List Warning := []
  posture : RoutingPosture := .failClosed
  deriving DecidableEq

def kindName : ProfileKind → String
  | .amneziaWg => "AmneziaWg"
  | .hysteria2 => "Hysteria2"
  | .vlessReality => "VlessReality"

def statusOf : Phase → ConnectionStatus
  | .idle => .disconnected
  | .probing | .starting _ _ | .recovering => .probing
  | .connected _ _ => .connected
  | .failed _ => .failed

/-- The state a client is shown. `brutal` says which profiles have Brutal turned on. An engine that
is connected by a profile or over an endpoint it does not have is shown as probing. -/
def snapshotOf (brutal : ConnectionProfile → Bool) (engine : Engine) : StateSnapshot :=
  let carrying : Option (ConnectionProfile × Endpoint) :=
    match engine.phase with
    | .connected profile endpoint =>
      (engine.profiles.find? (fun p => p.id == profile)).bind (fun profile =>
        (engine.endpoints.find? (fun e => e.id == endpoint)).map (fun endpoint =>
          (profile, endpoint)))
    | _ => none
  let failure :=
    match engine.phase with
    | .failed cause => some cause
    | _ => none
  match statusOf engine.phase, carrying with
  | .connected, some (profile, endpoint) =>
    { status := .connected
      activeProfile := some
        { id := profile.id.name, kind := kindName profile.kind, tier := profile.tier }
      activeEndpoint := some { id := endpoint.id, label := endpoint.label }
      failure
      warnings := (if profile.tier = .tier2 then [.tier2ProfileActive] else []) ++
        (if brutal profile then [.brutalEnabled] else [])
      posture := .tunnelled profile.tier }
  | .connected, none => { status := .probing, failure }
  | status, _ => { status, failure }

def ConnectionStatus.atRest : ConnectionStatus → Bool
  | .disconnected | .failed => true
  | .probing | .connected => false

/-- What `snapshot` answers from the stored state and the flag, each read at its own moment. -/
def shown (state : StateSnapshot) (connecting : Bool) : StateSnapshot :=
  if connecting && state.status.atRest then { status := .probing } else state

inductive IpcError
  | serviceBusy
  | notConnected
  deriving DecidableEq

inductive Reply
  | accepted
  | refused (error : IpcError)
  | shown (state : StateSnapshot)
  | idle (answer : Bool)
  | closed
  deriving DecidableEq

/-- Who looks at the state: a client, or a disconnect that wants to know whether there is anything
to disconnect. -/
inductive Purpose
  | snapshot
  | disconnect
  deriving DecidableEq

/-- Where a call is: the atomic operation it does next. -/
inductive Call
  /-- `connect`: claim the flag, read the stored state, and queue the message; a connect that is
  refused gives the claim back. -/
  | claiming (profile : Option ProfileId)
  | judging (profile : Option ProfileId)
  | sending (profile : Option ProfileId)
  | releasing
  /-- `snapshot`, and the `disconnect` that begins with one. -/
  | reading (purpose : Purpose)
  | loading (purpose : Purpose) (state : StateSnapshot)
  | stopping
  /-- `is_idle`. -/
  | loadingIdle
  | readingIdle
  /-- `shutdown` and `retire`. -/
  | closing
  | returned (reply : Reply)
  deriving DecidableEq

inductive Request
  | connect (profile : Option ProfileId)
  | disconnect
  | snapshot
  | isIdle
  | shutdown
  deriving DecidableEq

def Request.begin : Request → Call
  | .connect profile => .claiming profile
  | .disconnect => .reading .disconnect
  | .snapshot => .reading .snapshot
  | .isIdle => .loadingIdle
  | .shutdown => .closing

/-- Where the actor is in its loop. -/
inductive Serving
  | ready
  /-- It took a message, a connect or another, and has yet to publish where that led. -/
  | publishing (wasConnect : Bool)
  /-- It published where a connect led, and has yet to clear the flag. -/
  | clearing
  /-- It took a shutdown, and the queue closes when it has published where that led. -/
  | ending
  deriving DecidableEq

structure Shared where
  core : System
  connecting : Bool := false
  state : StateSnapshot
  calls : List Call := []
  serving : Serving := .ready
  deriving DecidableEq

variable (brutal : ConnectionProfile → Bool)

def Shared.spawn (engine : Engine) : Shared :=
  { core := Orchestrator.spawn engine, state := snapshotOf brutal engine }

namespace Shared

def set (s : Shared) (index : Nat) (call : Call) : Shared :=
  { s with calls := s.calls.set index call }

/-- The queue takes messages; whether it has room is chosen from outside. Between the shutdown and
its end it still takes them, though nobody will read them. -/
def isOpen (s : Shared) : Bool := s.core.accepting || s.serving == .ending

def trySend (s : Shared) (index : Nat) (room : Bool) (message : Msg) (sent failed : Call) :
    Shared :=
  if room && s.isOpen then ({ s with core := s.core.push message } : Shared).set index sent
  else s.set index failed

/-- One atomic operation of the call at `index`. -/
def runCall (s : Shared) (index : Nat) (room : Bool) : Option Shared :=
  match s.calls[index]? with
  | none => none
  | some (.claiming profile) =>
    if s.connecting then some (s.set index (.returned (.refused .serviceBusy)))
    else some (({ s with connecting := true } : Shared).set index (.judging profile))
  | some (.judging profile) =>
    if s.state.status.atRest then some (s.set index (.sending profile))
    else some (s.set index .releasing)
  | some (.sending profile) =>
    some (s.trySend index room (.connect profile) (.returned .accepted) .releasing)
  | some .releasing =>
    some (({ s with connecting := false } : Shared).set index (.returned (.refused .serviceBusy)))
  | some (.reading purpose) => some (s.set index (.loading purpose s.state))
  | some (.loading .snapshot state) =>
    some (s.set index (.returned (.shown (shown state s.connecting))))
  | some (.loading .disconnect state) =>
    if (shown state s.connecting).status = .disconnected then
      some (s.set index (.returned (.refused .notConnected)))
    else some (s.set index .stopping)
  | some .stopping =>
    some (s.trySend index room .disconnect (.returned .accepted)
      (.returned (.refused .serviceBusy)))
  | some .loadingIdle =>
    if s.connecting then some (s.set index (.returned (.idle false)))
    else some (s.set index .readingIdle)
  | some .readingIdle => some (s.set index (.returned (.idle s.state.status.atRest)))
  | some .closing =>
    some (s.trySend index room .shutdown (.returned .closed) (.returned .closed))
  | some (.returned _) => none

/-- What the actor does after it took `message`. -/
def serves : Msg → Serving
  | .connect _ => .publishing true
  | .disconnect | .report _ _ => .publishing false
  | .shutdown => .ending

def take (s : Shared) (environment : Environment) (now : Instant) (watchable : Bool) :
    Option Shared :=
  match s.serving, s.core.mail with
  | .ready, message :: _ =>
    (s.core.handle environment now watchable).map (fun core =>
      { s with core, serving := serves message })
  | _, _ => none

def publishState (s : Shared) : Shared :=
  { s with state := snapshotOf brutal s.core.actor.engine }

def goOn (s : Shared) : Option Shared :=
  match s.serving with
  | .ready => none
  | .publishing true => some (({ s with serving := .clearing } : Shared).publishState brutal)
  | .publishing false => some (({ s with serving := .ready } : Shared).publishState brutal)
  | .clearing => some { s with connecting := false, serving := .ready }
  | .ending => some (({ s with serving := .ready } : Shared).publishState brutal)

end Shared

inductive Turn
  | begin (request : Request)
  | call (index : Nat) (room : Bool)
  | take (environment : Environment) (now : Instant) (watchable : Bool)
  | goOn
  /-- The executor or a background task. -/
  | background (choice : Choice)
  deriving DecidableEq

/-- A step of the executor or of a background task. -/
def Choice.isBackground : Choice → Bool
  | .takeWork | .complete _ | .sendReport | .runTask _ _ => true
  | .ask _ | .handle _ _ _ => false

def Shared.next (s : Shared) : Turn → Option Shared
  | .begin request => some { s with calls := s.calls ++ [request.begin] }
  | .call index room => s.runCall index room
  | .take environment now watchable => s.take environment now watchable
  | .goOn => s.goOn brutal
  | .background choice =>
    if choice.isBackground then (s.core.next choice).map (fun core => { s with core })
    else none

def Shared.Steps (s : Shared) (turn : Turn) (after : Shared) : Prop :=
  s.next brutal turn = some after

end DnetEngine.Orchestrator
