import DnetEngine.Core.EngineDiscipline

/-! The orchestrator that runs the engine: the actor that owns it, the executor that carries out
its work in order, the background tasks that report back, and the machine they act on. What the
machine answers and when each part gets to run is chosen from outside. -/

namespace DnetEngine

open Lib

/-- The profile and endpoint of a connection that is up. -/
def Phase.connected? : Phase → Option (ProfileId × EndpointId)
  | .connected profile endpoint => some (profile, endpoint)
  | .idle | .probing | .starting _ _ | .recovering | .failed _ => none

namespace Orchestrator

inductive Msg
  | connect (profile : Option ProfileId)
  | disconnect
  | shutdown
  | report (attempt : Nat) (input : Input)
  deriving DecidableEq

inductive WorkKind
  | reach (endpoints : List Endpoint)
  | startRace (profiles : List ProfileId) (endpoint : EndpointId)
  | cancelRace
  | startTunnel (profile : ProfileId) (endpoint : EndpointId)
  | stopTunnel
  | moveTunnel (profile : ProfileId) (endpoint : EndpointId)
  | barrier
  deriving DecidableEq

structure Work where
  attempt : Nat
  kind : WorkKind
  deriving DecidableEq

/-- A stop that is followed at once by a start is one move. -/
def foldMoves : List WorkKind → List WorkKind
  | [] => []
  | .stopTunnel :: .startTunnel profile endpoint :: rest =>
    .moveTunnel profile endpoint :: foldMoves rest
  | item :: rest => item :: foldMoves rest

def workOf : Action → Option WorkKind
  | .startRace profiles endpoint => some (.startRace profiles endpoint)
  | .cancelRace => some .cancelRace
  | .startTunnel profile endpoint => some (.startTunnel profile endpoint)
  | .stopTunnel => some .stopTunnel
  | .emit _ | .warnTier2 _ => none

def workFor (actions : List Action) : List WorkKind := foldMoves (actions.filterMap workOf)

structure Actor where
  engine : Engine
  attempt : Nat := 0
  deriving DecidableEq

/-- What a step of the actor leaves: its state, the work it sends, and the connection it begins to
watch. -/
structure Stepped where
  actor : Actor
  work : List Work
  watched : Option (ProfileId × EndpointId)

/-- Feed the engine one input and send what it asks for. Everything a step starts shares one new
attempt number. -/
def Actor.step (actor : Actor) (input : Input) (checkReach : Bool) (now : Instant) :
    Except Panic Stepped := do
  let (engine, actions) ← actor.engine.step input now
  let work := workFor actions
  let attempt := if work.isEmpty then actor.attempt else actor.attempt + 1
  let work := if checkReach && !work.isEmpty then .reach engine.endpoints :: work else work
  let watched :=
    if actor.engine.phase.connected?.isSome then none else engine.phase.connected?
  .ok { actor := { engine, attempt }, work := work.map (fun kind => ⟨attempt, kind⟩), watched }

def Actor.connect (actor : Actor) (profile : Option ProfileId) (environment : Environment)
    (now : Instant) : Except Panic Stepped := do
  let (engine, _) ← actor.engine.step (.environment environment) now
  { actor with engine }.step (.connect profile) true now

/-- Where the executor is in the item of work it took. -/
inductive Stage
  | idle
  | reaching (attempt : Nat) (endpoints : List Endpoint)
  | starting (attempt : Nat) (profile : ProfileId) (endpoint : EndpointId)
  | moving (attempt : Nat) (profile : ProfileId) (endpoint : EndpointId)
  /-- The stop of a move that could not be done live. -/
  | replacing (attempt : Nat) (profile : ProfileId) (endpoint : EndpointId)
  | stopping
  | reporting (attempt : Nat) (inputs : List Input)
  deriving DecidableEq

inductive TaskKind
  | race (token : Nat)
  | monitor (profile : ProfileId) (endpoint : EndpointId)
  | watch
  deriving DecidableEq

/-- A background task: results it has still to check against the current attempt, and the one it is
sending. -/
structure Task where
  attempt : Nat
  kind : TaskKind
  pending : List Input := []
  outgoing : Option Input := none
  deriving DecidableEq

structure System where
  actor : Actor
  /-- The actor still takes messages. -/
  accepting : Bool := true
  mail : List Msg := []
  work : List Work := []
  stage : Stage := .idle
  race : Option Nat := none
  cancelled : List Nat := []
  tokens : Nat := 0
  tasks : List Task := []
  /-- The tunnel that is up on the machine, and the last one a start or a move brought up. -/
  tunnel : Option (ProfileId × EndpointId) := none
  lastUp : Option (ProfileId × EndpointId) := none
  /-- A shutdown was told that its work is done. -/
  done : Bool := false
  deriving DecidableEq

def spawn (engine : Engine) : System := { actor := { engine } }

namespace System

def push (s : System) (message : Msg) : System :=
  if s.accepting then { s with mail := s.mail ++ [message] } else s

def ask (s : System) (message : Msg) : Option System :=
  match message with
  | .connect _ | .disconnect | .shutdown => some (s.push message)
  | .report _ _ => none

/-- The tasks that watch a new connection; not every connection has a network to watch. -/
def watchers (attempt : Nat) (watchable : Bool) : Option (ProfileId × EndpointId) → List Task
  | none => []
  | some (profile, endpoint) =>
    { attempt, kind := .monitor profile endpoint } ::
      (if watchable then [{ attempt, kind := .watch }] else [])

def absorb (s : System) (stepped : Stepped) (watchable : Bool) : System :=
  { s with
    actor := stepped.actor
    work := s.work ++ stepped.work
    tasks := s.tasks ++ watchers stepped.actor.attempt watchable stepped.watched }

/-- The shutdown's barrier is queued behind all other work, and nothing after it is accepted. -/
def close (s : System) : System :=
  { s with
    work := s.work ++ [⟨s.actor.attempt, .barrier⟩]
    accepting := false
    mail := [] }

def handle (s : System) (environment : Environment) (now : Instant) (watchable : Bool) :
    Option System :=
  match s.accepting, s.mail with
  | true, message :: rest =>
    let s := { s with mail := rest }
    match message with
    | .connect profile =>
      (s.actor.connect profile environment now).toOption.map (fun stepped =>
        s.absorb stepped watchable)
    | .disconnect =>
      (s.actor.step .disconnect false now).toOption.map (fun stepped =>
        s.absorb stepped watchable)
    | .shutdown =>
      (s.actor.step .disconnect false now).toOption.map (fun stepped =>
        (s.absorb stepped watchable).close)
    | .report attempt input =>
      if attempt = s.actor.attempt then
        (s.actor.step input false now).toOption.map (fun stepped =>
          s.absorb stepped watchable)
      else some s
  | _, _ => none

/-- The token of the last race is cancelled. -/
def cancelRace (s : System) : System :=
  { s with race := none, cancelled := s.race.toList ++ s.cancelled }

def takeWork (s : System) : Option System :=
  match s.stage, s.work with
  | .idle, ⟨attempt, kind⟩ :: rest =>
    let s := { s with work := rest }
    match kind with
    | .reach endpoints => some { s with stage := .reaching attempt endpoints }
    | .startRace _ _ =>
      let s := s.cancelRace
      some { s with
        race := some s.tokens
        tokens := s.tokens + 1
        tasks := s.tasks ++ [{ attempt, kind := .race s.tokens }] }
    | .cancelRace => some s.cancelRace
    | .startTunnel profile endpoint =>
      some { s.cancelRace with stage := .starting attempt profile endpoint }
    | .moveTunnel profile endpoint =>
      some { s.cancelRace with stage := .moving attempt profile endpoint }
    | .stopTunnel => some { s with stage := .stopping }
    | .barrier => some { s with done := true }
  | _, _ => none

end System

/-- What the machine answers. -/
inductive Answer
  | reached (environment : Environment) (answer : List Reach)
  | started
  | startFailed (cause : FailureCause)
  | moved
  | notMoved
  | stopped
  deriving DecidableEq

namespace System

def bringUp (s : System) (attempt : Nat) (profile : ProfileId) (endpoint : EndpointId) : System :=
  { s with
    tunnel := some (profile, endpoint)
    lastUp := some (profile, endpoint)
    stage := .reporting attempt [.tunnelUp] }

/-- The machine answers what the executor asked of it. A start that fails leaves no tunnel, a stop
leaves none, and a move that could not be done changes nothing. -/
def complete (s : System) (answer : Answer) : Option System :=
  match s.stage, answer with
  | .reaching attempt _, .reached environment answer =>
    some { s with stage := .reporting attempt [.environment environment, .reach answer] }
  | .starting attempt profile endpoint, .started => some (s.bringUp attempt profile endpoint)
  | .starting attempt _ _, .startFailed cause =>
    some { s with tunnel := none, stage := .reporting attempt [.startFailed cause] }
  | .moving attempt profile endpoint, .moved => some (s.bringUp attempt profile endpoint)
  | .moving attempt profile endpoint, .notMoved =>
    some { s with stage := .replacing attempt profile endpoint }
  | .replacing attempt profile endpoint, .stopped =>
    some { s with tunnel := none, stage := .starting attempt profile endpoint }
  | .stopping, .stopped => some { s with tunnel := none, stage := .idle }
  | _, _ => none

def sendReport (s : System) : Option System :=
  match s.stage with
  | .reporting attempt (input :: rest) =>
    some { s.push (.report attempt input) with
      stage := if rest.isEmpty then .idle else .reporting attempt rest }
  | _ => none

end System

/-- What happens in a background task. -/
inductive News
  | raced (decision : RaceDecision) (results : List (ProfileId × ProfileProbe))
  | ticked (environment : Environment) (check : LiveCheck) (probe : Option ProbeOutcome)
  | pathMoved (source : Option InterfaceId) (target : InterfaceId)
  | told (change : Change)
  | checked
  | sent
  | ended
  deriving DecidableEq

/-- What a task does next, and the message it sends; `none` in place of the task means that it
ended. Monitors and watches look at the current attempt before each report, races at their own
token. -/
def Task.next (task : Task) (current : Nat) (cancelled : List Nat) :
    News → Option (Option Task × Option Input)
  | .raced decision results =>
    match task.kind, task.outgoing with
    | .race token, none =>
      if cancelled.contains token then some (none, none)
      else some (some { task with outgoing := some (.raceFinished decision results) }, none)
    | _, _ => none
  | .ticked environment check probe =>
    match task.kind, task.pending, task.outgoing with
    | .monitor _ endpoint, [], none =>
      if task.attempt = current then
        some (some { task with pending := [.environment environment, .liveCheck check] ++
          (probe.map (fun outcome => .endpointProbe endpoint outcome)).toList }, none)
      else some (none, none)
    | _, _, _ => none
  | .pathMoved source target =>
    match task.kind, task.outgoing with
    | .watch, none =>
      if task.attempt = current then
        some (some { task with outgoing := some (.pathChanged source target) }, none)
      else some (none, none)
    | _, _ => none
  | .told change =>
    match task.kind, task.outgoing with
    | .watch, none =>
      if task.attempt = current then
        some (some { task with outgoing := some (.connectivity change) }, none)
      else some (none, none)
    | _, _ => none
  | .checked =>
    match task.pending, task.outgoing with
    | input :: rest, none =>
      if task.attempt = current then
        some (some { task with pending := rest, outgoing := some input }, none)
      else some (none, none)
    | _, _ => none
  | .sent =>
    match task.kind, task.outgoing with
    | .race _, some input => some (none, some input)
    | .monitor _ _, some input | .watch, some input =>
      some (some { task with outgoing := none }, some input)
    | _, none => none
  | .ended => some (none, none)

namespace System

def replaceTask (s : System) (index : Nat) : Option Task → System
  | some next => { s with tasks := s.tasks.set index next }
  | none => { s with tasks := s.tasks.eraseIdx index }

def runTask (s : System) (index : Nat) (news : News) : Option System :=
  match s.tasks[index]? with
  | none => none
  | some task =>
    match task.next s.actor.attempt s.cancelled news with
    | none => none
    | some (next, none) => some (s.replaceTask index next)
    | some (next, some input) =>
      some ((s.replaceTask index next).push (.report task.attempt input))

end System

inductive Choice
  | ask (message : Msg)
  | handle (environment : Environment) (now : Instant) (watchable : Bool)
  | takeWork
  | complete (answer : Answer)
  | sendReport
  | runTask (index : Nat) (news : News)
  deriving DecidableEq

def System.next (s : System) : Choice → Option System
  | .ask message => s.ask message
  | .handle environment now watchable => s.handle environment now watchable
  | .takeWork => s.takeWork
  | .complete answer => s.complete answer
  | .sendReport => s.sendReport
  | .runTask index news => s.runTask index news

def Steps (s : System) (choice : Choice) (after : System) : Prop := s.next choice = some after

abbrev History := List (Taken System Choice)

end Orchestrator

end DnetEngine
