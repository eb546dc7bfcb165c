import DnetEngine.Core.Endpoints
import DnetEngine.Core.Probe

/-! The connection engine: a state machine fed with what the daemon observes, answering with what
the daemon is to do. -/

namespace DnetEngine

open Lib

inductive Phase
  | idle
  | probing
  | starting (profile : ProfileId) (endpoint : EndpointId)
  | connected (profile : ProfileId) (endpoint : EndpointId)
  | recovering
  | failed (cause : FailureCause)
  deriving DecidableEq

/-- `Idle | Failed(_)`: a connect is accepted. -/
def Phase.atRest : Phase → Bool
  | .idle | .failed _ => true
  | .probing | .starting _ _ | .connected _ _ | .recovering => false

/-- `Probing | Recovering`: a race is in progress. -/
def Phase.racing : Phase → Bool
  | .probing | .recovering => true
  | .idle | .failed _ | .starting _ _ | .connected _ _ => false

def Phase.tunnel : Phase → Option (ProfileId × EndpointId)
  | .starting profile endpoint | .connected profile endpoint => some (profile, endpoint)
  | .idle | .probing | .recovering | .failed _ => none

variable {phase : Phase}

theorem Phase.atRest_of_racing (racing : phase.racing = true) :
    phase.atRest = false := by
  cases phase <;> first | rfl | cases racing

theorem Phase.racing_of_atRest (rest : phase.atRest = true) :
    phase.racing = false := by
  cases phase <;> first | rfl | cases rest

theorem Phase.racing_of_tunnel (tunnel : phase.tunnel.isSome = true) :
    phase.racing = false := by
  cases phase <;> first | rfl | cases tunnel

theorem Phase.tunnel_of_racing (racing : phase.racing = true) :
    phase.tunnel = none := by
  cases phase <;> first | rfl | cases racing

theorem Phase.tunnel_of_atRest (rest : phase.atRest = true) :
    phase.tunnel = none := by
  cases phase <;> first | rfl | cases rest

structure Environment where
  privileged : Bool := true
  usablePaths : Nat := 1
  captivePortal : Bool := false
  configurationError : Option String := none
  deriving DecidableEq

inductive Input
  | connect (profile : Option ProfileId)
  | disconnect
  | raceFinished (decision : RaceDecision) (results : List (ProfileId × ProfileProbe))
  | tunnelUp
  | startFailed (cause : FailureCause)
  | liveCheck (check : LiveCheck)
  | endpointProbe (endpoint : EndpointId) (outcome : ProbeOutcome)
  | environment (environment : Environment)
  | pathChanged (source : Option InterfaceId) (target : InterfaceId)
  | connectivity (change : Change)
  | reach (reach : List Reach)
  deriving DecidableEq

inductive Action
  | emit (event : ConnectionEvent)
  | startRace (profiles : List ProfileId) (endpoint : EndpointId)
  | cancelRace
  | startTunnel (profile : ProfileId) (endpoint : EndpointId)
  | stopTunnel
  | warnTier2 (profile : ProfileId)
  deriving DecidableEq

structure Engine where
  profiles : List ConnectionProfile
  endpoints : List Endpoint
  phase : Phase := .idle
  environment : Environment := {}
  reach : List Reach := []
  detector : BlockDetector := {}
  endpoint : Option EndpointId := none
  raced : List ProfileId := []
  replacing : Option ProfileId := none
  requested : Option ProfileId := none
  deriving DecidableEq

abbrev Outcome := Engine × List Action

/-- The actions of one part of a step, then those of the part that runs on its engine. -/
def Outcome.andThen (first : Outcome) (second : Engine → Outcome) : Outcome :=
  ((second first.1).1, first.2 ++ (second first.1).2)

def unusableReason : Unusable → String
  | .handshakeFailed => "could not connect"
  | .noTraffic => "connected, but no data came through"
  | .tooLittleData => "too little data came through to judge it"
  | .tooSlow => "too slow to be useful"
  | .invalidMeasurement => "the probe measurement was not valid"

namespace Engine

def new (profiles : List ConnectionProfile) (endpoints : List Endpoint) : Engine :=
  { profiles, endpoints }

def startRace (e : Engine) (profiles : List ProfileId) (endpoint : EndpointId) (phase : Phase) :
    Outcome :=
  ({ e with raced := profiles, phase },
    (if phase = .probing then [.emit .probeStarted] else []) ++ [.startRace profiles endpoint])

def startTunnel (e : Engine) (profile : ProfileId) (endpoint : EndpointId) (because : String) :
    Outcome :=
  let tier2 := (e.profiles.find? (fun p => p.id == profile)).any (fun p => p.tier == .tier2)
  ({ e with detector := {}, phase := .starting profile endpoint },
    [.emit (.profileSelected profile because)] ++
      (if tier2 then [.warnTier2 profile] else []) ++ [.startTunnel profile endpoint])

def fail (e : Engine) (cause : FailureCause) (stopTunnel : Bool) : Outcome :=
  ({ e with phase := .failed cause, raced := [], replacing := none },
    (if stopTunnel then [.stopTunnel] else []) ++ [.emit (.failed cause)])

/-- `afterRace` adds what only a race can show. -/
def classify (e : Engine) (afterRace : Bool) : Option FailureCause :=
  let reach := (List.range e.endpoints.length).map (fun i =>
    match afterRace, e.reach[i]? with
    | true, some r => r
    | _, _ => Reach.unknown)
  DnetEngine.classify
    { privileged := e.environment.privileged
      configurationError := e.environment.configurationError
      coreFailed := none
      usablePaths := e.environment.usablePaths
      captivePortal := e.environment.captivePortal
      endpointReach := reach
      profiles := e.profiles }

def isProbeable (e : Engine) (id : ProfileId) : Bool :=
  e.profiles.any (fun p => p.id == id && p.kind.proxyProbeable)

def probeableIds (e : Engine) : List ProfileId :=
  (e.profiles.filter (fun p => p.kind.proxyProbeable)).map ConnectionProfile.id

def namedProfileFailed (e : Engine) : Except Panic FailureCause := do
  let name ← orError .requestedMissing e.requested
  let reason := (e.profiles.findSome? (fun p =>
    match p.viability with
    | .blocked _ reason => if p.id == name then some reason else none
    | .untested | .working _ => none)).getD "it did not work"
  .ok (.configurationInvalid (name.name ++ " did not work on this network (" ++ reason ++
    "); connect without naming a profile to try the others"))

/-- A profile that can only be tried by bringing it up, once every other has failed. -/
def directFallback (e : Engine) : Option ProfileId :=
  let racedAllFailed :=
    (e.profiles.filter (fun p => p.kind.proxyProbeable)).all (fun p => p.viability.isBlocked)
  if !racedAllFailed then none
  else (e.profiles.find? (fun p =>
    !p.kind.proxyProbeable && p.viability == .untested)).map ConnectionProfile.id

def markWorking (e : Engine) (id : ProfileId) (now : Instant) : Engine :=
  { e with profiles := updateFirst (fun p => p.id == id) (fun p => p.markWorking now) e.profiles }

def markBlocked (e : Engine) (id : ProfileId) (now : Instant) (reason : String) : Outcome :=
  if e.profiles.any (fun p => p.id == id) then
    ({ e with profiles :=
        updateFirst (fun p => p.id == id) (fun p => p.markBlocked now reason) e.profiles },
      [.emit (.profileBlocked id reason)])
  else (e, [])

/-- What a new connect forgets, and the profile it is asked for. -/
def forget (e : Engine) (requested : Option ProfileId) : Engine :=
  { e with
    profiles := e.profiles.map ConnectionProfile.resetViability
    detector := {}
    raced := []
    replacing := none
    reach := []
    requested }

def connect (e : Engine) (requested : Option ProfileId) : Outcome :=
  if !e.phase.atRest then (e, [])
  else
    let e := e.forget requested
    match e.classify false with
    | some cause => e.fail cause false
    | none =>
      match requested.filter (fun id => !e.profiles.any (fun p => p.id == id)) with
      | some id =>
        e.fail (.configurationInvalid
          ("there is no connection profile named " ++ id.name)) false
      | none =>
        match (rank e.endpoints).head? with
        | none => e.fail .noEndpointReachable false
        | some endpoint =>
          let e := { e with endpoint := some endpoint }
          match requested with
          | some id =>
            if !e.isProbeable id then
              e.startTunnel id endpoint ("you asked for " ++ id.name ++
                " by name; it cannot be tested ahead of time, so it is started directly")
            else e.startRace [id] endpoint .probing
          | none =>
            let probeable := e.probeableIds
            if probeable.isEmpty then
              match e.directFallback with
              | some id =>
                e.startTunnel id endpoint (id.name ++ " is the only profile " ++
                  "configured; it cannot be tested ahead of time, so it is started " ++
                  "directly")
              | none => e.fail .allProfilesBlocked false
            else e.startRace probeable endpoint .probing

def disconnect (e : Engine) : Outcome :=
  let actions := match e.phase with
    | .idle | .failed _ => []
    | .probing | .recovering => [Action.cancelRace]
    | .starting _ _ | .connected _ _ => [Action.stopTunnel]
  ({ e with phase := .idle, raced := [], replacing := none }, actions)

def recordResult (now : Instant) (outcome : Outcome) (result : ProfileId × ProfileProbe) :
    Outcome :=
  match judge result.2 with
  | .usable _ => (outcome.1.markWorking result.1 now, outcome.2)
  | .unusable why =>
    outcome.andThen (fun e => e.markBlocked result.1 now (unusableReason why))

def recordSilent (now : Instant) (outcome : Outcome) (id : ProfileId) : Outcome :=
  outcome.andThen (fun e => e.markBlocked id now "did not respond in time")

/-- Record what the race learned on the profiles, and say so for each one that is blocked. -/
def recordResults (e : Engine) (decision : RaceDecision)
    (results : List (ProfileId × ProfileProbe)) (now : Instant) : Outcome :=
  let reported := results.map Prod.fst
  let outcome := results.foldl (recordResult now) (e, [])
  let outcome :=
    if decision = .noneUsable then
      (outcome.1.raced.filter (fun id => !reported.contains id)).foldl (recordSilent now) outcome
    else outcome
  let marked := match decision with
    | .selected profile _ _ => outcome.1.markWorking profile now
    | .pending | .noneUsable => outcome.1
  ({ marked with raced := [] }, outcome.2)

def raceBecause (e : Engine) (winner : ProfileId) (bitsPerSec : Nat) : String :=
  let mbit := Float.ofNat bitsPerSec / 1000000.0
  let base := winner.name ++ " carried traffic best in the probe race, at about " ++
    formatTenths mbit ++ " Mbit/s"
  match e.replacing with
  | some old => base ++ "; it replaces " ++ old.name ++ ", which the network blocked"
  | none => base

def fallbackBecause (e : Engine) (id : ProfileId) (recovering : Bool) : String :=
  let base := "no other profile worked on this network, so " ++ id.name ++
    " is started directly (it cannot be tested ahead of time)"
  match e.replacing, recovering with
  | some old, true => base ++ "; it replaces " ++ old.name ++ ", which the network blocked"
  | _, _ => base

/-- A winner this race did not run is a stale result from an abandoned one. -/
def staleWinner (e : Engine) : RaceDecision → Bool
  | .selected profile _ _ => !e.raced.contains profile
  | .pending | .noneUsable => false

def afterRace (e : Engine) (endpoint : EndpointId) (recovering : Bool) :
    RaceDecision → Except Panic Outcome
  | .selected profile _ bitsPerSec =>
    .ok (e.startTunnel profile endpoint (e.raceBecause profile bitsPerSec))
  | .noneUsable =>
    match e.classify true with
    | some cause => .ok (e.fail cause false)
    | none =>
      if !recovering && e.requested.isSome then do
        let cause ← e.namedProfileFailed
        .ok (e.fail cause false)
      else
        match e.directFallback with
        | some id => .ok (e.startTunnel id endpoint (e.fallbackBecause id recovering))
        | none => .ok (e.fail .allProfilesBlocked false)
  | .pending => .ok (e, [])

def raceFinished (e : Engine) (decision : RaceDecision)
    (results : List (ProfileId × ProfileProbe)) (now : Instant) : Except Panic Outcome :=
  if !e.phase.racing then .ok (e, [])
  else if decision = .pending then .ok (e, [])
  else if e.staleWinner decision then .ok (e, [])
  else do
    let endpoint ← orError .raceWithoutEndpoint e.endpoint
    let recovering := decide (e.phase = .recovering)
    let recorded := e.recordResults decision results now
    let next ← recorded.1.afterRace endpoint recovering decision
    .ok (next.1, recorded.2 ++ next.2)

def tunnelUp (e : Engine) (now : Instant) : Outcome :=
  match e.phase with
  | .starting profile endpoint =>
    ({ e.markWorking profile now with
      detector := {}, replacing := none, phase := .connected profile endpoint }, [])
  | .idle | .probing | .connected _ _ | .recovering | .failed _ => (e, [])

def pathChanged (e : Engine) (source : Option InterfaceId) (target : InterfaceId) : Outcome :=
  match e.phase with
  | .connected profile _ =>
    match e.profiles.find? (fun p => p.id == profile) with
    | some p => (e, [.emit (.pathChanged source target p.tier)])
    | none => (e, [])
  | .idle | .probing | .starting _ _ | .recovering | .failed _ => (e, [])

def connectivity (e : Engine) (change : Change) : Outcome :=
  match e.phase with
  | .connected _ _ =>
    match change with
    | .degraded d => (e, [.emit (.degraded d.path d.band d.staying)])
    | .recovered path => (e, [.emit (.recovered path)])
  | .idle | .probing | .starting _ _ | .recovering | .failed _ => (e, [])

/-- Move a tunnel to another endpoint if `active` is no longer usable. `none` means keep it. -/
def relocateTunnel (e : Engine) (profile : ProfileId) (active : EndpointId) :
    Except Panic (Option Outcome) := do
  match ← planMigration e.endpoints active with
  | .stay => .ok none
  | .moveTo target event =>
    .ok (some ({ e with
        endpoint := some target, detector := {}, phase := .starting profile target },
      [.emit event, .stopTunnel, .startTunnel profile target]))
  | .noEndpointReachable => .ok (some (e.fail .noEndpointReachable true))

/-- Restart the race in progress against another endpoint if `active` is no longer usable. -/
def relocateRace (e : Engine) (active : EndpointId) : Except Panic (Option Outcome) := do
  match ← planMigration e.endpoints active with
  | .stay => .ok none
  | .moveTo target event =>
    .ok (some ({ e with endpoint := some target },
      [.emit event, .cancelRace, .startRace e.raced target]))
  | .noEndpointReachable =>
    .ok (some (Outcome.andThen (e, [.cancelRace]) (fun e => e.fail .noEndpointReachable false)))

/-- Look for another profile after `profile` was blocked and its tunnel stopped. -/
def replace (e : Engine) (profile : ProfileId) (endpoint : EndpointId) : Except Panic Outcome :=
  match planReprobe e.profiles profile with
  | .allBlocked => .ok (e.fail .allProfilesBlocked false)
  | .try_ candidates =>
    let probeable := candidates.filter e.isProbeable
    if probeable.isEmpty then do
      let direct ← orError .noCandidate candidates.head?
      .ok (e.startTunnel direct endpoint (e.fallbackBecause direct true))
    else .ok (e.startRace probeable endpoint .recovering)

/-- The block recorded and said, and the tunnel stopped before anything else is tried. -/
def blockCarrier (e : Engine) (profile : ProfileId) (failures : Nat) (now : Instant) : Outcome :=
  let reason := "stopped carrying traffic: " ++ toString failures ++
    " live checks failed in a row"
  let marked := e.markBlocked profile now reason
  ({ marked.1 with replacing := some profile }, marked.2 ++ [.stopTunnel])

def liveCheck (e : Engine) (check : LiveCheck) (now : Instant) : Except Panic Outcome :=
  match e.phase with
  | .connected profile endpoint =>
    let observed := e.detector.observe check
    let e := { e with detector := observed.1 }
    match observed.2 with
    | .blocked failures =>
      match e.classify false with
      | some cause => .ok (e.fail cause true)
      | none => do
          match ← e.relocateTunnel profile endpoint with
          | some outcome => .ok outcome
          | none =>
            let blocked := e.blockCarrier profile failures now
            let next ← blocked.1.replace profile endpoint
            .ok (next.1, blocked.2 ++ next.2)
    | .fine | .suspect _ | .alreadyBlocked => .ok (e, [])
  | .idle | .probing | .starting _ _ | .recovering | .failed _ => .ok (e, [])

def endpointProbe (e : Engine) (endpoint : EndpointId) (outcome : ProbeOutcome)
    (now : Instant) : Except Panic Outcome :=
  match e.endpoints.find? (fun x => x.id == endpoint) with
  | none => .ok (e, [])
  | some known => do
      let transition ← known.health.onProbe outcome now {}
      let endpoints := updateFirst (fun x => x.id == endpoint)
        (fun x => { x with health := transition.next }) e.endpoints
      let e := { e with endpoints }
      if e.endpoint ≠ some endpoint ∨ !transition.becameUnreachable then .ok (e, [])
      else
        match e.phase with
        | .connected profile _ | .starting profile _ => do
            let relocated ← e.relocateTunnel profile endpoint
            .ok (relocated.getD (e, []))
        | .probing | .recovering => do
            let relocated ← e.relocateRace endpoint
            .ok (relocated.getD (e, []))
        | .idle | .failed _ => .ok (e, [])

def step (e : Engine) (input : Input) (now : Instant) : Except Panic Outcome :=
  match input with
  | .connect profile => .ok (e.connect profile)
  | .disconnect => .ok e.disconnect
  | .raceFinished decision results => e.raceFinished decision results now
  | .tunnelUp => .ok (e.tunnelUp now)
  | .startFailed cause =>
    match e.phase with
    | .starting _ _ => .ok (e.fail cause true)
    | .idle | .probing | .connected _ _ | .recovering | .failed _ => .ok (e, [])
  | .liveCheck check => e.liveCheck check now
  | .endpointProbe endpoint outcome => e.endpointProbe endpoint outcome now
  | .environment environment => .ok ({ e with environment }, [])
  | .pathChanged source target => .ok (e.pathChanged source target)
  | .connectivity change => .ok (e.connectivity change)
  | .reach reach => .ok ({ e with reach }, [])

end Engine

end DnetEngine
