import DnetEngine.Core.Engine

/-! Every way a step of the engine can go, said once: each later result about the engine is a case
analysis on these paths, not on the code of `step`. -/

namespace DnetEngine.Engine

open Lib

def Ignores (e : Engine) : Input → Prop
  | .connect _ => e.phase.atRest = false
  | .raceFinished decision _ =>
    e.phase.racing = false ∨ decision = .pending ∨ e.staleWinner decision = true
  | .tunnelUp | .startFailed _ => ∀ profile endpoint, e.phase ≠ .starting profile endpoint
  | .liveCheck _ | .connectivity _ => ∀ profile endpoint, e.phase ≠ .connected profile endpoint
  | .pathChanged _ _ => ∀ profile endpoint, e.phase = .connected profile endpoint →
      e.profiles.find? (fun p => p.id == profile) = none
  | .endpointProbe endpoint _ => e.endpoints.find? (fun x => x.id == endpoint) = none
  | .disconnect | .environment _ | .reach _ => False

/-- The news of a connected path, which changes nothing but what the user is told. -/
def Tells (e : Engine) (input : Input) (event : ConnectionEvent) : Prop :=
  ∃ profile endpoint, e.phase = .connected profile endpoint ∧
    ((∃ source target tier, input = .pathChanged source target ∧
        event = .pathChanged source target tier) ∨
      (∃ d, input = .connectivity (.degraded d) ∧ event = .degraded d.path d.band d.staying) ∨
      ∃ path, input = .connectivity (.recovered path) ∧ event = .recovered path)

/-- Why a connect fails at once, the state already renewed for it. -/
inductive ConnectRefused (e : Engine) (requested : Option ProfileId) : FailureCause → Prop
  | classified {cause : FailureCause} (found : e.classify false = some cause) :
      ConnectRefused e requested cause
  | unknownProfile {id : ProfileId} (named : requested = some id)
      (absent : e.profiles.any (fun p => p.id == id) = false) :
      ConnectRefused e requested
        (.configurationInvalid ("there is no connection profile named " ++ id.name))
  | unranked (nothing : (rank e.endpoints).head? = none) :
      ConnectRefused e requested .noEndpointReachable

/-- The profile a connect starts without a race. -/
inductive ConnectDirect (e : Engine) : Option ProfileId → ProfileId → Prop
  | named {id : ProfileId} (known : e.profiles.any (fun p => p.id == id) = true)
      (unprobeable : e.isProbeable id = false) : ConnectDirect e (some id) id
  | only {id : ProfileId} (unraced : e.probeableIds = [])
      (fallback : e.directFallback = some id) : ConnectDirect e none id

inductive ConnectRaces (e : Engine) : Option ProfileId → List ProfileId → Prop
  | named {id : ProfileId} (probeable : e.isProbeable id = true) : ConnectRaces e (some id) [id]
  | all (some_ : e.probeableIds ≠ []) : ConnectRaces e none e.probeableIds

/-- Why a race with no usable profile ends the attempt, its results already recorded. -/
inductive RaceRefused (e : Engine) (recovering : Bool) : FailureCause → Prop
  | classified {cause : FailureCause} (found : e.classify true = some cause) :
      RaceRefused e recovering cause
  | named {cause : FailureCause} (first : recovering = false) (asked : e.requested.isSome = true)
      (failed : e.namedProfileFailed = .ok cause) : RaceRefused e recovering cause
  | nothingLeft (open_ : recovering = true ∨ e.requested = none)
      (clear : e.classify true = none) (none_ : e.directFallback = none) :
      RaceRefused e recovering .allProfilesBlocked

def probed (e : Engine) (endpoint : EndpointId) (health : EndpointHealth) : Engine :=
  let endpoints := updateFirst (fun x => x.id == endpoint) (fun x => { x with health }) e.endpoints
  { e with endpoints }

def checked (e : Engine) (check : LiveCheck) : Engine :=
  { e with detector := (e.detector.observe check).1 }

def movedTunnel (e : Engine) (profile : ProfileId) (active target : EndpointId)
    (because : String) : Outcome :=
  ({ e with endpoint := some target, detector := {}, phase := .starting profile target },
    [.emit (.endpointMigrated active target because), .stopTunnel, .startTunnel profile target])

def movedRace (e : Engine) (active target : EndpointId) (because : String) : Outcome :=
  ({ e with endpoint := some target },
    [.emit (.endpointMigrated active target because), .cancelRace, .startRace e.raced target])

/-- The probe that takes the endpoint in use away. -/
structure Lost (e : Engine) (endpoint : EndpointId) (outcome : ProbeOutcome) (now : Instant)
    (known : Endpoint) (transition : Transition) : Prop where
  found : e.endpoints.find? (fun x => x.id == endpoint) = some known
  applied : known.health.onProbe outcome now {} = .ok transition
  used : e.endpoint = some endpoint
  became : transition.becameUnreachable = true

inductive Path (e : Engine) (now : Instant) : Input → Outcome → Prop
  | ignored {input : Input} (ignores : e.Ignores input) : Path e now input (e, [])
  | told {input : Input} {event : ConnectionEvent} (tells : e.Tells input event) :
      Path e now input (e, [.emit event])
  | environment (environment : Environment) :
      Path e now (.environment environment) ({ e with environment }, [])
  | reach (reach : List Reach) : Path e now (.reach reach) ({ e with reach }, [])
  | connectFailed {requested : Option ProfileId} {cause : FailureCause}
      (rest : e.phase.atRest = true) (refused : ConnectRefused (e.forget requested) requested cause) :
      Path e now (.connect requested) ((e.forget requested).fail cause false)
  | connectDirect {requested : Option ProfileId} {id : ProfileId} {endpoint : EndpointId}
      {because : String} (rest : e.phase.atRest = true)
      (clear : (e.forget requested).classify false = none)
      (best : (rank e.endpoints).head? = some endpoint)
      (direct : ConnectDirect (e.forget requested) requested id) :
      Path e now (.connect requested)
        ({ e.forget requested with endpoint := some endpoint }.startTunnel id endpoint because)
  | connectRace {requested : Option ProfileId} {profiles : List ProfileId} {endpoint : EndpointId}
      (rest : e.phase.atRest = true) (best : (rank e.endpoints).head? = some endpoint)
      (races : ConnectRaces (e.forget requested) requested profiles) :
      Path e now (.connect requested)
        ({ e.forget requested with endpoint := some endpoint }.startRace profiles endpoint .probing)
  | disconnected : Path e now .disconnect e.disconnect
  | raceWon {profile : ProfileId} {tier : FailoverTier} {bitsPerSec : Nat}
      {results : List (ProfileId × ProfileProbe)} {endpoint : EndpointId}
      (racing : e.phase.racing = true) (raced : profile ∈ e.raced)
      (used : e.endpoint = some endpoint) :
      Path e now (.raceFinished (.selected profile tier bitsPerSec) results)
        ((e.recordResults (.selected profile tier bitsPerSec) results now).andThen
          (fun e => e.startTunnel profile endpoint (e.raceBecause profile bitsPerSec)))
  | raceFailed {results : List (ProfileId × ProfileProbe)} {cause : FailureCause}
      (racing : e.phase.racing = true)
      (refused : RaceRefused (e.recordResults .noneUsable results now).1
        (decide (e.phase = .recovering)) cause) :
      Path e now (.raceFinished .noneUsable results)
        ((e.recordResults .noneUsable results now).andThen (fun e => e.fail cause false))
  | raceFallback {results : List (ProfileId × ProfileProbe)} {id : ProfileId}
      {endpoint : EndpointId} {because : String} (racing : e.phase.racing = true)
      (used : e.endpoint = some endpoint)
      (open_ : e.phase = .recovering ∨ e.requested = none)
      (fallback : (e.recordResults .noneUsable results now).1.directFallback = some id) :
      Path e now (.raceFinished .noneUsable results)
        ((e.recordResults .noneUsable results now).andThen
          (fun e => e.startTunnel id endpoint because))
  | cameUp {profile : ProfileId} {endpoint : EndpointId}
      (starting : e.phase = .starting profile endpoint) :
      Path e now .tunnelUp ({ e.markWorking profile now with
        detector := {}, replacing := none, phase := .connected profile endpoint }, [])
  | startFailed {cause : FailureCause} {profile : ProfileId} {endpoint : EndpointId}
      (starting : e.phase = .starting profile endpoint) :
      Path e now (.startFailed cause) (e.fail cause true)
  | checkQuiet {check : LiveCheck} {profile : ProfileId} {endpoint : EndpointId}
      (connected : e.phase = .connected profile endpoint)
      (quiet : ∀ failures, (e.detector.observe check).2 ≠ .blocked failures) :
      Path e now (.liveCheck check) (e.checked check, [])
  | checkFailed {check : LiveCheck} {profile : ProfileId} {endpoint : EndpointId}
      {failures : Nat} {cause : FailureCause} (connected : e.phase = .connected profile endpoint)
      (blocks : (e.detector.observe check).2 = .blocked failures)
      (found : (e.checked check).classify false = some cause) :
      Path e now (.liveCheck check) ((e.checked check).fail cause true)
  | checkMoved {check : LiveCheck} {profile : ProfileId} {endpoint target : EndpointId}
      {failures : Nat} {because : String} (connected : e.phase = .connected profile endpoint)
      (blocks : (e.detector.observe check).2 = .blocked failures)
      (unusable : (e.endpoints.find? (fun x => x.id == endpoint)).any isCandidate = false)
      (best : (rank e.endpoints).head? = some target) :
      Path e now (.liveCheck check) ((e.checked check).movedTunnel profile endpoint target because)
  | checkLost {check : LiveCheck} {profile : ProfileId} {endpoint : EndpointId}
      {failures : Nat} (connected : e.phase = .connected profile endpoint)
      (blocks : (e.detector.observe check).2 = .blocked failures)
      (unusable : (e.endpoints.find? (fun x => x.id == endpoint)).any isCandidate = false)
      (nothing : (rank e.endpoints).head? = none) :
      Path e now (.liveCheck check) ((e.checked check).fail .noEndpointReachable true)
  | blockedAll {check : LiveCheck} {profile : ProfileId} {endpoint : EndpointId}
      {failures : Nat} (connected : e.phase = .connected profile endpoint)
      (blocks : (e.detector.observe check).2 = .blocked failures)
      (plan : planReprobe ((e.checked check).blockCarrier profile failures now).1.profiles profile =
        .allBlocked) :
      Path e now (.liveCheck check) (((e.checked check).blockCarrier profile failures now).andThen
        (fun e => e.fail .allProfilesBlocked false))
  | blockedDirect {check : LiveCheck} {profile direct : ProfileId} {endpoint : EndpointId}
      {failures : Nat} {rest : List ProfileId} {because : String}
      (connected : e.phase = .connected profile endpoint)
      (blocks : (e.detector.observe check).2 = .blocked failures)
      (usable : (e.endpoints.find? (fun x => x.id == endpoint)).any isCandidate = true)
      (plan : planReprobe ((e.checked check).blockCarrier profile failures now).1.profiles profile =
        .try_ (direct :: rest))
      (unprobeable : ∀ id ∈ direct :: rest,
        ((e.checked check).blockCarrier profile failures now).1.isProbeable id = false) :
      Path e now (.liveCheck check) (((e.checked check).blockCarrier profile failures now).andThen
        (fun e => e.startTunnel direct endpoint because))
  | blockedRace {check : LiveCheck} {profile : ProfileId} {endpoint : EndpointId}
      {failures : Nat} {candidates : List ProfileId}
      (connected : e.phase = .connected profile endpoint)
      (blocks : (e.detector.observe check).2 = .blocked failures)
      (usable : (e.endpoints.find? (fun x => x.id == endpoint)).any isCandidate = true)
      (plan : planReprobe ((e.checked check).blockCarrier profile failures now).1.profiles profile =
        .try_ candidates)
      (some_ : candidates.filter
        ((e.checked check).blockCarrier profile failures now).1.isProbeable ≠ []) :
      Path e now (.liveCheck check) (((e.checked check).blockCarrier profile failures now).andThen
        (fun e => e.startRace (candidates.filter e.isProbeable) endpoint .recovering))
  | probed {endpoint : EndpointId} {outcome : ProbeOutcome} {known : Endpoint}
      {transition : Transition} (found : e.endpoints.find? (fun x => x.id == endpoint) = some known)
      (applied : known.health.onProbe outcome now {} = .ok transition)
      (settled : e.endpoint ≠ some endpoint ∨ transition.becameUnreachable = false ∨
        e.phase.atRest = true ∨
        ((e.probed endpoint transition.next).endpoints.find? (fun x => x.id == endpoint)).any
          isCandidate = true) :
      Path e now (.endpointProbe endpoint outcome) (e.probed endpoint transition.next, [])
  | probedTunnelMoved {endpoint target : EndpointId} {outcome : ProbeOutcome} {known : Endpoint}
      {transition : Transition} {profile : ProfileId} {current : EndpointId} {because : String}
      (lost : Lost e endpoint outcome now known transition)
      (carrying : e.phase = .connected profile current ∨ e.phase = .starting profile current)
      (best : (rank (e.probed endpoint transition.next).endpoints).head? = some target) :
      Path e now (.endpointProbe endpoint outcome)
        ((e.probed endpoint transition.next).movedTunnel profile endpoint target because)
  | probedTunnelLost {endpoint : EndpointId} {outcome : ProbeOutcome} {known : Endpoint}
      {transition : Transition} {profile : ProfileId} {current : EndpointId}
      (lost : Lost e endpoint outcome now known transition)
      (carrying : e.phase = .connected profile current ∨ e.phase = .starting profile current)
      (nothing : (rank (e.probed endpoint transition.next).endpoints).head? = none) :
      Path e now (.endpointProbe endpoint outcome)
        ((e.probed endpoint transition.next).fail .noEndpointReachable true)
  | probedRaceMoved {endpoint target : EndpointId} {outcome : ProbeOutcome} {known : Endpoint}
      {transition : Transition} {because : String}
      (lost : Lost e endpoint outcome now known transition) (racing : e.phase.racing = true)
      (best : (rank (e.probed endpoint transition.next).endpoints).head? = some target) :
      Path e now (.endpointProbe endpoint outcome)
        ((e.probed endpoint transition.next).movedRace endpoint target because)
  | probedRaceLost {endpoint : EndpointId} {outcome : ProbeOutcome} {known : Endpoint}
      {transition : Transition} (lost : Lost e endpoint outcome now known transition)
      (racing : e.phase.racing = true)
      (nothing : (rank (e.probed endpoint transition.next).endpoints).head? = none) :
      Path e now (.endpointProbe endpoint outcome)
        (Outcome.andThen (e.probed endpoint transition.next, [.cancelRace])
          (fun e => e.fail .noEndpointReachable false))

variable (e : Engine) (now : Instant)

@[simp] theorem andThen_engine (first : Outcome) (second : Engine → Outcome) :
    (first.andThen second).1 = (second first.1).1 := rfl

@[simp] theorem andThen_actions (first : Outcome) (second : Engine → Outcome) :
    (first.andThen second).2 = first.2 ++ (second first.1).2 := rfl

@[simp] theorem startTunnel_engine (profile : ProfileId) (endpoint : EndpointId)
    (because : String) :
    (e.startTunnel profile endpoint because).1 =
      { e with detector := {}, phase := .starting profile endpoint } := rfl

@[simp] theorem startRace_engine (profiles : List ProfileId) (endpoint : EndpointId)
    (phase : Phase) :
    (e.startRace profiles endpoint phase).1 = { e with raced := profiles, phase } := rfl

@[simp] theorem fail_engine (cause : FailureCause) (stop : Bool) :
    (e.fail cause stop).1 = { e with phase := .failed cause, raced := [], replacing := none } := rfl

/-- Marking profiles changes nothing but the profiles. -/
def OnlyProfiles (before after : Engine) : Prop :=
  after = { before with profiles := after.profiles }

theorem OnlyProfiles.trans {first second third : Engine} (one : OnlyProfiles first second)
    (two : OnlyProfiles second third) : OnlyProfiles first third := by
  unfold OnlyProfiles at *
  rw [two, one]

theorem onlyProfiles_markWorking (id : ProfileId) : OnlyProfiles e (e.markWorking id now) := rfl

theorem markBlocked_engine (id : ProfileId) (reason : String) :
    (e.markBlocked id now reason).1 =
      { e with
        profiles := updateFirst (fun p => p.id == id) (fun p => p.markBlocked now reason)
          e.profiles } := by
  unfold markBlocked
  split
  · rfl
  next absent =>
    rw [updateFirst_of_absent _ _ _ (by simpa using absent)]

@[simp] theorem blockCarrier_engine (profile : ProfileId) (failures : Nat) :
    (e.blockCarrier profile failures now).1 =
      { e with
        replacing := some profile
        profiles := updateFirst (fun p => p.id == profile)
          (fun p => p.markBlocked now ("stopped carrying traffic: " ++ toString failures ++
            " live checks failed in a row")) e.profiles } := by
  simp only [blockCarrier, markBlocked_engine]

theorem onlyProfiles_markBlocked (id : ProfileId) (reason : String) :
    OnlyProfiles e (e.markBlocked id now reason).1 := by
  unfold OnlyProfiles
  rw [markBlocked_engine]

theorem onlyProfiles_recordResult (outcome : Outcome) (result : ProfileId × ProfileProbe) :
    OnlyProfiles outcome.1 (recordResult now outcome result).1 := by
  unfold recordResult
  split
  · exact onlyProfiles_markWorking _ _ _
  · exact onlyProfiles_markBlocked _ _ _ _

theorem onlyProfiles_recordSilent (outcome : Outcome) (id : ProfileId) :
    OnlyProfiles outcome.1 (recordSilent now outcome id).1 :=
  onlyProfiles_markBlocked _ _ _ _

theorem onlyProfiles_foldl {Item : Type} (mark : Outcome → Item → Outcome)
    (one : ∀ outcome item, OnlyProfiles outcome.1 (mark outcome item).1)
    (items : List Item) (outcome : Outcome) :
    OnlyProfiles outcome.1 (items.foldl mark outcome).1 := by
  induction items generalizing outcome with
  | nil => rfl
  | cons item _ ih => exact (one outcome item).trans (ih (mark outcome item))

variable (decision : RaceDecision) (results : List (ProfileId × ProfileProbe))

theorem recordResults_frame :
    (e.recordResults decision results now).1 =
      { e with profiles := (e.recordResults decision results now).1.profiles, raced := [] } := by
  have first := onlyProfiles_foldl (recordResult now) (onlyProfiles_recordResult now) results (e, [])
  have silent (outcome : Outcome) (ids : List ProfileId) :=
    onlyProfiles_foldl (recordSilent now) (onlyProfiles_recordSilent now) ids outcome
  cases decision with
  | pending =>
    simp only [recordResults, reduceCtorEq, if_false]
    rw [first]
  | selected =>
    simp only [recordResults, reduceCtorEq, if_false, markWorking]
    rw [first]
  | noneUsable =>
    simp only [recordResults, if_true]
    rw [silent, first]

@[simp] theorem recordResults_requested :
    (e.recordResults decision results now).1.requested = e.requested := by
  rw [recordResults_frame]

@[simp] theorem recordResults_endpoints :
    (e.recordResults decision results now).1.endpoints = e.endpoints := by
  rw [recordResults_frame]

@[simp] theorem recordResults_endpoint :
    (e.recordResults decision results now).1.endpoint = e.endpoint := by
  rw [recordResults_frame]

@[simp] theorem recordResults_reach :
    (e.recordResults decision results now).1.reach = e.reach := by
  rw [recordResults_frame]

@[simp] theorem recordResults_raced :
    (e.recordResults decision results now).1.raced = [] := by
  rw [recordResults_frame]

end DnetEngine.Engine
