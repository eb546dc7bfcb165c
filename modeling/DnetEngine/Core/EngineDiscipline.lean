import DnetEngine.Core.EngineInversion
import DnetEngine.Lib.Run

/-! Fail-closed discipline: over every run the actions of the engine never start a tunnel or a race
over another one, and what they leave outstanding is what the phase says. -/

namespace DnetEngine.Engine

open Lib

/-- What one step was told and asked for. -/
structure Observed where
  input : Input
  now : Instant
  actions : List Action

def Steps (e : Engine) (observed : Observed) (after : Engine) : Prop :=
  e.step observed.input observed.now = .ok (after, observed.actions)

abbrev History := List (Taken Engine Observed)

/-- One more input, the engine left as it is where the code would panic. -/
def hear (played : Engine × History) (told : Input × Instant) : Engine × History :=
  match played.1.step told.1 told.2 with
  | .ok (after, actions) =>
    (after, ⟨played.1, ⟨told.1, told.2, actions⟩, after⟩ :: played.2)
  | .error _ => played

def play (e : Engine) (inputs : List (Input × Instant)) : Engine × History :=
  inputs.foldl hear (e, [])

theorem hear_run {start : Engine} (played : Engine × History) (told : Input × Instant)
    (run : Run Steps start played.2 played.1) :
    Run Steps start (hear played told).2 (hear played told).1 := by
  unfold hear
  split
  next after actions done => exact run.next done
  next => exact run

theorem play_run (e : Engine) (inputs : List (Input × Instant)) :
    Run Steps e (play e inputs).2 (play e inputs).1 := by
  refine List.foldlRecOn (motive := fun played => Run Steps e played.2 played.1) inputs hear ?_ ?_
  · exact .start
  · exact fun played run told _ => hear_run played told run

/-- Tunnels and races; events and warnings move nothing. -/
def isControl : Action → Bool
  | .startRace _ _ | .cancelRace | .startTunnel _ _ | .stopTunnel => true
  | .emit _ | .warnTier2 _ => false

def control (actions : List Action) : List Action := actions.filter isControl

@[simp] theorem control_nil : control [] = [] := rfl

@[simp] theorem control_append (first second : List Action) :
    control (first ++ second) = control first ++ control second := List.filter_append ..

variable (e : Engine) (now : Instant)

@[simp] theorem control_markBlocked (id : ProfileId) (reason : String) :
    control (e.markBlocked id now reason).2 = [] := by
  unfold markBlocked
  split <;> rfl

theorem foldl_keeps {Item View : Type} (view : Outcome → View) {mark : Outcome → Item → Outcome}
    (one : ∀ outcome item, view (mark outcome item) = view outcome)
    (items : List Item) (outcome : Outcome) : view (items.foldl mark outcome) = view outcome := by
  induction items generalizing outcome with
  | nil => rfl
  | cons item _ ih => exact (ih (mark outcome item)).trans (one outcome item)

@[simp] theorem control_recordResults (decision : RaceDecision)
    (results : List (ProfileId × ProfileProbe)) :
    control (e.recordResults decision results now).2 = [] := by
  have silent (outcome : Outcome) (id : ProfileId) :
      control (recordSilent now outcome id).2 = control outcome.2 := by
    simp [recordSilent]
  have reported (outcome : Outcome) (result : ProfileId × ProfileProbe) :
      control (recordResult now outcome result).2 = control outcome.2 := by
    unfold recordResult
    split
    · rfl
    · simp
  have first := foldl_keeps (control ·.2) reported results (e, [])
  unfold recordResults
  dsimp only
  split
  · exact (foldl_keeps (control ·.2) silent _ _).trans first
  · exact first

@[simp] theorem control_fail (cause : FailureCause) (stop : Bool) :
    control (e.fail cause stop).2 = if stop then [.stopTunnel] else [] := by
  cases stop <;> rfl

@[simp] theorem control_startRace (profiles : List ProfileId) (endpoint : EndpointId)
    (phase : Phase) :
    control (e.startRace profiles endpoint phase).2 = [.startRace profiles endpoint] := by
  unfold startRace
  split <;> rfl

@[simp] theorem control_startTunnel (profile : ProfileId) (endpoint : EndpointId)
    (because : String) :
    control (e.startTunnel profile endpoint because).2 = [.startTunnel profile endpoint] := by
  unfold startTunnel
  dsimp only
  split <;> rfl

@[simp] theorem control_blockCarrier (profile : ProfileId) (failures : Nat) :
    control (e.blockCarrier profile failures now).2 = [.stopTunnel] := by
  simp only [blockCarrier, control_append, control_markBlocked]
  rfl

/-- The race result the engine acts on: current, decided, and not of an abandoned race. -/
def endsRace : Input → Bool
  | .raceFinished decision _ =>
    e.phase.racing && decide (decision ≠ .pending) && !e.staleWinner decision
  | _ => false

/-- A step as far as tunnels and races see it. -/
inductive Skeleton (input : Input) (before after : Engine) : List Action → Prop
  | keep (other : before.endsRace input = false) (phase : after.phase = before.phase)
      (raced : after.raced = before.raced) : Skeleton input before after []
  | rest (first : before.phase.atRest = true) (last : after.phase.atRest = true) :
      Skeleton input before after []
  | beginTunnel {profile : ProfileId} {endpoint : EndpointId} (first : before.phase.atRest = true)
      (starts : after.phase = .starting profile endpoint) :
      Skeleton input before after [.startTunnel profile endpoint]
  | beginRace {endpoint : EndpointId} (first : before.phase.atRest = true)
      (races : after.phase = .probing) :
      Skeleton input before after [.startRace after.raced endpoint]
  | cancel (racing : before.phase.racing = true) (last : after.phase.atRest = true)
      (other : before.endsRace input = false) : Skeleton input before after [.cancelRace]
  | restartRace {endpoint : EndpointId} (racing : before.phase.racing = true)
      (phase : after.phase = before.phase) (raced : after.raced = before.raced)
      (other : before.endsRace input = false) :
      Skeleton input before after [.cancelRace, .startRace after.raced endpoint]
  | win {profile : ProfileId} {endpoint : EndpointId} (ends : before.endsRace input = true)
      (racing : before.phase.racing = true) (starts : after.phase = .starting profile endpoint) :
      Skeleton input before after [.startTunnel profile endpoint]
  | lose (ends : before.endsRace input = true) (racing : before.phase.racing = true)
      (last : after.phase.atRest = true) : Skeleton input before after []
  | up {profile : ProfileId} {endpoint : EndpointId} (told : input = .tunnelUp)
      (starting : before.phase = .starting profile endpoint)
      (connected : after.phase = .connected profile endpoint) : Skeleton input before after []
  | stop (tunnel : before.phase.tunnel.isSome = true) (last : after.phase.atRest = true) :
      Skeleton input before after [.stopTunnel]
  | move {profile : ProfileId} {endpoint : EndpointId}
      (tunnel : before.phase.tunnel.isSome = true)
      (noticed : (∃ p x, before.phase = .connected p x) ∨ ∃ x o, input = .endpointProbe x o)
      (starts : after.phase = .starting profile endpoint) :
      Skeleton input before after [.stopTunnel, .startTunnel profile endpoint]
  | recover {endpoint : EndpointId} (tunnel : before.phase.tunnel.isSome = true)
      (recovers : after.phase = .recovering) :
      Skeleton input before after [.stopTunnel, .startRace after.raced endpoint]

theorem racing_of_endsRace (input : Input) (ends : e.endsRace input = true) :
    e.phase.racing = true := by
  cases input with
  | raceFinished =>
    simp only [endsRace, Bool.and_eq_true] at ends
    exact ends.1.1
  | _ => cases ends

theorem endsRace_of_ignores (input : Input) (ignores : e.Ignores input) :
    e.endsRace input = false := by
  cases input with
  | raceFinished =>
    rcases ignores with quiet | pending | stale
    · simp [endsRace, quiet]
    · simp [endsRace, pending]
    · simp [endsRace, stale]
  | _ => rfl

theorem path_skeleton (input : Input) (outcome : Outcome) (path : Path e now input outcome) :
    Skeleton input e outcome.1 (control outcome.2) := by
  cases path with
  | ignored ignores => exact .keep (endsRace_of_ignores e input ignores) rfl rfl
  | told tells =>
    refine .keep ?_ rfl rfl
    obtain ⟨profile, endpoint, _, ⟨_, _, _, rfl, _⟩ | ⟨_, rfl, _⟩ | ⟨_, rfl, _⟩⟩ := tells <;> rfl
  | environment | reach | checkQuiet | probed => exact .keep rfl rfl rfl
  | connectFailed rest => simpa using .rest rest rfl
  | connectDirect rest => simpa using .beginTunnel rest rfl
  | connectRace rest => simpa using .beginRace rest rfl
  | disconnected =>
    unfold disconnect
    split
    next idle => exact .rest (by rw [idle]; rfl) rfl
    next cause failed => exact .rest (by rw [failed]; rfl) rfl
    next probing => exact .cancel (by rw [probing]; rfl) rfl rfl
    next recovering => exact .cancel (by rw [recovering]; rfl) rfl rfl
    next profile endpoint starting => exact .stop (by rw [starting]; rfl) rfl
    next profile endpoint connected => exact .stop (by rw [connected]; rfl) rfl
  | raceWon racing raced =>
    simpa using .win (by simp [endsRace, racing, staleWinner, raced]) racing rfl
  | raceFailed racing =>
    simpa using .lose (by simp [endsRace, racing, staleWinner]) racing rfl
  | raceFallback racing =>
    simpa using .win (by simp [endsRace, racing, staleWinner]) racing rfl
  | cameUp starting => exact .up rfl starting rfl
  | startFailed starting => simpa using .stop (by rw [starting]; rfl) rfl
  | checkFailed connected => simpa using .stop (by rw [connected]; rfl) rfl
  | checkMoved connected =>
    exact .move (by rw [connected]; rfl) (.inl ⟨_, _, connected⟩) rfl
  | checkLost connected | blockedAll connected =>
    simpa using .stop (by rw [connected]; rfl) rfl
  | blockedDirect connected =>
    simpa using .move (by rw [connected]; rfl) (.inl ⟨_, _, connected⟩) rfl
  | blockedRace connected =>
    simpa using .recover (by rw [connected]; rfl) rfl
  | probedTunnelMoved _ carrying =>
    refine .move ?_ (.inr ⟨_, _, rfl⟩) rfl
    rcases carrying with connected | starting
    · rw [connected]; rfl
    · rw [starting]; rfl
  | probedTunnelLost _ carrying =>
    have tunnel : e.phase.tunnel.isSome = true := by
      rcases carrying with connected | starting
      · rw [connected]; rfl
      · rw [starting]; rfl
    simpa using .stop tunnel rfl
  | probedRaceMoved _ racing => exact .restartRace racing rfl rfl rfl
  | probedRaceLost _ racing => exact .cancel racing rfl rfl

/-- What the actions so far have left outstanding. -/
structure Ghost where
  tunnel : Option (ProfileId × EndpointId) := none
  race : Option (List ProfileId × EndpointId) := none
  deriving DecidableEq

namespace Ghost

def permits (g : Ghost) : Action → Bool
  | .startTunnel _ _ | .startRace _ _ => g.tunnel.isNone && g.race.isNone
  | .stopTunnel => g.tunnel.isSome
  | .cancelRace => g.race.isSome
  | .emit _ | .warnTier2 _ => true

def act (g : Ghost) : Action → Ghost
  | .startTunnel profile endpoint => { g with tunnel := some (profile, endpoint) }
  | .stopTunnel => { g with tunnel := none }
  | .startRace profiles endpoint => { g with race := some (profiles, endpoint) }
  | .cancelRace => { g with race := none }
  | .emit _ | .warnTier2 _ => g

def permitsAll (g : Ghost) : List Action → Bool
  | [] => true
  | action :: rest => g.permits action && (g.act action).permitsAll rest

/-- A race whose result the engine accepts is over before the engine acts on it. -/
def receive (g : Ghost) (e : Engine) (input : Input) : Ghost :=
  if e.endsRace input then { g with race := none } else g

/-- What is outstanding is what the phase says. -/
def Matches (g : Ghost) (e : Engine) : Prop :=
  g.tunnel = e.phase.tunnel ∧
    g.race.map Prod.fst = if e.phase.racing then some e.raced else none

end Ghost

def replay : History → Ghost
  | [] => {}
  | taken :: older =>
    taken.label.actions.foldl Ghost.act ((replay older).receive taken.before taken.label.input)

def disciplined : History → Bool
  | [] => true
  | taken :: older =>
    ((replay older).receive taken.before taken.label.input).permitsAll taken.label.actions &&
      disciplined older

theorem foldl_act_control (actions : List Action) (g : Ghost) :
    actions.foldl Ghost.act g = (control actions).foldl Ghost.act g := by
  induction actions generalizing g with
  | nil => rfl
  | cons action _ ih => cases action <;> exact ih _

theorem permitsAll_control (actions : List Action) (g : Ghost) :
    g.permitsAll actions = g.permitsAll (control actions) := by
  induction actions generalizing g with
  | nil => rfl
  | cons action _ ih =>
    cases action with
    | emit | warnTier2 => exact (Bool.true_and _).trans (ih _)
    | _ => exact congrArg (Bool.and _) (ih _)

variable {e after : Engine} {profiles : List ConnectionProfile} {endpoints : List Endpoint}

variable {g : Ghost} {input : Input} {history : History}

theorem Ghost.Matches.atRest (agrees : g.Matches e) (rest : e.phase.atRest = true) :
    g = {} := by
  obtain ⟨tunnel, race⟩ := g
  obtain ⟨carried, raced⟩ := agrees
  simp_all [Phase.tunnel_of_atRest rest, Phase.racing_of_atRest rest]

theorem Ghost.Matches.racing (agrees : g.Matches e) (racing : e.phase.racing = true) :
    ∃ endpoint, g = ⟨none, some (e.raced, endpoint)⟩ := by
  obtain ⟨tunnel, race⟩ := g
  obtain ⟨carried, raced⟩ := agrees
  simp_all [Phase.tunnel_of_racing racing]

theorem Ghost.Matches.carrying (agrees : g.Matches e) (tunnel : e.phase.tunnel.isSome = true) :
    ∃ carrier, g = ⟨some carrier, none⟩ := by
  obtain ⟨tunnel, race⟩ := g
  obtain ⟨carried, raced⟩ := agrees
  cases phase : e.phase <;> simp_all [Phase.racing, Phase.tunnel]

theorem Ghost.matches_atRest (rest : e.phase.atRest = true) :
    Ghost.Matches {} e := by
  simp [Ghost.Matches, Phase.tunnel_of_atRest rest, Phase.racing_of_atRest rest]

theorem endsRace_of_racing_ne (input : Input) (quiet : e.phase.racing = false) :
    e.endsRace input = false := by
  cases ends : e.endsRace input with
  | false => rfl
  | true =>
    rw [racing_of_endsRace e input ends] at quiet
    cases quiet

/-- One step keeps the discipline: each of its actions is permitted, and what it leaves
outstanding matches the phase it ends in. -/
theorem skeleton_disciplined {before : Engine} {actions : List Action} (agrees : g.Matches before)
    (skeleton : Skeleton input before after actions) :
    (g.receive before input).permitsAll actions = true ∧
      (actions.foldl Ghost.act (g.receive before input)).Matches after := by
  have received_rest (rest : before.phase.atRest = true) : g.receive before input = {} := by
    simp [Ghost.receive, agrees.atRest rest]
  have received_tunnel (tunnel : before.phase.tunnel.isSome = true) :
      ∃ carrier, g.receive before input = ⟨some carrier, none⟩ := by
    have quiet := endsRace_of_racing_ne input (Phase.racing_of_tunnel tunnel)
    simpa [Ghost.receive, quiet] using agrees.carrying tunnel
  have received_end (ends : before.endsRace input = true) : g.receive before input = {} := by
    obtain ⟨endpoint, rfl⟩ := agrees.racing (racing_of_endsRace before input ends)
    simp [Ghost.receive, ends]
  have received_racing (other : before.endsRace input = false)
      (racing : before.phase.racing = true) :
      ∃ endpoint, g.receive before input = ⟨none, some (before.raced, endpoint)⟩ := by
    simpa [Ghost.receive, other] using agrees.racing racing
  cases skeleton with
  | keep other phase raced =>
    simpa [Ghost.receive, other, Ghost.permitsAll, Ghost.Matches, phase, raced] using agrees
  | rest first last =>
    rw [received_rest first]
    exact ⟨rfl, Ghost.matches_atRest last⟩
  | beginTunnel first starts =>
    rw [received_rest first]
    exact ⟨rfl, by rw [starts]; rfl, by rw [starts]; rfl⟩
  | beginRace first races =>
    rw [received_rest first]
    exact ⟨rfl, by rw [races]; rfl, by rw [races]; rfl⟩
  | cancel racing last other =>
    obtain ⟨endpoint, received⟩ := received_racing other racing
    rw [received]
    exact ⟨rfl, Ghost.matches_atRest last⟩
  | restartRace racing phase _ other =>
    obtain ⟨endpoint, received⟩ := received_racing other racing
    have quiet := (agrees.racing racing).choose_spec ▸ agrees.1
    rw [received]
    exact ⟨rfl, by rw [phase]; exact quiet, by rw [phase, racing]; rfl⟩
  | win ends _ starts =>
    rw [received_end ends]
    exact ⟨rfl, by rw [starts]; rfl, by rw [starts]; rfl⟩
  | lose ends _ last =>
    rw [received_end ends]
    exact ⟨rfl, Ghost.matches_atRest last⟩
  | up told starting connected =>
    subst told
    refine ⟨rfl, ?_, ?_⟩
    · rw [connected]
      exact agrees.1.trans (by rw [starting]; rfl)
    · rw [connected]
      exact agrees.2.trans (by rw [starting]; rfl)
  | stop tunnel last =>
    obtain ⟨carrier, received⟩ := received_tunnel tunnel
    rw [received]
    exact ⟨rfl, Ghost.matches_atRest last⟩
  | move tunnel _ starts =>
    obtain ⟨carrier, received⟩ := received_tunnel tunnel
    rw [received]
    exact ⟨rfl, by rw [starts]; rfl, by rw [starts]; rfl⟩
  | recover tunnel recovers =>
    obtain ⟨carrier, received⟩ := received_tunnel tunnel
    rw [received]
    exact ⟨rfl, by rw [recovers]; rfl, by rw [recovers]; rfl⟩

def HasEndpoint (e : Engine) : Prop := e.phase.atRest = false → e.endpoint.isSome = true

theorem HasEndpoint.of_connected {profile : ProfileId} {endpoint : EndpointId}
    (chosen : e.HasEndpoint) (connected : e.phase = .connected profile endpoint)
    (kept : after.endpoint = e.endpoint) : after.HasEndpoint := by
  intro _
  rw [kept]
  exact chosen (by rw [connected]; rfl)

theorem HasEndpoint.of_racing (chosen : e.HasEndpoint) (racing : e.phase.racing = true)
    (kept : after.endpoint = e.endpoint) :
    after.HasEndpoint := by
  intro _
  rw [kept]
  exact chosen (Phase.atRest_of_racing racing)

theorem hasEndpoint_of_atRest (rest : e.phase.atRest = true) : e.HasEndpoint := by
  intro active
  rw [rest] at active
  cases active

theorem path_hasEndpoint {now : Instant} {outcome : Outcome} (chosen : e.HasEndpoint)
    (path : Path e now input outcome) : outcome.1.HasEndpoint := by
  cases path with
  | ignored | told | environment | reach | probed => exact chosen
  | connectFailed | disconnected | raceFailed | startFailed | checkFailed | checkLost | blockedAll
  | probedTunnelLost | probedRaceLost => exact hasEndpoint_of_atRest rfl
  | connectDirect | connectRace | checkMoved | probedTunnelMoved | probedRaceMoved =>
    exact fun _ => rfl
  | raceWon racing | raceFallback racing =>
    exact chosen.of_racing racing (by simp)
  | cameUp starting => exact fun _ => chosen (by rw [starting]; rfl)
  | checkQuiet connected => exact chosen.of_connected connected rfl
  | blockedDirect connected | blockedRace connected =>
    exact chosen.of_connected connected (by simp [checked])

theorem steps_path {observed : Observed} (taken : Steps e observed after) :
    Path e observed.now observed.input (after, observed.actions) :=
  step_path e observed.now observed.input _ taken

section

variable (run : Run Steps (Engine.new profiles endpoints) history e)

include run

theorem run_hasEndpoint :
    e.HasEndpoint :=
  run_state_invariant HasEndpoint (hasEndpoint_of_atRest rfl)
    (fun _ _ _ chosen taken => path_hasEndpoint chosen (steps_path taken)) run

theorem run_disciplined :
    disciplined history = true ∧ (replay history).Matches e := by
  refine run_invariant (fun history e => disciplined history = true ∧ (replay history).Matches e)
    ⟨rfl, rfl, rfl⟩ ?_ run
  intro history before observed after _ holding taken
  have skeleton := path_skeleton before observed.now _ _ (steps_path taken)
  obtain ⟨permitted, agrees⟩ := skeleton_disciplined holding.2 skeleton
  rw [← permitsAll_control] at permitted
  rw [← foldl_act_control] at agrees
  exact ⟨by simp only [disciplined, permitted, holding.1, Bool.and_self], agrees⟩

/-- A race has its endpoint, so the one panic left is the caller's. -/
theorem run_panic {now : Instant} {site : Panic} (panics : e.step input now = .error site) :
    site = .secondsOutOfRange := by
  rcases step_panic e now input site panics with range | ⟨_, racing, missing⟩
  · exact range
  · have chosen := run_hasEndpoint run (Phase.atRest_of_racing racing)
    rw [missing] at chosen
    cases chosen

end

/-- No action starts over a tunnel or a race, or stops what is not there; the phase says what is
outstanding; and no `expect` or index of the engine fails. The one panic left is the conversion of
a round-trip time that does not fit a duration. -/
theorem engine_fail_closed (profiles : List ConnectionProfile) (endpoints : List Endpoint)
    (history : History) (e : Engine)
    (run : Run Steps (Engine.new profiles endpoints) history e) :
    disciplined history = true ∧ (replay history).Matches e ∧
      ∀ input now site, e.step input now = .error site → site = .secondsOutOfRange := by
  obtain ⟨permitted, agrees⟩ := run_disciplined run
  exact ⟨permitted, agrees, fun input now site panics => run_panic run panics⟩

/-- A race called off, then a profile started by name and up. -/
theorem engine_fail_closed_connected :
    let profiles : List ConnectionProfile :=
      [⟨⟨"hysteria2"⟩, .hysteria2, .tier1, .untested⟩, ⟨⟨"amneziawg"⟩, .amneziaWg, .tier2, .untested⟩]
    let endpoints : List Endpoint := [⟨⟨1⟩, "first", {}, true⟩]
    let played := play (Engine.new profiles endpoints)
      [(.connect none, 0), (.disconnect, 1), (.connect (some ⟨"amneziawg"⟩), 2), (.tunnelUp, 3)]
    played.1.phase = .connected ⟨"amneziawg"⟩ ⟨1⟩ ∧ disciplined played.2 = true ∧
      replay played.2 = ⟨some (⟨"amneziawg"⟩, ⟨1⟩), none⟩ :=
  ⟨by decide, (engine_fail_closed _ _ _ _ (play_run _ _)).1, by decide⟩

end DnetEngine.Engine
