import DnetEngine.Daemon.Orchestrator

/-! What the actor plans for the tunnel: the operations its steps leave for the executor, and how
they account for the phase of the engine. -/

namespace DnetEngine

theorem Phase.connected?_eq_some {phase : Phase} {profile : ProfileId} {endpoint : EndpointId}
    (carries : phase.connected? = some (profile, endpoint)) :
    phase = .connected profile endpoint := by
  cases phase <;> cases carries
  rfl

namespace Orchestrator

open Lib

/-- An operation on the machine's tunnel. A move is an `up` as well: it ends on the new tunnel or
fails to. -/
inductive TunnelOp
  | up (attempt : Nat) (profile : ProfileId) (endpoint : EndpointId)
  | down
  deriving DecidableEq

def opOf (work : Work) : Option TunnelOp :=
  match work.kind with
  | .startTunnel profile endpoint | .moveTunnel profile endpoint =>
    some (.up work.attempt profile endpoint)
  | .stopTunnel => some .down
  | .reach _ | .startRace _ _ | .cancelRace | .barrier => none

/-- A step of the actor as far as the tunnel sees it, with the operations it leaves. -/
inductive Advance (input : Input) (before after : Actor) : List TunnelOp → Prop
  | kept (attempt : after.attempt = before.attempt)
      (phase : after.engine.phase = before.engine.phase) : Advance input before after []
  | aside (attempt : before.attempt ≤ after.attempt) (first : before.engine.phase.tunnel = none)
      (last : after.engine.phase.tunnel = none) : Advance input before after []
  | came {profile : ProfileId} {endpoint : EndpointId} (told : input = .tunnelUp)
      (attempt : after.attempt = before.attempt)
      (starting : before.engine.phase = .starting profile endpoint)
      (connected : after.engine.phase = .connected profile endpoint) :
      Advance input before after []
  | begins {profile : ProfileId} {endpoint : EndpointId}
      (attempt : after.attempt = before.attempt + 1) (first : before.engine.phase.tunnel = none)
      (starts : after.engine.phase = .starting profile endpoint) :
      Advance input before after [.up after.attempt profile endpoint]
  | ends (attempt : after.attempt = before.attempt + 1) (last : after.engine.phase.tunnel = none) :
      Advance input before after [.down]
  | moves {profile : ProfileId} {endpoint : EndpointId}
      (attempt : after.attempt = before.attempt + 1)
      (noticed : (∃ p x, before.engine.phase = .connected p x) ∨ ∃ x o, input = .endpointProbe x o)
      (starts : after.engine.phase = .starting profile endpoint) :
      Advance input before after [.up after.attempt profile endpoint]

variable {actor : Actor} {input : Input} {checkReach : Bool} {now : Instant} {stepped : Stepped}

theorem step_ok (steps : actor.step input checkReach now = .ok stepped) :
    ∃ actions, actor.engine.step input now = .ok (stepped.actor.engine, actions) ∧
      stepped.actor.attempt =
        (if (workFor actions).isEmpty then actor.attempt else actor.attempt + 1) ∧
      stepped.work =
        (if checkReach && !(workFor actions).isEmpty then
          .reach stepped.actor.engine.endpoints :: workFor actions else workFor actions).map
            (fun kind => ⟨stepped.actor.attempt, kind⟩) ∧
      stepped.watched = (if actor.engine.phase.connected?.isSome then none
        else stepped.actor.engine.phase.connected?) := by
  obtain ⟨⟨engine, actions⟩, engineSteps, rest⟩ := bind_ok.mp steps
  cases rest
  exact ⟨actions, engineSteps, rfl, rfl, rfl⟩

theorem Advance.congr {before same after : Actor} {ops : List TunnelOp}
    (advance : Advance input before after ops) (attempt : before.attempt = same.attempt)
    (phase : before.engine.phase = same.engine.phase) : Advance input same after ops := by
  cases advance with
  | kept kept unchanged => exact .kept (kept.trans attempt) (unchanged.trans phase)
  | aside newer first last => exact .aside (attempt ▸ newer) (phase ▸ first) last
  | came told kept starting connected =>
    exact .came told (kept.trans attempt) (phase ▸ starting) connected
  | begins newer first starts => exact .begins (attempt ▸ newer) (phase ▸ first) starts
  | ends newer last => exact .ends (attempt ▸ newer) last
  | moves newer noticed starts => exact .moves (attempt ▸ newer) (phase ▸ noticed) starts

theorem workFor_control (actions : List Action) :
    workFor actions = workFor (Engine.control actions) := by
  have same : actions.filterMap workOf = (Engine.control actions).filterMap workOf := by
    induction actions with
    | nil => rfl
    | cons action _ ih =>
      cases action with
      | emit | warnTier2 => exact ih
      | startRace _ _ | cancelRace | startTunnel _ _ | stopTunnel => exact congrArg (List.cons _) ih
  rw [workFor, same, workFor]

theorem filterMap_opOf_reach (attempt : Nat) (endpoints : List Endpoint) (checkReach : Bool)
    (kinds : List WorkKind) :
    ((if checkReach && !kinds.isEmpty then .reach endpoints :: kinds else kinds).map
      (fun kind => (⟨attempt, kind⟩ : Work))).filterMap opOf =
        (kinds.map (fun kind => (⟨attempt, kind⟩ : Work))).filterMap opOf := by
  split <;> rfl

theorem step_advance (steps : actor.step input checkReach now = .ok stepped) :
    Advance input actor stepped.actor (stepped.work.filterMap opOf) := by
  obtain ⟨actions, engineSteps, attempt, work, _⟩ := step_ok steps
  have skeleton := Engine.path_skeleton _ _ _ _ (Engine.step_path _ now input _ engineSteps)
  rw [work, filterMap_opOf_reach]
  rw [workFor_control] at attempt ⊢
  generalize Engine.control actions = asked at skeleton attempt
  cases skeleton with
  | keep _ phase => exact .kept attempt phase
  | rest first last =>
    exact .aside attempt.ge (Phase.tunnel_of_atRest first) (Phase.tunnel_of_atRest last)
  | beginTunnel first starts => exact .begins attempt (Phase.tunnel_of_atRest first) starts
  | beginRace first races =>
    refine .aside ?_ (Phase.tunnel_of_atRest first) (by rw [races]; rfl)
    rw [attempt]
    exact Nat.le_succ _
  | cancel racing last =>
    refine .aside ?_ (Phase.tunnel_of_racing racing) (Phase.tunnel_of_atRest last)
    rw [attempt]
    exact Nat.le_succ _
  | restartRace racing phase =>
    refine .aside ?_ (Phase.tunnel_of_racing racing)
      (by rw [phase]; exact Phase.tunnel_of_racing racing)
    rw [attempt]
    exact Nat.le_succ _
  | win _ racing starts => exact .begins attempt (Phase.tunnel_of_racing racing) starts
  | lose _ racing last =>
    exact .aside attempt.ge (Phase.tunnel_of_racing racing) (Phase.tunnel_of_atRest last)
  | up told starting connected => exact .came told attempt starting connected
  | stop _ last => exact .ends attempt (Phase.tunnel_of_atRest last)
  | move _ noticed starts => exact .moves attempt noticed starts
  | recover _ recovers => exact .ends attempt (by rw [recovers]; rfl)

theorem barrier_not_mem_foldMoves (kinds : List WorkKind) (absent : .barrier ∉ kinds) :
    .barrier ∉ foldMoves kinds := by
  fun_induction foldMoves kinds with
  | case1 => exact absent
  | case2 profile endpoint rest ih =>
    have later := ih (fun member => absent (by simp [member]))
    simpa using later
  | case3 item rest notMove ih =>
    have later := ih (fun member => absent (by simp [member]))
    have first : .barrier ≠ item := fun same => absent (by simp [same])
    simpa using ⟨first, later⟩

theorem barrier_not_mem_workFor (actions : List Action) : .barrier ∉ workFor actions := by
  apply barrier_not_mem_foldMoves
  intro member
  obtain ⟨action, _, made⟩ := List.mem_filterMap.mp member
  cases action <;> cases made

theorem step_work (steps : actor.step input checkReach now = .ok stepped) {work : Work}
    (member : work ∈ stepped.work) :
    work.attempt = stepped.actor.attempt ∧ work.kind ≠ .barrier := by
  obtain ⟨actions, _, _, made, _⟩ := step_ok steps
  rw [made] at member
  obtain ⟨kind, asked, rfl⟩ := List.mem_map.mp member
  refine ⟨rfl, ?_⟩
  rintro rfl
  split at asked
  · rcases List.mem_cons.mp asked with reach | later
    · cases reach
    · exact barrier_not_mem_workFor actions later
  · exact barrier_not_mem_workFor actions asked

variable {profile : ProfileId} {endpoint : EndpointId}

theorem step_watched (steps : actor.step input checkReach now = .ok stepped)
    (watched : stepped.watched = some (profile, endpoint)) :
    stepped.actor.engine.phase = .connected profile endpoint := by
  obtain ⟨_, _, _, _, made⟩ := step_ok steps
  rw [made] at watched
  obtain ⟨_, watched⟩ := Option.ite_none_left_eq_some.mp watched
  exact Phase.connected?_eq_some watched

theorem step_tunnelUp (steps : actor.step .tunnelUp checkReach now = .ok stepped)
    (starting : actor.engine.phase = .starting profile endpoint) :
    stepped.actor.engine.phase = .connected profile endpoint := by
  obtain ⟨actions, engineSteps, _⟩ := step_ok steps
  simp only [Engine.step, Engine.tunnelUp, starting, Except.ok.injEq, Prod.mk.injEq] at engineSteps
  rw [← engineSteps.1]

theorem step_startFailed {cause : FailureCause}
    (steps : actor.step (.startFailed cause) checkReach now = .ok stepped)
    (starting : actor.engine.phase = .starting profile endpoint) :
    stepped.actor.engine.phase = .failed cause := by
  obtain ⟨actions, engineSteps, _⟩ := step_ok steps
  simp only [Engine.step, starting, Except.ok.injEq] at engineSteps
  have same : (actor.engine.fail cause true).1 = stepped.actor.engine := congrArg Prod.fst engineSteps
  rw [← same]
  rfl

section Accounts

variable {attempt later : Nat} {phase next : Phase} {ops : List TunnelOp}

/-- What may stand behind an operation: at the end it accounts for the phase; a tunnel that was
superseded is taken down at once. -/
def Follows (attempt : Nat) (phase : Phase) : TunnelOp → List TunnelOp → Prop
  | .down, [] => phase.tunnel = none
  | .down, _ :: _ => True
  | .up made profile endpoint, [] => made = attempt ∧ phase = .starting profile endpoint
  | .up made _ _, then_ :: _ => made < attempt ∧ then_ = .down

/-- The operations left account for the phase. -/
def Accounted (attempt : Nat) (phase : Phase) : List TunnelOp → Prop
  | [] => True
  | op :: rest => Follows attempt phase op rest ∧ Accounted attempt phase rest

section

variable (accounted : Accounted attempt phase ops)

include accounted

theorem accounted_append_down (newer : attempt < later) (down : next.tunnel = none) :
    Accounted later next (ops ++ [.down]) := by
  induction ops with
  | nil => exact ⟨down, trivial⟩
  | cons op rest ih =>
    refine ⟨?_, ih accounted.2⟩
    have follows := accounted.1
    cases op with
    | down => cases rest <;> trivial
    | up made =>
      cases rest with
      | nil =>
        have last : made = attempt := follows.1
        exact ⟨by omega, rfl⟩
      | cons => exact ⟨follows.1.trans newer, follows.2⟩

variable {profile : ProfileId} {endpoint : EndpointId}

theorem accounted_append_up (newer : attempt < later) (down : phase.tunnel = none)
    (starts : next = .starting profile endpoint) :
    Accounted later next (ops ++ [.up later profile endpoint]) := by
  induction ops with
  | nil => exact ⟨⟨rfl, starts⟩, trivial⟩
  | cons op rest ih =>
    refine ⟨?_, ih accounted.2⟩
    have follows := accounted.1
    cases op with
    | down => cases rest <;> trivial
    | up =>
      cases rest with
      | nil =>
        rw [follows.2] at down
        cases down
      | cons => exact ⟨follows.1.trans newer, follows.2⟩

theorem accounted_aside (newer : attempt ≤ later) (down : phase.tunnel = none)
    (stillDown : next.tunnel = none) : Accounted later next ops := by
  induction ops with
  | nil => trivial
  | cons op rest ih =>
    refine ⟨?_, ih accounted.2⟩
    have follows := accounted.1
    cases op with
    | down =>
      cases rest with
      | nil => exact stillDown
      | cons => trivial
    | up =>
      cases rest with
      | nil =>
        rw [follows.2] at down
        cases down
      | cons => exact ⟨follows.1.trans_le newer, follows.2⟩

theorem accounted_connected (connected : phase = .connected profile endpoint) :
    ops = [] := by
  induction ops with
  | nil => rfl
  | cons op _ ih =>
    have last := ih accounted.2
    subst last
    have follows := accounted.1
    cases op with
    | down =>
      rw [connected] at follows
      cases follows
    | up =>
      have starting := follows.2
      rw [connected] at starting
      cases starting

end

/-- A tunnel of an attempt that is no longer the current one is taken down again. -/
theorem accounted_superseded {made : Nat} {before rest : List TunnelOp}
    (accounted : Accounted attempt phase (before ++ .up made profile endpoint :: rest))
    (superseded : made ≠ attempt) : .down ∈ rest := by
  induction before with
  | nil =>
    have follows := accounted.1
    cases rest with
    | nil => exact absurd follows.1 superseded
    | cons =>
      rw [follows.2]
      exact List.mem_cons_self
  | cons _ _ ih => exact ih accounted.2

end Accounts

theorem stop_of_down {queue : List Work} (down : .down ∈ queue.filterMap opOf) :
    ∃ work ∈ queue, work.kind = .stopTunnel := by
  obtain ⟨work, member, stands⟩ := List.mem_filterMap.mp down
  refine ⟨work, member, ?_⟩
  rw [opOf] at stands
  split at stands
  · cases stands
  · cases stands
  · assumption
  all_goals cases stands

end Orchestrator

end DnetEngine
