import DnetEngine.Core.EngineDiscipline

/-! The engine never uses a dead endpoint: whatever the probes of the endpoints say and whenever
they say it, what is raced or carried goes through a candidate of the current list. -/

namespace DnetEngine.Engine

open Lib

def Live (endpoints : List Endpoint) (id : EndpointId) : Prop :=
  ∃ x ∈ endpoints, x.id = id ∧ isCandidate x = true

variable {endpoints : List Endpoint} {id : EndpointId} {e : Engine}

theorem live_of_ranked (best : (rank endpoints).head? = some id) : Live endpoints id := by
  obtain ⟨x, member, candidate, named⟩ := rank_head_candidate endpoints id best
  exact ⟨x, member, named, candidate⟩

theorem find?_any_of_live (distinct : (endpoints.map Endpoint.id).Nodup) (live : Live endpoints id)
    :
    (endpoints.find? (fun x => x.id == id)).any isCandidate = true := by
  obtain ⟨x, member, rfl, candidate⟩ := live
  rw [find?_key Endpoint.id endpoints x distinct member]
  exact candidate

theorem live_of_find?_any (usable : (endpoints.find? (fun x => x.id == id)).any isCandidate = true)
    :
    Live endpoints id := by
  obtain ⟨x, found, candidate⟩ := (Option.any_eq_true _ _).mp usable
  exact ⟨x, List.mem_of_find?_eq_some found, by simpa using List.find?_some found, candidate⟩

def goesThrough : Action → Option EndpointId
  | .startRace _ endpoint | .startTunnel _ endpoint => some endpoint
  | .emit _ | .cancelRace | .stopTunnel | .warnTier2 _ => none

theorem mem_control_of_goesThrough {actions : List Action} {action : Action}
    (member : action ∈ actions) (through : goesThrough action = some id) :
    action ∈ control actions := by
  refine List.mem_filter.mpr ⟨member, ?_⟩
  cases action <;> first | rfl | cases through

structure Alive (e : Engine) : Prop where
  distinct : (e.endpoints.map Endpoint.id).Nodup
  used : e.phase.atRest = false → ∃ id, e.endpoint = some id ∧ Live e.endpoints id
  carried : ∀ profile endpoint, e.phase.tunnel = some (profile, endpoint) →
    e.endpoint = some endpoint

theorem alive_atRest (distinct : (e.endpoints.map Endpoint.id).Nodup) (rest : e.phase.atRest = true)
    : Alive e := by
  refine ⟨distinct, ?_, ?_⟩
  · intro active
    rw [rest] at active
    cases active
  · intro profile endpoint tunnel
    rw [Phase.tunnel_of_atRest rest] at tunnel
    cases tunnel

theorem alive_through (distinct : (e.endpoints.map Endpoint.id).Nodup)
    (chosen : e.endpoint = some id) (live : Live e.endpoints id)
    (phase : e.phase.tunnel = none ∨ ∃ profile, e.phase.tunnel = some (profile, id)) :
    Alive e := by
  refine ⟨distinct, fun _ => ⟨id, chosen, live⟩, ?_⟩
  intro profile endpoint tunnel
  rcases phase with none_ | ⟨other, same⟩
  · rw [none_] at tunnel
    cases tunnel
  · rw [same] at tunnel
    cases tunnel
    exact chosen

theorem Alive.chosen (alive : Alive e) (active : e.phase.atRest = false)
    (chosen : e.endpoint = some id) : Live e.endpoints id := by
  obtain ⟨used, same, live⟩ := alive.used active
  rw [chosen] at same
  cases same
  exact live

theorem probed_ids (e : Engine) (endpoint : EndpointId) (health : EndpointHealth) :
    (e.probed endpoint health).endpoints.map Endpoint.id = e.endpoints.map Endpoint.id := by
  unfold probed
  rw [map_updateFirst]
  exact fun _ => rfl

variable {endpoint : EndpointId} {now : Instant} {profiles : List ConnectionProfile}

theorem live_probed {health : EndpointHealth} (distinct : (e.endpoints.map Endpoint.id).Nodup)
    (live : Live e.endpoints id) (kept : id = endpoint → health.state ≠ .unreachable) :
    Live (e.probed endpoint health).endpoints id := by
  obtain ⟨x, member, rfl, candidate⟩ := live
  unfold probed
  rw [updateFirst_eq_map Endpoint.id endpoint _ e.endpoints distinct]
  refine ⟨_, List.mem_map.mpr ⟨x, member, rfl⟩, ?_, ?_⟩
  · split <;> rfl
  · split
    next same =>
      simp only [isCandidate, Bool.and_eq_true, decide_eq_true_eq] at candidate ⊢
      exact ⟨candidate.1, kept same⟩
    next => exact candidate

/-- The endpoint in use outlives every probe that does not report it lost. -/
theorem alive_probed {outcome : ProbeOutcome} {known : Endpoint} {transition : Transition}
    (alive : Alive e) (found : e.endpoints.find? (fun x => x.id == endpoint) = some known)
    (applied : known.health.onProbe outcome now {} = .ok transition)
    (settled : e.endpoint ≠ some endpoint ∨ transition.becameUnreachable = false ∨
      e.phase.atRest = true ∨
      ((e.probed endpoint transition.next).endpoints.find? (fun x => x.id == endpoint)).any
        isCandidate = true) :
    Alive (e.probed endpoint transition.next) := by
  refine ⟨by rw [probed_ids]; exact alive.distinct, ?_, alive.carried⟩
  intro (active : e.phase.atRest = false)
  obtain ⟨id, chosen, live⟩ := alive.used active
  refine ⟨id, chosen, ?_⟩
  by_cases same : id = endpoint
  · subst same
    rcases settled with other | stays | rest | usable
    · exact absurd chosen other
    · refine live_probed alive.distinct live ?_
      intro _ unreachable
      have before : known.health.state ≠ .unreachable := by
        have candidate := find?_any_of_live alive.distinct live
        rw [found] at candidate
        simp only [Option.any_some, isCandidate, Bool.and_eq_true, decide_eq_true_eq] at candidate
        exact candidate.2
      have became := (onProbe_becameUnreachable _ _ _ _ _ applied).mpr ⟨before, unreachable⟩
      rw [stays] at became
      cases became
    · rw [rest] at active
      cases active
    · exact live_of_find?_any usable
  · exact live_probed alive.distinct live (fun equal => absurd equal same)

/-- What one step leaves in use, and what its actions go through, is the endpoint it has chosen. -/
structure GoesThrough (outcome : Outcome) : Prop where
  alive : Alive outcome.1
  named : ∀ action ∈ control outcome.2, ∀ id, goesThrough action = some id →
    outcome.1.endpoint = some id ∧ outcome.1.phase.atRest = false

theorem path_alive {input : Input} {outcome : Outcome} (alive : Alive e)
    (path : Path e now input outcome) : GoesThrough outcome := by
  have probed_distinct (endpoint : EndpointId) (health : EndpointHealth) :
      ((e.probed endpoint health).endpoints.map Endpoint.id).Nodup := by
    rw [probed_ids]
    exact alive.distinct
  cases path with
  | ignored => exact ⟨alive, by simp⟩
  | told => exact ⟨alive, by simp [control, isControl]⟩
  | environment | reach => exact ⟨⟨alive.distinct, alive.used, alive.carried⟩, by simp⟩
  | connectFailed =>
    exact ⟨alive_atRest alive.distinct rfl, by simp⟩
  | connectDirect _ _ best =>
    refine ⟨alive_through alive.distinct rfl (live_of_ranked best) (.inr ⟨_, rfl⟩), ?_⟩
    simp [goesThrough, Phase.atRest]
  | connectRace _ best =>
    refine ⟨alive_through alive.distinct rfl (live_of_ranked best) (.inl rfl), ?_⟩
    simp [goesThrough, Phase.atRest]
  | disconnected =>
    refine ⟨alive_atRest alive.distinct rfl, ?_⟩
    unfold disconnect
    split <;> simp [control, goesThrough]
  | raceWon racing _ used | raceFallback racing used =>
    have live := alive.chosen (Phase.atRest_of_racing racing) used
    refine ⟨alive_through ?_ ?_ ?_ (.inr ⟨_, rfl⟩), ?_⟩
    · simpa using alive.distinct
    · simpa using used
    · simpa using live
    · simp [goesThrough, used, Phase.atRest]
  | raceFailed =>
    refine ⟨alive_atRest ?_ rfl, by simp⟩
    simpa using alive.distinct
  | cameUp starting =>
    refine ⟨⟨alive.distinct, fun _ => alive.used (by rw [starting]; rfl), ?_⟩, by simp⟩
    intro profile endpoint tunnel
    exact alive.carried profile endpoint (by rw [starting]; exact tunnel)
  | startFailed => exact ⟨alive_atRest alive.distinct rfl, by simp [goesThrough]⟩
  | checkQuiet =>
    exact ⟨⟨alive.distinct, alive.used, alive.carried⟩, by simp⟩
  | checkFailed | checkLost =>
    exact ⟨alive_atRest alive.distinct rfl, by simp [goesThrough]⟩
  | checkMoved _ _ _ best =>
    refine ⟨alive_through alive.distinct rfl (live_of_ranked best) (.inr ⟨_, rfl⟩), ?_⟩
    simp [movedTunnel, control, goesThrough, Phase.atRest]
  | blockedAll =>
    exact ⟨alive_atRest (by simpa [checked] using alive.distinct) rfl, by simp [goesThrough]⟩
  | blockedDirect connected _ usable =>
    have chosen := alive.carried _ _ (by rw [connected]; rfl)
    refine ⟨alive_through ?_ ?_ ?_ (.inr ⟨_, rfl⟩), ?_⟩
    · simpa [checked] using alive.distinct
    · simpa [checked] using chosen
    · simpa [checked] using live_of_find?_any usable
    · simp [goesThrough, checked, chosen, Phase.atRest]
  | @blockedRace _ _ endpoint _ _ connected _ usable =>
    have chosen := alive.carried _ _ (by rw [connected]; rfl)
    refine ⟨@alive_through endpoint _ ?_ ?_ ?_ (.inl rfl), ?_⟩
    · simpa [checked] using alive.distinct
    · simpa [checked] using chosen
    · simpa [checked] using live_of_find?_any usable
    · simp [goesThrough, checked, chosen, Phase.atRest]
  | probed found applied settled => exact ⟨alive_probed alive found applied settled, by simp⟩
  | probedTunnelMoved _ _ best =>
    refine ⟨alive_through (probed_distinct _ _) rfl (live_of_ranked best) (.inr ⟨_, rfl⟩), ?_⟩
    simp [movedTunnel, control, goesThrough, Phase.atRest]
  | probedTunnelLost =>
    exact ⟨alive_atRest (probed_distinct _ _) rfl, by simp [goesThrough]⟩
  | probedRaceMoved _ racing best =>
    refine ⟨alive_through (probed_distinct _ _) rfl (live_of_ranked best) (.inl ?_), ?_⟩
    · exact Phase.tunnel_of_racing racing
    · simp [movedRace, control, goesThrough, Phase.atRest_of_racing racing, probed]
  | probedRaceLost =>
    exact ⟨alive_atRest (probed_distinct _ _) rfl, by simp [control, goesThrough, fail]⟩

/-- A step writes to the endpoints by a probe only, and then to the health of one. -/
theorem path_endpoints {input : Input} {outcome : Outcome} (path : Path e now input outcome) :
    outcome.1.endpoints = e.endpoints ∨
      ∃ endpoint health, outcome.1.endpoints = (e.probed endpoint health).endpoints := by
  cases path with
  | probed | probedTunnelMoved | probedTunnelLost | probedRaceMoved | probedRaceLost =>
    exact .inr ⟨_, _, rfl⟩
  | raceWon | raceFailed | raceFallback => exact .inl (by simp)
  | blockedAll | blockedDirect | blockedRace => exact .inl (by simp [checked])
  | _ => exact .inl rfl

theorem run_enabled {history : History} (run : Run Steps (Engine.new profiles endpoints) history e)
    :
    e.endpoints.map (fun x => (x.id, x.enabled)) = endpoints.map (fun x => (x.id, x.enabled)) := by
  refine run_state_invariant (fun e => e.endpoints.map (fun x => (x.id, x.enabled)) =
    endpoints.map (fun x => (x.id, x.enabled))) rfl ?_ run
  intro before observed after same taken
  rcases path_endpoints (steps_path taken) with kept | ⟨endpoint, health, changed⟩
  · exact (congrArg _ kept).trans same
  · refine (congrArg _ changed).trans (Eq.trans ?_ same)
    unfold probed
    rw [map_updateFirst]
    exact fun _ => rfl

theorem run_alive (distinct : (endpoints.map Endpoint.id).Nodup) {history : History}
    (run : Run Steps (Engine.new profiles endpoints) history e) : Alive e :=
  run_state_invariant Alive (alive_atRest distinct rfl)
    (fun _ _ _ alive taken => (path_alive alive (steps_path taken)).alive) run

theorem engine_endpoint_alive (profiles : List ConnectionProfile) (endpoints : List Endpoint)
    (distinct : (endpoints.map Endpoint.id).Nodup) (history : History) (e : Engine)
    (run : Run Steps (Engine.new profiles endpoints) history e) :
    e.endpoints.map (fun x => (x.id, x.enabled)) = endpoints.map (fun x => (x.id, x.enabled)) ∧
      (e.phase.atRest = false → ∃ id, e.endpoint = some id ∧ Live e.endpoints id) ∧
      (∀ profile endpoint, e.phase.tunnel = some (profile, endpoint) →
        e.endpoint = some endpoint) ∧
      (∀ taken ∈ history, ∀ action ∈ taken.label.actions, ∀ id, goesThrough action = some id →
        Live taken.after.endpoints id) ∧
      ∀ profile endpoint, e.phase = .connected profile endpoint →
        planMigration e.endpoints endpoint = .ok .stay := by
  have alive := run_alive distinct run
  refine ⟨run_enabled run, alive.used, alive.carried, ?_, ?_⟩
  · intro taken member action acted id through
    obtain ⟨newer, older, rfl⟩ := List.append_of_mem member
    obtain ⟨earlier, step, _⟩ := run_taken run
    have goes := path_alive (run_alive distinct earlier) (steps_path step)
    obtain ⟨chosen, active⟩ := goes.named action (mem_control_of_goesThrough acted through) id through
    exact goes.alive.chosen active chosen
  · intro profile endpoint connected
    have chosen := alive.carried profile endpoint (by rw [connected]; rfl)
    have usable := find?_any_of_live alive.distinct
      (alive.chosen (by rw [connected]; rfl) chosen)
    simp only [planMigration, usable, if_true]

/-- The endpoint carrying the tunnel is lost, and the tunnel is taken to the other one. -/
theorem engine_endpoint_alive_moved :
    let endpoints : List Endpoint := [⟨⟨1⟩, "first", {}, true⟩, ⟨⟨2⟩, "second", {}, true⟩]
    let played := play (Engine.new [⟨⟨"amneziawg"⟩, .amneziaWg, .tier2, .untested⟩] endpoints)
      [(.connect none, 0), (.tunnelUp, 1), (.endpointProbe ⟨1⟩ .failed, 2), (.tunnelUp, 3)]
    (endpoints.map Endpoint.id).Nodup ∧ played.1.phase = .connected ⟨"amneziawg"⟩ ⟨2⟩ ∧
      planMigration played.1.endpoints ⟨2⟩ = .ok .stay :=
  ⟨by decide, by decide,
    (engine_endpoint_alive _ _ (by decide) _ _ (play_run _ _)).2.2.2.2 ⟨"amneziawg"⟩ ⟨2⟩
      (by decide)⟩

end DnetEngine.Engine
