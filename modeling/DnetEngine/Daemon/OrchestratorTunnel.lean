import DnetEngine.Daemon.TunnelActor

/-! No stale and no orphaned tunnel: in every run of the orchestrator, whatever the interleaving,
what is up on the machine is what the engine says, once its work is done. -/

namespace DnetEngine.Orchestrator

open Lib

namespace System

variable {s after : System}

theorem Sound.next {choice : Choice} (sound : s.Sound) (taken : s.next choice = some after) :
    after.Sound := by
  cases choice with
  | ask message =>
    cases message with
    | connect _ | disconnect | shutdown =>
      cases taken
      apply sound.push
      rintro _ _ ⟨⟩
    | report => cases taken
  | handle =>
    obtain ⟨accepting, handles⟩ := handle_handles taken
    exact sound.handles accepting handles
  | takeWork =>
    obtain ⟨first, rest, took⟩ := takeWork_took taken
    exact sound.took took
  | complete => exact sound.completes (complete_completes taken)
  | sendReport =>
    obtain ⟨attempt, input, rest, stage, rfl⟩ := sendReport_ok taken
    exact sound.sends stage
  | runTask => exact sound.runTask taken

/-- Only taking a message changes the actor, and nothing undoes that a shutdown is over. -/
theorem next_actor {choice : Choice} (taken : s.next choice = some after) :
    (after.actor = s.actor ∨ Handles s after) ∧ (s.done = true → after.done = true) := by
  cases choice with
  | ask message =>
    cases message with
    | connect _ | disconnect | shutdown =>
      cases taken
      exact ⟨.inl (push_actor _), fun finished => (push_done _).trans finished⟩
    | report => cases taken
  | handle =>
    have handles := (handle_handles taken).2
    refine ⟨.inr handles, fun finished => ?_⟩
    cases handles <;> exact finished
  | takeWork =>
    obtain ⟨first, rest, took⟩ := takeWork_took taken
    refine ⟨.inl took.actor, fun finished => ?_⟩
    by_cases barrier : first.kind = .barrier
    · exact (took.barrier barrier).1
    · exact (took.ordinary barrier).trans finished
  | complete =>
    have completes := complete_completes taken
    cases completes <;> exact ⟨.inl rfl, id⟩
  | sendReport =>
    obtain ⟨attempt, input, rest, stage, rfl⟩ := sendReport_ok taken
    exact ⟨.inl (push_actor _), fun finished => (push_done _).trans finished⟩
  | runTask index news =>
    simp only [System.next, System.runTask] at taken
    split at taken
    · cases taken
    · split at taken
      · cases taken
      · rename_i next moves
        cases taken
        cases next <;> exact ⟨.inl rfl, id⟩
      · rename_i next input moves
        cases taken
        rw [push_actor, push_done]
        cases next <;> exact ⟨.inl rfl, id⟩

theorem Handles.attempt_le (handles : Handles s after) :
    s.actor.attempt ≤ after.actor.attempt := by
  cases handles with
  | told watchable queue tells looked steps =>
    rcases looked with rfl | ⟨environment, rfl⟩
    · exact (absorbs_of_step watchable queue tells rfl rfl steps).attempt_le
    · have absorbs := absorbs_of_step watchable queue tells (by rfl) (by rfl) steps
      exact absorbs.attempt_le
  | shutdown watchable queue steps =>
    exact (absorbs_of_step watchable queue rfl rfl rfl steps).attempt_le
  | stale => exact Nat.le_refl _

theorem run_forward {history : History} (run : Run Steps s history after) :
    s.actor.attempt ≤ after.actor.attempt ∧ (s.done = true → after.done = true) := by
  induction run with
  | start => exact ⟨Nat.le_refl _, id⟩
  | next _ taken ih =>
    obtain ⟨actor, finished⟩ := next_actor taken
    refine ⟨ih.1.trans ?_, fun done => finished (ih.2 done)⟩
    rcases actor with same | handles
    · rw [same]
    · exact handles.attempt_le

section Reached

variable {profiles : List ConnectionProfile} {endpoints : List Endpoint} {history : History}

theorem spawn_sound (engine : Engine) (idle : engine.phase = .idle) : (spawn engine).Sound where
  accounted := trivial
  settled := by
    intro _
    refine ⟨?_, ?_, fun _ => rfl⟩
    · intro profile endpoint connected
      cases idle.symm.trans connected
    · intro profile endpoint starting
      cases idle.symm.trans starting
  work := by
    intro _ member
    cases member
  reaching := by
    intro _ _ reaching
    cases reaching
  reporting := by
    intro _ _ reporting
    cases reporting
  mail := by
    intro _ _ member
    cases member
  tasks := by
    intro _ member
    cases member
  closing := by
    refine ⟨fun _ => ⟨rfl, ?_⟩, fun closed => ?_⟩
    · intro _ member
      cases member
    · cases closed
  remembered := by
    intro _ up
    cases up

theorem run_sound (run : Run Steps (spawn (Engine.new profiles endpoints)) history s) : s.Sound := by
  apply run_state_invariant System.Sound (spawn_sound _ rfl) _ run
  exact fun before choice after sound taken => sound.next taken

variable {now : Instant}

theorem engine_run_next {start e after : Engine} {observed : Engine.History} {input : Input}
    {actions : List Action} (run : Run Engine.Steps start observed e)
    (steps : e.step input now = .ok (after, actions)) :
    ∃ observed, Run Engine.Steps start observed after :=
  ⟨⟨e, ⟨input, now, actions⟩, after⟩ :: observed, run.next steps⟩

theorem engine_looks (actor : Actor) (environment : Environment) :
    actor.engine.step (.environment environment) 0 =
      .ok ((actor.looks environment).engine, []) := rfl

/-- The engine of the orchestrator goes through a run of its own. -/
theorem run_engine (run : Run Steps (spawn (Engine.new profiles endpoints)) history s) :
    ∃ observed, Run Engine.Steps (Engine.new profiles endpoints) observed s.actor.engine := by
  induction run with
  | start => exact ⟨[], .start⟩
  | next _ taken ih =>
    obtain ⟨observed, engineRun⟩ := ih
    rcases (next_actor taken).1 with same | handles
    · exact ⟨observed, same ▸ engineRun⟩
    · cases handles with
      | told _ _ _ looked steps =>
        obtain ⟨actions, engineSteps, _⟩ := step_ok steps
        rcases looked with rfl | ⟨environment, rfl⟩
        · exact engine_run_next engineRun engineSteps
        · obtain ⟨_, looked⟩ := engine_run_next engineRun (engine_looks _ environment)
          exact engine_run_next looked engineSteps
      | shutdown _ _ steps =>
        obtain ⟨actions, engineSteps, _⟩ := step_ok steps
        exact engine_run_next engineRun engineSteps
      | stale => exact ⟨observed, engineRun⟩

theorem step_error {actor : Actor} {input : Input} {checkReach : Bool} {site : Panic}
    (panics : actor.step input checkReach now = .error site) :
    actor.engine.step input now = .error site := by
  rcases bind_error.mp panics with engine | ⟨_, _, impossible⟩
  · exact engine
  · cases impossible

/-- The actor takes every message it is sent: the one panic that could end it is a round-trip time
that does not fit a duration. -/
theorem handle_panic (run : Run Steps (spawn (Engine.new profiles endpoints)) history s)
    {environment : Environment} {watchable : Bool} (accepting : s.accepting = true)
    (waiting : s.mail ≠ []) (stuck : s.handle environment now watchable = none) :
    ∃ input, s.actor.engine.step input now = .error .secondsOutOfRange ∨
      (s.actor.looks environment).engine.step input now = .error .secondsOutOfRange := by
  obtain ⟨observed, engineRun⟩ := run_engine run
  obtain ⟨message, rest, queue⟩ := List.exists_cons_of_ne_nil waiting
  have told {input : Input} (failed : ∃ site, s.actor.step input false now = .error site) :
      s.actor.engine.step input now = .error .secondsOutOfRange := by
    obtain ⟨site, panics⟩ := failed
    have engine := step_error panics
    rw [Engine.run_panic engineRun engine] at engine
    exact engine
  cases message with
  | connect =>
    simp only [System.handle, accepting, queue, connect_looks] at stuck
    obtain ⟨site, panics⟩ := toOption_map_none stuck
    obtain ⟨_, looked⟩ := engine_run_next engineRun (engine_looks _ environment)
    have engine := step_error panics
    rw [Engine.run_panic looked engine] at engine
    exact ⟨_, .inr engine⟩
  | disconnect | shutdown =>
    simp only [System.handle, accepting, queue] at stuck
    exact ⟨_, .inl (told (toOption_map_none stuck))⟩
  | report =>
    simp only [System.handle, accepting, queue] at stuck
    split at stuck
    · exact ⟨_, .inl (told (toOption_map_none stuck))⟩
    · cases stuck

end Reached

section Results

variable {endpoint : EndpointId}

/-- The start or move under way, if it was superseded, has its stop waiting. -/
theorem Sound.under_way (sound : s.Sound) {attempt : Nat} {profile : ProfileId}
    (begun : s.stage.ops = [.up attempt profile endpoint]) (superseded : attempt ≠ s.actor.attempt)
    : ∃ work ∈ s.work, work.kind = .stopTunnel := by
  have accounted : Accounted s.actor.attempt s.phase
      ([] ++ .up attempt profile endpoint :: s.work.filterMap opOf) := by
    have whole := sound.accounted
    rw [System.ops, begun] at whole
    exact whole
  exact stop_of_down (accounted_superseded accounted superseded)

theorem Sound.waiting (sound : s.Sound) {before rest : List Work} {item : Work}
    {profile : ProfileId} (queue : s.work = before ++ item :: rest)
    (starts : opOf item = some (.up item.attempt profile endpoint))
    (superseded : item.attempt ≠ s.actor.attempt) : ∃ work ∈ rest, work.kind = .stopTunnel := by
  have accounted := sound.accounted
  rw [System.ops, queue, List.filterMap_append, List.filterMap_cons_some starts,
    ← List.append_assoc] at accounted
  exact stop_of_down (accounted_superseded accounted superseded)

/-- With nothing to do and nothing to hear, a tunnel is up exactly when the engine says so. -/
theorem Sound.quiet (sound : s.Sound) (queue : s.work = []) (idle : s.stage = .idle)
    (heard : ∀ input, .report s.actor.attempt input ∉ s.mail) :
    s.tunnel = s.phase.connected? := by
  have settled := sound.settled (by rw [System.ops, queue, idle]; rfl)
  cases phase : s.phase with
  | connected profile endpoint => exact settled.connected profile endpoint phase
  | starting profile endpoint =>
    obtain ⟨input, _, mailed | ⟨inputs, reporting, _⟩⟩ :=
      settled.starting profile endpoint phase
    · exact absurd mailed (heard input)
    · cases idle.symm.trans reporting
  | idle | probing | recovering | failed =>
    apply settled.down
    rw [phase]
    rfl

/-- A shutdown that is over leaves no tunnel and nothing that could start one. -/
theorem Sound.shut (sound : s.Sound) (done : s.done = true) :
    s.tunnel = none ∧ s.work = [] ∧ s.stage = .idle := by
  have closed : s.accepting = false := by
    cases accepting : s.accepting with
    | false => rfl
    | true => cases (sound.closing.accepts accepting).1.symm.trans done
  obtain ⟨atRest, ⟨running, _⟩ | ⟨_, queue, idle⟩⟩ := sound.closing.closed closed
  · cases running.symm.trans done
  · have settled := sound.settled (by rw [System.ops, queue, idle]; rfl)
    exact ⟨settled.down (Phase.tunnel_of_atRest atRest), queue, idle⟩

end Results

end System

/-- No stale or orphaned tunnel. A report of a superseded attempt is dropped whenever the actor comes
to it, then and later. A start or a move of a superseded attempt, under way or waiting, has a stop
queued behind it. With no work, an idle executor and no current report waiting, the tunnel that is up
is the engine's connection, which is what a start or a move brought up last. Once a shutdown was told
that it is done, no tunnel is up, and none is started any more. -/
theorem no_stale_or_orphaned_tunnel (profiles : List ConnectionProfile) (endpoints : List Endpoint)
    (history : History) (s : System)
    (run : Run Steps (spawn (Engine.new profiles endpoints)) history s) :
    ((∀ attempt input, .report attempt input ∈ s.mail → attempt ≤ s.actor.attempt) ∧
      ∀ newer later, Run Steps s newer later → later.accepting = true →
        ∀ attempt input rest, attempt < s.actor.attempt →
          later.mail = .report attempt input :: rest → ∀ environment now watchable,
            later.handle environment now watchable = some { later with mail := rest }) ∧
    ((∀ attempt profile endpoint, attempt ≠ s.actor.attempt →
        s.stage = .starting attempt profile endpoint ∨ s.stage = .moving attempt profile endpoint ∨
          s.stage = .replacing attempt profile endpoint →
        ∃ work ∈ s.work, work.kind = .stopTunnel) ∧
      ∀ before item rest profile endpoint, s.work = before ++ item :: rest →
        item.attempt ≠ s.actor.attempt →
        item.kind = .startTunnel profile endpoint ∨ item.kind = .moveTunnel profile endpoint →
        ∃ work ∈ rest, work.kind = .stopTunnel) ∧
    (s.work = [] → s.stage = .idle → (∀ input, .report s.actor.attempt input ∉ s.mail) →
      s.tunnel = s.actor.engine.phase.connected? ∧
        ∀ profile endpoint, s.actor.engine.phase = .connected profile endpoint →
          s.lastUp = some (profile, endpoint)) ∧
    (s.done = true → ∀ newer later, Run Steps s newer later →
      later.tunnel = none ∧ later.work = [] ∧ later.stage = .idle) := by
  have sound := System.run_sound run
  refine ⟨⟨?_, ?_⟩, ⟨?_, ?_⟩, ?_, ?_⟩
  · exact fun attempt input member => (sound.mail attempt input member).1
  · intro newer later goes accepting attempt input rest old queue
    have superseded : attempt ≠ later.actor.attempt :=
      (old.trans_le (System.run_forward goes).1).ne
    intro environment now watchable
    simp only [System.handle, accepting, queue]
    exact if_neg superseded
  · intro attempt profile endpoint superseded stage
    have begun : s.stage.ops = [.up attempt profile endpoint] := by
      rcases stage with stage | stage | stage <;> rw [stage] <;> rfl
    exact sound.under_way begun superseded
  · intro before item rest profile endpoint queue superseded kind
    have starts : opOf item = some (.up item.attempt profile endpoint) := by
      rcases kind with kind | kind <;> simp only [opOf, kind]
    exact sound.waiting queue starts superseded
  · intro queue idle heard
    have tunnel := sound.quiet queue idle heard
    refine ⟨tunnel, fun profile endpoint connected => ?_⟩
    apply sound.remembered
    rw [tunnel, System.phase, connected]
    rfl
  · intro done newer later goes
    have reached := System.run_sound (run_append run goes)
    exact reached.shut ((System.run_forward goes).2 done)

/-- A connection that came up; and a shutdown in the middle of its start, which has the stop waiting
and is over with no tunnel up. -/
theorem no_stale_or_orphaned_tunnel_connected :
    let start := spawn (Engine.new [⟨⟨"amneziawg"⟩, .amneziaWg, .tier2, .untested⟩]
      [⟨⟨1⟩, "first", {}, true⟩])
    let starts : List Choice := [.ask (.connect none), .handle {} 0 false, .takeWork,
      .complete (.reached {} [.reachable]), .sendReport, .sendReport, .takeWork]
    let up := (follow System.next start (starts ++ [.complete .started, .sendReport,
      .handle {} 1 false, .handle {} 2 false, .handle {} 3 false])).1
    let closes := starts ++ [.ask .shutdown, .handle {} 1 false, .handle {} 2 false,
      .handle {} 3 false]
    let closing := (follow System.next start closes).1
    let finished := (follow System.next start (closes ++ [.complete .started, .sendReport, .takeWork,
      .complete .stopped, .takeWork])).1
    (up.actor.engine.phase = .connected ⟨"amneziawg"⟩ ⟨1⟩ ∧
      up.tunnel = up.actor.engine.phase.connected?) ∧
    (closing.stage = .starting 1 ⟨"amneziawg"⟩ ⟨1⟩ ∧
      ∃ work ∈ closing.work, work.kind = .stopTunnel) ∧
    finished.lastUp = some (⟨"amneziawg"⟩, ⟨1⟩) ∧ finished.tunnel = none := by
  intro start starts up closes closing finished
  have silent : up.mail = [] := by decide
  refine ⟨⟨by decide, ?_⟩, ⟨by decide, ?_⟩, by decide, ?_⟩
  · have results := no_stale_or_orphaned_tunnel _ _ _ up (follow_run System.next start _)
    refine (results.2.2.1 (by decide) (by decide) ?_).1
    rw [silent]
    exact fun _ => List.not_mem_nil
  · have results := no_stale_or_orphaned_tunnel _ _ _ closing (follow_run System.next start _)
    exact results.2.1.1 1 ⟨"amneziawg"⟩ ⟨1⟩ (by decide) (.inl (by decide))
  · have results := no_stale_or_orphaned_tunnel _ _ _ finished (follow_run System.next start _)
    exact (results.2.2.2 (by decide) [] finished .start).1

end DnetEngine.Orchestrator
