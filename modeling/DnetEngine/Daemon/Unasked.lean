import DnetEngine.Daemon.OrchestratorTunnel

/-! Only the callers ask for a connect: no report is one, and without one the engine stays at
rest. -/

namespace DnetEngine

theorem Engine.step_atRest {e after : Engine} {input : Input} {now : Instant}
    {actions : List Action} (steps : e.step input now = .ok (after, actions))
    (rest : e.phase.atRest = true) (unasked : ∀ profile, input ≠ .connect profile) :
    after.phase.atRest = true := by
  have connected {profile : ProfileId} {endpoint : EndpointId}
      (phase : e.phase = .connected profile endpoint) : False := by
    rw [phase] at rest
    cases rest
  have starting {profile : ProfileId} {endpoint : EndpointId}
      (phase : e.phase = .starting profile endpoint) : False := by
    rw [phase] at rest
    cases rest
  have racing (races : e.phase.racing = true) : False := by
    rw [Phase.racing_of_atRest rest] at races
    cases races
  cases step_path e now input _ steps with
  | ignored | environment | reach | probed => exact rest
  | told tells =>
    obtain ⟨_, _, phase, _⟩ := tells
    exact (connected phase).elim
  | connectFailed _ _ | connectDirect _ _ _ _ | connectRace _ _ _ => exact absurd rfl (unasked _)
  | disconnected => rfl
  | raceWon races | raceFailed races | raceFallback races | probedRaceMoved _ races
  | probedRaceLost _ races => exact (racing races).elim
  | cameUp phase | startFailed phase => exact (starting phase).elim
  | checkQuiet phase | checkFailed phase | checkMoved phase | checkLost phase | blockedAll phase
  | blockedDirect phase | blockedRace phase =>
    exact (connected phase).elim
  | probedTunnelMoved _ carrying | probedTunnelLost _ carrying =>
    exact (carrying.elim connected starting).elim

namespace Orchestrator

open Lib

section Reports

/-- A task never reports a connect. -/
structure Task.Unasked (task : Task) : Prop where
  pending : ∀ profile, .connect profile ∉ task.pending
  outgoing : ∀ profile, task.outgoing ≠ some (.connect profile)

theorem Task.Unasked.sends {task : Task} (unasked : task.Unasked) {input : Input}
    (other : ∀ profile, input ≠ .connect profile) :
    ({ task with outgoing := some input } : Task).Unasked where
  pending := unasked.pending
  outgoing := fun profile sends => other profile (Option.some.inj sends)

theorem Task.Unasked.next {task : Task} {current : Nat} {cancelled : List Nat} {news : News}
    {next : Option Task} {sent : Option Input} (unasked : task.Unasked)
    (moves : task.next current cancelled news = some (next, sent)) :
    (∀ profile, sent ≠ some (.connect profile)) ∧
      ∀ later, next = some later → later.Unasked := by
  refine ⟨fun profile sends => ?_, fun later goes => ?_⟩
  · exact unasked.outgoing profile ((System.next_goesOn moves).1 _ sends)
  · subst goes
    cases news with
    | raced | pathMoved | told =>
      simp only [Task.next] at moves
      split at moves
      · split at moves <;> cases moves
        exact unasked.sends (fun _ => Input.noConfusion)
      · cases moves
    | ticked _ _ probe =>
      simp only [Task.next] at moves
      split at moves
      · split at moves <;> cases moves
        refine ⟨fun profile => ?_, unasked.outgoing⟩
        cases probe <;> simp
      · cases moves
    | checked =>
      simp only [Task.next] at moves
      split at moves
      · rename_i input rest pending outgoing
        split at moves <;> cases moves
        have held := unasked.pending
        rw [pending] at held
        refine ⟨fun profile member => held profile (List.mem_cons_of_mem _ member), ?_⟩
        intro profile sends
        cases sends
        exact held profile List.mem_cons_self
      · cases moves
    | sent =>
      simp only [Task.next] at moves
      split at moves <;> cases moves
      all_goals
        refine ⟨unasked.pending, ?_⟩
        intro profile sends
        cases sends
    | ended => cases moves

namespace System

variable {s after : System}

/-- Nothing that is or will be reported is a connect: those come from the callers alone. -/
structure Unasked (s : System) : Prop where
  mail : ∀ attempt profile, .report attempt (.connect profile) ∉ s.mail
  stage : ∀ attempt inputs, s.stage = .reporting attempt inputs →
    ∀ profile, .connect profile ∉ inputs
  tasks : ∀ task ∈ s.tasks, task.Unasked

theorem push_mail (message : Msg) :
    (s.push message).mail = s.mail ∨ (s.push message).mail = s.mail ++ [message] := by
  rw [System.push]
  split
  · exact .inr rfl
  · exact .inl rfl

@[simp] theorem push_tasks (message : Msg) : (s.push message).tasks = s.tasks := by
  rw [System.push]
  split <;> rfl

section

variable (unasked : s.Unasked)

include unasked

theorem Unasked.push (message : Msg)
    (other : ∀ attempt profile, message ≠ .report attempt (.connect profile)) :
    (s.push message).Unasked where
  mail := by
    intro attempt profile member
    rcases push_mail (s := s) message with same | longer
    · rw [same] at member
      exact unasked.mail attempt profile member
    · rw [longer] at member
      rcases List.mem_append.mp member with old | new
      · exact unasked.mail attempt profile old
      · exact other attempt profile (List.mem_singleton.mp new).symm
  stage := by
    rw [push_stage]
    exact unasked.stage
  tasks := by
    rw [push_tasks]
    exact unasked.tasks

theorem Unasked.handles (handles : Handles s after) : after.Unasked := by
  have behind {message : Msg} {rest : List Msg} (queue : s.mail = message :: rest) (attempt : Nat)
      (profile : Option ProfileId) : .report attempt (.connect profile) ∉ rest :=
    fun member => unasked.mail attempt profile (queue ▸ List.mem_cons_of_mem _ member)
  have watched (stepped : Stepped) (watchable : Bool) (task : Task)
      (member : task ∈ s.tasks ++ watchers stepped.actor.attempt watchable stepped.watched) :
      task.Unasked := by
    rcases List.mem_append.mp member with old | new
    · exact unasked.tasks task old
    · obtain ⟨_, pending, outgoing, _⟩ := mem_watchers new
      refine ⟨fun profile => ?_, fun profile => ?_⟩
      · rw [pending]
        exact List.not_mem_nil
      · rw [outgoing]
        exact nofun
  cases handles with
  | told watchable queue =>
    exact ⟨behind queue, unasked.stage, watched _ watchable⟩
  | shutdown watchable =>
    exact ⟨fun _ _ => List.not_mem_nil, unasked.stage, watched _ watchable⟩
  | stale queue => exact ⟨behind queue, unasked.stage, unasked.tasks⟩

theorem Unasked.reports (tunnel lastUp : Option (ProfileId × EndpointId)) (attempt : Nat)
    {inputs : List Input} (other : ∀ profile, .connect profile ∉ inputs) :
    ({ s with tunnel, lastUp, stage := .reporting attempt inputs } : System).Unasked where
  mail := unasked.mail
  stage := by
    intro _ _ reporting
    cases reporting
    exact other
  tasks := unasked.tasks

theorem Unasked.completes (completes : Completes s after) :
    after.Unasked := by
  cases completes with
  | reached =>
    exact unasked.reports s.tunnel s.lastUp _ (fun _ => by simp)
  | up => exact unasked.reports _ _ _ (fun _ => by simp)
  | failed => exact unasked.reports _ s.lastUp _ (fun _ => by simp)
  | retried | cleared | stopped => exact ⟨unasked.mail, fun _ _ => Stage.noConfusion, unasked.tasks⟩

theorem Unasked.sends {attempt : Nat} {input : Input} {rest : List Input}
    (stage : s.stage = .reporting attempt (input :: rest)) :
    ({ s.push (.report attempt input) with stage := Stage.sent attempt rest } :
      System).Unasked := by
  have held := unasked.stage attempt _ stage
  have pushed := unasked.push (.report attempt input) (by
    rintro _ profile ⟨⟩
    exact held profile List.mem_cons_self)
  refine ⟨pushed.mail, ?_, pushed.tasks⟩
  intro made inputs reporting profile member
  obtain ⟨_, rfl⟩ := Stage.sent_eq_reporting reporting
  exact held profile (List.mem_cons_of_mem _ member)

theorem Unasked.replaceTask (index : Nat) {next : Option Task}
    (tasks : ∀ later, next = some later → later.Unasked) : (s.replaceTask index next).Unasked := by
  cases next with
  | none =>
    exact ⟨unasked.mail, unasked.stage,
      fun task member => unasked.tasks task (List.mem_of_mem_eraseIdx member)⟩
  | some =>
    refine ⟨unasked.mail, unasked.stage, fun task member => ?_⟩
    rcases List.mem_or_eq_of_mem_set member with old | rfl
    · exact unasked.tasks task old
    · exact tasks _ rfl

theorem Unasked.runTask {index : Nat} {news : News} (ran : s.runTask index news = some after) :
    after.Unasked := by
  simp only [System.runTask] at ran
  split at ran
  · cases ran
  · rename_i task found
    have kept := unasked.tasks task (List.mem_of_getElem? found)
    split at ran
    · cases ran
    · rename_i next moves
      cases ran
      exact unasked.replaceTask index (kept.next moves).2
    · rename_i next input moves
      cases ran
      apply (unasked.replaceTask index (kept.next moves).2).push
      rintro _ profile ⟨⟩
      exact (kept.next moves).1 profile rfl

theorem Unasked.next {choice : Choice} (taken : s.next choice = some after) :
    after.Unasked := by
  cases choice with
  | ask message =>
    cases message with
    | connect _ | disconnect | shutdown =>
      cases taken
      exact unasked.push _ (fun _ _ => Msg.noConfusion)
    | report => cases taken
  | handle => exact unasked.handles (handle_handles taken).2
  | takeWork =>
    obtain ⟨first, rest, took⟩ := takeWork_took taken
    refine ⟨?_, fun attempt inputs stage => absurd stage (took.silent attempt inputs), ?_⟩
    · rw [took.mail]
      exact unasked.mail
    · intro task member
      rcases took.tasks task member with old | ⟨token, rfl⟩
      · exact unasked.tasks task old
      · exact ⟨fun _ => List.not_mem_nil, fun _ => nofun⟩
  | complete => exact unasked.completes (complete_completes taken)
  | sendReport =>
    obtain ⟨attempt, input, rest, stage, rfl⟩ := sendReport_ok taken
    exact unasked.sends stage
  | runTask => exact unasked.runTask taken

end

theorem tells_connect {message : Msg} {current : Nat} {profile : Option ProfileId}
    (tells : message.tells current = some (.connect profile)) :
    message = .connect profile ∨ ∃ attempt, message = .report attempt (.connect profile) := by
  cases message with
  | connect =>
    cases tells
    exact .inl rfl
  | disconnect | shutdown => cases tells
  | report attempt =>
    obtain ⟨_, tells⟩ := Option.ite_none_right_eq_some.mp tells
    cases tells
    exact .inr ⟨attempt, rfl⟩

theorem Unasked.atRest (unasked : s.Unasked) (handles : Handles s after)
    (rest : s.phase.atRest = true) (other : ∀ profile, s.mail.head? ≠ some (.connect profile)) :
    after.phase.atRest = true := by
  cases handles with
  | told _ queue tells looked steps =>
    obtain ⟨actions, engineSteps, _⟩ := step_ok steps
    refine Engine.step_atRest engineSteps ?_ ?_
    · rcases looked with rfl | ⟨environment, rfl⟩ <;> exact rest
    · rintro profile rfl
      rw [queue] at other
      rcases tells_connect tells with rfl | ⟨attempt, rfl⟩
      · exact other profile rfl
      · exact unasked.mail attempt profile (queue ▸ List.mem_cons_self)
  | shutdown _ _ steps => exact step_disconnect steps
  | stale => exact rest

end System

end Reports

end Orchestrator

end DnetEngine
