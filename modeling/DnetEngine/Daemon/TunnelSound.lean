import DnetEngine.Daemon.TunnelPlan

/-! The invariant of the orchestrator: what is up on the machine and what is still to be done to it
account for the phase of the engine, whatever the interleaving. -/

namespace DnetEngine.Orchestrator

open Lib

/-- The operation that an item of work under way stands for. -/
def Stage.ops : Stage → List TunnelOp
  | .starting attempt profile endpoint | .moving attempt profile endpoint
  | .replacing attempt profile endpoint => [.up attempt profile endpoint]
  | .stopping => [.down]
  | .idle | .reaching _ _ | .reporting _ _ => []

/-- The result of a start or a move. -/
def isOutcome : Input → Bool
  | .tunnelUp | .startFailed _ => true
  | .connect _ | .disconnect | .raceFinished _ _ | .liveCheck _ | .endpointProbe _ _
  | .environment _ | .pathChanged _ _ | .connectivity _ | .reach _ => false

namespace System

def phase (s : System) : Phase := s.actor.engine.phase

/-- The operations on the tunnel still to be done, in order. -/
def ops (s : System) : List TunnelOp := s.stage.ops ++ s.work.filterMap opOf

def Holds (s : System) (input : Input) : Prop :=
  .report s.actor.attempt input ∈ s.mail ∨
    ∃ inputs, s.stage = .reporting s.actor.attempt inputs ∧ input ∈ inputs

/-- What the current attempt reports is so. -/
def Truthful (s : System) : Input → Prop
  | .tunnelUp => ∀ profile endpoint, s.phase = .starting profile endpoint →
      s.ops = [] ∧ s.tunnel = some (profile, endpoint)
  | .startFailed _ => ∀ profile endpoint, s.phase = .starting profile endpoint →
      s.ops = [] ∧ s.tunnel = none
  | .endpointProbe _ _ => ∃ profile endpoint, s.phase = .connected profile endpoint
  | .connect _ | .disconnect | .raceFinished _ _ | .liveCheck _ | .environment _
  | .pathChanged _ _ | .connectivity _ | .reach _ => True

/-- A report is of no later attempt, and says what is so if it is of the current one. -/
def Fits (s : System) (attempt : Nat) (input : Input) : Prop :=
  attempt ≤ s.actor.attempt ∧ (attempt = s.actor.attempt → s.Truthful input)

structure TaskFits (s : System) (task : Task) : Prop where
  bounded : task.attempt ≤ s.actor.attempt
  reports : ∀ input, input ∈ task.pending ∨ task.outgoing = some input →
    s.Fits task.attempt input
  watched : ∀ profile endpoint, task.kind = .monitor profile endpoint →
    task.attempt = s.actor.attempt → ∃ profile endpoint, s.phase = .connected profile endpoint

/-- With nothing left to be done, what is up is what the phase says, or the result of a start is on
its way. -/
structure Settled (s : System) : Prop where
  connected : ∀ profile endpoint, s.phase = .connected profile endpoint →
    s.tunnel = some (profile, endpoint)
  starting : ∀ profile endpoint, s.phase = .starting profile endpoint →
    ∃ input, isOutcome input = true ∧ s.Holds input
  down : s.phase.tunnel = none → s.tunnel = none

/-- A shutdown closes the queue of work with its barrier, and is over when that is reached. -/
structure Closing (s : System) : Prop where
  accepts : s.accepting = true → s.done = false ∧ ∀ work ∈ s.work, work.kind ≠ .barrier
  closed : s.accepting = false → s.phase.atRest = true ∧
    ((s.done = false ∧ ∃ before last, s.work = before ++ [last] ∧ last.kind = .barrier ∧
        ∀ work ∈ before, work.kind ≠ .barrier) ∨
      (s.done = true ∧ s.work = [] ∧ s.stage = .idle))

structure Sound (s : System) : Prop where
  accounted : Accounted s.actor.attempt s.phase s.ops
  settled : s.ops = [] → s.Settled
  work : ∀ work ∈ s.work, work.attempt ≤ s.actor.attempt
  reaching : ∀ attempt endpoints, s.stage = .reaching attempt endpoints →
    attempt ≤ s.actor.attempt
  reporting : ∀ attempt inputs, s.stage = .reporting attempt inputs →
    ∀ input ∈ inputs, s.Fits attempt input
  mail : ∀ attempt input, .report attempt input ∈ s.mail → s.Fits attempt input
  tasks : ∀ task ∈ s.tasks, s.TaskFits task
  closing : s.Closing
  remembered : ∀ carried, s.tunnel = some carried → s.lastUp = some carried

section Frames

variable {s after : System}

/-- A report stays right as long as a start under way is the same start with the same result, and a
connection that was up is not lost. -/
theorem truthful_carry {told : Input} (truthful : s.Truthful told)
    (starting : ∀ profile endpoint, after.phase = .starting profile endpoint →
      s.phase = .starting profile endpoint ∧
        (s.ops = [] → after.ops = [] ∧ after.tunnel = s.tunnel))
    (connected : ∀ profile endpoint, s.phase = .connected profile endpoint →
      ∃ profile endpoint, after.phase = .connected profile endpoint) : after.Truthful told := by
  cases told with
  | tunnelUp | startFailed =>
    intro profile endpoint starts
    obtain ⟨before, resting⟩ := starting profile endpoint starts
    obtain ⟨rest, tunnel⟩ := truthful profile endpoint before
    exact ⟨(resting rest).1, (resting rest).2.trans tunnel⟩
  | endpointProbe endpoint =>
    obtain ⟨profile, endpoint, up⟩ := truthful
    exact connected profile endpoint up
  | connect | disconnect | raceFinished | liveCheck | environment | pathChanged | connectivity
  | reach => trivial

/-- The actor did not step, and a machine with nothing left to be done is as it was. While an
operation is under way no report of the current attempt says how a start went, so the reports on
their way do not see how the operation ends. -/
structure Unseen (s after : System) : Prop where
  actor : after.actor = s.actor
  resting : s.ops = [] → after.ops = [] ∧ after.tunnel = s.tunnel

theorem unseen_of_eq (actor : after.actor = s.actor) (ops : after.ops = s.ops)
    (tunnel : after.tunnel = s.tunnel) : Unseen s after where
  actor := actor
  resting := fun rest => ⟨ops.trans rest, tunnel⟩

variable (unseen : Unseen s after)

include unseen

theorem Unseen.phase : after.phase = s.phase :=
  congrArg (fun actor => actor.engine.phase) unseen.actor

theorem Unseen.fits {attempt : Nat} {input : Input} (fits : s.Fits attempt input) :
    after.Fits attempt input := by
  refine ⟨by rw [unseen.actor]; exact fits.1, ?_⟩
  intro current
  rw [unseen.actor] at current
  apply truthful_carry (fits.2 current)
  · exact fun _ _ starts => ⟨unseen.phase.symm.trans starts, unseen.resting⟩
  · exact fun profile endpoint up => ⟨profile, endpoint, unseen.phase.trans up⟩

theorem Unseen.taskFits {task : Task} (fits : s.TaskFits task) :
    after.TaskFits task where
  bounded := by
    rw [unseen.actor]
    exact fits.bounded
  reports := fun input held => unseen.fits (fits.reports input held)
  watched := by
    rw [unseen.phase, unseen.actor]
    exact fits.watched

theorem Unseen.settled (tunnel : after.tunnel = s.tunnel) (settled : s.Settled)
    (holds : ∀ profile endpoint input, s.phase = .starting profile endpoint → s.Holds input → after.Holds input)
    : after.Settled where
  connected := by
    rw [unseen.phase, tunnel]
    exact settled.connected
  starting := by
    intro profile endpoint starting
    rw [unseen.phase] at starting
    obtain ⟨input, outcome, held⟩ := settled.starting profile endpoint starting
    exact ⟨input, outcome, holds profile endpoint input starting held⟩
  down := by
    rw [unseen.phase, tunnel]
    exact settled.down

theorem Unseen.accounted {ops : List TunnelOp} (accounted : Accounted s.actor.attempt s.phase ops) :
    Accounted after.actor.attempt after.phase ops := by
  rw [unseen.phase, unseen.actor]
  exact accounted

theorem Unseen.closing (accepting : after.accepting = s.accepting) (done : after.done = s.done)
    (work : after.work = s.work) (stage : s.stage = .idle → after.stage = .idle)
    (closing : s.Closing) : after.Closing where
  accepts := by
    rw [accepting, done, work]
    exact closing.accepts
  closed := by
    rw [accepting, done, work, unseen.phase]
    intro closed
    obtain ⟨rest, last | finished⟩ := closing.closed closed
    · exact ⟨rest, .inl last⟩
    · exact ⟨rest, .inr ⟨finished.1, finished.2.1, stage finished.2.2⟩⟩

end Frames

section Messages

variable {s : System}

@[simp] theorem push_actor (message : Msg) : (s.push message).actor = s.actor := by
  rw [push]
  split <;> rfl

@[simp] theorem push_stage (message : Msg) : (s.push message).stage = s.stage := by
  rw [push]
  split <;> rfl

@[simp] theorem push_done (message : Msg) : (s.push message).done = s.done := by
  rw [push]
  split <;> rfl

theorem mem_push_mail {message : Msg} (accepting : s.accepting = true) :
    message ∈ (s.push message).mail := by
  rw [push, if_pos accepting]
  exact List.mem_append_right _ (List.mem_singleton_self _)

theorem Sound.withTasks (sound : s.Sound) (tasks : List Task)
    (fits : ∀ task ∈ tasks, s.TaskFits task) : ({ s with tasks } : System).Sound where
  accounted := sound.accounted
  settled := fun rest => ⟨(sound.settled rest).connected, (sound.settled rest).starting,
    (sound.settled rest).down⟩
  work := sound.work
  reaching := sound.reaching
  reporting := sound.reporting
  mail := sound.mail
  tasks := fun task member => ⟨(fits task member).bounded, (fits task member).reports,
    (fits task member).watched⟩
  closing := ⟨sound.closing.accepts, sound.closing.closed⟩
  remembered := sound.remembered

theorem Sound.push (sound : s.Sound) (message : Msg)
    (fits : ∀ attempt input, message = .report attempt input → s.Fits attempt input) :
    (s.push message).Sound := by
  rw [System.push]
  split
  · have unseen : Unseen s { s with mail := s.mail ++ [message] } := unseen_of_eq rfl rfl rfl
    refine ⟨sound.accounted, ?_, sound.work, sound.reaching, ?_, ?_, ?_, ?_, sound.remembered⟩
    · intro rest
      refine unseen.settled rfl (sound.settled rest) ?_
      rintro _ _ input _ (mailed | reporting)
      · exact .inl (List.mem_append_left _ mailed)
      · exact .inr reporting
    · exact fun attempt inputs stage input member =>
        unseen.fits (sound.reporting attempt inputs stage input member)
    · intro attempt input member
      rcases List.mem_append.mp member with old | new
      · exact unseen.fits (sound.mail attempt input old)
      · exact unseen.fits (fits attempt input (List.mem_singleton.mp new).symm)
    · exact fun task member => unseen.taskFits (sound.tasks task member)
    · exact unseen.closing rfl rfl rfl id sound.closing
  · exact sound

end Messages

section Tasks

variable {s after : System}

/-- A task that goes on stays what it is, and takes up only results that are right of any system, or
a probe while its attempt is the current one. -/
structure GoesOn (current : Nat) (task later : Task) : Prop where
  attempt : later.attempt = task.attempt
  kind : later.kind = task.kind
  reports : ∀ input, input ∈ later.pending ∨ later.outgoing = some input →
    (input ∈ task.pending ∨ task.outgoing = some input) ∨ (∀ s : System, s.Truthful input) ∨
      ∃ profile endpoint outcome, task.kind = .monitor profile endpoint ∧
        task.attempt = current ∧ input = .endpointProbe endpoint outcome

theorem goesOn_outgoing (current : Nat) (task : Task) {input : Input}
    (truthful : ∀ s : System, s.Truthful input) :
    GoesOn current task { task with outgoing := some input } where
  attempt := rfl
  kind := rfl
  reports := by
    rintro told (pending | sending)
    · exact .inl (.inl pending)
    · cases sending
      exact .inr (.inl truthful)

variable {current : Nat} {task : Task}

theorem goesOn_pending {profile : ProfileId} {endpoint : EndpointId}
    (kind : task.kind = .monitor profile endpoint) (made : task.attempt = current)
    (environment : Environment) (check : LiveCheck) (probe : Option ProbeOutcome) :
    GoesOn current task { task with
      pending := [.environment environment, .liveCheck check] ++
        (probe.map (fun outcome => .endpointProbe endpoint outcome)).toList } where
  attempt := rfl
  kind := rfl
  reports := by
    rintro told (member | sending)
    · rcases List.mem_append.mp member with fixed | probed
      · rcases List.mem_pair.mp fixed with rfl | rfl <;> exact .inr (.inl fun _ => trivial)
      · cases probe with
        | none => cases probed
        | some outcome =>
          exact .inr (.inr ⟨profile, endpoint, outcome, kind, made, List.mem_singleton.mp probed⟩)
    · exact .inl (.inr sending)

theorem goesOn_checked {first : Input} {rest : List Input} (pending : task.pending = first :: rest)
    :
    GoesOn current task { task with pending := rest, outgoing := some first } where
  attempt := rfl
  kind := rfl
  reports := by
    rw [pending]
    rintro told (member | sending)
    · exact .inl (.inl (List.mem_cons_of_mem _ member))
    · cases sending
      exact .inl (.inl List.mem_cons_self)

theorem goesOn_sent (current : Nat) (task : Task) :
    GoesOn current task { task with outgoing := none } where
  attempt := rfl
  kind := rfl
  reports := by
    rintro told (pending | sending)
    · exact .inl (.inl pending)
    · cases sending

/-- What a task makes of its news. It sends only what it was about to. -/
theorem next_goesOn {cancelled : List Nat} {news : News} {next : Option Task} {sent : Option Input}
    (moves : task.next current cancelled news = some (next, sent)) :
    (∀ input, sent = some input → task.outgoing = some input) ∧
      ∀ later, next = some later → GoesOn current task later := by
  have silent (input : Input) (sends : none = some input) : task.outgoing = some input := by
    cases sends
  have ended (later : Task) (goes : none = some later) : GoesOn current task later := by
    cases goes
  have only {kept : Task} (goesOn : GoesOn current task kept) (later : Task)
      (goes : some kept = some later) : GoesOn current task later := by
    cases goes
    exact goesOn
  have taken {told : Input} (outgoing : task.outgoing = some told) (input : Input)
      (sends : some told = some input) : task.outgoing = some input :=
    outgoing.trans sends
  cases news with
  | raced =>
    simp only [Task.next] at moves
    split at moves
    · split at moves <;> cases moves
      · exact ⟨silent, ended⟩
      · exact ⟨silent, only (goesOn_outgoing current task (fun _ => trivial))⟩
    · cases moves
  | ticked environment check probe =>
    simp only [Task.next] at moves
    split at moves
    · rename_i profile endpoint kind pending outgoing
      split at moves <;> cases moves
      · rename_i made
        exact ⟨silent, only (goesOn_pending kind made environment check probe)⟩
      · exact ⟨silent, ended⟩
    · cases moves
  | pathMoved | told =>
    simp only [Task.next] at moves
    split at moves
    · split at moves <;> cases moves
      · exact ⟨silent, only (goesOn_outgoing current task (fun _ => trivial))⟩
      · exact ⟨silent, ended⟩
    · cases moves
  | checked =>
    simp only [Task.next] at moves
    split at moves
    · rename_i first rest pending outgoing
      split at moves <;> cases moves
      · exact ⟨silent, only (goesOn_checked pending)⟩
      · exact ⟨silent, ended⟩
    · cases moves
  | sent =>
    simp only [Task.next] at moves
    split at moves
    · rename_i outgoing
      cases moves
      exact ⟨taken outgoing, ended⟩
    · rename_i outgoing
      cases moves
      exact ⟨taken outgoing, only (goesOn_sent current task)⟩
    · rename_i outgoing
      cases moves
      exact ⟨taken outgoing, only (goesOn_sent current task)⟩
    · cases moves
  | ended =>
    cases moves
    exact ⟨silent, ended⟩

theorem GoesOn.taskFits {later : Task} (goesOn : GoesOn s.actor.attempt task later)
    (fits : s.TaskFits task) : s.TaskFits later where
  bounded := by
    rw [goesOn.attempt]
    exact fits.bounded
  reports := by
    intro input held
    rw [goesOn.attempt]
    rcases goesOn.reports input held with old | plain | ⟨profile, endpoint, outcome, kind, made, rfl⟩
    · exact fits.reports input old
    · exact ⟨fits.bounded, fun _ => plain s⟩
    · exact ⟨fits.bounded, fun _ => fits.watched profile endpoint kind made⟩
  watched := by
    rw [goesOn.attempt, goesOn.kind]
    exact fits.watched

theorem Sound.replaceTask (sound : s.Sound) (index : Nat) {next : Option Task}
    (fits : ∀ later, next = some later → s.TaskFits later) : (s.replaceTask index next).Sound := by
  cases next with
  | none =>
    apply sound.withTasks
    exact fun task member => sound.tasks task (List.mem_of_mem_eraseIdx member)
  | some =>
    apply sound.withTasks
    intro task member
    rcases List.mem_or_eq_of_mem_set member with old | rfl
    · exact sound.tasks task old
    · exact fits task rfl

theorem Sound.runTask {index : Nat} {news : News} (sound : s.Sound)
    (ran : s.runTask index news = some after) : after.Sound := by
  simp only [System.runTask] at ran
  split at ran
  · cases ran
  · rename_i task found
    have fits := sound.tasks task (List.mem_of_getElem? found)
    split at ran
    · cases ran
    · rename_i next moves
      cases ran
      apply sound.replaceTask
      exact fun later goes => ((next_goesOn moves).2 later goes).taskFits fits
    · rename_i next input moves
      cases ran
      have replaced := sound.replaceTask index
        (fun later goes => ((next_goesOn moves).2 later goes).taskFits fits)
      apply replaced.push
      rintro _ _ ⟨⟩
      have told := fits.reports input (.inr ((next_goesOn moves).1 input rfl))
      cases next <;> exact told

end Tasks

end System

end DnetEngine.Orchestrator
