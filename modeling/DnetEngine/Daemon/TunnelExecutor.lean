import DnetEngine.Daemon.TunnelSound

/-! The executor keeps the invariant: taking work, every answer of the machine, and the reports. -/

namespace DnetEngine.Orchestrator

open Lib

/-- What the executor is left with after it sent the first of its reports. -/
def Stage.sent (attempt : Nat) (rest : List Input) : Stage :=
  if rest.isEmpty then .idle else .reporting attempt rest

theorem Stage.ops_sent (attempt : Nat) (rest : List Input) : (Stage.sent attempt rest).ops = [] := by
  rw [Stage.sent]
  split <;> rfl

theorem Stage.sent_of_mem {attempt : Nat} {rest : List Input} {input : Input}
    (member : input ∈ rest) : Stage.sent attempt rest = .reporting attempt rest := by
  rw [Stage.sent, if_neg]
  rw [List.isEmpty_iff]
  exact List.ne_nil_of_mem member

theorem Stage.sent_eq_reporting {attempt made : Nat} {rest inputs : List Input}
    (reporting : Stage.sent attempt rest = .reporting made inputs) :
    attempt = made ∧ rest = inputs := by
  rw [Stage.sent] at reporting
  split at reporting
  · cases reporting
  · exact Stage.reporting.inj reporting

namespace System

variable {s after : System}

structure Took (s after : System) (first : Work) (rest : List Work) : Prop where
  idle : s.stage = .idle
  queue : s.work = first :: rest
  work : after.work = rest
  actor : after.actor = s.actor
  accepting : after.accepting = s.accepting
  mail : after.mail = s.mail
  tunnel : after.tunnel = s.tunnel
  lastUp : after.lastUp = s.lastUp
  begun : after.stage.ops = (opOf first).toList
  reaching : ∀ attempt endpoints, after.stage = .reaching attempt endpoints →
    attempt = first.attempt
  silent : ∀ attempt inputs, after.stage ≠ .reporting attempt inputs
  tasks : ∀ task ∈ after.tasks, task ∈ s.tasks ∨
    ∃ token, task = { attempt := first.attempt, kind := .race token }
  ordinary : first.kind ≠ .barrier → after.done = s.done
  barrier : first.kind = .barrier → after.done = true ∧ after.stage = .idle

theorem takeWork_took (taken : s.takeWork = some after) :
    ∃ first rest, Took s after first rest := by
  obtain ⟨actor, accepting, mail, work, stage, race, cancelled, tokens, tasks, tunnel, lastUp,
    done⟩ := s
  simp only [takeWork] at taken
  split at taken
  · rename_i attempt kind rest
    refine ⟨⟨attempt, kind⟩, rest, ?_⟩
    cases kind with
    | startRace =>
      cases taken
      constructor <;> simp [Stage.ops, opOf, System.cancelRace]
      rintro task (old | rfl)
      · exact .inl old
      · exact .inr ⟨tokens, rfl⟩
    | reach | cancelRace | startTunnel | stopTunnel | moveTunnel | barrier =>
      cases taken
      constructor <;> simp [Stage.ops, opOf, System.cancelRace]
      exact fun task old => .inl old
  · cases taken

variable {first : Work} {rest : List Work} {attempt : Nat} {endpoint : EndpointId} {input : Input}
  {tunnel : Option (ProfileId × EndpointId)}

theorem Took.unseen (took : Took s after first rest) :
    after.ops = s.ops ∧ Unseen s after := by
  have same : after.ops = s.ops := by
    rw [System.ops, System.ops, took.begun, took.work, took.idle, took.queue, List.filterMap_cons]
    cases opOf first <;> rfl
  exact ⟨same, unseen_of_eq took.actor same took.tunnel⟩

/-- Taking the barrier empties the queue, since it was queued last. -/
theorem Took.closing (took : Took s after first rest) (closing : s.Closing) : after.Closing where
  accepts := by
    intro accepts
    obtain ⟨running, ordinary⟩ := closing.accepts (took.accepting.symm.trans accepts)
    rw [took.queue] at ordinary
    rw [took.work, took.ordinary (ordinary first List.mem_cons_self)]
    exact ⟨running, fun work member => ordinary work (List.mem_cons_of_mem _ member)⟩
  closed := by
    intro closed
    rw [took.unseen.2.phase, took.work]
    obtain ⟨atRest, ⟨running, before, last, queue, barrier, ordinary⟩ | finished⟩ :=
      closing.closed (took.accepting.symm.trans closed)
    · refine ⟨atRest, ?_⟩
      rw [took.queue] at queue
      cases before with
      | nil =>
        obtain ⟨rfl, rfl⟩ := List.cons.inj queue
        exact .inr ⟨(took.barrier barrier).1, rfl, (took.barrier barrier).2⟩
      | cons _ before =>
        obtain ⟨rfl, rfl⟩ := List.cons.inj queue
        rw [took.ordinary (ordinary first List.mem_cons_self)]
        exact .inl ⟨running, before, last, rfl, barrier,
          fun work member => ordinary work (List.mem_cons_of_mem _ member)⟩
    · have queue := took.queue
      rw [finished.2.1] at queue
      cases queue

theorem Sound.took (sound : s.Sound) (took : Took s after first rest) : after.Sound := by
  obtain ⟨ops, unseen⟩ := took.unseen
  have bounded : ∀ work ∈ first :: rest, work.attempt ≤ after.actor.attempt := by
    rw [← took.queue, took.actor]
    exact sound.work
  refine ⟨?_, ?_, ?_, ?_, ?_, ?_, ?_, took.closing sound.closing, ?_⟩
  · rw [ops]
    exact unseen.accounted sound.accounted
  · intro finished
    refine unseen.settled took.tunnel (sound.settled (ops.symm.trans finished)) ?_
    rintro _ _ input _ (mailed | ⟨inputs, reporting, _⟩)
    · rw [Holds, took.actor, took.mail]
      exact .inl mailed
    · rw [took.idle] at reporting
      cases reporting
  · rw [took.work]
    exact fun work member => bounded work (List.mem_cons_of_mem _ member)
  · intro attempt endpoints stage
    rw [took.reaching attempt endpoints stage]
    exact bounded first List.mem_cons_self
  · exact fun attempt inputs stage => absurd stage (took.silent attempt inputs)
  · rw [took.mail]
    exact fun attempt input member => unseen.fits (sound.mail attempt input member)
  · intro task member
    rcases took.tasks task member with old | ⟨token, rfl⟩
    · exact unseen.taskFits (sound.tasks task old)
    · exact ⟨bounded first List.mem_cons_self, by simp, by simp⟩
  · rw [took.tunnel, took.lastUp]
    exact sound.remembered

/-- How an item of work under way goes on. -/
inductive Completes (s : System) : System → Prop
  | reached {attempt : Nat} {endpoints : List Endpoint} (environment : Environment)
      (answer : List Reach) (stage : s.stage = .reaching attempt endpoints) :
      Completes s { s with stage := .reporting attempt [.environment environment, .reach answer] }
  | up {attempt : Nat} {profile : ProfileId} {endpoint : EndpointId}
      (stage : s.stage.ops = [.up attempt profile endpoint]) :
      Completes s (s.bringUp attempt profile endpoint)
  | failed {attempt : Nat} {profile : ProfileId} {endpoint : EndpointId} (cause : FailureCause)
      (stage : s.stage.ops = [.up attempt profile endpoint]) :
      Completes s { s with tunnel := none, stage := .reporting attempt [.startFailed cause] }
  | retried {attempt : Nat} {profile : ProfileId} {endpoint : EndpointId}
      (stage : s.stage = .moving attempt profile endpoint) :
      Completes s { s with stage := .replacing attempt profile endpoint }
  | cleared {attempt : Nat} {profile : ProfileId} {endpoint : EndpointId}
      (stage : s.stage = .replacing attempt profile endpoint) :
      Completes s { s with tunnel := none, stage := .starting attempt profile endpoint }
  | stopped (stage : s.stage = .stopping) : Completes s { s with tunnel := none, stage := .idle }

theorem complete_completes {answer : Answer} (completed : s.complete answer = some after) :
    Completes s after := by
  simp only [complete] at completed
  split at completed
  · rename_i stage
    cases completed
    exact .reached _ _ stage
  · rename_i stage
    cases completed
    exact .up (by rw [stage]; rfl)
  · rename_i attempt profile endpoint cause stage
    cases completed
    have ops : s.stage.ops = [.up attempt profile endpoint] := by rw [stage]; rfl
    exact .failed cause ops
  · rename_i stage
    cases completed
    exact .up (by rw [stage]; rfl)
  · rename_i stage
    cases completed
    exact .retried stage
  · rename_i stage
    cases completed
    exact .cleared stage
  · rename_i stage
    cases completed
    exact .stopped stage
  · cases completed

section

variable (sound : s.Sound)

include sound

theorem Sound.finished {profile : ProfileId} (stage : s.stage.ops = [.up attempt profile endpoint])
    (outcome : isOutcome input = true) {lastUp : Option (ProfileId × EndpointId)}
    (truthful : ∀ after : System, after.phase = .starting profile endpoint → after.ops = [] → after.tunnel = tunnel → after.Truthful input)
    (remembered : ∀ carried, tunnel = some carried → lastUp = some carried) :
    ({ s with tunnel, lastUp, stage := .reporting attempt [input] } : System).Sound := by
  have ops : s.ops = .up attempt profile endpoint :: s.work.filterMap opOf := by
    rw [System.ops, stage]
    rfl
  have accounted := sound.accounted
  rw [ops] at accounted
  obtain ⟨follows, rest⟩ := accounted
  have unseen : Unseen s { s with tunnel, lastUp, stage := .reporting attempt [input] } :=
    ⟨rfl, fun nothing => absurd (ops.symm.trans nothing) (List.cons_ne_nil _ _)⟩
  have busy : s.stage ≠ .idle := by
    intro idle
    rw [idle] at stage
    cases stage
  refine ⟨rest, ?_, sound.work, ?_, ?_, ?_, ?_, ?_, remembered⟩
  · -- Nothing is queued behind it, so it is the start that the engine waits for.
    intro last
    have queued : s.work.filterMap opOf = [] := last
    rw [queued] at follows
    obtain ⟨current, starting⟩ := follows
    refine ⟨?_, ?_, ?_⟩
    · intro _ _ connected
      cases starting.symm.trans connected
    · exact fun _ _ _ => ⟨input, outcome, .inr ⟨[input], by rw [current], List.mem_singleton_self _⟩⟩
    · intro down
      have none : s.phase.tunnel = none := down
      rw [starting] at none
      cases none
  · intro _ _ reaching
    cases reaching
  · intro _ _ reporting told member
    cases reporting
    rw [List.mem_singleton.mp member]
    cases queued : s.work.filterMap opOf with
    | nil =>
      rw [queued] at follows
      exact ⟨follows.1.le, fun _ => truthful _ follows.2 queued rfl⟩
    | cons =>
      rw [queued] at follows
      exact ⟨follows.1.le, fun current => absurd current follows.1.ne⟩
  · exact fun made told member => unseen.fits (sound.mail made told member)
  · exact fun task member => unseen.taskFits (sound.tasks task member)
  · exact unseen.closing rfl rfl rfl (fun idle => absurd idle busy) sound.closing

theorem Sound.goesOn {profile : ProfileId} {stage : Stage}
    (begun : s.stage.ops = [.up attempt profile endpoint])
    (same : stage.ops = [.up attempt profile endpoint])
    (remembered : ∀ carried, tunnel = some carried → s.lastUp = some carried) :
    ({ s with tunnel, stage } : System).Sound := by
  have ops : s.ops ≠ [] := by
    rw [System.ops, begun]
    exact List.cons_ne_nil _ _
  have sameOps : ({ s with tunnel, stage } : System).ops = s.ops := by
    rw [System.ops, System.ops, begun, same]
  have unseen : Unseen s { s with tunnel, stage } := ⟨rfl, fun nothing => absurd nothing ops⟩
  refine ⟨?_, fun nothing => absurd (sameOps.symm.trans nothing) ops, sound.work, ?_, ?_, ?_, ?_,
    ?_, remembered⟩
  · rw [sameOps]
    exact sound.accounted
  · rintro _ _ rfl
    cases same
  · rintro _ _ rfl
    cases same
  · exact fun made told member => unseen.fits (sound.mail made told member)
  · exact fun task member => unseen.taskFits (sound.tasks task member)
  · refine unseen.closing rfl rfl rfl ?_ sound.closing
    intro idle
    rw [idle] at begun
    cases begun

theorem Sound.stopped (stage : s.stage = .stopping) :
    ({ s with tunnel := none, stage := .idle } : System).Sound := by
  have ops : s.ops = .down :: s.work.filterMap opOf := by
    rw [System.ops, stage]
    rfl
  have accounted := sound.accounted
  rw [ops] at accounted
  obtain ⟨follows, rest⟩ := accounted
  have unseen : Unseen s { s with tunnel := none, stage := .idle } :=
    ⟨rfl, fun nothing => absurd (ops.symm.trans nothing) (List.cons_ne_nil _ _)⟩
  refine ⟨rest, ?_, sound.work, ?_, ?_, ?_, ?_, ?_, ?_⟩
  · intro last
    have queued : s.work.filterMap opOf = [] := last
    rw [queued] at follows
    have down : s.phase.tunnel = none := follows
    refine ⟨?_, ?_, fun _ => rfl⟩
    · intro profile endpoint connected
      have phase : s.phase = .connected profile endpoint := connected
      rw [phase] at down
      cases down
    · intro profile endpoint starting
      have phase : s.phase = .starting profile endpoint := starting
      rw [phase] at down
      cases down
  · intro _ _ reaching
    cases reaching
  · intro _ _ reporting
    cases reporting
  · exact fun made told member => unseen.fits (sound.mail made told member)
  · exact fun task member => unseen.taskFits (sound.tasks task member)
  · exact unseen.closing rfl rfl rfl (fun _ => rfl) sound.closing
  · intro _ up
    cases up

theorem Sound.reached {endpoints : List Endpoint} (stage : s.stage = .reaching attempt endpoints)
    (environment : Environment) (answer : List Reach) :
    ({ s with stage := .reporting attempt [.environment environment, .reach answer] } :
      System).Sound := by
  have ops : ({ s with stage := .reporting attempt [.environment environment, .reach answer] } :
      System).ops = s.ops := by
    rw [System.ops, System.ops, stage]
    rfl
  have unseen : Unseen s
      { s with stage := .reporting attempt [.environment environment, .reach answer] } :=
    unseen_of_eq rfl ops rfl
  refine ⟨?_, ?_, sound.work, ?_, ?_, ?_, ?_, ?_, sound.remembered⟩
  · rw [ops]
    exact sound.accounted
  · intro nothing
    refine unseen.settled rfl (sound.settled (ops.symm.trans nothing)) ?_
    rintro _ _ input _ (mailed | ⟨inputs, reporting, _⟩)
    · exact .inl mailed
    · rw [stage] at reporting
      cases reporting
  · intro _ _ reaching
    cases reaching
  · intro made inputs reporting input member
    cases reporting
    refine ⟨sound.reaching attempt endpoints stage, fun _ => ?_⟩
    rcases List.mem_pair.mp member with rfl | rfl <;> trivial
  · exact fun made told member => unseen.fits (sound.mail made told member)
  · exact fun task member => unseen.taskFits (sound.tasks task member)
  · refine unseen.closing rfl rfl rfl ?_ sound.closing
    intro idle
    cases stage.symm.trans idle

theorem Sound.completes (completes : Completes s after) : after.Sound := by
  cases completes with
  | reached environment answer stage => exact sound.reached stage environment answer
  | up stage =>
    apply sound.finished stage rfl
    · rintro after starting nothing up profile endpoint phase
      cases starting.symm.trans phase
      exact ⟨nothing, up⟩
    · exact fun _ up => up
  | failed _ stage =>
    apply sound.finished stage rfl
    · exact fun after _ nothing down _ _ _ => ⟨nothing, down⟩
    · intro _ up
      cases up
  | retried stage => exact sound.goesOn (by rw [stage]; rfl) rfl sound.remembered
  | cleared stage =>
    apply sound.goesOn (by rw [stage]; rfl) rfl
    intro _ up
    cases up
  | stopped stage => exact sound.stopped stage

theorem Sound.advances {rest : List Input} (stage : s.stage = .reporting attempt (input :: rest))
    (queued : ∀ profile endpoint, s.phase = .starting profile endpoint → .report attempt input ∈ s.mail)
    :
    ({ s with stage := Stage.sent attempt rest } : System).Sound := by
  have ops : ({ s with stage := Stage.sent attempt rest } : System).ops = s.ops := by
    rw [System.ops, System.ops, Stage.ops_sent, stage]
    rfl
  have unseen : Unseen s { s with stage := Stage.sent attempt rest } := unseen_of_eq rfl ops rfl
  refine ⟨?_, ?_, sound.work, ?_, ?_, ?_, ?_, ?_, sound.remembered⟩
  · rw [ops]
    exact sound.accounted
  · intro nothing
    refine unseen.settled rfl (sound.settled (ops.symm.trans nothing)) ?_
    rintro profile endpoint told starting (mailed | ⟨inputs, reporting, member⟩)
    · exact .inl mailed
    · obtain ⟨rfl, rfl⟩ := Stage.reporting.inj (stage.symm.trans reporting)
      rcases List.mem_cons.mp member with rfl | later
      · exact .inl (queued profile endpoint starting)
      · exact .inr ⟨rest, Stage.sent_of_mem later, later⟩
  · intro made endpoints reaching
    have isSent : Stage.sent attempt rest = .reaching made endpoints := reaching
    rw [Stage.sent] at isSent
    split at isSent <;> cases isSent
  · intro made inputs reporting told member
    obtain ⟨rfl, rfl⟩ := Stage.sent_eq_reporting reporting
    apply unseen.fits
    exact sound.reporting attempt _ stage told (List.mem_cons_of_mem _ member)
  · exact fun made told member => unseen.fits (sound.mail made told member)
  · exact fun task member => unseen.taskFits (sound.tasks task member)
  · refine unseen.closing rfl rfl rfl ?_ sound.closing
    intro idle
    cases stage.symm.trans idle

/-- A report that the executor sends is taken, unless a shutdown has left the engine at rest. -/
theorem Sound.sends {rest : List Input} (stage : s.stage = .reporting attempt (input :: rest)) :
    ({ s.push (.report attempt input) with stage := Stage.sent attempt rest } : System).Sound := by
  have pushed : (s.push (.report attempt input)).Sound := by
    apply sound.push
    rintro _ _ ⟨⟩
    exact sound.reporting attempt _ stage input List.mem_cons_self
  apply pushed.advances
  · rw [push_stage]
    exact stage
  · intro profile endpoint starting
    rw [System.phase, push_actor] at starting
    apply mem_push_mail
    cases accepting : s.accepting with
    | true => rfl
    | false =>
      have atRest : s.actor.engine.phase.atRest = true := (sound.closing.closed accepting).1
      rw [starting] at atRest
      cases atRest

end

theorem sendReport_ok (sent : s.sendReport = some after) :
    ∃ attempt input rest, s.stage = .reporting attempt (input :: rest) ∧
      after = { s.push (.report attempt input) with stage := Stage.sent attempt rest } := by
  simp only [sendReport] at sent
  split at sent
  · rename_i attempt input rest stage
    exact ⟨attempt, input, rest, stage, (Option.some.inj sent).symm⟩
  · cases sent

end System

end DnetEngine.Orchestrator
