import DnetEngine.Daemon.TunnelExecutor

/-! The actor keeps the invariant: the steps of the engine, a shutdown, and the stale reports that
never reach it. -/

namespace DnetEngine.Orchestrator

open Lib

/-- What the engine is told when the actor takes a message; a report of another attempt than the
current one is dropped. -/
def Msg.tells (current : Nat) : Msg → Option Input
  | .connect profile => some (.connect profile)
  | .disconnect | .shutdown => some .disconnect
  | .report attempt input => if attempt = current then some input else none

def Actor.looks (actor : Actor) (environment : Environment) : Actor :=
  { actor with engine := { actor.engine with environment } }

theorem connect_looks (actor : Actor) (profile : Option ProfileId) (environment : Environment)
    (now : Instant) :
    actor.connect profile environment now =
      (actor.looks environment).step (.connect profile) true now := rfl

theorem step_outcome {actor : Actor} {input : Input} {checkReach : Bool} {now : Instant}
    {stepped : Stepped} {profile : ProfileId} {endpoint : EndpointId}
    (steps : actor.step input checkReach now = .ok stepped) (outcome : isOutcome input = true)
    (starting : actor.engine.phase = .starting profile endpoint) :
    stepped.actor.engine.phase ≠ .starting profile endpoint := by
  cases input with
  | tunnelUp =>
    rw [step_tunnelUp steps starting]
    exact Phase.noConfusion
  | startFailed =>
    rw [step_startFailed steps starting]
    exact Phase.noConfusion
  | connect | disconnect | raceFinished | liveCheck | endpointProbe | environment | pathChanged
  | connectivity | reach => cases outcome

namespace System

variable {s after : System}

section Actor

variable {input : Input} {ops : List TunnelOp}

/-- The actor took a message, and the engine stepped on `input`. -/
structure Absorbs (s after : System) (input : Input) (ops : List TunnelOp) : Prop where
  advance : Advance input s.actor after.actor ops
  answered : isOutcome input = true → ∀ profile endpoint, s.phase = .starting profile endpoint →
    after.phase ≠ .starting profile endpoint
  ops : after.ops = s.ops ++ ops
  tunnel : after.tunnel = s.tunnel
  lastUp : after.lastUp = s.lastUp
  stage : after.stage = s.stage
  mail : ∀ message ∈ after.mail, message ∈ s.mail
  /-- The one message that is gone is the one the engine was told. -/
  consumed : ∀ told, .report s.actor.attempt told ∈ s.mail →
    .report s.actor.attempt told ∈ after.mail ∨ told = input

theorem Absorbs.attempt_le (absorbs : Absorbs s after input ops) :
    s.actor.attempt ≤ after.actor.attempt := by
  cases absorbs.advance with
  | kept attempt | came _ attempt => exact attempt.ge
  | aside attempt => exact attempt
  | begins attempt | ends attempt | moves attempt => exact attempt ▸ Nat.le_succ _

variable {attempt : Nat} {told : Input} {message : Msg} {rest : List Msg}

theorem fits_of_newer (fits : s.Fits attempt told)
    (newer : after.actor.attempt = s.actor.attempt + 1) : after.Fits attempt told := by
  have bounded := fits.1
  exact ⟨by omega, fun current => by omega⟩

section

variable (absorbs : Absorbs s after input ops)

include absorbs

theorem Absorbs.fits (fits : s.Fits attempt told) :
    after.Fits attempt told := by
  have bounded := fits.1.trans absorbs.attempt_le
  have opsAfter := absorbs.ops
  cases absorbs.advance with
  | begins newer | ends newer | moves newer => exact fits_of_newer fits newer
  | kept same phase =>
    refine ⟨bounded, fun current => ?_⟩
    rw [List.append_nil] at opsAfter
    apply truthful_carry (fits.2 (current.trans same))
    · intro profile endpoint starts
      exact ⟨phase.symm.trans starts, fun rest => ⟨opsAfter.trans rest, absorbs.tunnel⟩⟩
    · exact fun profile endpoint up => ⟨profile, endpoint, phase.trans up⟩
  | aside newer first last =>
    refine ⟨bounded, fun current => ?_⟩
    apply truthful_carry (fits.2 (le_antisymm fits.1 (current ▸ newer)))
    · intro profile endpoint starts
      cases (congrArg Phase.tunnel starts).symm.trans last
    · intro profile endpoint up
      cases (congrArg Phase.tunnel up).symm.trans first
  | came _ same _ connected =>
    refine ⟨bounded, fun current => ?_⟩
    apply truthful_carry (fits.2 (current.trans same))
    · intro profile endpoint starts
      cases connected.symm.trans starts
    · exact fun _ _ _ => ⟨_, _, connected⟩

theorem Absorbs.taskFits {task : Task} (fits : s.TaskFits task) : after.TaskFits task where
  bounded := fits.bounded.trans absorbs.attempt_le
  reports := fun told held => absorbs.fits (fits.reports told held)
  watched := by
    intro profile endpoint kind current
    -- A monitor may report a probe at any time, so it is right to watch whenever that would fit.
    have probe : s.Fits task.attempt (.endpointProbe endpoint .failed) :=
      ⟨fits.bounded, fits.watched profile endpoint kind⟩
    exact (absorbs.fits probe).2 current

theorem Absorbs.accounted (accounted : Accounted s.actor.attempt s.phase s.ops)
    (truthful : s.Truthful input) :
    Accounted after.actor.attempt after.phase after.ops := by
  rw [absorbs.ops]
  cases absorbs.advance with
  | kept same phase =>
    rw [List.append_nil, same, System.phase, phase]
    exact accounted
  | aside newer first last =>
    rw [List.append_nil]
    exact accounted_aside accounted newer first last
  | came told _ starting =>
    subst told
    rw [(truthful _ _ starting).1]
    trivial
  | begins newer first starts =>
    exact accounted_append_up accounted (newer ▸ Nat.lt_succ_self _) first starts
  | ends newer last => exact accounted_append_down accounted (newer ▸ Nat.lt_succ_self _) last
  | moves _ noticed starts =>
    -- A move is planned only where a connection is up, and then nothing else is queued.
    have connected : ∃ profile endpoint, s.phase = .connected profile endpoint := by
      rcases noticed with connected | ⟨endpoint, outcome, rfl⟩
      · exact connected
      · exact truthful
    obtain ⟨profile, endpoint, up⟩ := connected
    rw [accounted_connected accounted up]
    exact ⟨⟨rfl, starts⟩, trivial⟩

theorem Absorbs.settled (truthful : s.Truthful input) (settled : s.ops = [] → s.Settled)
    (rest : after.ops = []) : after.Settled := by
  rw [absorbs.ops] at rest
  obtain ⟨before, nothing⟩ := List.append_eq_nil_iff.mp rest
  have settled := settled before
  have tunnel := absorbs.tunnel
  cases absorbs.advance with
  | begins | ends | moves => cases nothing
  | kept same phase =>
    have samePhase : after.phase = s.phase := phase
    refine ⟨?_, ?_, ?_⟩
    · rw [samePhase, tunnel]
      exact settled.connected
    · intro profile endpoint starts
      have starting := samePhase.symm.trans starts
      obtain ⟨told, outcome, held⟩ := settled.starting profile endpoint starting
      refine ⟨told, outcome, ?_⟩
      rw [Holds, same, absorbs.stage]
      rcases held with mailed | reporting
      · rcases absorbs.consumed told mailed with still | rfl
        · exact .inl still
        · -- The engine was told how the start went, and is no longer starting.
          exact absurd starts (absorbs.answered outcome profile endpoint starting)
      · exact .inr reporting
    · rw [samePhase, tunnel]
      exact settled.down
  | aside _ first last =>
    refine ⟨?_, ?_, fun _ => tunnel.trans (settled.down first)⟩
    · intro profile endpoint up
      cases (congrArg Phase.tunnel up).symm.trans last
    · intro profile endpoint starts
      cases (congrArg Phase.tunnel starts).symm.trans last
  | came told _ starting connected =>
    subst told
    refine ⟨?_, ?_, ?_⟩
    · intro profile endpoint up
      cases connected.symm.trans up
      exact tunnel.trans (truthful _ _ starting).2
    · intro profile endpoint starts
      cases connected.symm.trans starts
    · intro down
      cases (congrArg Phase.tunnel connected).symm.trans down

end

theorem absorbs_of_step {before : Actor} {checkReach : Bool} {now : Instant} {stepped : Stepped}
    (watchable : Bool) (queue : s.mail = message :: rest)
    (told : message.tells s.actor.attempt = some input) (attempt : before.attempt = s.actor.attempt)
    (phase : before.engine.phase = s.phase) (steps : before.step input checkReach now = .ok stepped)
    :
    Absorbs s (({ s with mail := rest } : System).absorb stepped watchable) input
      (stepped.work.filterMap opOf) where
  advance := (step_advance steps).congr attempt phase
  answered := fun outcome profile endpoint starting =>
    step_outcome steps outcome (phase.trans starting)
  ops := by
    show s.stage.ops ++ (s.work ++ stepped.work).filterMap opOf = _
    rw [List.filterMap_append, ← List.append_assoc]
    rfl
  tunnel := rfl
  lastUp := rfl
  stage := rfl
  mail := by
    rw [queue]
    exact fun message member => List.mem_cons_of_mem _ member
  consumed := by
    rw [queue]
    intro report member
    rcases List.mem_cons.mp member with rfl | later
    · rw [Msg.tells, if_pos rfl] at told
      exact .inr (Option.some.inj told)
    · exact .inl later

theorem Sound.tells (sound : s.Sound) (member : message ∈ s.mail)
    (told : message.tells s.actor.attempt = some input) : s.Truthful input := by
  cases message with
  | connect | disconnect | shutdown =>
    cases told
    trivial
  | report attempt report =>
    obtain ⟨current, told⟩ := Option.ite_none_right_eq_some.mp told
    cases told
    exact (sound.mail attempt input member).2 current

theorem mem_watchers {watchable : Bool} {watched : Option (ProfileId × EndpointId)} {task : Task}
    (member : task ∈ watchers attempt watchable watched) :
    task.attempt = attempt ∧ task.pending = [] ∧ task.outgoing = none ∧
      ∃ profile endpoint, watched = some (profile, endpoint) := by
  cases watched with
  | none => cases member
  | some carried =>
    rcases List.mem_cons.mp member with rfl | watch
    · exact ⟨rfl, rfl, rfl, carried.1, carried.2, rfl⟩
    · split at watch
      · rw [List.mem_singleton.mp watch]
        exact ⟨rfl, rfl, rfl, carried.1, carried.2, rfl⟩
      · cases watch

theorem Sound.absorb {before : Actor} {checkReach : Bool} {now : Instant} {stepped : Stepped}
    (sound : s.Sound) (watchable : Bool) (accepting : s.accepting = true)
    (queue : s.mail = message :: rest) (told : message.tells s.actor.attempt = some input)
    (attempt : before.attempt = s.actor.attempt) (phase : before.engine.phase = s.phase)
    (steps : before.step input checkReach now = .ok stepped) :
    (({ s with mail := rest } : System).absorb stepped watchable).Sound := by
  have absorbs := absorbs_of_step watchable queue told attempt phase steps
  have truthful := sound.tells (queue ▸ List.mem_cons_self) told
  refine ⟨absorbs.accounted sound.accounted truthful, absorbs.settled truthful sound.settled, ?_,
    ?_, ?_, ?_, ?_, ?_, sound.remembered⟩
  · intro work member
    rcases List.mem_append.mp member with old | new
    · exact (sound.work work old).trans absorbs.attempt_le
    · exact (step_work steps new).1.le
  · exact fun made endpoints stage =>
      (sound.reaching made endpoints stage).trans absorbs.attempt_le
  · exact fun made inputs stage told member =>
      absorbs.fits (sound.reporting made inputs stage told member)
  · exact fun made told member =>
      absorbs.fits (sound.mail made told (absorbs.mail _ member))
  · intro task member
    rcases List.mem_append.mp member with old | new
    · exact absorbs.taskFits (sound.tasks task old)
    · obtain ⟨made, pending, outgoing, profile, endpoint, watched⟩ := mem_watchers new
      refine ⟨made.le, ?_, fun _ _ _ _ => ⟨profile, endpoint, step_watched steps watched⟩⟩
      rw [pending, outgoing]
      rintro told (waits | sends)
      · cases waits
      · cases sends
  · obtain ⟨running, ordinary⟩ := sound.closing.accepts accepting
    refine ⟨fun _ => ⟨running, ?_⟩, fun closed => ?_⟩
    · intro work member
      rcases List.mem_append.mp member with old | new
      · exact ordinary work old
      · exact (step_work steps new).2
    · cases accepting.symm.trans closed

/-- A shutdown leaves the engine at rest, its barrier behind all other work. -/
theorem Sound.close (sound : s.Sound) (accepting : s.accepting = true)
    (atRest : s.phase.atRest = true) : s.close.Sound := by
  have ops : s.close.ops = s.ops := by
    show s.stage.ops ++ (s.work ++ [_]).filterMap opOf = _
    rw [List.filterMap_append]
    exact congrArg (s.stage.ops ++ ·) (List.append_nil _)
  have unseen : Unseen s s.close := unseen_of_eq rfl ops rfl
  refine ⟨?_, ?_, ?_, sound.reaching, ?_, ?_, ?_, ?_, sound.remembered⟩
  · rw [ops]
    exact sound.accounted
  · intro rest
    refine unseen.settled rfl (sound.settled (ops.symm.trans rest)) ?_
    intro profile endpoint _ starting
    rw [starting] at atRest
    cases atRest
  · intro work member
    rcases List.mem_append.mp member with old | barrier
    · exact sound.work work old
    · rw [List.mem_singleton.mp barrier]
      exact Nat.le_refl _
  · exact fun made inputs stage told member =>
      unseen.fits (sound.reporting made inputs stage told member)
  · intro _ _ member
    cases member
  · exact fun task member => unseen.taskFits (sound.tasks task member)
  · obtain ⟨running, ordinary⟩ := sound.closing.accepts accepting
    refine ⟨fun accepts => ?_, fun _ => ⟨atRest, .inl ⟨running, s.work, _, rfl, rfl, ordinary⟩⟩⟩
    cases accepts

theorem Sound.drop (sound : s.Sound) (queue : s.mail = .report attempt told :: rest)
    (stale : attempt ≠ s.actor.attempt) :
    ({ s with mail := rest } : System).Sound := by
  have unseen : Unseen s { s with mail := rest } := unseen_of_eq rfl rfl rfl
  refine ⟨sound.accounted, ?_, sound.work, sound.reaching, ?_, ?_, ?_, ?_, sound.remembered⟩
  · intro nothing
    refine unseen.settled rfl (sound.settled nothing) ?_
    rintro _ _ input _ (mailed | reporting)
    · rw [queue] at mailed
      rcases List.mem_cons.mp mailed with first | later
      · cases first
        exact absurd rfl stale
      · exact .inl later
    · exact .inr reporting
  · exact fun made inputs stage told member =>
      unseen.fits (sound.reporting made inputs stage told member)
  · intro made input member
    exact unseen.fits (sound.mail made input (queue ▸ List.mem_cons_of_mem _ member))
  · exact fun task member => unseen.taskFits (sound.tasks task member)
  · exact unseen.closing rfl rfl rfl id sound.closing

end Actor

section Handling

/-- How the actor takes the message at the head of its queue: the engine steps on what it is told,
a connect having looked at the machine first; a shutdown closes the queue behind that; a stale report
is dropped. -/
inductive Handles (s : System) : System → Prop
  | told {message : Msg} {rest : List Msg} {input : Input} {before : Actor} {checkReach : Bool}
      {now : Instant} {stepped : Stepped} (watchable : Bool) (queue : s.mail = message :: rest)
      (tells : message.tells s.actor.attempt = some input)
      (looked : before = s.actor ∨ ∃ environment, before = s.actor.looks environment)
      (steps : before.step input checkReach now = .ok stepped) :
      Handles s (({ s with mail := rest } : System).absorb stepped watchable)
  | shutdown {rest : List Msg} {now : Instant} {stepped : Stepped} (watchable : Bool)
      (queue : s.mail = .shutdown :: rest)
      (steps : s.actor.step .disconnect false now = .ok stepped) :
      Handles s (({ s with mail := rest } : System).absorb stepped watchable).close
  | stale {attempt : Nat} {input : Input} {rest : List Msg}
      (queue : s.mail = .report attempt input :: rest) (stale : attempt ≠ s.actor.attempt) :
      Handles s { s with mail := rest }

theorem handle_handles {environment : Environment} {now : Instant} {watchable : Bool}
    (handled : s.handle environment now watchable = some after) :
    s.accepting = true ∧ Handles s after := by
  simp only [System.handle] at handled
  split at handled
  · rename_i message rest accepting queue
    refine ⟨accepting, ?_⟩
    cases message with
    | connect =>
      obtain ⟨stepped, steps, rfl⟩ := toOption_map_some handled
      rw [connect_looks] at steps
      exact .told watchable queue rfl (.inr ⟨environment, rfl⟩) steps
    | disconnect =>
      obtain ⟨stepped, steps, rfl⟩ := toOption_map_some handled
      exact .told watchable queue rfl (.inl rfl) steps
    | shutdown =>
      obtain ⟨stepped, steps, rfl⟩ := toOption_map_some handled
      exact .shutdown watchable queue steps
    | report attempt input =>
      dsimp only at handled
      split at handled
      · rename_i current
        obtain ⟨stepped, steps, rfl⟩ := toOption_map_some handled
        exact .told watchable queue (if_pos current) (.inl rfl) steps
      · rename_i stale
        cases handled
        exact .stale queue stale
  · cases handled

theorem step_disconnect {actor : Actor} {checkReach : Bool} {now : Instant} {stepped : Stepped}
    (steps : actor.step .disconnect checkReach now = .ok stepped) :
    stepped.actor.engine.phase.atRest = true := by
  obtain ⟨actions, engineSteps, _⟩ := step_ok steps
  have same : actor.engine.disconnect.1 = stepped.actor.engine :=
    congrArg Prod.fst (Except.ok.inj engineSteps)
  rw [← same]
  rfl

theorem Sound.handles (sound : s.Sound) (accepting : s.accepting = true)
    (handles : Handles s after) : after.Sound := by
  cases handles with
  | told watchable queue tells looked steps =>
    rcases looked with rfl | ⟨environment, rfl⟩
    · exact sound.absorb watchable accepting queue tells rfl rfl steps
    · apply sound.absorb watchable accepting queue tells _ _ steps
      · rfl
      · rfl
  | shutdown watchable queue steps =>
    have absorbed := sound.absorb watchable accepting queue rfl rfl rfl steps
    exact absorbed.close accepting (step_disconnect steps)
  | stale queue stale => exact sound.drop queue stale

end Handling

end System

end DnetEngine.Orchestrator
