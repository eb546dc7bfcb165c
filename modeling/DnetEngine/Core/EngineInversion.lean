import DnetEngine.Core.EnginePaths

/-! The code of `step` read into its paths, and the sites where it could panic. -/

namespace DnetEngine.Engine

open Lib

variable (e : Engine) (now : Instant)

/-- What a relocation answers: nothing while the endpoint in use is usable, and otherwise that none
is left or that the best one is used. -/
inductive Relocates (active : EndpointId) (lost : Outcome)
    (moved : EndpointId → String → Outcome) : Except Panic (Option Outcome) → Prop
  | stays (usable : (e.endpoints.find? (fun x => x.id == active)).any isCandidate = true) :
      Relocates active lost moved (.ok none)
  | lost (unusable : (e.endpoints.find? (fun x => x.id == active)).any isCandidate = false)
      (nothing : (rank e.endpoints).head? = none) : Relocates active lost moved (.ok (some lost))
  | moved {target : EndpointId} {because : String}
      (unusable : (e.endpoints.find? (fun x => x.id == active)).any isCandidate = false)
      (best : (rank e.endpoints).head? = some target) :
      Relocates active lost moved (.ok (some (moved target because)))

theorem relocateTunnel_relocates (profile : ProfileId) (active : EndpointId) :
    e.Relocates active (e.fail .noEndpointReachable true) (e.movedTunnel profile active)
      (e.relocateTunnel profile active) := by
  unfold relocateTunnel
  rcases planMigration_cases e.endpoints active with
    ⟨plan, usable⟩ | ⟨unusable, ⟨plan, nothing⟩ | ⟨target, because, best, plan⟩⟩ <;> rw [plan]
  · exact .stays usable
  · exact .lost unusable nothing
  · exact .moved unusable best

theorem relocateRace_relocates (active : EndpointId) :
    e.Relocates active
      (Outcome.andThen (e, [.cancelRace]) (fun e => e.fail .noEndpointReachable false))
      (e.movedRace active) (e.relocateRace active) := by
  unfold relocateRace
  rcases planMigration_cases e.endpoints active with
    ⟨plan, usable⟩ | ⟨unusable, ⟨plan, nothing⟩ | ⟨target, because, best, plan⟩⟩ <;> rw [plan]
  · exact .stays usable
  · exact .lost unusable nothing
  · exact .moved unusable best

/-- After a connect has forgotten what was measured, a set with nothing to race has a profile to
start directly. -/
theorem forget_directFallback (requested : Option ProfileId)
    (clear : (e.forget requested).classify false = none)
    (unraced : (e.forget requested).probeableIds = []) :
    (e.forget requested).directFallback ≠ none := by
  have some_ : (e.forget requested).profiles ≠ [] := classify_none _ clear
  obtain ⟨p, member⟩ := List.exists_mem_of_ne_nil _ some_
  have unprobeable : ∀ p ∈ (e.forget requested).profiles, p.kind.proxyProbeable = false := by
    simpa [probeableIds] using unraced
  have untested : p.viability = .untested := by
    obtain ⟨original, _, rfl⟩ := List.mem_map.mp member
    rfl
  intro nothing
  have vacuous : (e.forget requested).profiles.filter (fun p => p.kind.proxyProbeable) = [] := by
    simpa [List.filter_eq_nil_iff] using unprobeable
  simp only [directFallback, vacuous, List.all_nil, Bool.not_true, Bool.false_eq_true, if_false,
    Option.map_eq_none_iff, List.find?_eq_none] at nothing
  exact nothing p member (by simp [unprobeable p member, untested])

theorem connect_path (requested : Option ProfileId) :
    Path e now (.connect requested) (e.connect requested) := by
  unfold connect
  split
  next busy => exact .ignored (by simpa [Ignores] using busy)
  next rest =>
    have rest : e.phase.atRest = true := by simpa using rest
    dsimp only
    split
    next cause found => exact .connectFailed rest (.classified found)
    next clear =>
      split
      next id unknown =>
        obtain ⟨named, absent⟩ := Option.filter_eq_some_iff.mp unknown
        exact .connectFailed rest (.unknownProfile named (by simpa using absent))
      next known =>
        split
        next nothing => exact .connectFailed rest (.unranked nothing)
        next endpoint best =>
          split
          next id =>
            have present : (e.forget (some id)).profiles.any (fun p => p.id == id) = true := by
              simpa [Option.filter] using known
            split
            next unprobeable =>
              exact .connectDirect rest clear best
                (.named present (by simpa [isProbeable] using unprobeable))
            next probeable =>
              exact .connectRace rest best (.named (by simpa [isProbeable] using probeable))
          next =>
            split
            next unraced =>
              have unraced : (e.forget none).probeableIds = [] := by
                simpa [probeableIds] using unraced
              split
              next id fallback => exact .connectDirect rest clear best (.only unraced fallback)
              next nothing =>
                exact absurd nothing (forget_directFallback e none clear unraced)
            next raced =>
              exact .connectRace rest best (.all (by simpa [probeableIds] using raced))

/-- What `step` answers: it took a path, or it panicked. Of the sites where it could panic, only the
missing endpoint of a race depends on how the engine got here; a round trip too long for a double is
the caller's. -/
inductive Answers : Input → Except Panic Outcome → Prop
  | path {input : Input} {outcome : Outcome} (path : Path e now input outcome) :
      Answers input (.ok outcome)
  | tooLong {endpoint : EndpointId} {probe : ProbeOutcome} :
      Answers (.endpointProbe endpoint probe) (.error .secondsOutOfRange)
  | missing {decision : RaceDecision} {results : List (ProfileId × ProfileProbe)}
      (racing : e.phase.racing = true) (unused : e.endpoint = none) :
      Answers (.raceFinished decision results) (.error .raceWithoutEndpoint)

theorem raceFinished_answers (decision : RaceDecision)
    (results : List (ProfileId × ProfileProbe)) :
    Answers e now (.raceFinished decision results) (e.raceFinished decision results now) := by
  unfold raceFinished
  split
  next quiet => exact .path (.ignored (.inl (by simpa using quiet)))
  next racing =>
    have racing : e.phase.racing = true := by simpa using racing
    split
    next pending => exact .path (.ignored (.inr (.inl pending)))
    next settled =>
      split
      next stale => exact .path (.ignored (.inr (.inr stale)))
      next current =>
        cases used : e.endpoint with
        | none => exact .missing racing used
        | some endpoint =>
          cases decision with
          | pending => exact absurd rfl settled
          | selected =>
            exact .path (.raceWon racing (by simpa [staleWinner] using current) used)
          | noneUsable =>
            simp only [afterRace]
            split
            next cause found => exact .path (.raceFailed racing (.classified found))
            next clear =>
              split
              next named =>
                simp only [Bool.and_eq_true, Bool.not_eq_true'] at named
                obtain ⟨name, asked⟩ := Option.isSome_iff_exists.mp named.2
                cases failed : (e.recordResults .noneUsable results now).1.namedProfileFailed with
                | error =>
                  rw [namedProfileFailed, asked] at failed
                  cases failed
                | ok => exact .path (.raceFailed racing (.named named.1 named.2 failed))
              next unnamed =>
                have open_ : e.phase = .recovering ∨ e.requested = none := by
                  simpa [or_iff_not_imp_left] using unnamed
                split
                next id fallback => exact .path (.raceFallback racing used open_ fallback)
                next nothing =>
                  refine .path (.raceFailed racing (.nothingLeft ?_ clear nothing))
                  simpa using open_

theorem liveCheck_answers (check : LiveCheck) :
    Answers e now (.liveCheck check) (e.liveCheck check now) := by
  unfold liveCheck
  split
  next profile endpoint connected =>
    dsimp only
    split
    next failures blocks =>
      split
      next cause found => exact .path (.checkFailed connected blocks found)
      next clear =>
        have relocates := relocateTunnel_relocates (e.checked check) profile endpoint
        change Answers _ _ _ ((e.checked check).relocateTunnel profile endpoint >>= _)
        generalize (e.checked check).relocateTunnel profile endpoint = answer at relocates ⊢
        cases relocates with
        | lost unusable nothing => exact .path (.checkLost connected blocks unusable nothing)
        | moved unusable best => exact .path (.checkMoved connected blocks unusable best)
        | stays usable =>
          simp only [replace]
          split
          next plan => exact .path (.blockedAll connected blocks plan)
          next candidates plan =>
            split
            next unraced =>
              cases candidates with
              | nil => exact absurd rfl (planReprobe_ne_nil _ _ _ plan)
              | cons =>
                refine .path (.blockedDirect connected blocks usable plan ?_)
                simpa [checked] using unraced
            next raced =>
              exact .path (.blockedRace connected blocks usable plan (by simpa [checked] using raced))
    all_goals exact .path (.checkQuiet connected (by simp_all))
  all_goals exact .path (.ignored (by simp_all [Ignores]))

theorem endpointProbe_answers (endpoint : EndpointId) (probe : ProbeOutcome) :
    Answers e now (.endpointProbe endpoint probe) (e.endpointProbe endpoint probe now) := by
  unfold endpointProbe
  split
  next absent => exact .path (.ignored absent)
  next known found =>
    cases applied : known.health.onProbe probe now {} with
    | error =>
      cases onProbe_error _ _ _ _ _ applied
      exact .tooLong
    | ok transition =>
      have relocated {lost : Outcome} {moved : EndpointId → String → Outcome}
          {answer : Except Panic (Option Outcome)}
          (relocates : (e.probed endpoint transition.next).Relocates endpoint lost moved answer)
          (gone : (rank (e.probed endpoint transition.next).endpoints).head? = none →
            Path e now (.endpointProbe endpoint probe) lost)
          (goes : ∀ target because,
            (rank (e.probed endpoint transition.next).endpoints).head? = some target →
              Path e now (.endpointProbe endpoint probe) (moved target because)) :
          Answers e now (.endpointProbe endpoint probe) (answer >>= fun relocated =>
            .ok (relocated.getD (e.probed endpoint transition.next, []))) := by
        cases relocates with
        | stays usable => exact .path (.probed found applied (.inr (.inr (.inr usable))))
        | lost _ nothing => exact .path (gone nothing)
        | moved _ best => exact .path (goes _ _ best)
      have atRest (rest : e.phase.atRest = true) :
          Path e now (.endpointProbe endpoint probe) (e.probed endpoint transition.next, []) :=
        .probed found applied (.inr (.inr (.inl rest)))
      change Answers _ _ _ (if e.endpoint ≠ some endpoint ∨ (!transition.becameUnreachable) = true
        then _ else _)
      split
      next settled =>
        refine .path (.probed found applied (settled.imp_right fun quiet => .inl ?_))
        simpa using quiet
      next taken =>
        rw [not_or, not_not, Bool.not_eq_true, Bool.not_eq_false'] at taken
        have lost : Lost e endpoint probe now known transition := ⟨found, applied, taken.1, taken.2⟩
        have tunnel {profile : ProfileId} {current : EndpointId} (carrying :
            e.phase = .connected profile current ∨ e.phase = .starting profile current) :=
          relocated (relocateTunnel_relocates _ profile endpoint) (.probedTunnelLost lost carrying)
            (fun _ _ => .probedTunnelMoved lost carrying)
        have race (racing : e.phase.racing = true) :=
          relocated (relocateRace_relocates _ endpoint) (.probedRaceLost lost racing)
            (fun _ _ => .probedRaceMoved lost racing)
        split
        next connected => exact tunnel (.inl connected)
        next starting => exact tunnel (.inr starting)
        next probing => exact race (by rw [show e.phase = _ from probing]; rfl)
        next recovering => exact race (by rw [show e.phase = _ from recovering]; rfl)
        next idle => exact .path (atRest (by rw [show e.phase = _ from idle]; rfl))
        next failed => exact .path (atRest (by rw [show e.phase = _ from failed]; rfl))

theorem step_answers (input : Input) : Answers e now input (e.step input now) := by
  cases input with
  | connect requested => exact .path (connect_path e now requested)
  | disconnect => exact .path .disconnected
  | raceFinished decision results => exact raceFinished_answers e now decision results
  | tunnelUp =>
    simp only [step, tunnelUp]
    split
    next starting => exact .path (.cameUp starting)
    all_goals exact .path (.ignored (by simp_all [Ignores]))
  | startFailed =>
    simp only [step]
    split
    next starting => exact .path (.startFailed starting)
    all_goals exact .path (.ignored (by simp_all [Ignores]))
  | liveCheck check => exact liveCheck_answers e now check
  | endpointProbe endpoint probe => exact endpointProbe_answers e now endpoint probe
  | environment environment => exact .path (.environment environment)
  | pathChanged source target =>
    simp only [step, pathChanged]
    split
    next profile endpoint connected =>
      split
      next p found =>
        exact .path (.told ⟨profile, endpoint, connected, .inl ⟨source, target, p.tier, rfl, rfl⟩⟩)
      next absent => exact .path (.ignored (by simp_all [Ignores]))
    all_goals exact .path (.ignored (by simp_all [Ignores]))
  | connectivity change =>
    simp only [step, connectivity]
    split
    next profile endpoint connected =>
      cases change with
      | degraded d =>
        exact .path (.told ⟨profile, endpoint, connected, .inr (.inl ⟨d, rfl, rfl⟩)⟩)
      | recovered path =>
        exact .path (.told ⟨profile, endpoint, connected, .inr (.inr ⟨path, rfl, rfl⟩)⟩)
    all_goals exact .path (.ignored (by simp_all [Ignores]))
  | reach reach => exact .path (.reach reach)

/-- The paths are complete: every step that returns took one of them. -/
theorem step_path (input : Input) (outcome : Outcome) (done : e.step input now = .ok outcome) :
    Path e now input outcome := by
  have answers := step_answers e now input
  rw [done] at answers
  cases answers with
  | path path => exact path

theorem step_panic (input : Input) (site : Panic) (panics : e.step input now = .error site) :
    site = .secondsOutOfRange ∨
      (site = .raceWithoutEndpoint ∧ e.phase.racing = true ∧ e.endpoint = none) := by
  have answers := step_answers e now input
  rw [panics] at answers
  cases answers with
  | tooLong => exact .inl rfl
  | missing racing unused => exact .inr ⟨rfl, racing, unused⟩

end DnetEngine.Engine
