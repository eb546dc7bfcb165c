import DnetEngine.Core.EngineRecovery

/-! One attempt, from the connect the engine accepts to the step that ends it: what its steps may
try, and what its failures mean. -/

namespace DnetEngine.Engine

open Lib

/-- Why a step ends the attempt with `cause`. -/
inductive FailsBecause (e : Engine) (now : Instant) (input : Input) (after : Engine) :
    FailureCause → Prop
  | passed {cause : FailureCause} (told : input = .startFailed cause) :
      FailsBecause e now input after cause
  | classified {cause : FailureCause} (afterRace : Bool)
      (found : after.classify afterRace = some cause) : FailsBecause e now input after cause
  | invalid (detail : String) : FailsBecause e now input after (.configurationInvalid detail)
  | unranked (nothing : (rank after.endpoints).head? = none) :
      FailsBecause e now input after .noEndpointReachable
  | replaced (all : ∀ q ∈ after.profiles, q.viability.isBlocked = true) :
      FailsBecause e now input after .allProfilesBlocked
  | raced (results : List (ProfileId × ProfileProbe))
      (told : input = .raceFinished .noneUsable results) (racing : e.phase.racing = true)
      (open_ : e.phase = .recovering ∨ e.requested = none)
      (recorded : after.profiles = (e.recordResults .noneUsable results now).1.profiles)
      (nothing : (e.recordResults .noneUsable results now).1.directFallback = none) :
      FailsBecause e now input after .allProfilesBlocked

variable {e : Engine} {now : Instant} {outcome : Outcome} {requested : Option ProfileId}

theorem namedProfileFailed_invalid {cause : FailureCause}
    (failed : e.namedProfileFailed = .ok cause) :
    ∃ detail, cause = .configurationInvalid detail := by
  obtain ⟨name, _, rest⟩ := bind_ok.mp failed
  cases rest
  exact ⟨_, rfl⟩

variable {input : Input} {taken : Taken Engine Observed}

theorem path_fails {cause : FailureCause} (distinct : Distinct e) (path : Path e now input outcome)
    (said : .emit (.failed cause) ∈ outcome.2) :
    FailsBecause e now input outcome.1 cause := by
  have only {first : Outcome} {told : FailureCause} {stop : Bool}
      (quiet : .emit (.failed cause) ∉ first.2)
      (said : .emit (.failed cause) ∈ (first.andThen (fun e => e.fail told stop)).2) :
      told = cause := by
    have last := (List.mem_append.mp said).resolve_left quiet
    cases emit_mem_fail _ _ _ _ last
    rfl
  have race_quiet (decision : RaceDecision) (results : List (ProfileId × ProfileProbe)) :
      .emit (.failed cause) ∉ (e.recordResults decision results now).2 := by
    intro member
    obtain ⟨_, _, same, _⟩ := mem_recordResults e now _ _ _ member
    cases same
  have carrier_quiet (check : LiveCheck) (profile : ProfileId) (failures : Nat) :
      .emit (.failed cause) ∉ ((e.checked check).blockCarrier profile failures now).2 := by
    intro member
    obtain ⟨_, same⟩ := emit_mem_blockCarrier _ _ _ _ _ member
    cases same
  cases path with
  | ignored | environment | reach | cameUp | checkQuiet | probed => cases said
  | told tells =>
    obtain ⟨_, _, _, ⟨_, _, _, _, rfl⟩ | ⟨_, _, rfl⟩ | ⟨_, _, rfl⟩⟩ := tells <;> simp at said
  | connectFailed _ refused =>
    cases emit_mem_fail _ _ _ _ said
    cases refused with
    | classified found => exact .classified false found
    | unknownProfile => exact .invalid _
    | unranked nothing => exact .unranked nothing
  | connectDirect => cases emit_mem_startTunnel _ _ _ _ _ said
  | connectRace => cases emit_mem_startRace _ _ _ _ _ said
  | disconnected =>
    unfold disconnect at said
    split at said <;> simp at said
  | raceWon | raceFallback =>
    have last := (List.mem_append.mp said).resolve_left (race_quiet _ _)
    cases emit_mem_startTunnel _ _ _ _ _ last
  | raceFailed racing refused =>
    cases only (race_quiet _ _) said
    cases refused with
    | classified found => exact .classified true found
    | named _ _ failed =>
      obtain ⟨detail, rfl⟩ := namedProfileFailed_invalid failed
      exact .invalid detail
    | nothingLeft open_ _ none_ =>
      exact .raced _ rfl racing (open_.imp (by simp) (by simp)) rfl none_
  | startFailed =>
    cases emit_mem_fail _ _ _ _ said
    exact .passed rfl
  | checkFailed _ _ found =>
    cases emit_mem_fail _ _ _ _ said
    exact .classified false found
  | checkMoved | probedTunnelMoved => simp [movedTunnel] at said
  | checkLost _ _ _ nothing | probedTunnelLost _ _ nothing =>
    cases emit_mem_fail _ _ _ _ said
    exact .unranked nothing
  | blockedAll _ _ plan =>
    cases only (carrier_quiet _ _ _) said
    refine .replaced ?_
    intro q member
    rcases mem_carrier now _ _ _ distinct q member with ⟨_, blocked⟩ | ⟨other, _⟩
    · exact blocked
    · exact planReprobe_allBlocked _ _ plan q member other
  | blockedDirect =>
    have last := (List.mem_append.mp said).resolve_left (carrier_quiet _ _ _)
    cases emit_mem_startTunnel _ _ _ _ _ last
  | blockedRace =>
    have last := (List.mem_append.mp said).resolve_left (carrier_quiet _ _ _)
    cases emit_mem_startRace _ _ _ _ _ last
  | probedRaceMoved => simp [movedRace] at said
  | probedRaceLost _ _ nothing =>
    cases only (by simp) said
    exact .unranked nothing

/-- `allProfilesBlocked`, unless passed through, is said of profiles that are all blocked. -/
theorem FailsBecause.exhausted {after : Engine}
    (because : FailsBecause e now input after .allProfilesBlocked) (distinct : Distinct e)
    (trying : e.phase.racing = true → ∃ requested reach, Trying requested reach e)
    (consistent : ConsistentInput e input) (own : ∀ cause, input ≠ .startFailed cause)
    (q : ConnectionProfile) (member : q ∈ after.profiles) : q.viability.isBlocked = true := by
  cases because with
  | passed told => exact absurd told (own _)
  | classified _ found => exact classify_allProfilesBlocked _ found q member
  | replaced all => exact all q member
  | raced results told racing open_ recorded nothing =>
    subst told
    obtain ⟨requested, reach, attempt⟩ := trying racing
    have failed : ProbeableBlocked (e.recordResults .noneUsable results now).1 :=
      probeableBlocked_noneUsable distinct attempt open_ racing (consistent racing)
    rw [recorded] at member
    by_cases probeable : q.kind.proxyProbeable = true
    · exact failed q member probeable
    · have unprobeable : q.kind.proxyProbeable = false := by simpa using probeable
      have untested := directFallback_none nothing failed q member unprobeable
      have working := unprobeable_not_working distinct attempt racing (consistent racing) rfl q
        member unprobeable
      cases viability : q.viability with
      | untested => exact absurd viability untested
      | working at_ => exact absurd viability (working at_)
      | blocked => rfl

/-- `noEndpointReachable`, unless passed through, is said where no endpoint is a candidate or each
was last reported unreachable. -/
theorem FailsBecause.unreachable {after : Engine}
    (because : FailsBecause e now input after .noEndpointReachable)
    (own : ∀ cause, input ≠ .startFailed cause) :
    (∀ x ∈ after.endpoints, isCandidate x = false) ∨
      ∀ i < after.endpoints.length, after.reach[i]? = some .unreachable := by
  cases because with
  | passed told => exact absurd told (own _)
  | unranked nothing => exact .inl (rank_head_none _ nothing)
  | classified _ found =>
    right
    intro i bound
    have all := (classify_noEndpointReachable _ found).2
    simp only [List.mem_map, List.mem_range, forall_exists_index, and_imp,
      forall_apply_eq_imp_iff₂] at all
    have here := all i bound
    split at here
    next reported => rw [reported, here]
    next => cases here

theorem path_reach (active : e.phase.atRest = false) (path : Path e now input outcome) :
    outcome.1.reach = heardAfter e.reach input := by
  cases path with
  | ignored ignores =>
    cases input with
    | reach => cases ignores
    | _ => rfl
  | told tells =>
    obtain ⟨_, _, _, ⟨_, _, _, rfl, _⟩ | ⟨_, rfl, _⟩ | ⟨_, rfl, _⟩⟩ := tells <;> rfl
  | connectFailed rest | connectDirect rest | connectRace rest =>
    rw [rest] at active
    cases active
  | raceWon | raceFailed | raceFallback => simp [heardAfter]
  | blockedAll | blockedDirect | blockedRace => simp [heardAfter, checked]
  | _ => rfl

theorem path_heard {newest : List Reach} (path : Path e now (.reach newest) outcome) :
    outcome.2 = [] := by
  cases path with
  | ignored ignores => cases ignores
  | reach => rfl
  | told tells =>
    obtain ⟨_, _, _, ⟨_, _, _, other, _⟩ | ⟨_, other, _⟩ | ⟨_, other, _⟩⟩ := tells <;> cases other

theorem path_reach_renewed (rest : e.phase.atRest = true)
    (path : Path e now (.connect requested) outcome) : outcome.1.reach = [] := by
  cases path with
  | ignored ignores =>
    rw [Ignores, rest] at ignores
    cases ignores
  | told tells =>
    obtain ⟨_, _, connected, _⟩ := tells
    rw [connected] at rest
    cases rest
  | connectFailed | connectDirect | connectRace => rfl

/-- `taken` names `id` in a race or starts it. -/
def Tries (taken : Taken Engine Observed) (id : ProfileId) : Prop :=
  ∃ action ∈ taken.label.actions, ∃ tried, tries action = some tried ∧ id ∈ tried

def LiveBlocks (taken : Taken Engine Observed) (id : ProfileId) : Prop :=
  (∃ check, taken.label.input = .liveCheck check) ∧ SaysBlocked taken.label.actions id

def FailsOwn (taken : Taken Engine Observed) (cause : FailureCause) : Prop :=
  .emit (.failed cause) ∈ taken.label.actions ∧
    ∀ passed, taken.label.input ≠ .startFailed passed

/-- What one step of an attempt that asked for `requested` is held to, `earlier` being its steps so
far. -/
structure Sound (requested : Option ProfileId) (earlier : History)
    (taken : Taken Engine Observed) : Prop where
  marked : ∀ id, SaysBlocked taken.label.actions id → Blocked taken.after id
  retired : ∀ id, Blocked taken.after id → ¬ Tries taken id
  direct : ∀ id endpoint, .startTunnel id endpoint ∈ taken.label.actions →
    taken.after.isProbeable id = false → requested ≠ some id → ProbeableBlocked taken.after
  exhausted : FailsOwn taken .allProfilesBlocked →
    ∀ q ∈ taken.after.profiles, q.viability.isBlocked = true
  unreachable : FailsOwn taken .noEndpointReachable →
    (∀ x ∈ taken.after.endpoints, isCandidate x = false) ∨
      ∀ i < taken.after.endpoints.length, (lastReach earlier)[i]? = some .unreachable

/-- The steps of an attempt, newest first. -/
structure Progressive (requested : Option ProfileId) (steps : History) : Prop where
  sound : ∀ later taken earlier, steps = later ++ taken :: earlier → Sound requested earlier taken
  retired : steps.Pairwise (fun newer older => ∀ id, Blocked older.after id → ¬ Tries newer id)
  once : steps.Pairwise (fun newer older => ∀ id, LiveBlocks older id → ¬ LiveBlocks newer id)

theorem trying_retired {reach : List Reach} (step : Steps taken.before taken.label taken.after)
    (same : taken.after = e) (distinct : Distinct e)
    (state : e.phase.atRest = true ∨ Trying requested reach e) :
    (∀ id, Blocked e id → ¬ Tries taken id) ∧
      ∀ id endpoint, .startTunnel id endpoint ∈ taken.label.actions →
        e.isProbeable id = false → requested ≠ some id → ProbeableBlocked e := by
  subst same
  have skeleton := path_skeleton taken.before taken.label.now _ _ (steps_path step)
  have attempt {action : Action} {tried : List ProfileId} (member : action ∈ taken.label.actions)
      (trying : tries action = some tried) :
      Trying requested reach taken.after ∧
        ((taken.after.phase.racing = true ∧ tried = taken.after.raced) ∨
          ∃ id endpoint, taken.after.phase.tunnel = some (id, endpoint) ∧ tried = [id]) := by
    have shape := skeleton_tries skeleton (mem_control_of_tries member trying) trying
    refine ⟨state.resolve_left ?_, shape⟩
    intro rest
    rcases shape with ⟨racing, _⟩ | ⟨_, _, tunnel, _⟩
    · rw [Phase.racing_of_atRest rest] at racing
      cases racing
    · rw [Phase.tunnel_of_atRest rest] at tunnel
      cases tunnel
  constructor
  · rintro id blocked ⟨action, member, tried, trying, inside⟩
    obtain ⟨holds, ⟨racing, rfl⟩ | ⟨other, endpoint, tunnel, rfl⟩⟩ := attempt member trying
    · exact (holds.raced racing id inside).1.not_blocked distinct blocked
    · rw [List.mem_singleton.mp inside] at blocked
      exact (holds.carried other endpoint tunnel).not_blocked distinct blocked
  · intro id endpoint member unprobeable unasked
    obtain ⟨holds, ⟨racing, raced⟩ | ⟨other, through, tunnel, named⟩⟩ := attempt member rfl
    · have inside : id ∈ taken.after.raced := by rw [← raced]; exact List.mem_singleton_self id
      obtain ⟨⟨q, known, same, _⟩, probeable⟩ := holds.raced racing id inside
      rw [isProbeable, List.any_eq_false] at unprobeable
      exact absurd (by simp [same, probeable q known same]) (unprobeable q known)
    · cases List.singleton_inj.mp named
      rcases holds.direct id through tunnel with probeable | asked | failed
      · rw [probeable] at unprobeable
        cases unprobeable
      · exact absurd asked unasked
      · exact failed

theorem lastReach_cons (taken : Taken Engine Observed) (steps : History) :
    lastReach (taken :: steps) = heardAfter (lastReach steps) taken.label.input := by
  unfold heardAfter
  rw [lastReach]

structure Attempting (requested : Option ProfileId) (steps : History) (e : Engine) : Prop where
  distinct : Distinct e
  heard : e.reach = lastReach steps
  state : e.phase.atRest = true ∨ Trying requested (lastReach steps) e
  kept : ∀ taken ∈ steps, ∀ id, Blocked taken.after id → Blocked e id
  progressive : Progressive requested steps

theorem attempting_begins {connect : Taken Engine Observed} (distinct : Distinct connect.before)
    (rest : connect.before.phase.atRest = true) (asked : connect.label.input = .connect requested)
    (step : Steps connect.before connect.label connect.after) :
    Attempting requested [connect] connect.after := by
  have path := steps_path step
  rw [asked] at path
  have apart := path_distinct distinct path
  have heard : lastReach [connect] = [] := by
    rw [lastReach_cons, asked]
    rfl
  have state : connect.after.phase.atRest = true ∨
      Trying requested (lastReach [connect]) connect.after := by
    rw [heard]
    exact path_begins distinct rest path
  have quiet : connect.before.phase.racing = false := Phase.racing_of_atRest rest
  obtain ⟨retired, direct⟩ := trying_retired step rfl apart state
  refine ⟨apart, (path_reach_renewed rest path).trans heard.symm, state, by simp, ?_, by simp,
    by simp⟩
  intro later taken earlier split
  obtain ⟨rfl, rfl, rfl⟩ : later = [] ∧ taken = connect ∧ earlier = [] := by
    cases later with
    | nil => simpa using split.symm
    | cons => simp at split
  refine ⟨?_, retired, direct, ?_, ?_⟩
  · intro id said
    cases path_marks path with
    | nothing _ silent | renew _ _ _ _ silent | up _ _ _ _ silent => exact absurd said (silent id)
    | race _ _ told | block _ _ _ _ told => cases told
  · intro own q member
    refine (path_fails distinct path own.1).exhausted distinct ?_ trivial (by simp) q member
    intro racing
    rw [quiet] at racing
    cases racing
  · intro own
    refine (path_fails distinct path own.1).unreachable (by simp) |>.imp_right ?_
    intro reported
    rw [path_reach_renewed rest path] at reported
    exact reported

theorem attempting_next {steps : History} (attempting : Attempting requested steps taken.before)
    (active : taken.before.phase.atRest = false)
    (consistent : ConsistentInput taken.before taken.label.input)
    (step : Steps taken.before taken.label taken.after) :
    Attempting requested (taken :: steps) taken.after := by
  have trying := attempting.state.resolve_left (by simp [active])
  have path := steps_path step
  have apart := path_distinct attempting.distinct path
  have state := path_trying attempting.distinct trying consistent path active
  have kept (id : ProfileId) :=
    path_kept attempting.distinct trying consistent path id active
  have said (id : ProfileId) := path_said attempting.distinct trying consistent path id
  obtain ⟨retired, direct⟩ := trying_retired step rfl apart state
  have heard := path_reach active path
  rw [attempting.heard, ← lastReach_cons] at heard
  refine ⟨apart, heard, state, ?_, ?_, ?_, ?_⟩
  · intro older member id blocked
    rcases List.mem_cons.mp member with rfl | inside
    · exact blocked
    · exact kept id (attempting.kept older inside id blocked)
  · intro later other earlier split
    cases later with
    | cons _ rest =>
      exact attempting.progressive.sound rest other earlier (List.cons.inj split).2
    | nil =>
      obtain ⟨rfl, rfl⟩ := List.cons.inj split
      refine ⟨said, retired, direct, ?_, ?_⟩
      · intro own
        exact (path_fails attempting.distinct path own.1).exhausted attempting.distinct
          (fun _ => ⟨_, _, trying⟩) consistent own.2
      · intro own
        refine (path_fails attempting.distinct path own.1).unreachable own.2 |>.imp_right ?_
        intro reported
        -- A step that fails was not told a reach, so the last one is an earlier step's.
        rw [heard, lastReach_cons] at reported
        cases input : taken.label.input with
        | reach =>
          rw [input] at path
          have silent : taken.label.actions = [] := path_heard path
          have acted := own.1
          rw [silent] at acted
          cases acted
        | _ =>
          rw [input] at reported
          exact reported
  · refine List.pairwise_cons.mpr ⟨?_, attempting.progressive.retired⟩
    intro older member id blocked
    exact retired id (kept id (attempting.kept older member id blocked))
  · refine List.pairwise_cons.mpr ⟨?_, attempting.progressive.once⟩
    rintro older member id ⟨_, saidBlocked⟩ ⟨⟨check, told⟩, again⟩
    obtain ⟨before, after, split⟩ := List.append_of_mem member
    have marked := (attempting.progressive.sound before older after split).marked id saidBlocked
    rw [told] at path
    exact path_blocks_open attempting.distinct trying path id again
      (attempting.kept older member id marked)

theorem run_distinct {profiles : List ConnectionProfile} {endpoints : List Endpoint}
    (distinct : (profiles.map ConnectionProfile.id).Nodup) {history : History}
    (run : Run Steps (Engine.new profiles endpoints) history e) : Distinct e :=
  run_state_invariant Distinct (show Distinct (Engine.new profiles endpoints) from distinct)
    (fun _ _ _ apart taken => path_distinct apart (steps_path taken)) run

/-- Recovery within an attempt: its steps are those from the connect it begins with for as long as
the engine was neither idle nor failed. -/
theorem engine_recovery (profiles : List ConnectionProfile) (endpoints : List Endpoint)
    (distinct : (profiles.map ConnectionProfile.id).Nodup) (requested : Option ProfileId)
    (window older : History) (connect : Taken Engine Observed) (e : Engine)
    (run : Run Steps (Engine.new profiles endpoints) (window ++ connect :: older) e)
    (asked : connect.label.input = .connect requested)
    (accepted : connect.before.phase.atRest = true)
    (within : ∀ taken ∈ window, taken.before.phase.atRest = false)
    (consistent : ∀ taken ∈ window, ConsistentInput taken.before taken.label.input) :
    Progressive requested (window ++ [connect]) := by
  obtain ⟨earlier, step, later⟩ := run_taken run
  have begins := attempting_begins (run_distinct distinct earlier) accepted asked step
  refine (run_invariant (fun window e =>
    (∀ taken ∈ window, taken.before.phase.atRest = false ∧
      ConsistentInput taken.before taken.label.input) →
    Attempting requested (window ++ [connect]) e) (fun _ => begins) ?_ later ?_).progressive
  · intro window before observed after _ holding taken all
    have attempting := holding (fun taken member => all taken (List.mem_cons_of_mem _ member))
    obtain ⟨active, agrees⟩ := all _ List.mem_cons_self
    exact attempting_next attempting active agrees taken
  · intro taken member
    exact ⟨within taken member, consistent taken member⟩

/-- Every race fails, the last profile is started directly and is blocked in its turn. -/
theorem engine_recovery_exhausted :
    let profiles : List ConnectionProfile :=
      [⟨⟨"hysteria2"⟩, .hysteria2, .tier1, .untested⟩, ⟨⟨"amneziawg"⟩, .amneziaWg, .tier2, .untested⟩]
    let start := Engine.new profiles [⟨⟨1⟩, "first", {}, true⟩]
    let connect : Taken Engine Observed :=
      ⟨start, ⟨.connect none, 0, (start.connect none).2⟩, (start.connect none).1⟩
    let played := play connect.after
      [(.raceFinished .noneUsable [(⟨"hysteria2"⟩, .handshakeFailed)], 1), (.tunnelUp, 2),
        (.liveCheck .failed, 3), (.liveCheck .failed, 4), (.liveCheck .failed, 5)]
    (profiles.map ConnectionProfile.id).Nodup ∧ played.2.length = 5 ∧
      played.1.phase = .failed .allProfilesBlocked ∧
      Progressive none (played.2 ++ [connect]) := by
  intro profiles start connect played
  have run : Run Steps start (played.2 ++ [connect]) played.1 :=
    run_append (Run.start.next (rfl : Steps start connect.label connect.after))
      (play_run connect.after _)
  refine ⟨by decide, by decide, by decide, ?_⟩
  exact engine_recovery profiles _ (by decide) none played.2 [] connect played.1 run rfl rfl
    (by decide) (by decide)

/-- With two profiles of one id only the first is ever marked, and the engine says that all of them
are blocked while the second was never tried. -/
theorem all_blocked_said_with_one_untested :
    let twin : ConnectionProfile := ⟨⟨"hysteria2"⟩, .hysteria2, .tier1, .untested⟩
    let start := Engine.new [twin, twin] [⟨⟨1⟩, "first", {}, true⟩]
    let connect : Taken Engine Observed :=
      ⟨start, ⟨.connect none, 0, (start.connect none).2⟩, (start.connect none).1⟩
    let played := play connect.after
      [(.raceFinished .noneUsable [(⟨"hysteria2"⟩, .handshakeFailed)], 1)]
    Run Steps start (played.2 ++ [connect]) played.1 ∧ connect.before.phase.atRest = true ∧
      (∀ taken ∈ played.2, taken.before.phase.atRest = false ∧
        ConsistentInput taken.before taken.label.input) ∧
      played.1.phase = .failed .allProfilesBlocked ∧ twin ∈ played.1.profiles ∧
      ¬ Progressive none (played.2 ++ [connect]) := by
  intro twin start connect played
  refine ⟨?_, rfl, by decide, by decide, by decide, ?_⟩
  · exact run_append (Run.start.next (rfl : Steps start connect.label connect.after))
      (play_run connect.after _)
  · intro progressive
    have failed : ∃ taken ∈ played.2, .emit (.failed .allProfilesBlocked) ∈ taken.label.actions ∧
        taken.label.input = .raceFinished .noneUsable [(⟨"hysteria2"⟩, .handshakeFailed)] ∧
        twin ∈ taken.after.profiles := by decide
    obtain ⟨taken, member, fails, told, untested⟩ := failed
    obtain ⟨later, earlier, split⟩ := List.append_of_mem member
    have sound := progressive.sound later taken (earlier ++ [connect]) (by rw [split]; simp)
    have own : FailsOwn taken .allProfilesBlocked :=
      ⟨fails, fun passed => by rw [told]; exact Input.noConfusion⟩
    cases sound.exhausted own twin untested

end DnetEngine.Engine
