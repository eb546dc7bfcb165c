import DnetEngine.Core.EngineEndpoint
import DnetEngine.Core.EngineRecovery

/-! What the engine tries is what it was built with: a race runs known profiles that can be probed, a
tunnel carries a known one, and both go through an enabled endpoint. -/

namespace DnetEngine.Engine

open Lib

theorem rank_head_lowest {endpoints : List Endpoint} {id : EndpointId}
    (best : (rank endpoints).head? = some id) :
    ∃ x ∈ endpoints, x.id = id ∧
      ∀ other ∈ endpoints, isCandidate other = true → rankKey x ≤ rankKey other := by
  rw [rank, List.head?_map] at best
  obtain ⟨x, first, rfl⟩ := Option.map_eq_some_iff.mp best
  have found : (sortByKey rankKey (endpoints.filter isCandidate)).find? (fun _ => true) = some x := by
    obtain ⟨rest, sorted⟩ := List.head?_eq_some_iff.mp first
    rw [sorted, List.find?_cons_of_pos rfl]
  obtain ⟨member, _, lowest⟩ := lowest_of_find?_sortByKey _ _ _ _ found
  refine ⟨x, (List.mem_filter.mp member).1, rfl, ?_⟩
  intro other present candidate
  exact lowest other (List.mem_filter.mpr ⟨present, candidate⟩) rfl

/-- The profiles by name and kind, which no step changes. -/
def kinds (e : Engine) : List (ProfileId × ProfileKind) := e.profiles.map (fun q => (q.id, q.kind))

variable {e : Engine}

theorem kinds_marked {after : Engine} {mark : ConnectionProfile → ConnectionProfile}
    (keeps : ∀ q, SameProfile q (mark q)) (marked : after.profiles = e.profiles.map mark) :
    after.kinds = e.kinds := by
  rw [kinds, marked, List.map_map]
  apply List.map_congr_left
  intro q _
  exact Prod.ext (keeps q).1 (keeps q).2

theorem path_kinds {now : Instant} {input : Input} {outcome : Outcome} (distinct : Distinct e)
    (path : Path e now input outcome) : outcome.1.kinds = e.kinds := by
  cases path_marks path with
  | nothing same => rw [kinds, same, kinds]
  | renew _ _ _ renewed =>
    exact kinds_marked sameProfile_resetViability renewed
  | race decision results _ _ _ recorded =>
    rw [recordResults_profiles e now decision results distinct] at recorded
    exact kinds_marked (sameProfile_recorded e now decision results) recorded
  | up _ _ _ marked =>
    rw [markWorking_profiles distinct] at marked
    refine kinds_marked (fun q => ?_) marked
    split <;> exact ⟨rfl, rfl⟩
  | block check profile _ failures _ _ marked =>
    obtain ⟨reason, carrier⟩ := carrier_profiles now check profile failures distinct
    refine kinds_marked (fun q => ?_) (marked.trans carrier)
    split <;> exact ⟨rfl, rfl⟩

theorem mem_kinds {q : ConnectionProfile} (member : q ∈ e.profiles) :
    (q.id, q.kind) ∈ e.kinds := List.mem_map_of_mem member

theorem kinds_of_any {id : ProfileId} (known : e.profiles.any (fun q => q.id == id) = true) :
    ∃ kind, (id, kind) ∈ e.kinds := by
  obtain ⟨q, member, named⟩ := List.any_eq_true.mp known
  exact ⟨q.kind, beq_iff_eq.mp named ▸ mem_kinds member⟩

theorem kinds_of_isProbeable {id : ProfileId} (probeable : e.isProbeable id = true) :
    ∃ kind, (id, kind) ∈ e.kinds ∧ kind.proxyProbeable = true := by
  obtain ⟨q, member, holds⟩ := List.any_eq_true.mp probeable
  rw [Bool.and_eq_true, beq_iff_eq] at holds
  exact ⟨q.kind, holds.1 ▸ mem_kinds member, holds.2⟩

structure Known (built : List (ProfileId × ProfileKind)) (e : Engine) : Prop where
  same : e.kinds = built
  raced : e.phase.racing = true → ∀ id ∈ e.raced,
    ∃ kind, (id, kind) ∈ built ∧ kind.proxyProbeable = true
  once : e.phase.racing = true → e.raced.Nodup
  carried : ∀ id endpoint, e.phase.tunnel = some (id, endpoint) → ∃ kind, (id, kind) ∈ built

theorem candidates_once {profiles : List ConnectionProfile} {blocked : ProfileId}
    {candidates : List ProfileId} (distinct : (profiles.map ConnectionProfile.id).Nodup)
    (plan : planReprobe profiles blocked = .try_ candidates) : candidates.Nodup := by
  rw [planReprobe] at plan
  split at plan
  · cases plan
  · cases plan
    have sorted := (List.perm_insertionSort (fun left right : ConnectionProfile =>
      left.tier.ord ≤ right.tier.ord) ((profiles.filter (fun p => p.id != blocked)).filter
        (fun p => !p.viability.isBlocked))).map ConnectionProfile.id
    refine sorted.nodup_iff.mpr (distinct.sublist (List.Sublist.map _ ?_))
    exact List.filter_sublist.trans List.filter_sublist

section Known

variable {built : List (ProfileId × ProfileKind)} {e : Engine}

theorem known_atRest (same : e.kinds = built) (rest : e.phase.atRest = true) : Known built e where
  same := same
  raced racing := by
    rw [Phase.racing_of_atRest rest] at racing
    cases racing
  once racing := by
    rw [Phase.racing_of_atRest rest] at racing
    cases racing
  carried id endpoint tunnel := by
    rw [Phase.tunnel_of_atRest rest] at tunnel
    cases tunnel

theorem known_tunnel {profile : ProfileId} {endpoint : EndpointId} (same : e.kinds = built)
    (tunnel : e.phase.tunnel = some (profile, endpoint)) (known : ∃ kind, (profile, kind) ∈ built) :
    Known built e where
  same := same
  raced racing := by
    rw [Phase.tunnel_of_racing racing] at tunnel
    cases tunnel
  once racing := by
    rw [Phase.tunnel_of_racing racing] at tunnel
    cases tunnel
  carried id other carries := by
    rw [tunnel] at carries
    cases carries
    exact known

theorem known_race (same : e.kinds = built) (racing : e.phase.racing = true)
    (once : e.raced.Nodup)
    (raced : ∀ id ∈ e.raced, ∃ kind, (id, kind) ∈ built ∧ kind.proxyProbeable = true) :
    Known built e where
  same := same
  raced _ := raced
  once _ := once
  carried id endpoint tunnel := by
    rw [Phase.tunnel_of_racing racing] at tunnel
    cases tunnel

theorem path_known {now : Instant} {input : Input} {outcome : Outcome} (distinct : Distinct e)
    (known : Known built e) (path : Path e now input outcome) : Known built outcome.1 := by
  have same : outcome.1.kinds = built := (path_kinds distinct path).trans known.same
  have apart : Distinct outcome.1 := path_distinct distinct path
  have carrying {profile : ProfileId} {current : EndpointId}
      (phase : e.phase = .connected profile current ∨ e.phase = .starting profile current) :
      ∃ kind, (profile, kind) ∈ built := by
    apply known.carried profile current
    rcases phase with connected | starting
    · rw [connected]; rfl
    · rw [starting]; rfl
  cases path with
  | ignored | told => exact known
  | environment | reach | checkQuiet | probed =>
    exact ⟨same, known.raced, known.once, known.carried⟩
  | connectFailed | disconnected | raceFailed | startFailed | checkFailed | checkLost | blockedAll
  | probedTunnelLost | probedRaceLost => exact known_atRest same rfl
  | connectDirect _ _ _ direct =>
    apply known_tunnel same rfl
    cases direct with
    | named known => exact same ▸ kinds_of_any known
    | only _ fallback =>
      obtain ⟨_, q, member, rfl, _⟩ := directFallback_some fallback
      exact ⟨q.kind, same ▸ mem_kinds member⟩
  | connectRace _ _ races =>
    cases races with
    | named probeable =>
      apply known_race same rfl (List.nodup_singleton _)
      intro id member
      rw [List.mem_singleton.mp member]
      exact same ▸ kinds_of_isProbeable probeable
    | all =>
      have once : (e.forget none).probeableIds.Nodup :=
        apart.sublist (List.filter_sublist.map _)
      apply known_race same rfl once
      intro id member
      obtain ⟨q, inside, rfl⟩ := List.mem_map.mp member
      obtain ⟨known, probeable⟩ := List.mem_filter.mp inside
      exact ⟨q.kind, same ▸ mem_kinds known, probeable⟩
  | raceWon racing raced =>
    obtain ⟨kind, listed, _⟩ := known.raced racing _ raced
    exact known_tunnel same rfl ⟨kind, listed⟩
  | raceFallback _ _ _ fallback =>
    obtain ⟨_, q, member, rfl, _⟩ := directFallback_some fallback
    exact known_tunnel same rfl ⟨q.kind, same ▸ mem_kinds member⟩
  | cameUp starting => exact known_tunnel same rfl (carrying (.inr starting))
  | checkMoved connected =>
    exact known_tunnel same rfl (carrying (.inl connected))
  | blockedDirect _ _ _ plan =>
    obtain ⟨q, member, rfl, _⟩ := (mem_planReprobe _ _ _ plan _).mp List.mem_cons_self
    exact known_tunnel same rfl ⟨q.kind, same ▸ mem_kinds member⟩
  | blockedRace _ _ _ plan =>
    have once := candidates_once apart plan
    apply known_race same rfl (once.sublist List.filter_sublist)
    intro id member
    exact same ▸ kinds_of_isProbeable (List.mem_filter.mp member).2
  | probedTunnelMoved _ carried => exact known_tunnel same rfl (carrying carried)
  | probedRaceMoved _ racing =>
    exact known_race same racing (known.once racing) (known.raced racing)

end Known

variable {profiles : List ConnectionProfile} {endpoints : List Endpoint} {history : History}
  {e : Engine} {actions : List Action} {endpoint : EndpointId} {now : Instant}
  {q : ConnectionProfile} {decision : RaceDecision}

theorem run_known (distinct : (profiles.map ConnectionProfile.id).Nodup)
    (run : Run Steps (Engine.new profiles endpoints) history e) :
    Distinct e ∧ Known (profiles.map fun q => (q.id, q.kind)) e := by
  refine run_state_invariant (fun e => Distinct e ∧ Known (profiles.map fun q => (q.id, q.kind)) e)
    ⟨show Distinct (Engine.new profiles endpoints) from distinct, known_atRest rfl rfl⟩ ?_ run
  intro before observed after holding taken
  have path := steps_path taken
  exact ⟨path_distinct holding.1 path, path_known holding.1 holding.2 path⟩

/-- Every profile that a run tries is one the engine was built with, and the endpoint one that is
enabled. A race runs none but those that can be probed. -/
theorem run_tries (distinct : (profiles.map ConnectionProfile.id).Nodup)
    (apart : (endpoints.map Endpoint.id).Nodup)
    (run : Run Steps (Engine.new profiles endpoints) history e) {taken : Taken Engine Observed}
    (member : taken ∈ history) {action : Action} (acted : action ∈ taken.label.actions) :
    (∀ tried, tries action = some tried →
      ∀ id ∈ tried, ∃ kind, (id, kind) ∈ profiles.map fun q => (q.id, q.kind)) ∧
    ∀ id, goesThrough action = some id → ∃ x ∈ endpoints, x.id = id ∧ x.enabled = true := by
  obtain ⟨newer, older, rfl⟩ := List.append_of_mem member
  obtain ⟨earlier, step, _⟩ := run_taken run
  have after := earlier.next step
  have path := steps_path step
  constructor
  · intro tried trying id named
    have known := (run_known distinct after).2
    have skeleton := path_skeleton taken.before taken.label.now _ _ path
    rcases skeleton_tries skeleton (mem_control_of_tries acted trying) trying with
      ⟨racing, rfl⟩ | ⟨carrier, endpoint, tunnel, rfl⟩
    · obtain ⟨kind, listed, _⟩ := known.raced racing id named
      exact ⟨kind, listed⟩
    · rw [List.mem_singleton.mp named]
      exact known.carried carrier endpoint tunnel
  · intro id through
    have goes := path_alive (run_alive apart earlier) path
    obtain ⟨chosen, active⟩ := goes.named action (mem_control_of_goesThrough acted through) id through
    obtain ⟨x, inside, rfl, candidate⟩ := goes.alive.chosen active chosen
    have listed : (x.id, x.enabled) ∈ endpoints.map (fun x => (x.id, x.enabled)) := by
      rw [← run_enabled after]
      exact List.mem_map_of_mem inside
    obtain ⟨first, present, same⟩ := List.mem_map.mp listed
    rw [isCandidate, Bool.and_eq_true] at candidate
    exact ⟨first, present, congrArg Prod.fst same, (congrArg Prod.snd same).trans candidate.1⟩

theorem act_race {ghost : Ghost} {profiles : List ProfileId}
    (outstanding : (actions.foldl Ghost.act ghost).race = some (profiles, endpoint)) :
    ghost.race = some (profiles, endpoint) ∨ .startRace profiles endpoint ∈ actions := by
  induction actions generalizing ghost with
  | nil => exact .inl outstanding
  | cons action _ ih =>
    rcases ih outstanding with before | later
    · cases action with
      | startRace =>
        cases before
        exact .inr List.mem_cons_self
      | cancelRace => cases before
      | emit | startTunnel | stopTunnel | warnTier2 => exact .inl before
    · exact .inr (List.mem_cons_of_mem _ later)

theorem replay_race {profiles : List ProfileId}
    (outstanding : (replay history).race = some (profiles, endpoint)) :
    ∃ taken ∈ history, .startRace profiles endpoint ∈ taken.label.actions := by
  induction history with
  | nil => cases outstanding
  | cons taken _ ih =>
    rcases act_race outstanding with before | asked
    · rw [Ghost.receive] at before
      split at before
      · cases before
      · obtain ⟨earlier, member, asked⟩ := ih before
        exact ⟨earlier, List.mem_cons_of_mem _ member, asked⟩
    · exact ⟨taken, List.mem_cons_self, asked⟩

variable {results : List (ProfileId × ProfileProbe)}

theorem foldl_markResult_isBlocked
    (blocked : (results.foldl (markResult now) q).viability.isBlocked = true) :
    q.viability.isBlocked = true ∨ ∃ result ∈ results, result.1 = q.id := by
  by_cases named : ∃ result ∈ results, result.1 = q.id
  · exact .inr named
  · left
    rwa [foldl_marks_of_absent Prod.fst (markResult_of_ne now) results q] at blocked
    intro result member same
    exact named ⟨result, member, same.symm⟩

theorem foldl_markSilent_isBlocked {ids : List ProfileId}
    (blocked : (ids.foldl (markSilent now) q).viability.isBlocked = true) :
    q.viability.isBlocked = true ∨ q.id ∈ ids := by
  by_cases named : q.id ∈ ids
  · exact .inr named
  · left
    rwa [foldl_marks_of_absent id (markSilent_of_ne now) ids q] at blocked
    intro other member same
    exact named (same ▸ member)

theorem recorded_isBlocked
    (blocked : (e.recorded now decision results q).viability.isBlocked = true) :
    q.viability.isBlocked = true ∨ (∃ result ∈ results, result.1 = q.id) ∨
      (decision = .noneUsable ∧ q.id ∈ e.raced) := by
  have judged (still : (results.foldl (markResult now) q).viability.isBlocked = true) :
      q.viability.isBlocked = true ∨ (∃ result ∈ results, result.1 = q.id) ∨
        (decision = .noneUsable ∧ q.id ∈ e.raced) :=
    (foldl_markResult_isBlocked still).imp_right .inl
  cases decision with
  | pending => exact judged blocked
  | selected =>
    simp only [recorded] at blocked
    split at blocked
    · cases blocked
    · exact judged blocked
  | noneUsable =>
    rcases foldl_markSilent_isBlocked blocked with still | silent
    · exact judged still
    · rw [(sameProfile_foldl (sameProfile_markResult now) results q).1] at silent
      exact .inr (.inr ⟨rfl, (List.mem_filter.mp silent).1⟩)

theorem race_blocks {after : Engine} (distinct : Distinct e)
    (path : Path e now (.raceFinished decision results) (after, actions)) {id : ProfileId}
    (blocks : SaysBlocked actions id ∨ (¬ Blocked e id ∧ Blocked after id)) :
    (∃ result ∈ results, result.1 = id) ∨
      (decision = .noneUsable ∧ id ∈ e.raced ∧ e.phase.racing = true) := by
  cases path_marks path with
  | nothing same silent =>
    rcases blocks with said | ⟨before, q, member, named, blocked⟩
    · exact absurd said (silent id)
    · exact absurd ⟨q, same ▸ member, named, blocked⟩ before
  | renew _ told | block _ _ _ _ told => cases told
  | up _ _ _ marked silent =>
    rcases blocks with said | ⟨before, q, member, named, blocked⟩
    · exact absurd said (silent id)
    · rw [marked, markWorking_profiles distinct] at member
      obtain ⟨old, inside, rfl⟩ := List.mem_map.mp member
      split at named
      · rw [if_pos (by assumption)] at blocked
        cases blocked
      · rw [if_neg (by assumption)] at blocked
        exact absurd ⟨old, inside, named, blocked⟩ before
  | race _ _ told racing _ recorded said =>
    cases told
    rcases blocks with saying | ⟨before, q, member, named, blocked⟩
    · obtain ⟨reason, member⟩ := said id saying
      obtain ⟨_, _, same, why⟩ := mem_recordResults e now decision results _ member
      cases same
      rcases why with ⟨result, inside, named, _⟩ | ⟨lost, raced⟩
      · exact .inl ⟨result, inside, named⟩
      · exact .inr ⟨lost, raced, racing⟩
    · rw [recorded, recordResults_profiles e now decision results distinct] at member
      obtain ⟨old, inside, rfl⟩ := List.mem_map.mp member
      rw [(sameProfile_recorded e now decision results old).1] at named
      rcases recorded_isBlocked blocked with was | ⟨result, member, same⟩ | ⟨lost, raced⟩
      · exact absurd ⟨old, inside, named, was⟩ before
      · exact .inl ⟨result, member, same.trans named⟩
      · exact .inr ⟨lost, named ▸ raced, racing⟩

end DnetEngine.Engine
