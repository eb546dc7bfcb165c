import DnetEngine.Core.EngineNamed
import DnetEngine.Core.EngineRecord

/-! Recovery within one attempt only moves forward: a profile found blocked is not tried again, a
profile that cannot be raced is tried last, and the verdicts that end an attempt are true. -/

namespace DnetEngine.Engine

open Lib

def Open (e : Engine) (id : ProfileId) : Prop :=
  ∃ q ∈ e.profiles, q.id = id ∧ q.viability.isBlocked = false

def ProbeableBlocked (e : Engine) : Prop :=
  ∀ q ∈ e.profiles, q.kind.proxyProbeable = true → q.viability.isBlocked = true

def Distinct (e : Engine) : Prop := (e.profiles.map ConnectionProfile.id).Nodup

theorem Distinct.eq_of_id {e : Engine} (distinct : Distinct e) {q r : ConnectionProfile}
    (first : q ∈ e.profiles) (second : r ∈ e.profiles) (same : q.id = r.id) : q = r :=
  List.inj_on_of_nodup_map distinct first second same

theorem Open.not_blocked {e : Engine} {id : ProfileId} (distinct : Distinct e)
    (open_ : Open e id) : ¬ Blocked e id := by
  rintro ⟨r, member, named, blocked⟩
  obtain ⟨q, inside, same, clear⟩ := open_
  rw [distinct.eq_of_id inside member (same.trans named.symm), blocked] at clear
  cases clear

/-- What holds while an attempt is racing, starting or connected. -/
structure Trying (requested : Option ProfileId) (reach : List Reach) (e : Engine) : Prop where
  asked : e.requested = requested
  heard : e.reach = reach
  raced : e.phase.racing = true → ∀ id ∈ e.raced,
    Open e id ∧ ∀ q ∈ e.profiles, q.id = id → q.kind.proxyProbeable = true
  carried : ∀ id endpoint, e.phase.tunnel = some (id, endpoint) → Open e id
  direct : ∀ id endpoint, e.phase.tunnel = some (id, endpoint) →
    e.isProbeable id = true ∨ requested = some id ∨ ProbeableBlocked e
  working : ∀ q ∈ e.profiles, q.kind.proxyProbeable = false → ∀ at_, q.viability = .working at_ →
    ∃ endpoint, e.phase.tunnel = some (q.id, endpoint)
  covered : (e.phase = .probing ∧ requested = none) ∨ e.phase = .recovering →
    ∀ q ∈ e.profiles, q.kind.proxyProbeable = true → q.viability.isBlocked = true ∨ q.id ∈ e.raced

/-- The last reach the daemon reported in these steps. -/
def lastReach : History → List Reach
  | [] => []
  | taken :: older =>
    match taken.label.input with
    | .reach reach => reach
    | _ => lastReach older

def heardAfter (reach : List Reach) : Input → List Reach
  | .reach newest => newest
  | _ => reach

theorem skeleton_tries {input : Input} {before after : Engine} {actions : List Action}
    (skeleton : Skeleton input before after actions) {action : Action} {tried : List ProfileId}
    (member : action ∈ actions) (trying : tries action = some tried) :
    (after.phase.racing = true ∧ tried = after.raced) ∨
      ∃ id endpoint, after.phase.tunnel = some (id, endpoint) ∧ tried = [id] := by
  cases skeleton with
  | keep | rest | lose | up => cases member
  | beginTunnel _ starts | win _ _ starts =>
    rw [List.mem_singleton.mp member] at trying
    cases trying
    exact .inr ⟨_, _, by rw [starts]; rfl, rfl⟩
  | beginRace _ races =>
    rw [List.mem_singleton.mp member] at trying
    cases trying
    exact .inl ⟨by rw [races]; rfl, rfl⟩
  | cancel | stop =>
    rw [List.mem_singleton.mp member] at trying
    cases trying
  | restartRace racing phase =>
    obtain rfl | rfl := List.mem_pair.mp member <;> cases trying
    exact .inl ⟨by rw [phase]; exact racing, rfl⟩
  | move _ _ starts =>
    obtain rfl | rfl := List.mem_pair.mp member <;> cases trying
    exact .inr ⟨_, _, by rw [starts]; rfl, rfl⟩
  | recover _ recovers =>
    obtain rfl | rfl := List.mem_pair.mp member <;> cases trying
    exact .inl ⟨by rw [recovers]; rfl, rfl⟩

section Race

variable {e : Engine} {now : Instant} {requested : Option ProfileId} {reach : List Reach}
  {decision : RaceDecision} {results : List (ProfileId × ProfileProbe)}
  (distinct : Distinct e) (trying : Trying requested reach e) (racing : e.phase.racing = true)
  (consistent : Consistent e decision results) (current : e.staleWinner decision = false)

include distinct

theorem distinct_recordResults : Distinct (e.recordResults decision results now).1 := by
  unfold Distinct
  rw [recordResults_profiles e now decision results distinct,
    map_id_of_sameProfile (sameProfile_recorded e now decision results)]
  exact distinct

include trying racing consistent current

theorem unprobeable_recorded (q : ConnectionProfile)
    (member : q ∈ (e.recordResults decision results now).1.profiles)
    (unprobeable : q.kind.proxyProbeable = false) : q ∈ e.profiles := by
  rw [recordResults_profiles e now decision results distinct] at member
  obtain ⟨before, inside, rfl⟩ := List.mem_map.mp member
  have outside : before.id ∉ e.raced := by
    intro raced
    have probeable := (trying.raced racing before.id raced).2 before inside rfl
    rw [(sameProfile_recorded e now decision results before).2, probeable] at unprobeable
    cases unprobeable
  rw [recorded_unraced now consistent before current outside]
  exact inside

theorem unprobeable_not_working (q : ConnectionProfile)
    (member : q ∈ (e.recordResults decision results now).1.profiles)
    (unprobeable : q.kind.proxyProbeable = false) (at_ : Instant) :
    q.viability ≠ .working at_ := by
  intro working
  have before := unprobeable_recorded distinct trying racing consistent current q member unprobeable
  obtain ⟨endpoint, tunnel⟩ := trying.working q before unprobeable at_ working
  rw [Phase.tunnel_of_racing racing] at tunnel
  cases tunnel

theorem blocked_recordResults (id : ProfileId) (blocked : Blocked e id) :
    Blocked (e.recordResults decision results now).1 id := by
  obtain ⟨q, member, named, isBlocked⟩ := blocked
  have outside : q.id ∉ e.raced := by
    intro raced
    exact (trying.raced racing q.id raced).1.not_blocked distinct ⟨q, member, rfl, isBlocked⟩
  unfold Blocked
  rw [recordResults_profiles e now decision results distinct]
  refine ⟨q, List.mem_map.mpr ⟨q, member, ?_⟩, named, isBlocked⟩
  exact recorded_unraced now consistent q current outside

end Race

variable {e : Engine} {requested : Option ProfileId}

theorem directFallback_some {id : ProfileId} (fallback : e.directFallback = some id) :
    ProbeableBlocked e ∧
      ∃ q ∈ e.profiles, q.id = id ∧ q.kind.proxyProbeable = false ∧ q.viability = .untested := by
  obtain ⟨failed, fallback⟩ := Option.ite_none_left_eq_some.mp fallback
  obtain ⟨q, found, named⟩ := Option.map_eq_some_iff.mp fallback
  have selected := List.find?_some found
  simp only [Bool.and_eq_true, Bool.not_eq_true', beq_iff_eq] at selected
  refine ⟨?_, q, List.mem_of_find?_eq_some found, named, selected.1, selected.2⟩
  intro r member probeable
  rw [Bool.not_eq_true, Bool.not_eq_false', List.all_eq_true] at failed
  exact failed r (List.mem_filter.mpr ⟨member, probeable⟩)

theorem directFallback_none (nothing : e.directFallback = none) (failed : ProbeableBlocked e)
    (q : ConnectionProfile) (member : q ∈ e.profiles) (unprobeable : q.kind.proxyProbeable = false)
    : q.viability ≠ .untested := by
  intro untested
  have all : (e.profiles.filter (fun p => p.kind.proxyProbeable)).all
      (fun p => p.viability.isBlocked) = true := by
    rw [List.all_eq_true]
    intro r inside
    obtain ⟨known, probeable⟩ := List.mem_filter.mp inside
    exact failed r known probeable
  simp only [directFallback, all, Bool.not_true, Bool.false_eq_true, if_false,
    Option.map_eq_none_iff, List.find?_eq_none] at nothing
  exact nothing q member (by simp [unprobeable, untested])

theorem trying_tunnel {reach : List Reach} (id : ProfileId) (endpoint : EndpointId)
    (asked : e.requested = requested) (heard : e.reach = reach)
    (tunnel : e.phase.tunnel = some (id, endpoint)) (open_ : Open e id)
    (direct : e.isProbeable id = true ∨ requested = some id ∨ ProbeableBlocked e)
    (working : ∀ q ∈ e.profiles, q.kind.proxyProbeable = false →
      ∀ at_, q.viability = .working at_ → q.id = id) :
    Trying requested reach e := by
  have quiet : e.phase.racing = false := Phase.racing_of_tunnel (by rw [tunnel]; rfl)
  refine ⟨asked, heard, ?_, ?_, ?_, ?_, ?_⟩
  · intro racing
    rw [quiet] at racing
    cases racing
  · intro other otherEndpoint same
    rw [tunnel] at same
    cases same
    exact open_
  · intro other otherEndpoint same
    rw [tunnel] at same
    cases same
    exact direct
  · intro q member unprobeable at_ works
    exact ⟨endpoint, by rw [tunnel, working q member unprobeable at_ works]⟩
  · rintro (⟨probing, _⟩ | recovering)
    · rw [probing] at quiet
      cases quiet
    · rw [recovering] at quiet
      cases quiet

theorem trying_race {reach : List Reach} (asked : e.requested = requested) (heard : e.reach = reach)
    (racing : e.phase.racing = true)
    (raced : ∀ id ∈ e.raced, Open e id ∧ ∀ q ∈ e.profiles, q.id = id → q.kind.proxyProbeable = true)
    (idle : ∀ q ∈ e.profiles, q.kind.proxyProbeable = false → ∀ at_, q.viability ≠ .working at_)
    (covered : (e.phase = .probing ∧ requested = none) ∨ e.phase = .recovering →
      ∀ q ∈ e.profiles, q.kind.proxyProbeable = true →
        q.viability.isBlocked = true ∨ q.id ∈ e.raced) :
    Trying requested reach e := by
  have tunnel : e.phase.tunnel = none := Phase.tunnel_of_racing racing
  refine ⟨asked, heard, fun _ => raced, ?_, ?_, ?_, covered⟩
  · intro id endpoint some_
    rw [tunnel] at some_
    cases some_
  · intro id endpoint some_
    rw [tunnel] at some_
    cases some_
  · intro q member unprobeable at_ works
    exact absurd works (idle q member unprobeable at_)

section Steps

variable {e : Engine} {now : Instant} {requested : Option ProfileId} {reach : List Reach}
  (distinct : Distinct e) (trying : Trying requested reach e)

include distinct

theorem markWorking_profiles (id : ProfileId) :
    (e.markWorking id now).profiles =
      e.profiles.map (fun q => if q.id = id then q.markWorking now else q) :=
  updateFirst_eq_map _ _ _ _ distinct

include trying

variable {results : List (ProfileId × ProfileProbe)} {endpoint : EndpointId}

theorem trying_raceWon {winner : ProfileId} {tier : FailoverTier} {bitsPerSec : Nat}
    (racing : e.phase.racing = true) (raced : winner ∈ e.raced)
    (consistent : Consistent e (.selected winner tier bitsPerSec) results) :
    Trying requested reach { (e.recordResults (.selected winner tier bitsPerSec) results now).1 with
      detector := {}, phase := .starting winner endpoint } := by
  have current : e.staleWinner (.selected winner tier bitsPerSec) = false := by
    simpa [staleWinner] using raced
  obtain ⟨⟨q, member, named, clear⟩, probeable⟩ := trying.raced racing winner raced
  have recordedMember : e.recorded now (.selected winner tier bitsPerSec) results q ∈
      (e.recordResults (.selected winner tier bitsPerSec) results now).1.profiles := by
    rw [recordResults_profiles e now _ results distinct]
    exact List.mem_map.mpr ⟨q, member, rfl⟩
  obtain ⟨sameId, sameKind⟩ :=
    sameProfile_recorded e now (.selected winner tier bitsPerSec) results q
  refine trying_tunnel winner endpoint ?_ ?_ rfl ?_ (.inl ?_) ?_
  · simpa using trying.asked
  · simpa using trying.heard
  · refine ⟨_, recordedMember, sameId.trans named, ?_⟩
    rw [recorded_winner e now results q named]
    rfl
  · refine List.any_eq_true.mpr ⟨_, recordedMember, ?_⟩
    simp [sameId, sameKind, named, probeable q member named]
  · intro r inside unprobeable at_ works
    exact absurd works
      (unprobeable_not_working distinct trying racing consistent current r inside unprobeable at_)

theorem probeableBlocked_noneUsable (open_ : e.phase = .recovering ∨ e.requested = none)
    (racing : e.phase.racing = true) (consistent : Consistent e .noneUsable results) :
    ProbeableBlocked (e.recordResults .noneUsable results now).1 := by
  have covers : (e.phase = .probing ∧ requested = none) ∨ e.phase = .recovering := by
    rcases open_ with recovering | unnamed
    · exact .inr recovering
    · cases phase : e.phase with
      | probing => exact .inl ⟨rfl, by rw [← trying.asked, unnamed]⟩
      | recovering => exact .inr rfl
      | _ =>
        rw [phase] at racing
        cases racing
  intro q member probeable
  rw [recordResults_profiles e now _ results distinct] at member
  obtain ⟨before, inside, rfl⟩ := List.mem_map.mp member
  obtain ⟨sameId, sameKind⟩ := sameProfile_recorded e now .noneUsable results before
  rw [sameKind] at probeable
  by_cases raced : before.id ∈ e.raced
  · exact recorded_noneUsable now consistent before raced
  · rw [recorded_unraced now consistent before rfl raced]
    exact (trying.covered covers before inside probeable).resolve_right raced

theorem trying_raceFallback {id : ProfileId} (racing : e.phase.racing = true)
    (consistent : Consistent e .noneUsable results)
    (fallback : (e.recordResults .noneUsable results now).1.directFallback = some id) :
    Trying requested reach { (e.recordResults .noneUsable results now).1 with
      detector := {}, phase := .starting id endpoint } := by
  obtain ⟨failed, q, member, named, unprobeable, untested⟩ := directFallback_some fallback
  refine trying_tunnel id endpoint ?_ ?_ rfl ?_ (.inr (.inr failed)) ?_
  · simpa using trying.asked
  · simpa using trying.heard
  · exact ⟨q, member, named, by rw [untested]; rfl⟩
  · intro r inside unprobeable at_ works
    exact absurd works
      (unprobeable_not_working distinct trying racing consistent rfl r inside unprobeable at_)

theorem trying_cameUp {profile : ProfileId} (starting : e.phase = .starting profile endpoint) :
    Trying requested reach ({ e.markWorking profile now with
      detector := {}, replacing := none, phase := .connected profile endpoint }) := by
  have tunnel : e.phase.tunnel = some (profile, endpoint) := by rw [starting]; rfl
  have marked := @markWorking_profiles e now distinct profile
  have kept (q : ConnectionProfile) :
      SameProfile q (if q.id = profile then q.markWorking now else q) := by
    split <;> exact ⟨rfl, rfl⟩
  obtain ⟨q, member, named, clear⟩ := trying.carried profile endpoint tunnel
  refine trying_tunnel profile endpoint trying.asked trying.heard rfl ?_ ?_ ?_
  · refine ⟨q.markWorking now, ?_, named, rfl⟩
    rw [marked]
    exact List.mem_map.mpr ⟨q, member, if_pos named⟩
  · rcases trying.direct profile endpoint tunnel with probeable | asked | failed
    · left
      obtain ⟨r, inside, holds⟩ := List.any_eq_true.mp probeable
      refine List.any_eq_true.mpr ⟨_, by rw [marked]; exact List.mem_map.mpr ⟨r, inside, rfl⟩, ?_⟩
      rw [(kept r).1, (kept r).2]
      exact holds
    · exact .inr (.inl asked)
    · by_cases probeable : q.kind.proxyProbeable = true
      · have blocked := failed q member probeable
        rw [clear] at blocked
        cases blocked
      · right
        right
        intro r inside isProbeable
        rw [marked] at inside
        obtain ⟨before, known, rfl⟩ := List.mem_map.mp inside
        have other : before.id ≠ profile := by
          intro same
          rw [(kept before).2, distinct.eq_of_id known member (same.trans named.symm)] at isProbeable
          exact probeable isProbeable
        rw [if_neg other] at isProbeable ⊢
        exact failed before known isProbeable
  · intro r inside unprobeable at_ works
    rw [marked] at inside
    obtain ⟨before, known, rfl⟩ := List.mem_map.mp inside
    rw [(kept before).1]
    by_cases same : before.id = profile
    · exact same
    · rw [if_neg same] at unprobeable works
      obtain ⟨other, carried⟩ := trying.working before known unprobeable at_ works
      rw [tunnel] at carried
      cases carried
      rfl

end Steps

theorem sameProfile_resetViability (q : ConnectionProfile) :
    SameProfile q q.resetViability := ⟨rfl, rfl⟩

/-! A live check that finds the carrier blocked. -/

section Block

variable {e : Engine} (now : Instant) (check : LiveCheck) (profile : ProfileId) (failures : Nat)
  (distinct : Distinct e)

include distinct

theorem carrier_profiles : ∃ reason,
    ((e.checked check).blockCarrier profile failures now).1.profiles =
      e.profiles.map (fun q => if q.id = profile then q.markBlocked now reason else q) := by
  rw [blockCarrier_engine]
  exact ⟨_, updateFirst_eq_map _ _ _ _ distinct⟩

theorem distinct_carrier : Distinct ((e.checked check).blockCarrier profile failures now).1 := by
  obtain ⟨reason, marked⟩ := carrier_profiles now check profile failures distinct
  unfold Distinct
  rw [marked, map_id_of_sameProfile]
  · exact distinct
  · intro q
    split <;> exact ⟨rfl, rfl⟩

theorem mem_carrier (q : ConnectionProfile)
    (member : q ∈ ((e.checked check).blockCarrier profile failures now).1.profiles) :
    (q.id = profile ∧ q.viability.isBlocked = true) ∨ (q.id ≠ profile ∧ q ∈ e.profiles) := by
  obtain ⟨reason, marked⟩ := carrier_profiles now check profile failures distinct
  rw [marked] at member
  obtain ⟨before, inside, rfl⟩ := List.mem_map.mp member
  split
  next same => exact .inl ⟨same, rfl⟩
  next other => exact .inr ⟨other, inside⟩

theorem carrier_other (q : ConnectionProfile)
    (member : q ∈ ((e.checked check).blockCarrier profile failures now).1.profiles)
    (fresh : q.viability.isBlocked = false) : q.id ≠ profile := by
  rcases mem_carrier now check profile failures distinct q member with ⟨_, blocked⟩ | ⟨other, _⟩
  · rw [fresh] at blocked
    cases blocked
  · exact other

theorem blocked_carrier (id : ProfileId)
    (blocked : Blocked e id ∨ (id = profile ∧ ∃ q ∈ e.profiles, q.id = id)) :
    Blocked ((e.checked check).blockCarrier profile failures now).1 id := by
  obtain ⟨reason, marked⟩ := carrier_profiles now check profile failures distinct
  have found : ∃ q ∈ e.profiles, q.id = id ∧ (q.viability.isBlocked = true ∨ q.id = profile) := by
    rcases blocked with ⟨q, member, named, isBlocked⟩ | ⟨same, q, member, named⟩
    · exact ⟨q, member, named, .inl isBlocked⟩
    · exact ⟨q, member, named, .inr (named.trans same)⟩
  obtain ⟨q, member, named, either⟩ := found
  unfold Blocked
  rw [marked]
  refine ⟨_, List.mem_map.mpr ⟨q, member, rfl⟩, ?_, ?_⟩
  · split <;> exact named
  · split
    next => rfl
    next other => exact either.resolve_right other

variable {requested : Option ProfileId} {reach : List Reach} {endpoint : EndpointId}
  (trying : Trying requested reach e) (connected : e.phase = .connected profile endpoint)

include trying connected

theorem carrier_not_working (q : ConnectionProfile)
    (member : q ∈ ((e.checked check).blockCarrier profile failures now).1.profiles)
    (unprobeable : q.kind.proxyProbeable = false) (at_ : Instant) :
    q.viability ≠ .working at_ := by
  intro works
  rcases mem_carrier now check profile failures distinct q member with ⟨_, blocked⟩ | ⟨other, inside⟩
  · rw [works] at blocked
    cases blocked
  · obtain ⟨carrying, tunnel⟩ := trying.working q inside unprobeable at_ works
    rw [connected] at tunnel
    cases tunnel
    exact other rfl

theorem trying_blockedDirect {direct : ProfileId} {rest : List ProfileId}
    (plan : planReprobe ((e.checked check).blockCarrier profile failures now).1.profiles profile =
      .try_ (direct :: rest))
    (unprobeable : ∀ id ∈ direct :: rest,
      ((e.checked check).blockCarrier profile failures now).1.isProbeable id = false) :
    Trying requested reach { ((e.checked check).blockCarrier profile failures now).1 with
      detector := {}, phase := .starting direct endpoint } := by
  obtain ⟨q, member, named, _, clear⟩ :=
    (mem_planReprobe _ _ _ plan direct).mp List.mem_cons_self
  refine trying_tunnel direct endpoint ?_ ?_ rfl ⟨q, member, named, clear⟩ (.inr (.inr ?_)) ?_
  · simpa [checked] using trying.asked
  · simpa [checked] using trying.heard
  · intro r inside probeable
    by_contra blocked
    have fresh : r.viability.isBlocked = false := by simpa using blocked
    have tried := (mem_planReprobe _ _ _ plan r.id).mpr
      ⟨r, inside, rfl, carrier_other now check profile failures distinct r inside fresh, fresh⟩
    have not_ := unprobeable r.id tried
    rw [isProbeable, List.any_eq_false] at not_
    exact not_ r inside (by simp [probeable])
  · intro r inside isUnprobeable at_ works
    exact absurd works (carrier_not_working now check profile failures distinct trying connected r
      inside isUnprobeable at_)

theorem trying_blockedRace {candidates : List ProfileId}
    (plan : planReprobe ((e.checked check).blockCarrier profile failures now).1.profiles profile =
      .try_ candidates) :
    Trying requested reach { ((e.checked check).blockCarrier profile failures now).1 with
      raced :=
        candidates.filter ((e.checked check).blockCarrier profile failures now).1.isProbeable
      phase := .recovering } := by
  have apart := distinct_carrier now check profile failures distinct
  refine trying_race ?_ ?_ rfl ?_ ?_ ?_
  · simpa [checked] using trying.asked
  · simpa [checked] using trying.heard
  · intro id raced
    obtain ⟨candidate, probeable⟩ := List.mem_filter.mp raced
    obtain ⟨q, member, named, _, clear⟩ := (mem_planReprobe _ _ _ plan id).mp candidate
    refine ⟨⟨q, member, named, clear⟩, ?_⟩
    intro r inside same
    obtain ⟨s, known, holds⟩ := List.any_eq_true.mp probeable
    simp only [Bool.and_eq_true, beq_iff_eq] at holds
    rw [apart.eq_of_id inside known (same.trans holds.1.symm)]
    exact holds.2
  · exact carrier_not_working now check profile failures distinct trying connected
  · intro _ r inside probeable
    cases fresh : r.viability.isBlocked with
    | true => exact .inl rfl
    | false =>
      right
      have other := carrier_other now check profile failures distinct r inside fresh
      refine List.mem_filter.mpr ⟨?_, ?_⟩
      · exact (mem_planReprobe _ _ _ plan r.id).mpr ⟨r, inside, rfl, other, fresh⟩
      · exact List.any_eq_true.mpr ⟨r, inside, by simp [probeable]⟩

end Block

/-! One step of an attempt. -/

def ConsistentInput (e : Engine) : Input → Prop
  | .raceFinished decision results => e.phase.racing = true → Consistent e decision results
  | _ => True

instance (e : Engine) : (input : Input) → Decidable (ConsistentInput e input)
  | .raceFinished decision results =>
    inferInstanceAs (Decidable (e.phase.racing = true → Consistent e decision results))
  | .connect _ | .disconnect | .tunnelUp | .startFailed _ | .liveCheck _ | .endpointProbe _ _
  | .environment _ | .pathChanged _ _ | .connectivity _ | .reach _ => .isTrue trivial

section Step

variable {e : Engine} {now : Instant} {input : Input} {outcome : Outcome}

theorem distinct_updated {after : Engine} (distinct : Distinct e)
    {mark : ConnectionProfile → ConnectionProfile} (keeps : ∀ q, SameProfile q (mark q))
    (marked : after.profiles = e.profiles.map mark) : Distinct after := by
  unfold Distinct
  rw [marked, map_id_of_sameProfile keeps]
  exact distinct

theorem path_distinct (distinct : Distinct e) (path : Path e now input outcome) :
    Distinct outcome.1 := by
  cases path_marks path with
  | nothing same =>
    unfold Distinct
    rw [same]
    exact distinct
  | renew _ _ _ renewed =>
    exact distinct_updated distinct sameProfile_resetViability renewed
  | race _ _ _ _ _ recorded =>
    unfold Distinct
    rw [recorded]
    exact distinct_recordResults distinct
  | up _ _ _ marked =>
    refine distinct_updated distinct ?_ (marked.trans (markWorking_profiles distinct _))
    intro q
    split <;> exact ⟨rfl, rfl⟩
  | block _ _ _ _ _ _ marked =>
    unfold Distinct
    rw [marked]
    exact distinct_carrier now _ _ _ distinct

variable {requested : Option ProfileId} {reach : List Reach} (distinct : Distinct e)
  (trying : Trying requested reach e)

include distinct trying

theorem path_blocks_open {check : LiveCheck} (path : Path e now (.liveCheck check) outcome)
    (id : ProfileId) (said : SaysBlocked outcome.2 id) : ¬ Blocked e id := by
  cases path_marks path with
  | nothing _ silent | renew _ _ _ _ silent | up _ _ _ _ silent => exact absurd said (silent id)
  | race _ _ told => cases told
  | block _ _ _ _ _ connected _ only =>
    rw [only id said]
    exact (trying.carried _ _ (by rw [connected]; rfl)).not_blocked distinct

variable (consistent : ConsistentInput e input) (path : Path e now input outcome)

include consistent path

theorem path_kept (id : ProfileId) (active : e.phase.atRest = false) (blocked : Blocked e id) :
    Blocked outcome.1 id := by
  cases path_marks path with
  | nothing same =>
    unfold Blocked
    rw [same]
    exact blocked
  | renew _ _ rest =>
    rw [rest] at active
    cases active
  | race _ _ told racing current recorded =>
    subst told
    unfold Blocked
    rw [recorded]
    exact blocked_recordResults distinct trying racing (consistent racing) current id blocked
  | up profile _ starting marked =>
    obtain ⟨q, member, named, isBlocked⟩ := blocked
    have carried := trying.carried _ _ (by rw [starting]; rfl)
    have other : q.id ≠ profile := by
      intro same
      exact carried.not_blocked distinct ⟨q, member, same, isBlocked⟩
    unfold Blocked
    rw [marked, markWorking_profiles distinct]
    exact ⟨q, List.mem_map.mpr ⟨q, member, if_neg other⟩, named, isBlocked⟩
  | block _ _ _ _ _ _ marked =>
    unfold Blocked
    rw [marked]
    exact blocked_carrier now _ _ _ distinct id (.inl blocked)

theorem path_said (id : ProfileId) (says_ : SaysBlocked outcome.2 id) : Blocked outcome.1 id := by
  cases path_marks path with
  | nothing _ silent | renew _ _ _ _ silent | up _ _ _ _ silent => exact absurd says_ (silent id)
  | race decision results told racing _ recorded said =>
    subst told
    obtain ⟨reason, member⟩ := said id says_
    obtain ⟨other, because, same, why⟩ := mem_recordResults e now _ _ _ member
    cases same
    have ran : id ∈ e.raced := by
      rcases why with ⟨result, inside, rfl, _⟩ | ⟨_, inRaced⟩
      · exact (consistent racing).2.1 result inside
      · exact inRaced
    obtain ⟨q, known, named, _⟩ := (trying.raced racing id ran).1
    have marked : (e.recorded now decision results q).viability.isBlocked = true := by
      rcases why with ⟨result, inside, reported, why, failed⟩ | ⟨none_, _⟩
      · exact recorded_unusable now (consistent racing) q result inside
          (named.trans reported.symm) failed
      · subst none_
        exact recorded_noneUsable now (consistent racing) q (by rwa [named])
    unfold Blocked
    rw [recorded, recordResults_profiles e now _ _ distinct]
    exact ⟨_, List.mem_map.mpr ⟨q, known, rfl⟩,
      (sameProfile_recorded e now _ _ q).1.trans named, marked⟩
  | block _ _ _ _ _ connected marked said =>
    obtain ⟨q, known, named, _⟩ := trying.carried _ _ (by rw [connected]; rfl)
    unfold Blocked
    rw [marked]
    have same := said id says_
    exact blocked_carrier now _ _ _ distinct id (.inr ⟨same, q, known, named.trans same.symm⟩)

theorem path_trying (active : e.phase.atRest = false) :
    outcome.1.phase.atRest = true ∨ Trying requested (heardAfter reach input) outcome.1 := by
  have moved (after : Engine) (id : ProfileId) (old new : EndpointId)
      (tunnel : e.phase.tunnel = some (id, old)) (profiles : after.profiles = e.profiles)
      (asked : after.requested = e.requested) (heard : after.reach = e.reach)
      (phase : after.phase.tunnel = some (id, new)) : Trying requested reach after := by
    have carried := trying.carried id old tunnel
    have direct := trying.direct id old tunnel
    have working := trying.working
    unfold Open at carried
    unfold isProbeable ProbeableBlocked at direct
    rw [← profiles] at carried direct working
    refine trying_tunnel id new (asked.trans trying.asked) (heard.trans trying.heard) phase carried
      direct ?_
    intro q member unprobeable at_ works
    obtain ⟨endpoint, same⟩ := working q member unprobeable at_ works
    rw [tunnel] at same
    cases same
    rfl
  cases path with
  | ignored ignores =>
    cases input with
    | reach => cases ignores
    | _ => exact .inr trying
  | told tells =>
    obtain ⟨_, _, _, ⟨_, _, _, rfl, _⟩ | ⟨_, rfl, _⟩ | ⟨_, rfl, _⟩⟩ := tells <;>
      exact .inr trying
  | environment | checkQuiet | probed | probedRaceMoved =>
    exact .inr ⟨trying.asked, trying.heard, trying.raced, trying.carried, trying.direct,
      trying.working, trying.covered⟩
  | reach =>
    exact .inr ⟨trying.asked, rfl, trying.raced, trying.carried, trying.direct, trying.working,
      trying.covered⟩
  | connectFailed rest | connectDirect rest | connectRace rest =>
    rw [rest] at active
    cases active
  | disconnected | raceFailed | startFailed | checkFailed | checkLost | blockedAll
  | probedTunnelLost | probedRaceLost => exact .inl rfl
  | raceWon racing raced =>
    exact .inr (trying_raceWon distinct trying racing raced (consistent racing))
  | raceFallback racing _ _ fallback =>
    exact .inr (trying_raceFallback distinct trying racing (consistent racing) fallback)
  | cameUp starting => exact .inr (trying_cameUp distinct trying starting)
  | checkMoved connected =>
    exact .inr (moved _ _ _ _ (by rw [connected]; rfl) rfl rfl rfl rfl)
  | blockedDirect connected _ _ plan unprobeable =>
    exact .inr (trying_blockedDirect now _ _ _ distinct trying connected plan unprobeable)
  | blockedRace connected _ _ plan =>
    exact .inr (trying_blockedRace now _ _ _ distinct trying connected plan)
  | probedTunnelMoved _ carrying =>
    right
    rcases carrying with connected | starting
    · exact moved _ _ _ _ (by rw [connected]; rfl) rfl rfl rfl rfl
    · exact moved _ _ _ _ (by rw [starting]; rfl) rfl rfl rfl rfl

end Step

variable {requested : Option ProfileId}

theorem forget_untested {e : Engine} {q : ConnectionProfile}
    (member : q ∈ (e.forget requested).profiles) : q.viability = .untested := by
  obtain ⟨before, _, rfl⟩ := List.mem_map.mp member
  rfl

theorem path_begins {e : Engine} {now : Instant} {outcome : Outcome} (distinct : Distinct e)
    (rest : e.phase.atRest = true) (path : Path e now (.connect requested) outcome) :
    outcome.1.phase.atRest = true ∨ Trying requested [] outcome.1 := by
  have apart : Distinct (e.forget requested) :=
    distinct_updated distinct sameProfile_resetViability rfl
  have fresh (id : ProfileId) (known : ∃ q ∈ (e.forget requested).profiles, q.id = id) :
      Open (e.forget requested) id := by
    obtain ⟨q, member, named⟩ := known
    exact ⟨q, member, named, by rw [forget_untested member]; rfl⟩
  have idle : ∀ q ∈ (e.forget requested).profiles, q.kind.proxyProbeable = false →
      ∀ at_, q.viability ≠ .working at_ := by
    intro q member _ at_ works
    rw [forget_untested member] at works
    cases works
  cases path with
  | ignored ignores =>
    rw [Ignores, rest] at ignores
    cases ignores
  | told => exact .inl rest
  | connectFailed => exact .inl rfl
  | @connectDirect _ id _ _ _ _ _ direct =>
    right
    have idleTunnel : ∀ q ∈ (e.forget requested).profiles,
        q.kind.proxyProbeable = false → ∀ at_, q.viability = .working at_ → q.id = id :=
      fun q member unprobeable at_ works => absurd works (idle q member unprobeable at_)
    cases direct with
    | named known =>
      obtain ⟨q, member, named⟩ := List.any_eq_true.mp known
      exact trying_tunnel id _ rfl rfl rfl (fresh id ⟨q, member, by simpa using named⟩)
        (.inr (.inl rfl)) idleTunnel
    | only _ fallback =>
      obtain ⟨failed, q, member, named, _⟩ := directFallback_some fallback
      exact trying_tunnel id _ rfl rfl rfl (fresh id ⟨q, member, named⟩) (.inr (.inr failed))
        idleTunnel
  | connectRace _ _ races =>
    right
    cases races with
    | @named id probeable =>
      obtain ⟨q, member, holds⟩ := List.any_eq_true.mp probeable
      simp only [Bool.and_eq_true, beq_iff_eq] at holds
      refine trying_race rfl rfl rfl ?_ idle ?_
      · intro other raced
        rw [List.mem_singleton.mp raced]
        refine ⟨fresh id ⟨q, member, holds.1⟩, ?_⟩
        intro r inside same
        rw [apart.eq_of_id inside member (same.trans holds.1.symm)]
        exact holds.2
      · rintro (⟨_, unnamed⟩ | recovering)
        · cases unnamed
        · cases recovering
    | all =>
      refine trying_race rfl rfl rfl ?_ idle ?_
      · intro id raced
        obtain ⟨q, inside, named⟩ := List.mem_map.mp raced
        obtain ⟨member, probeable⟩ := List.mem_filter.mp inside
        refine ⟨fresh id ⟨q, member, named⟩, ?_⟩
        intro r known same
        rw [apart.eq_of_id known member (same.trans named.symm)]
        exact probeable
      · intro _ q member probeable
        exact .inr (List.mem_map.mpr ⟨q, List.mem_filter.mpr ⟨member, probeable⟩, rfl⟩)

end DnetEngine.Engine
