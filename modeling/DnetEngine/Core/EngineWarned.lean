import DnetEngine.Core.EngineDiscipline
import DnetEngine.Core.EngineRecord

/-! No tunnel of a tier 2 profile is started that was not announced first. -/

namespace DnetEngine.Engine

open Lib

def tiers (e : Engine) : List (ProfileId × FailoverTier) := e.profiles.map fun p => (p.id, p.tier)

def isTier2 (tiers : List (ProfileId × FailoverTier)) (profile : ProfileId) : Bool :=
  (tiers.find? fun entry => entry.1 == profile).any fun entry => entry.2 == .tier2

def accepted (taken : Taken Engine Observed) : Bool :=
  (match taken.label.input with | .connect _ => true | _ => false) && taken.before.phase.atRest

/-- The actions since the last accepted connect, newest first. -/
def sinceConnect : History → List Action
  | [] => []
  | taken :: older =>
    taken.label.actions.reverse ++ if accepted taken then [] else sinceConnect older

def Starts (only : ProfileId → Prop) (actions : List Action) : Prop :=
  ∀ profile endpoint, .startTunnel profile endpoint ∈ actions → only profile

/-- The warning of the profile came before, newest first, and no other was started since. -/
def Announced (profile : ProfileId) (earlier : List Action) : Prop :=
  ∃ between before, earlier = between ++ .warnTier2 profile :: before ∧
    Starts (· = profile) between

/-- Every tunnel of a tier 2 profile that was started, newest first, had been announced. -/
def Warned (tier2 : ProfileId → Bool) : List Action → Prop
  | [] => True
  | action :: earlier => (∀ profile endpoint, action = .startTunnel profile endpoint →
      tier2 profile = true → Announced profile earlier) ∧ Warned tier2 earlier

variable {e : Engine} {now : Instant}

theorem tiers_markBlocked (id : ProfileId) (reason : String) :
    (e.markBlocked id now reason).1.tiers = e.tiers := by
  rw [markBlocked_engine, tiers, tiers, map_updateFirst]
  exact fun _ => rfl

theorem tiers_markWorking (id : ProfileId) : (e.markWorking id now).tiers = e.tiers := by
  rw [markWorking, tiers, tiers, map_updateFirst]
  exact fun _ => rfl

theorem tiers_recordResults (decision : RaceDecision) (results : List (ProfileId × ProfileProbe)) :
    (e.recordResults decision results now).1.tiers = e.tiers := by
  have reported : (results.foldl (recordResult now) (e, [])).1.tiers = e.tiers := by
    refine foldl_keeps (tiers ·.1) (fun outcome result => ?_) results (e, [])
    unfold recordResult
    split
    · exact tiers_markWorking _
    · exact tiers_markBlocked _ _
  cases decision with
  | pending => exact reported
  | selected => exact (tiers_markWorking _).trans reported
  | noneUsable =>
    have silent (outcome : Outcome) (id : ProfileId) :
      (recordSilent now outcome id).1.tiers = outcome.1.tiers := tiers_markBlocked id _
    exact (foldl_keeps (tiers ·.1) silent _ _).trans reported

theorem path_tiers {input : Input} {outcome : Outcome} (path : Path e now input outcome) :
    outcome.1.tiers = e.tiers := by
  cases path_marks path with
  | nothing same => rw [tiers, same, tiers]
  | renew _ _ _ renewed =>
    rw [tiers, renewed, List.map_map]
    rfl
  | race _ _ _ _ _ recorded => rw [tiers, recorded, ← tiers, tiers_recordResults]
  | up _ _ _ marked => rw [tiers, marked, ← tiers, tiers_markWorking]
  | block _ _ _ _ _ _ marked =>
    rw [tiers, marked, blockCarrier_engine, map_updateFirst]
    · rfl
    · exact fun _ => rfl

/-- A step as far as tunnels and warnings go. -/
inductive Speaks (e after : Engine) : List Action → Prop
  | quiet {actions : List Action} (none_ : Starts (fun _ => False) actions)
      (kept : ∀ profile, after.phase.tunnel.map Prod.fst = some profile →
        e.phase.tunnel.map Prod.fst = some profile) :
      Speaks e after actions
  | fresh {before : List Action} {asked : Engine} {profile : ProfileId} {endpoint : EndpointId}
      {because : String} (none_ : Starts (fun _ => False) before) (same : asked.tiers = e.tiers)
      (phase : after.phase = .starting profile endpoint) :
      Speaks e after (before ++ (asked.startTunnel profile endpoint because).2)
  | moved {event : ConnectionEvent} {profile : ProfileId} {endpoint : EndpointId}
      (carried : e.phase.tunnel.map Prod.fst = some profile)
      (phase : after.phase = .starting profile endpoint) :
      Speaks e after [.emit event, .stopTunnel, .startTunnel profile endpoint]

variable {actions : List Action} {after : Engine}

theorem none_of_control (none_ : Starts (fun _ => False) (control actions)) :
    Starts (fun _ => False) actions :=
  fun profile endpoint member =>
    none_ profile endpoint (List.mem_filter.mpr ⟨member, rfl⟩)

theorem Speaks.rests (none_ : Starts (fun _ => False) (control actions))
    (rest : after.phase.tunnel = none) :
    Speaks e after actions :=
  .quiet (none_of_control none_) fun _ tunnel => by rw [rest] at tunnel; cases tunnel

theorem path_speaks {input : Input} {outcome : Outcome} (path : Path e now input outcome) :
    Speaks e outcome.1 outcome.2 := by
  have same := path_tiers path
  cases path with
  | connectDirect =>
    have none_ : Starts (fun _ => False) [] := by simp [Starts]
    exact .fresh none_ same rfl
  | raceWon => exact .fresh (none_of_control (by simp [Starts])) (tiers_recordResults _ _) rfl
  | raceFallback => exact .fresh (none_of_control (by simp [Starts])) (tiers_recordResults _ _) rfl
  | blockedDirect => exact .fresh (none_of_control (by simp [Starts])) same rfl
  | checkMoved connected => exact .moved (by rw [connected]; rfl) rfl
  | probedTunnelMoved _ carrying =>
    refine .moved ?_ rfl
    rcases carrying with connected | starting
    · rw [connected]; rfl
    · rw [starting]; rfl
  | cameUp starting => exact .quiet (by simp [Starts]) (by simp [starting, Phase.tunnel])
  | disconnected =>
    unfold disconnect
    split <;> exact .rests (by simp [Starts, control]) rfl
  | connectRace | blockedRace | connectFailed | raceFailed | startFailed | checkFailed | checkLost
  | blockedAll | probedTunnelLost => exact .rests (by simp [Starts]) rfl
  | ignored | told | environment | reach | checkQuiet | probed =>
    exact .quiet (by simp [Starts]) fun _ => id
  | probedRaceMoved => exact .quiet (by simp [Starts, movedRace]) fun _ => id
  | probedRaceLost => exact .rests (by simp [Starts, control, fail]) rfl

variable {profile : ProfileId} {actions earlier : List Action} {tier2 : ProfileId → Bool}

theorem Announced.later (announced : Announced profile earlier)
    (only : Starts (· = profile) actions) : Announced profile (actions ++ earlier) := by
  obtain ⟨between, before, rfl, none_⟩ := announced
  refine ⟨actions ++ between, before, by simp, fun other endpoint member => ?_⟩
  exact (List.mem_append.mp member).elim (only other endpoint) (none_ other endpoint)

theorem Warned.later (warned : Warned tier2 earlier) (none_ : Starts (fun _ => False) actions) :
    Warned tier2 (actions ++ earlier) := by
  induction actions with
  | nil => exact warned
  | cons action _ ih =>
    refine ⟨fun profile endpoint start => ?_, ih fun p x member => none_ p x (.tail _ member)⟩
    exact absurd (start ▸ .head _) (none_ profile endpoint)

/-- What a tunnel is up or starting for has been announced. -/
def Carries (tier2 : ProfileId → Bool) (e : Engine) (earlier : List Action) : Prop :=
  ∀ profile, e.phase.tunnel.map Prod.fst = some profile → tier2 profile = true →
    Announced profile earlier

theorem startTunnel_said (e : Engine) (profile : ProfileId) (endpoint : EndpointId)
    (because : String) : (e.startTunnel profile endpoint because).2 =
      [.emit (.profileSelected profile because)] ++
        (if isTier2 e.tiers profile then [.warnTier2 profile] else []) ++
          [.startTunnel profile endpoint] := by
  have same : isTier2 e.tiers profile =
      (e.profiles.find? (fun p => p.id == profile)).any (fun p => p.tier == .tier2) := by
    rw [isTier2, tiers, List.find?_map, Option.any_map]
    rfl
  rw [same]
  rfl

theorem warned_start {endpoint : EndpointId} (warned : Warned tier2 earlier)
    (announced : tier2 profile = true → Announced profile earlier)
    (phase : after.phase = .starting profile endpoint) :
    Warned tier2 (.startTunnel profile endpoint :: earlier) ∧
      Carries tier2 after (.startTunnel profile endpoint :: earlier) := by
  refine ⟨⟨fun other _ same => ?_, warned⟩, fun other tunnel high => ?_⟩
  · cases same
    exact announced
  · rw [phase] at tunnel
    cases tunnel
    have again : Starts (· = profile) [.startTunnel profile endpoint] := by simp [Starts]
    exact (announced high).later again

theorem Speaks.warned (speaks : Speaks e after actions) (warned : Warned (isTier2 e.tiers) earlier)
    (carries : Carries (isTier2 e.tiers) e earlier) :
    Warned (isTier2 e.tiers) (actions.reverse ++ earlier) ∧
      Carries (isTier2 e.tiers) after (actions.reverse ++ earlier) := by
  cases speaks with
  | quiet none_ kept =>
    have silent : Starts (fun _ => False) actions.reverse := by simpa [Starts] using none_
    refine ⟨warned.later silent, fun profile tunnel high => ?_⟩
    exact (carries profile (kept profile tunnel) high).later fun p x member =>
      (silent p x member).elim
  | @fresh before _ profile _ because none_ same phase =>
    have silent : Starts (fun _ => False) before.reverse := by simpa [Starts] using none_
    rw [startTunnel_said, same]
    by_cases high : isTier2 e.tiers profile = true
    · have rest : Warned (isTier2 e.tiers) ([.warnTier2 profile,
          .emit (.profileSelected profile because)] ++ (before.reverse ++ earlier)) :=
        (warned.later silent).later (by simp [Starts])
      simpa [high] using warned_start rest (fun _ => ⟨[], _, rfl, by simp [Starts]⟩) phase
    · have rest : Warned (isTier2 e.tiers)
          ([.emit (.profileSelected profile because)] ++ (before.reverse ++ earlier)) :=
        (warned.later silent).later (by simp [Starts])
      simpa [high] using warned_start rest (fun tier => absurd tier high) phase
  | @moved event _ _ carried phase =>
    have before : Warned (isTier2 e.tiers) ([.stopTunnel, .emit event] ++ earlier) :=
      warned.later (by simp [Starts])
    exact warned_start before (fun high => (carries _ carried high).later (by simp [Starts])) phase

theorem run_warned {start : Engine} (rest : start.phase.atRest = true) {history : History}
    (run : Run Steps start history e) : e.tiers = start.tiers ∧
      Warned (isTier2 start.tiers) (sinceConnect history) ∧
      Carries (isTier2 start.tiers) e (sinceConnect history) := by
  refine run_invariant (fun history e => e.tiers = start.tiers ∧
    Warned (isTier2 start.tiers) (sinceConnect history) ∧
      Carries (isTier2 start.tiers) e (sinceConnect history)) ?_ ?_ run
  · refine ⟨rfl, trivial, fun profile tunnel => ?_⟩
    rw [Phase.tunnel_of_atRest rest] at tunnel
    cases tunnel
  · rintro older before observed after _ ⟨same, warned, carries⟩ taken
    have path := steps_path taken
    rw [← same] at warned carries ⊢
    refine ⟨path_tiers path, ?_⟩
    rw [sinceConnect]
    split
    next accepts =>
      refine (path_speaks path).warned trivial fun profile tunnel => ?_
      rw [Phase.tunnel_of_atRest (Bool.and_eq_true_iff.mp accepts).2] at tunnel
      cases tunnel
    next => exact (path_speaks path).warned warned carries

/-- Every start of a tunnel of a tier 2 profile, however it came about, was announced since the last
accepted connect, with no other profile started in between. -/
theorem tier2_announced_first (profiles : List ConnectionProfile) (endpoints : List Endpoint)
    (history : History) (e : Engine) (run : Run Steps (Engine.new profiles endpoints) history e) :
    Warned (isTier2 (Engine.new profiles endpoints).tiers) (sinceConnect history) :=
  (run_warned rfl run).2.1

/-- Named, lost and moved to another endpoint: the second start is of the profile announced. -/
theorem tier2_announced_moved :
    let start := Engine.new [⟨⟨"amneziawg"⟩, .amneziaWg, .tier2, .untested⟩]
      [⟨⟨1⟩, "first", {}, true⟩, ⟨⟨2⟩, "second", {}, true⟩]
    let played := play start [(.connect (some ⟨"amneziawg"⟩), 0), (.endpointProbe ⟨1⟩ .failed, 1)]
    .startTunnel ⟨"amneziawg"⟩ ⟨2⟩ ∈ sinceConnect played.2 ∧
      Warned (isTier2 start.tiers) (sinceConnect played.2) :=
  ⟨by decide, tier2_announced_first _ _ _ _ (play_run _ _)⟩

end DnetEngine.Engine
