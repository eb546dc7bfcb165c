import DnetEngine.Core.EngineDiscipline

/-! A profile the user names is tried alone: from the connect that names it until its tunnel is up
nothing that arrives makes the engine race or start another. -/

namespace DnetEngine.Engine

open Lib

def tries : Action → Option (List ProfileId)
  | .startRace profiles _ => some profiles
  | .startTunnel profile _ => some [profile]
  | .emit _ | .cancelRace | .stopTunnel | .warnTier2 _ => none

variable {actions : List Action} {profile : ProfileId} {e : Engine}

theorem mem_control_of_tries {action : Action} {tried : List ProfileId} (member : action ∈ actions)
    (trying : tries action = some tried) :
    action ∈ control actions := by
  refine List.mem_filter.mpr ⟨member, ?_⟩
  cases action <;> first | rfl | cases trying

def TriesOnly (profile : ProfileId) (actions : List Action) : Prop :=
  ∀ action ∈ actions, ∀ tried, tries action = some tried → tried = [profile]

theorem triesOnly_of_control (only : TriesOnly profile (control actions)) :
    TriesOnly profile actions := by
  intro action member tried trying
  exact only action (mem_control_of_tries member trying) tried trying

/-- The attempt the user named `profile` for is still racing or starting it. -/
structure Naming (profile : ProfileId) (e : Engine) : Prop where
  asked : e.requested = some profile
  alone : (e.phase = .probing ∧ e.raced = [profile]) ∨
    ∃ endpoint, e.phase = .starting profile endpoint

def AcceptsConnect (profile : ProfileId) (taken : Taken Engine Observed) : Prop :=
  taken.label.input = .connect (some profile) ∧ taken.before.phase.atRest = true

/-- `taken` neither begins after the attempt is over nor is the news that its tunnel is up. -/
def beforeUp (taken : Taken Engine Observed) : Bool :=
  match taken.label.input, taken.before.phase with
  | .tunnelUp, .starting _ _ => false
  | _, phase => !phase.atRest

theorem beforeUp_iff (taken : Taken Engine Observed) :
    beforeUp taken = true ↔ taken.before.phase.atRest = false ∧
      ¬ (taken.label.input = .tunnelUp ∧
        ∃ profile endpoint, taken.before.phase = .starting profile endpoint) := by
  unfold beforeUp
  split
  next up starting => simp [up, starting]
  next other =>
    simp only [Bool.not_eq_true']
    refine ⟨fun active => ⟨active, ?_⟩, fun both => both.1⟩
    rintro ⟨up, profile, endpoint, starting⟩
    exact other profile endpoint up starting

theorem path_accepted {now : Instant} {outcome : Outcome} (rest : e.phase.atRest = true)
    (path : Path e now (.connect (some profile)) outcome) :
    (outcome.1.phase.atRest = true ∨ Naming profile outcome.1) ∧
      TriesOnly profile (control outcome.2) := by
  cases path with
  | ignored ignores =>
    rw [Ignores, rest] at ignores
    cases ignores
  | told => exact ⟨.inl rest, by simp [TriesOnly, control, isControl]⟩
  | connectFailed => exact ⟨.inl rfl, by simp [TriesOnly]⟩
  | connectDirect _ _ _ direct =>
    cases direct with
    | named =>
      exact ⟨.inr ⟨rfl, .inr ⟨_, rfl⟩⟩, by simp [TriesOnly, tries]⟩
  | connectRace _ _ races =>
    cases races with
    | named => exact ⟨.inr ⟨rfl, .inl ⟨rfl, rfl⟩⟩, by simp [TriesOnly, tries]⟩

theorem path_naming {now : Instant} {input : Input} {outcome : Outcome} (naming : Naming profile e)
    (down : ¬ (input = .tunnelUp ∧ ∃ profile endpoint, e.phase = .starting profile endpoint))
    (path : Path e now input outcome) :
    (outcome.1.phase.atRest = true ∨ Naming profile outcome.1) ∧
      TriesOnly profile (control outcome.2) := by
  have active : e.phase.atRest = false := by
    rcases naming.alone with ⟨probing, _⟩ | ⟨_, starting⟩
    · rw [probing]; rfl
    · rw [starting]; rfl
  have not_connected (other : ProfileId) (endpoint : EndpointId) :
      e.phase ≠ .connected other endpoint := by
    intro connected
    rcases naming.alone with ⟨probing, _⟩ | ⟨_, starting⟩ <;> simp_all
  have raced_alone (racing : e.phase.racing = true) : e.phase = .probing ∧ e.raced = [profile] := by
    rcases naming.alone with alone | ⟨_, starting⟩
    · exact alone
    · rw [starting] at racing
      cases racing
  cases path with
  | ignored => exact ⟨.inr naming, by simp [TriesOnly]⟩
  | told => exact ⟨.inr naming, by simp [TriesOnly, control, isControl]⟩
  | environment | reach | probed => exact ⟨.inr ⟨naming.asked, naming.alone⟩, by simp [TriesOnly]⟩
  | connectFailed rest | connectDirect rest | connectRace rest =>
    rw [rest] at active
    cases active
  | disconnected =>
    refine ⟨.inl rfl, ?_⟩
    unfold disconnect
    split <;> simp [TriesOnly, control, tries]
  | raceWon racing raced =>
    obtain ⟨_, alone⟩ := raced_alone racing
    rw [alone, List.mem_singleton] at raced
    subst raced
    exact ⟨.inr ⟨by simpa using naming.asked, .inr ⟨_, rfl⟩⟩, by simp [TriesOnly, tries]⟩
  | raceFailed => exact ⟨.inl rfl, by simp [TriesOnly]⟩
  | raceFallback racing _ open_ =>
    obtain ⟨probing, _⟩ := raced_alone racing
    rcases open_ with recovering | unnamed
    · rw [probing] at recovering
      cases recovering
    · rw [naming.asked] at unnamed
      cases unnamed
  | cameUp starting => exact absurd ⟨rfl, _, _, starting⟩ down
  | startFailed | probedTunnelLost => exact ⟨.inl rfl, by simp [TriesOnly, tries]⟩
  | checkQuiet connected | checkFailed connected | checkMoved connected | checkLost connected
  | blockedAll connected | blockedDirect connected | blockedRace connected =>
    exact absurd connected (not_connected _ _)
  | probedTunnelMoved _ carrying =>
    rcases carrying with connected | starting
    · exact absurd connected (not_connected _ _)
    · rcases naming.alone with ⟨probing, _⟩ | ⟨_, same⟩
      · rw [probing] at starting
        cases starting
      · rw [same] at starting
        cases starting
        refine ⟨.inr ⟨naming.asked, .inr ⟨_, rfl⟩⟩, ?_⟩
        simp [TriesOnly, movedTunnel, control, tries]
  | probedRaceMoved _ racing =>
    obtain ⟨_, alone⟩ := raced_alone racing
    refine ⟨.inr ⟨naming.asked, naming.alone⟩, ?_⟩
    simp [TriesOnly, movedRace, control, tries, probed, alone]
  | probedRaceLost =>
    exact ⟨.inl rfl, by simp [TriesOnly, control, tries, fail]⟩

theorem run_naming {start : Engine} {window : History}
    (first : start.phase.atRest = true ∨ Naming profile start) (run : Run Steps start window e)
    (before : ∀ later ∈ window, beforeUp later = true) :
    (e.phase.atRest = true ∨ Naming profile e) ∧
      ∀ later ∈ window, TriesOnly profile later.label.actions := by
  refine run_invariant (fun window e => (∀ later ∈ window, beforeUp later = true) →
    (e.phase.atRest = true ∨ Naming profile e) ∧
      ∀ later ∈ window, TriesOnly profile later.label.actions) ?_ ?_ run before
  · intro _
    exact ⟨first, by simp⟩
  · intro window e observed after _ holding taken before
    obtain ⟨state, earlier⟩ := holding (fun later member => before later (List.mem_cons_of_mem _ member))
    obtain ⟨active, down⟩ := (beforeUp_iff _).mp (before _ List.mem_cons_self)
    have naming : Naming profile e := state.resolve_left (by simpa using active)
    obtain ⟨next, only⟩ := path_naming naming down (steps_path taken)
    refine ⟨next, ?_⟩
    intro later member
    rcases List.mem_cons.mp member with rfl | older
    · exact triesOnly_of_control only
    · exact earlier later older

/-- Every race and every start, from the connect that names `profile` until its tunnel is up or the
attempt is over, is of `profile` alone. -/
theorem engine_named_alone (start e : Engine) (profile : ProfileId) (window older : History)
    (connect : Taken Engine Observed) (run : Run Steps start (window ++ connect :: older) e)
    (accepted : AcceptsConnect profile connect) (before : ∀ later ∈ window, beforeUp later = true) :
    ∀ taken ∈ window ++ [connect], TriesOnly profile taken.label.actions := by
  obtain ⟨_, step, later⟩ := run_taken run
  have path := steps_path step
  rw [accepted.1] at path
  obtain ⟨state, only⟩ := path_accepted accepted.2 path
  intro taken member
  rcases List.mem_append.mp member with inside | last
  · exact (run_naming state later before).2 taken inside
  · rw [List.mem_singleton.mp last]
    exact triesOnly_of_control only

/-- The endpoint is lost, a foreign winner is reported and the profile fails: no other is tried. -/
theorem engine_named_alone_failed :
    let start := Engine.new
      [⟨⟨"hysteria2"⟩, .hysteria2, .tier1, .untested⟩,
        ⟨⟨"vless-reality"⟩, .vlessReality, .tier1, .untested⟩,
        ⟨⟨"amneziawg"⟩, .amneziaWg, .tier2, .untested⟩]
      [⟨⟨1⟩, "first", {}, true⟩, ⟨⟨2⟩, "second", {}, true⟩]
    let connect : Taken Engine Observed :=
      ⟨start, ⟨.connect (some ⟨"hysteria2"⟩), 0, (start.connect (some ⟨"hysteria2"⟩)).2⟩,
        (start.connect (some ⟨"hysteria2"⟩)).1⟩
    let played := play connect.after
      [(.endpointProbe ⟨1⟩ .failed, 1),
        (.raceFinished (.selected ⟨"vless-reality"⟩ .tier1 0) [], 2),
        (.raceFinished .noneUsable [], 3)]
    played.1.phase.atRest = true ∧ played.2.length = 3 ∧
      ∀ taken ∈ played.2 ++ [connect], TriesOnly ⟨"hysteria2"⟩ taken.label.actions := by
  intro start connect played
  have run : Run Steps start (played.2 ++ [connect]) played.1 :=
    run_append (Run.start.next (rfl : Steps start connect.label connect.after))
      (play_run connect.after _)
  exact ⟨by decide, by decide,
    engine_named_alone start played.1 ⟨"hysteria2"⟩ played.2 [] connect run ⟨rfl, rfl⟩ (by decide)⟩

end DnetEngine.Engine
