import DnetEngine.Core.EngineDiscipline

/-! When the engine gives a connection up for its live checks: the one detector counts the checks of
the stay in `connected` it is in, and nothing else that happened. -/

namespace DnetEngine

open Lib

def failuresInARow : List LiveCheck → Nat
  | .failed :: earlier => failuresInARow earlier + 1
  | .passed :: _ | [] => 0

theorem replicate_failed_isPrefix (count : Nat) (checks : List LiveCheck) :
    List.replicate count .failed <+: checks ↔ count ≤ failuresInARow checks := by
  induction count generalizing checks with
  | zero => simp
  | succ _ ih =>
    cases checks with
    | nil => simp [failuresInARow]
    | cons check =>
      cases check with
      | passed => simp [failuresInARow, List.replicate_succ]
      | failed => simp [failuresInARow, List.replicate_succ, ih]

/-- A detector that has counted these checks, newest first, and reported nothing. -/
def BlockDetector.counted (checks : List LiveCheck) : BlockDetector := ⟨failuresInARow checks, false⟩

theorem BlockDetector.observe_counted {checks : List LiveCheck}
    (few : failuresInARow checks < blockAfter) (check : LiveCheck) :
    ((∃ failures, ((counted checks).observe check).2 = .blocked failures) ↔
        blockAfter ≤ failuresInARow (check :: checks)) ∧
      (failuresInARow (check :: checks) < blockAfter →
        ((counted checks).observe check).1 = counted (check :: checks)) ∧
      ((counted checks).observe check).2 ≠ .alreadyBlocked := by
  cases check with
  | passed => simp [observe, counted, failuresInARow, blockAfter]
  | failed =>
    have counts : saturatingSucc (failuresInARow checks) = failuresInARow checks + 1 := by
      simp only [saturatingSucc, u32Max, blockAfter] at few ⊢
      omega
    by_cases many : blockAfter ≤ failuresInARow checks + 1
    · simp [observe, counted, failuresInARow, counts, many]
    · simp [observe, counted, failuresInARow, counts, many]

def Phase.isConnected : Phase → Bool
  | .connected _ _ => true
  | .idle | .probing | .starting _ _ | .recovering | .failed _ => false

theorem Phase.isConnected_of_racing {phase : Phase} (racing : phase.racing = true) :
    phase.isConnected = false := by
  cases phase with
  | probing | recovering => rfl
  | _ => cases racing

namespace Engine

/-- The `TunnelUp` with which a stay in `connected` begins. -/
def entersConnected (taken : Taken Engine Observed) : Bool :=
  match taken.label.input, taken.before.phase with
  | .tunnelUp, .starting _ _ => true
  | _, _ => false

def liveCheck? : Input → Option LiveCheck
  | .liveCheck check => some check
  | _ => none

/-- The live checks since the last stay in `connected` began, newest first. -/
def liveChecks (history : History) : List LiveCheck :=
  (history.takeWhile (fun taken => !entersConnected taken)).filterMap
    (fun taken => liveCheck? taken.label.input)

/-- A step as far as the detector sees it. -/
inductive Watched (e after : Engine) : Input → Prop
  | kept {input : Input} (phase : after.phase = e.phase) (detector : after.detector = e.detector)
      (unchecked : e.phase.isConnected = true → liveCheck? input = none) : Watched e after input
  | entered {profile : ProfileId} {endpoint : EndpointId}
      (starting : e.phase = .starting profile endpoint) (fresh : after.detector = {}) :
      Watched e after .tunnelUp
  | checked {check : LiveCheck} (phase : after.phase = e.phase)
      (quiet : ∀ failures, (e.detector.observe check).2 ≠ .blocked failures)
      (counted : after.detector = (e.detector.observe check).1) :
      Watched e after (.liveCheck check)
  | blocked {check : LiveCheck} {failures : Nat} (gone : after.phase.isConnected = false)
      (blocks : (e.detector.observe check).2 = .blocked failures) :
      Watched e after (.liveCheck check)
  | left {input : Input} (gone : after.phase.isConnected = false)
      (unchecked : liveCheck? input = none) : Watched e after input

variable {e : Engine} {now : Instant}

theorem path_watched {input : Input} {outcome : Outcome} (path : Path e now input outcome) :
    Watched e outcome.1 input := by
  cases path with
  | ignored ignores =>
    refine .kept rfl rfl fun connected => ?_
    cases input with
    | liveCheck =>
      cases phase : e.phase with
      | connected profile endpoint => exact absurd phase (ignores profile endpoint)
      | _ => rw [phase] at connected; cases connected
    | _ => rfl
  | told tells =>
    refine .kept rfl rfl fun _ => ?_
    obtain ⟨_, _, _, ⟨_, _, _, rfl, _⟩ | ⟨_, rfl, _⟩ | ⟨_, rfl, _⟩⟩ := tells <;> rfl
  | environment | reach | probed => exact .kept rfl rfl fun _ => rfl
  | connectFailed | connectDirect | connectRace | raceWon | raceFailed | raceFallback | startFailed
  | probedTunnelMoved | probedTunnelLost | probedRaceLost => exact .left rfl rfl
  | disconnected =>
    refine .left ?_ rfl
    unfold disconnect
    split <;> rfl
  | cameUp starting => exact .entered starting rfl
  | checkQuiet _ quiet => exact .checked rfl quiet rfl
  | checkFailed _ blocks | checkMoved _ blocks | checkLost _ blocks | blockedAll _ blocks
  | blockedDirect _ blocks | blockedRace _ blocks => exact .blocked rfl blocks
  | probedRaceMoved _ racing => exact .left (Phase.isConnected_of_racing racing) rfl

/-- In `connected` the detector has counted the live checks of the stay, and reported no block. -/
structure Counts (history : History) (e : Engine) : Prop where
  detector : e.detector = .counted (liveChecks history)
  few : failuresInARow (liveChecks history) < blockAfter

variable {history : History}

theorem liveChecks_cons {taken : Taken Engine Observed}
    (inside : taken.before.phase.isConnected = true) :
    liveChecks (taken :: history) =
      (liveCheck? taken.label.input).toList ++ liveChecks history := by
  have goesOn : entersConnected taken = false := by
    unfold entersConnected
    split
    next starting => rw [starting] at inside; cases inside
    next => rfl
  rw [liveChecks, List.takeWhile_cons_of_pos (by simp [goesOn])]
  cases asked : liveCheck? taken.label.input with
  | none => exact List.filterMap_cons_none asked
  | some => exact List.filterMap_cons_some asked

theorem counts_next {after : Engine} {observed : Observed}
    (counts : e.phase.isConnected = true → Counts history e) (taken : Steps e observed after)
    (connected : after.phase.isConnected = true) :
    Counts (⟨e, observed, after⟩ :: history) after := by
  obtain ⟨input, now, actions⟩ := observed
  cases path_watched (step_path e now input (after, actions) taken) with
  | kept phase detector unchecked =>
    have inside : e.phase.isConnected = true := phase ▸ connected
    have same : liveChecks (⟨e, ⟨input, now, actions⟩, after⟩ :: history) = liveChecks history := by
      rw [liveChecks_cons inside, unchecked inside]
      rfl
    exact ⟨by rw [detector, same, (counts inside).detector], by rw [same]; exact (counts inside).few⟩
  | entered starting fresh =>
    have none_ : liveChecks (⟨e, ⟨.tunnelUp, now, actions⟩, after⟩ :: history) = [] := by
      rw [liveChecks, List.takeWhile_cons_of_neg (by simp [entersConnected, starting])]
      rfl
    exact ⟨by rw [fresh, none_]; rfl, by rw [none_]; decide⟩
  | @checked check phase quiet counted =>
    have inside : e.phase.isConnected = true := phase ▸ connected
    have one : liveChecks (⟨e, ⟨.liveCheck check, now, actions⟩, after⟩ :: history) =
        check :: liveChecks history := liveChecks_cons inside
    obtain ⟨blocks, counts_, _⟩ := BlockDetector.observe_counted (counts inside).few check
    rw [← (counts inside).detector] at blocks counts_
    have few : failuresInARow (check :: liveChecks history) < blockAfter := by
      refine Nat.lt_of_not_le fun many => ?_
      obtain ⟨failures, blocked⟩ := blocks.mpr many
      exact quiet failures blocked
    exact ⟨by rw [counted, one, counts_ few], by rw [one]; exact few⟩
  | blocked gone | left gone => exact absurd connected (by rw [gone]; exact Bool.false_ne_true)

theorem run_counts {profiles : List ConnectionProfile} {endpoints : List Endpoint}
    (run : Run Steps (Engine.new profiles endpoints) history e) :
    e.phase.isConnected = true → Counts history e :=
  run_invariant (fun history e => e.phase.isConnected = true → Counts history e)
    (fun connected => by cases connected)
    (fun _ _ _ _ _ counts taken => counts_next counts taken) run

/-- In `connected` a live check is always carried out. The engine leaves `connected` by it exactly if
it and the ones right before it in this stay have failed, `blockAfter` of them; and the detector is
never asked again once it has reported a block. -/
theorem given_up_iff_checks_failed {profiles : List ConnectionProfile} {endpoints : List Endpoint}
    {history : History} (run : Run Steps (Engine.new profiles endpoints) history e)
    (connected : e.phase.isConnected = true) (check : LiveCheck) (now : Instant) :
    (∃ after actions, e.step (.liveCheck check) now = .ok (after, actions) ∧
      (after.phase.isConnected = false ↔
        List.replicate blockAfter .failed <+: check :: liveChecks history)) ∧
      (e.detector.observe check).2 ≠ .alreadyBlocked := by
  have counts := run_counts run connected
  obtain ⟨blocks, _, asked⟩ := BlockDetector.observe_counted counts.few check
  rw [← counts.detector] at blocks asked
  refine ⟨?_, asked⟩
  have answers := step_answers e now (.liveCheck check)
  generalize e.step (.liveCheck check) now = answer at answers ⊢
  cases answers with
  | @path _ outcome path =>
    refine ⟨outcome.1, outcome.2, rfl, ?_⟩
    rw [replicate_failed_isPrefix, ← blocks]
    generalize told : Input.liveCheck check = input at path
    cases path_watched path with
    | kept _ _ unchecked =>
      rw [← told] at unchecked
      cases unchecked connected
    | entered => cases told
    | checked phase quiet =>
      cases told
      rw [phase, connected]
      simpa using quiet
    | blocked gone blocks_ =>
      cases told
      exact ⟨fun _ => ⟨_, blocks_⟩, fun _ => gone⟩
    | left _ unchecked =>
      rw [← told] at unchecked
      cases unchecked

/-- Two checks fail in a first stay, and two in a second; the next one ends that. -/
theorem given_up_iff_checks_failed_again :
    let profiles : List ConnectionProfile := [⟨⟨"amneziawg"⟩, .amneziaWg, .tier2, .untested⟩]
    let endpoints : List Endpoint := [⟨⟨1⟩, "first", {}, true⟩]
    let played := play (Engine.new profiles endpoints)
      [(.connect none, 0), (.tunnelUp, 1), (.liveCheck .failed, 2), (.liveCheck .failed, 3),
        (.disconnect, 4), (.liveCheck .failed, 5), (.connect none, 6), (.tunnelUp, 7),
        (.liveCheck .failed, 8), (.reach [.unknown], 9), (.liveCheck .failed, 10)]
    liveChecks played.2 = [.failed, .failed] ∧
      ∃ after actions, played.1.step (.liveCheck .failed) 11 = .ok (after, actions) ∧
        after.phase.isConnected = false := by
  intro profiles endpoints played
  have run : Run Steps (Engine.new profiles endpoints) played.2 played.1 := play_run _ _
  obtain ⟨⟨after, actions, done, left⟩, _⟩ :=
    given_up_iff_checks_failed run (by decide) .failed 11
  exact ⟨by decide, after, actions, done, left.mpr (by decide)⟩

end Engine

end DnetEngine
