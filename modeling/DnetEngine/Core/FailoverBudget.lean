import DnetEngine.Core.Failover
import DnetEngine.Lib.Run
import Mathlib.Data.Rat.Defs

/-! Over any run of evaluations the path changes no more often than the budget allows. -/

namespace DnetEngine.Failover

open Lib

structure Evaluation (Loss : Type) where
  paths : List (NetworkPath Loss)
  now : Instant
  decision : Decision

abbrev History (Loss : Type) := List (Taken FailoverState (Evaluation Loss))

/-- The machine starts with nothing carrying, or from a path already carrying. -/
def Starts (s : FailoverState) : Prop :=
  s = FailoverState.new ∨ ∃ path, s = FailoverState.carryingOn path

/-- The move replaces something that was carrying. -/
def counts : Decision → Bool
  | .move _ _ .lost | .move _ _ .degraded | .move _ _ .preferred => true
  | .move _ _ .acquired | .stay | .noPath => false

/-- The path that was carrying still worked. -/
def voluntary : Decision → Bool
  | .move _ _ .degraded | .move _ _ .preferred => true
  | .move _ _ .acquired | .move _ _ .lost | .stay | .noPath => false

section Histories

variable {Loss : Type}

/-- Time does not run backwards. -/
def InOrder (history : History Loss) : Prop :=
  history.Pairwise (fun later earlier => earlier.label.now ≤ later.label.now)

instance (history : History Loss) : Decidable (InOrder history) :=
  inferInstanceAs (Decidable (List.Pairwise _ _))

def countedMoves : History Loss → List Instant
  | [] => []
  | taken :: older =>
    countedMoves older ++ if counts taken.label.decision then [taken.label.now] else []

/-- What happened after the last time no path was left. -/
def sinceNoPath (history : History Loss) : History Loss :=
  history.takeWhile (fun taken => decide (taken.label.decision ≠ .noPath))

theorem time_of_counted {history : History Loss} {moved : Instant}
    (member : moved ∈ countedMoves history) : ∃ taken ∈ history, taken.label.now = moved := by
  induction history with
  | nil => cases member
  | cons taken _ ih =>
    rw [countedMoves, List.mem_append] at member
    rcases member with early | here
    · obtain ⟨earlier, inside, same⟩ := ih early
      exact ⟨earlier, List.mem_cons_of_mem _ inside, same⟩
    · by_cases counted : counts taken.label.decision = true
      · rw [if_pos counted, List.mem_singleton] at here
        exact ⟨taken, List.mem_cons_self, here.symm⟩
      · rw [if_neg counted] at here
        cases here

variable (cfg : FailoverConfig Loss)

/-- The state remembers the counted moves of the whole run that still count, and the last of them
since no path was left. -/
structure Remembers (history : History Loss) (s : FailoverState) : Prop where
  moves : ∀ now, (∀ taken ∈ history, taken.label.now ≤ now) →
    s.recentMoves cfg now = recent cfg.window now (countedMoves history)
  moved : ∀ moved ∈ countedMoves (sinceNoPath history), ∃ last, s.movedAt = some last ∧ moved ≤ last

theorem remembers_start {s : FailoverState} (starts : Starts s) : Remembers cfg [] s where
  moves := by
    intro now _
    rcases starts with rfl | ⟨path, rfl⟩
    · rfl
    · rfl
  moved := by
    intro moved member
    cases member

end Histories

section Budget

variable {Loss : Type} [Field Loss] [LinearOrder Loss] (cfg : FailoverConfig Loss)

def Evaluates (s : FailoverState) (evaluation : Evaluation Loss) (after : FailoverState) : Prop :=
  s.evaluate cfg evaluation.paths evaluation.now = (after, evaluation.decision)

/-- Evaluations made one after another on a list of observations, newest first. -/
def play (s : FailoverState) :
    List (List (NetworkPath Loss) × Instant) → FailoverState × History Loss
  | [] => (s, [])
  | (paths, now) :: earlier =>
    let (state, history) := play s earlier
    let (after, decision) := state.evaluate cfg paths now
    (after, ⟨state, ⟨paths, now, decision⟩, after⟩ :: history)

theorem play_run (s : FailoverState) (observed : List (List (NetworkPath Loss) × Instant)) :
    Run (Evaluates cfg) s (play cfg s observed).2 (play cfg s observed).1 := by
  induction observed with
  | nil => exact .start
  | cons _ _ ih => exact ih.next rfl

variable {s after : FailoverState} {evaluation : Evaluation Loss}

theorem evaluates_outcome (evaluates : Evaluates cfg s evaluation after) :
    FailoverState.Outcome cfg s evaluation.paths evaluation.now after evaluation.decision := by
  have outcome := FailoverState.evaluate_outcome cfg s evaluation.paths evaluation.now
  have same : s.evaluate cfg evaluation.paths evaluation.now = (after, evaluation.decision) :=
    evaluates
  rwa [same] at outcome

/-- What an evaluation does to the moves that are remembered. -/
theorem evaluates_moves (evaluates : Evaluates cfg s evaluation after) :
    (after.moves = s.recentMoves cfg evaluation.now ++
      if counts evaluation.decision then [evaluation.now] else []) ∧
    after.movedAt =
      if evaluation.decision = .noPath then none
      else if counts evaluation.decision then some evaluation.now else s.movedAt := by
  generalize taken : evaluation.decision = decision
  have outcome := evaluates_outcome cfg evaluates
  rw [taken] at outcome
  cases outcome <;> simp [counts, FailoverState.movedTo, FailoverState.refreshed,
    FailoverState.timed, FailoverState.resetTimers]

variable {history : History Loss}

theorem remembers_next (remembers : Remembers cfg history s)
    (evaluates : Evaluates cfg s evaluation after)
    (latest : ∀ taken ∈ history, taken.label.now ≤ evaluation.now) :
    Remembers cfg (⟨s, evaluation, after⟩ :: history) after where
  moves := by
    intro now past
    have here : evaluation.now ≤ now := past ⟨s, evaluation, after⟩ List.mem_cons_self
    have earlier := remembers.moves now
      (fun taken member => past taken (List.mem_cons_of_mem _ member))
    calc after.recentMoves cfg now
        = recent cfg.window now (s.recentMoves cfg evaluation.now ++
            if counts evaluation.decision then [evaluation.now] else []) := by
          rw [FailoverState.recentMoves, (evaluates_moves cfg evaluates).1]
      _ = s.recentMoves cfg now ++ recent cfg.window now
            (if counts evaluation.decision then [evaluation.now] else []) := by
          rw [recent_append, FailoverState.recentMoves, recent_recent cfg.window here]
          rfl
      _ = recent cfg.window now (countedMoves (⟨s, evaluation, after⟩ :: history)) := by
          rw [earlier, countedMoves, recent_append]
  moved := by
    intro moved member
    have stored := (evaluates_moves cfg evaluates).2
    by_cases exhausted : evaluation.decision = .noPath
    · simp [sinceNoPath, exhausted, countedMoves] at member
    · have cut : sinceNoPath (⟨s, evaluation, after⟩ :: history) =
          ⟨s, evaluation, after⟩ :: sinceNoPath history := by
        simp [sinceNoPath, exhausted]
      rw [cut, countedMoves, List.mem_append] at member
      rw [if_neg exhausted] at stored
      by_cases counted : counts evaluation.decision = true
      · rw [if_pos counted] at stored
        refine ⟨evaluation.now, stored, ?_⟩
        rcases member with early | here
        · obtain ⟨taken, inside, same⟩ := time_of_counted early
          rw [← same]
          exact latest taken (List.takeWhile_subset _ inside)
        · rw [if_pos counted, List.mem_singleton] at here
          exact le_of_eq here
      · rw [if_neg counted] at stored member
        rw [stored]
        apply remembers.moved moved
        simpa using member

theorem run_remembers {start state : FailoverState} (starts : Starts start)
    (run : Run (Evaluates cfg) start history state) (ordered : InOrder history) :
    Remembers cfg history state := by
  have invariant := run_invariant
    (fun (history : History Loss) state => InOrder history → Remembers cfg history state)
    (fun _ => remembers_start cfg starts)
    (fun history state evaluation after _ holding taken ordered => by
      obtain ⟨latest, earlier⟩ := List.pairwise_cons.mp ordered
      exact remembers_next cfg (holding earlier) taken latest) run
  exact invariant ordered

theorem evaluates_voluntary (evaluates : Evaluates cfg s evaluation after)
    (chosen : voluntary evaluation.decision = true) :
    s.dwelled cfg evaluation.now = true ∧
      (s.recentMoves cfg evaluation.now).length < cfg.maxMoves := by
  generalize taken : evaluation.decision = decision at chosen
  have outcome := evaluates_outcome cfg evaluates
  rw [taken] at outcome
  cases outcome with
  | exhausted | acquired | lost | stays => cases chosen
  | degraded _ _ _ rested budget | preferred _ _ _ rested budget => exact ⟨rested, budget⟩

end Budget

/-- At every evaluation the pruned moves are the counted moves of the run inside the window. At a
voluntary move, itself included, they are within the budget, and none was made within the dwell since
the last time no path was left. -/
theorem failover_budget {Loss : Type} [Field Loss] [LinearOrder Loss] (cfg : FailoverConfig Loss)
    (start state : FailoverState) (starts : Starts start) (newer older : History Loss)
    (taken : Taken FailoverState (Evaluation Loss))
    (run : Run (Evaluates cfg) start (newer ++ taken :: older) state)
    (ordered : InOrder (newer ++ taken :: older)) :
    taken.before.recentMoves cfg taken.label.now =
        within cfg.window taken.label.now (countedMoves older) ∧
      (voluntary taken.label.decision = true →
        (within cfg.window taken.label.now (countedMoves (taken :: older))).length ≤ cfg.maxMoves ∧
        ∀ moved ∈ countedMoves (sinceNoPath older),
          ¬(taken.label.now < moved + cfg.minDwell ∧ moved < taken.label.now)) := by
  obtain ⟨earlier, evaluates, _⟩ := run_taken run
  obtain ⟨latest, orderedOlder⟩ := List.pairwise_cons.mp (List.pairwise_append.mp ordered).2.1
  have remembers := run_remembers cfg starts earlier orderedOlder
  have past : ∀ moved ∈ countedMoves older, moved ≤ taken.label.now := by
    intro moved member
    obtain ⟨other, inside, same⟩ := time_of_counted member
    rw [← same]
    exact latest other inside
  have pruned := remembers.moves taken.label.now latest
  rw [recent_eq_within cfg.window past] at pruned
  refine ⟨pruned, ?_⟩
  intro chosen
  obtain ⟨rested, budget⟩ := evaluates_voluntary cfg evaluates chosen
  constructor
  · have single : (if counts taken.label.decision then [taken.label.now] else []).length ≤ 1 := by
      split <;> simp
    have all := length_within_append cfg.window taken.label.now (countedMoves older)
      (if counts taken.label.decision then [taken.label.now] else [])
    rw [← pruned] at all
    exact all.trans (by omega)
  · intro moved member
    obtain ⟨last, stored, before⟩ := remembers.moved moved member
    rw [FailoverState.dwelled, stored, Option.all_some, decide_eq_true_eq] at rested
    exact none_within_rest rested before

theorem failover_budget_degraded :
    let cfg : FailoverConfig Rat := ⟨⟨1 / 5, 1 / 2, 300⟩, 2, 1, 0, 5, 1, 10⟩
    let near (loss : Rat) : NetworkPath Rat := ⟨⟨1⟩, ⟨loss, some 20⟩, .standby, 0⟩
    let far : NetworkPath Rat := ⟨⟨2⟩, ⟨0, some 40⟩, .standby, 0⟩
    let played := play cfg .new [([near (3 / 10), far], 1), ([near 0], 0)]
    let last := played.1.evaluate cfg [near (3 / 10), far] 3
    last.2 = .move (some ⟨1⟩) ⟨2⟩ .degraded ∧
      (within cfg.window 3 (countedMoves
        (⟨played.1, ⟨[near (3 / 10), far], 3, last.2⟩, last.1⟩ :: played.2))).length ≤ 1 := by
  intro cfg near far played last
  have run : Run (Evaluates cfg) .new
      (⟨played.1, ⟨[near (3 / 10), far], 3, last.2⟩, last.1⟩ :: played.2) last.1 :=
    (play_run cfg .new _).next rfl
  have decided : last.2 = .move (some ⟨1⟩) ⟨2⟩ .degraded := by decide +kernel
  refine ⟨decided, ?_⟩
  have budget := failover_budget cfg .new last.1 (Or.inl rfl) [] played.2 _ run (by decide +kernel)
  exact (budget.2 (by rw [decided]; rfl)).1

end DnetEngine.Failover
