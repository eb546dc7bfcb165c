import Mathlib.Data.List.Basic

/-! Finite runs of a labelled transition relation. The history of a run is kept whole, newest
step first, so that a property of a run may speak of everything that happened before. -/

namespace DnetEngine.Lib

structure Taken (State Label : Type) where
  before : State
  label : Label
  after : State

inductive Run {State Label : Type} (step : State → Label → State → Prop) (start : State) :
    List (Taken State Label) → State → Prop
  | start : Run step start [] start
  | next {history : List (Taken State Label)} {state after : State} {label : Label}
      (run : Run step start history state) (taken : step state label after) :
      Run step start (⟨state, label, after⟩ :: history) after

variable {State Label : Type} {step : State → Label → State → Prop} {start : State}

variable {state : State} {newer older : List (Taken State Label)}

variable {history : List (Taken State Label)}

theorem run_invariant (holds : List (Taken State Label) → State → Prop) (initial : holds [] start)
    (preserved : ∀ history state label after, Run step start history state →
      holds history state → step state label after →
      holds (⟨state, label, after⟩ :: history) after) (run : Run step start history state) :
    holds history state := by
  induction run with
  | start => exact initial
  | next run taken ih => exact preserved _ _ _ _ run ih taken

theorem run_state_invariant (holds : State → Prop) (initial : holds start)
    (preserved : ∀ state label after, holds state → step state label after → holds after)
    (run : Run step start history state) : holds state :=
  run_invariant (fun _ state => holds state) initial
    (fun _ state label after _ holding taken => preserved state label after holding taken) run

theorem run_split (run : Run step start (newer ++ older) state) :
    ∃ middle, Run step start older middle ∧ Run step middle newer state := by
  induction newer generalizing state with
  | nil => exact ⟨state, run, .start⟩
  | cons _ _ ih =>
    cases run with
    | next earlier last =>
      obtain ⟨middle, first, second⟩ := ih earlier
      exact ⟨middle, first, second.next last⟩

theorem run_append {middle : State} (first : Run step start older middle)
    (second : Run step middle newer state) :
    Run step start (newer ++ older) state := by
  induction second with
  | start => exact first
  | next _ taken ih => exact ih.next taken

theorem run_taken {taken : Taken State Label} (run : Run step start (newer ++ taken :: older) state)
    :
    Run step start older taken.before ∧ step taken.before taken.label taken.after ∧
      Run step taken.after newer state := by
  obtain ⟨middle, first, second⟩ := run_split run
  cases first with
  | next earlier last => exact ⟨earlier, last, second⟩

/-- A machine each of whose moves lowers a number comes to an end. -/
theorem run_to_end (move : State → Option State) (left : State → Nat)
    (lowers : ∀ state after, move state = some after → left after < left state) (start : State) :
    ∃ history last, Run (fun state (_ : Unit) after => move state = some after) start history last ∧
      move last = none := by
  induction budget : left start using Nat.strongRecOn generalizing start with
  | ind _ ih =>
    cases moves : move start with
    | none => exact ⟨[], start, .start, moves⟩
    | some next =>
      have lower := lowers start next moves
      obtain ⟨history, last, run, ended⟩ := ih (left next) (by omega) next rfl
      have first : Run (fun state (_ : Unit) after => move state = some after) start
          [⟨start, (), next⟩] next := Run.start.next moves
      exact ⟨_, last, run_append first run, ended⟩

section Follow

variable (move : State → Label → Option State)

/-- One more label, the state left as it is where that is not possible. -/
def followOne (followed : State × List (Taken State Label)) (label : Label) :
    State × List (Taken State Label) :=
  match move followed.1 label with
  | some after => (after, ⟨followed.1, label, after⟩ :: followed.2)
  | none => followed

def follow (start : State) (labels : List Label) : State × List (Taken State Label) :=
  labels.foldl (followOne move) (start, [])

theorem followOne_run (followed : State × List (Taken State Label)) (label : Label)
    (run : Run (fun state label after => move state label = some after) start
      followed.2 followed.1) :
    Run (fun state label after => move state label = some after) start
      (followOne move followed label).2 (followOne move followed label).1 := by
  rw [followOne]
  split
  next after moves => exact run.next moves
  next => exact run

theorem follow_run (start : State) (labels : List Label) :
    Run (fun state label after => move state label = some after) start
      (follow move start labels).2 (follow move start labels).1 := by
  refine List.foldlRecOn (motive := fun (followed : State × List (Taken State Label)) =>
    Run (fun state label after => move state label = some after) start followed.2 followed.1)
    labels _ ?_ ?_
  · exact .start
  · exact fun followed run label _ => followOne_run move followed label run

end Follow

end DnetEngine.Lib
