import Mathlib.Data.List.Nodup
import Mathlib.Order.Basic

/-! High-water marks: a machine that puts out values of ever higher rank, although its state need
not remember the last one. What it does remember is that the last rank is a bound. -/

namespace DnetEngine.Lib

variable {State Input Output Rank : Type}

/-- What is put out on a sequence of inputs, in order. -/
def outputs (step : State → Input → State) (emit : State → Input → Option Output) :
    State → List Input → List Output
  | _, [] => []
  | state, input :: rest =>
    (emit state input).toList ++ outputs step emit (step state input) rest

/-- `bounds state mark` says that in `state` everything yet to come ranks above `mark`. Each step
keeps the bounds there are, and adds the rank of what it puts out. -/
structure HighWater [Preorder Rank] (step : State → Input → State)
    (emit : State → Input → Option Output) (rank : Output → Rank)
    (bounds : State → Rank → Prop) : Prop where
  above : ∀ {state input output mark}, bounds state mark → emit state input = some output →
    mark < rank output
  raised : ∀ {state input output}, emit state input = some output →
    bounds (step state input) (rank output)
  kept : ∀ {state input mark}, bounds state mark → bounds (step state input) mark

namespace HighWater

variable [Preorder Rank] {step : State → Input → State} {emit : State → Input → Option Output}
  {rank : Output → Rank} {bounds : State → Rank → Prop}

variable (marks : HighWater step emit rank bounds)

include marks

variable (inputs : List Input)

theorem above_all {state : State} {mark : Rank} (bounded : bounds state mark) :
    ∀ output ∈ outputs step emit state inputs, mark < rank output := by
  induction inputs generalizing state with
  | nil => exact fun _ member => absurd member List.not_mem_nil
  | cons _ _ ih =>
    intro output member
    rcases List.mem_append.mp member with first | later
    · exact marks.above bounded (Option.mem_toList.mp first)
    · exact ih (marks.kept bounded) output later

theorem kept_all {state : State} {mark : Rank} (bounded : bounds state mark) :
    bounds (inputs.foldl step state) mark := by
  induction inputs generalizing state with
  | nil => exact bounded
  | cons _ _ ih => exact ih (marks.kept bounded)

theorem increasing (state : State) :
    (outputs step emit state inputs).Pairwise (fun first second => rank first < rank second) := by
  induction inputs generalizing state with
  | nil => exact .nil
  | cons input rest ih =>
    apply List.pairwise_append.mpr
    refine ⟨?_, ih (step state input), ?_⟩
    · cases emit state input with
      | none => exact .nil
      | some => exact List.pairwise_singleton _ _
    · intro output first later member
      exact marks.above_all rest (marks.raised (Option.mem_toList.mp first)) later member

theorem unique (state : State) :
    ∀ first ∈ outputs step emit state inputs, ∀ second ∈ outputs step emit state inputs,
      rank first = rank second → first = second := by
  have distinct : ((outputs step emit state inputs).map rank).Nodup := by
    rw [List.Nodup, List.pairwise_map]
    exact (marks.increasing inputs state).imp ne_of_lt
  intro first firstIn second secondIn same
  exact List.inj_on_of_nodup_map distinct firstIn secondIn same

end HighWater

end DnetEngine.Lib
