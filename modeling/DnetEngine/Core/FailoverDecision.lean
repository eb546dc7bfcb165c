import DnetEngine.Core.FailoverEvidence
import Mathlib.Data.Prod.Lex
import Mathlib.Order.Compare

/-! What a decision means: when it is forced, which path is then chosen, and that the reason given
for staying is the reason. -/

namespace DnetEngine.Failover

open Lib

section Choice

variable {Loss : Type} [LinearOrder Loss] (cfg : FailoverConfig Loss)

/-- The round-trip time by which a path is ranked; a path without one counts as the slowest. -/
def rankedRtt (p : NetworkPath Loss) : Duration := p.quality.rttEwma.getD Duration.maximum

/-- A higher band, then a higher preference, then a lower round-trip time, then a lower loss. -/
def Precedes (a b : NetworkPath Loss) : Prop :=
  bandOf cfg b < bandOf cfg a ∨ bandOf cfg a = bandOf cfg b ∧
    (b.preference < a.preference ∨ a.preference = b.preference ∧
      (rankedRtt a < rankedRtt b ∨ rankedRtt a = rankedRtt b ∧
        a.quality.lossEwma < b.quality.lossEwma))

def rankKey (p : NetworkPath Loss) : ℕᵒᵈ ×ₗ ℤᵒᵈ ×ₗ ℕ ×ₗ Loss :=
  toLex (.toDual (bandOf cfg p).ord, toLex (.toDual p.preference,
    toLex (rankedRtt p, p.quality.lossEwma)))

theorem ord_inj {a b : QualityBand} : a.ord = b.ord ↔ a = b := by
  cases a <;> cases b <;> decide

variable {a b : NetworkPath Loss}

theorem precedes_iff : Precedes cfg a b ↔ rankKey cfg a < rankKey cfg b := by
  simp only [rankKey, Prod.Lex.toLex_lt_toLex,
    OrderDual.toDual_inj, ord_inj]
  rfl

theorem ranking_gt : ranking cfg a b = .gt ↔ Precedes cfg b a := by
  simp only [ranking, Ordering.then_eq_gt, compare_gt_iff_gt, compare_eq_iff_eq, ord_inj]
  constructor
  · rintro (higher | ⟨same, rest⟩)
    · exact .inl higher
    · exact .inr ⟨same, by tauto⟩
  · rintro (higher | ⟨same, rest⟩)
    · exact .inl higher
    · exact .inr ⟨same, by tauto⟩

theorem ranking_le :
    ranking cfg a b ≠ .gt ↔ rankKey cfg a ≤ rankKey cfg b := by
  rw [Ne, ranking_gt, precedes_iff, not_lt]

theorem best_first {paths : List (NetworkPath Loss)} {target : NetworkPath Loss}
    (chosen : best cfg paths (fun _ => true) = some target) :
    ∃ before after, paths = before ++ target :: after ∧
      (∀ p ∈ before, usable p = true → Precedes cfg target p) ∧
      ∀ p ∈ after, usable p = true → ¬ Precedes cfg p target := by
  have trans (a b c : NetworkPath Loss) (one : ranking cfg a b ≠ .gt) (two : ranking cfg b c ≠ .gt) :
      ranking cfg a c ≠ .gt :=
    (ranking_le cfg).mpr (((ranking_le cfg).mp one).trans ((ranking_le cfg).mp two))
  have total (a b : NetworkPath Loss) (greater : ranking cfg a b = .gt) : ranking cfg b a ≠ .gt :=
    (ranking_le cfg).mpr ((precedes_iff cfg).mp ((ranking_gt cfg).mp greater)).le
  obtain ⟨before, after, listed, first⟩ := minBy_first trans total chosen
  obtain ⟨earlier, rest, split, keptEarlier, keptRest⟩ := List.filter_eq_append_iff.mp listed
  obtain ⟨skipped, later, splitRest, unusable, _, keptLater⟩ := List.filter_eq_cons_iff.mp keptRest
  refine ⟨earlier ++ skipped, later, by rw [split, splitRest, List.append_assoc], ?_, ?_⟩
  · intro p member working
    rcases List.mem_append.mp member with inside | inside
    · apply (ranking_gt cfg).mp
      apply first.before
      rw [← keptEarlier]
      exact List.mem_filter.mpr ⟨inside, by simpa using working⟩
    · exact absurd (by simpa using working) (unusable p inside)
  · intro p member working precedes
    refine first.after p ?_ ((ranking_gt cfg).mpr precedes)
    rw [← keptLater]
    exact List.mem_filter.mpr ⟨member, by simpa using working⟩

end Choice

theorem carryingPath_of_mem {Loss : Type} {s : FailoverState} {paths : List (NetworkPath Loss)}
    (distinct : (paths.map NetworkPath.interfaceId).Nodup) {p : NetworkPath Loss}
    (listed : p ∈ paths) (carrying : s.carrying = some p.interfaceId) (working : usable p = true) :
    s.carryingPath paths = some p := by
  have found : paths.find? (fun other => other.interfaceId == p.interfaceId) = some p :=
    find?_key NetworkPath.interfaceId paths p distinct listed
  rw [FailoverState.carryingPath, carrying, Option.filter_eq_some_iff]
  exact ⟨found, working⟩

theorem carryingPath_none {Loss : Type} {s : FailoverState} {paths : List (NetworkPath Loss)}
    (distinct : (paths.map NetworkPath.interfaceId).Nodup) :
    s.carryingPath paths = none ↔
      ∀ p ∈ paths, s.carrying = some p.interfaceId → usable p = false := by
  constructor
  · intro nothing p listed carrying
    by_contra working
    rw [carryingPath_of_mem distinct listed carrying (by simpa using working)] at nothing
    cases nothing
  · intro unusable
    cases carries : s.carryingPath paths with
    | none => rfl
    | some current =>
      obtain ⟨carrying, listed, working⟩ := carryingPath_some carries
      rw [unusable current listed carrying] at working
      cases working

section Evaluation

variable {Loss : Type} [Field Loss] [LinearOrder Loss] (cfg : FailoverConfig Loss)

variable {s : FailoverState} {paths : List (NetworkPath Loss)} {current : NetworkPath Loss}

/-- A decision is forced exactly where nothing usable carries, and then made at once and for the best
path there is. -/
theorem forced_failover (cfg : FailoverConfig Loss) (s : FailoverState)
    (paths : List (NetworkPath Loss)) (now : Instant)
    (distinct : (paths.map NetworkPath.interfaceId).Nodup) (next : FailoverState)
    (decision : Decision) (evaluated : s.evaluate cfg paths now = (next, decision)) :
    (decision = .noPath ↔ ∀ p ∈ paths, usable p = false) ∧
    (decision = .noPath → next.carrying = none) ∧
    ((∃ source target, decision = .move source target .acquired) ↔
      s.carrying = none ∧ ∃ p ∈ paths, usable p = true) ∧
    ((∃ source target, decision = .move source target .lost) ↔
      (∃ id, s.carrying = some id ∧ ∀ p ∈ paths, p.interfaceId = id → usable p = false) ∧
        ∃ p ∈ paths, usable p = true) ∧
    (decision = .stay → ∃ p ∈ paths, usable p = true ∧ s.carrying = some p.interfaceId ∧
      next.carrying = some p.interfaceId) ∧
    (∀ source target reason, decision = .move source target reason →
      source = s.carrying ∧ next.carrying = some target ∧
      ∃ before p after, paths = before ++ p :: after ∧ p.interfaceId = target ∧ usable p = true ∧
        (reason = .acquired ∨ reason = .lost →
          (∀ other ∈ before, usable other = true → Precedes cfg p other) ∧
          ∀ other ∈ after, usable other = true → ¬ Precedes cfg other p)) := by
  cases carries : s.carryingPath paths with
  | some current =>
    obtain ⟨carrying, listed, working⟩ := carryingPath_some carries
    have someUsable : ¬ ∀ p ∈ paths, usable p = false := by
      intro unusable
      rw [unusable current listed] at working
      cases working
    have notGone : ¬ ((∃ id, s.carrying = some id ∧
        ∀ p ∈ paths, p.interfaceId = id → usable p = false) ∧ ∃ p ∈ paths, usable p = true) := by
      rintro ⟨⟨id, carried, gone⟩, _⟩
      rw [carrying, Option.some_inj] at carried
      rw [gone current listed carried] at working
      cases working
    have outcome := FailoverState.evaluate_outcome cfg s paths now
    rw [evaluated] at outcome
    have free : decision = .stay ∨ ∃ source target reason, decision = .move source target reason ∧
        (reason = .degraded ∨ reason = .preferred) := by
      cases outcome <;> simp_all
    rcases free with rfl | ⟨source, target, reason, rfl, free⟩
    · have kept : next.carrying = s.carrying := by cases outcome; rfl
      refine ⟨iff_of_false (by simp) someUsable, by simp, ?_, ?_, ?_, by simp⟩
      · exact iff_of_false (by simp) (by simp [carrying])
      · exact iff_of_false (by simp) notGone
      · exact fun _ => ⟨current, listed, working, carrying, kept.trans carrying⟩
    · obtain ⟨left, arrived, p, present, same, usableTarget⟩ := outcome.moves
      refine ⟨iff_of_false (by simp) someUsable, by simp, ?_, ?_, by simp, ?_⟩
      · exact iff_of_false (by rcases free with rfl | rfl <;> simp) (by simp [carrying])
      · exact iff_of_false (by rcases free with rfl | rfl <;> simp) notGone
      · rintro _ _ _ ⟨⟩
        obtain ⟨before, after, split⟩ := List.append_of_mem present
        refine ⟨left, arrived, before, p, after, split, same, usableTarget, fun forced => ?_⟩
        rcases free with rfl | rfl <;> simp at forced
  | none =>
    have gone := (carryingPath_none distinct).mp carries
    rw [FailoverState.evaluate, carries] at evaluated
    cases chosen : best cfg paths (fun _ => true) with
    | none =>
      have unusable := best_none.mp chosen
      have noneUsable : ¬ ∃ p ∈ paths, usable p = true := by
        rintro ⟨p, listed, working⟩
        rw [unusable p listed] at working
        cases working
      rw [chosen] at evaluated
      cases evaluated
      refine ⟨iff_of_true rfl unusable, fun _ => rfl, ?_, ?_, by simp, by simp⟩
      · exact iff_of_false (by simp) (fun both => noneUsable both.2)
      · exact iff_of_false (by simp) (fun both => noneUsable both.2)
    | some target =>
      obtain ⟨listed, working, _⟩ := best_some chosen
      obtain ⟨before, after, split, first⟩ := best_first cfg chosen
      have someUsable : ¬ ∀ p ∈ paths, usable p = false := by
        intro unusable
        rw [unusable target listed] at working
        cases working
      rw [chosen] at evaluated
      cases evaluated
      refine ⟨iff_of_false (by simp) someUsable, by simp, ?_, ?_, by simp, ?_⟩
      · cases carried : s.carrying with
        | none => exact iff_of_true ⟨_, _, rfl⟩ ⟨rfl, target, listed, working⟩
        | some => exact iff_of_false (by simp) (by simp)
      · cases carried : s.carrying with
        | none => exact iff_of_false (by simp) (by simp)
        | some id =>
          refine iff_of_true ⟨_, _, rfl⟩ ⟨⟨id, rfl, ?_⟩, target, listed, working⟩
          intro p present same
          exact gone p present (by rw [carried, same])
      · intro source id because same
        cases same
        refine ⟨rfl, ?_, before, target, after, split, rfl, working, fun _ => first⟩
        cases s.carrying <;> rfl

theorem forced_failover_lost :
    let cfg : FailoverConfig Rat := ⟨⟨1 / 5, 1 / 2, 300⟩, 2, 1, 0, 5, 0, 10⟩
    let near : NetworkPath Rat := ⟨⟨1⟩, ⟨0, some 20⟩, .unusable, 0⟩
    let far : NetworkPath Rat := ⟨⟨2⟩, ⟨0, none⟩, .standby, 0⟩
    let s : FailoverState := .carryingOn ⟨1⟩
    ∃ source target, (s.evaluate cfg [near, far] 3).2 = .move source target .lost := by
  intro cfg near far s
  have all := forced_failover cfg s [near, far] 3 (by decide) _ _ rfl
  exact all.2.2.2.1.mpr ⟨⟨⟨1⟩, rfl, by decide⟩, far, by simp, rfl⟩

theorem explainStaying_proving {now : Instant} {target : NetworkPath Loss}
    (carries : s.carryingPath paths = some current) (listed : target ∈ paths)
    (working : usable target = true) (other : target.interfaceId ≠ current.interfaceId)
    (better : isBetter cfg current target = true) (rested : s.dwelled cfg now = true)
    (budget : (s.recentMoves cfg now).length < cfg.maxMoves) :
    s.explainStaying cfg paths now = .proving := by
  have beside : target ∈ paths.filter
      (fun p => usable p && decide (p.interfaceId ≠ current.interfaceId)) :=
    List.mem_filter.mpr ⟨listed, by simp [working, other]⟩
  have some : (paths.filter
      (fun p => usable p && decide (p.interfaceId ≠ current.interfaceId))).isEmpty = false := by
    rw [List.isEmpty_eq_false_iff]
    exact List.ne_nil_of_mem beside
  have any : (paths.filter (fun p => usable p && decide (p.interfaceId ≠ current.interfaceId))).any
      (isBetter cfg current) = true := List.any_eq_true.mpr ⟨target, beside, better⟩
  rw [FailoverState.explainStaying, carries]
  simp only [some, any, rested, Nat.not_le.mpr budget, Bool.not_true, Bool.false_eq_true, if_false]

/-- What is explained depends on nothing that a decision to stay changes. -/
theorem explainStaying_timed {now : Instant} (current : NetworkPath Loss) :
    (s.timed cfg current paths now).explainStaying cfg paths now =
      s.explainStaying cfg paths now := by
  have moves : (s.timed cfg current paths now).recentMoves cfg now = s.recentMoves cfg now :=
    recent_recent cfg.window (le_refl now) s.moves
  unfold FailoverState.explainStaying
  rw [moves]
  rfl

/-- The reason given for staying on a path below good never contradicts the decision. -/
theorem staying_is_explained (cfg : FailoverConfig Loss) (s : FailoverState)
    (paths : List (NetworkPath Loss)) (now : Instant)
    (distinct : (paths.map NetworkPath.interfaceId).Nodup) (current : NetworkPath Loss)
    (listed : current ∈ paths) (carrying : s.carrying = some current.interfaceId)
    (working : usable current = true) (below : bandOf cfg current < .good) (next : FailoverState)
    (decision : Decision) (evaluated : s.evaluate cfg paths now = (next, decision)) :
    (∀ source target, decision = .move source target .degraded →
      s.explainStaying cfg paths now = .proving) ∧
    (s.explainStaying cfg paths now ∈ [NoMove.onlyPath, .noBetterPath, .dwell, .budget] →
      ∀ source target reason, decision ≠ .move source target reason) ∧
    (decision = .stay → next.explainStaying cfg paths now = s.explainStaying cfg paths now) := by
  have carries := carryingPath_of_mem distinct listed carrying working
  have outcome := FailoverState.evaluate_outcome cfg s paths now
  rw [evaluated] at outcome
  cases outcome with
  | exhausted idle | acquired _ idle | lost _ _ idle =>
    rw [carries] at idle
    cases idle
  | stays other =>
    refine ⟨by simp, by simp, fun _ => ?_⟩
    exact explainStaying_timed cfg other
  | degraded _ _ again rested budget leaves =>
    rw [carries] at again
    cases again
    obtain ⟨_, present, usableTarget, ready⟩ := leaveFor_some leaves
    rw [FailoverState.ready, Bool.and_eq_true, Bool.and_eq_true, decide_eq_true_eq] at ready
    have proving := explainStaying_proving cfg carries present usableTarget ready.1.1 ready.1.2
      rested budget
    refine ⟨fun _ _ _ => proving, fun contradicts => ?_, by simp⟩
    rw [proving] at contradicts
    simp at contradicts
  | preferred _ _ again _ _ returns =>
    -- The way back is only taken from a good path.
    rw [carries] at again
    cases again
    rw [(returnTo_some returns).1] at below
    exact absurd below (by decide)

theorem staying_is_explained_degraded :
    let cfg : FailoverConfig Rat := ⟨⟨1 / 5, 1 / 2, 300⟩, 0, 0, 0, 0, 1, 10⟩
    let near : NetworkPath Rat := ⟨⟨1⟩, ⟨3 / 10, some 20⟩, .standby, 0⟩
    let far : NetworkPath Rat := ⟨⟨2⟩, ⟨0, some 40⟩, .standby, 0⟩
    let s : FailoverState := .carryingOn ⟨1⟩
    (s.evaluate cfg [near, far] 3).2 = .move (some ⟨1⟩) ⟨2⟩ .degraded ∧
      s.explainStaying cfg [near, far] 3 = .proving := by
  intro cfg near far s
  have decided : (s.evaluate cfg [near, far] 3).2 = .move (some ⟨1⟩) ⟨2⟩ .degraded := by
    decide +kernel
  exact ⟨decided, (staying_is_explained cfg s [near, far] 3 (by decide) near (by simp) rfl rfl
    (by decide +kernel) _ _ rfl).1 _ _ decided⟩

end Evaluation

end DnetEngine.Failover
