import DnetEngine.Core.FailoverBudget

/-! A path that works is left only on evidence that was not broken. -/

namespace DnetEngine.Failover

open Lib

theorem carryingPath_some {Loss : Type} {s : FailoverState} {paths : List (NetworkPath Loss)}
    {current : NetworkPath Loss} (carries : s.carryingPath paths = some current) :
    s.carrying = some current.interfaceId ∧ current ∈ paths ∧ usable current = true := by
  rw [FailoverState.carryingPath, Option.filter_eq_some_iff] at carries
  obtain ⟨found, working⟩ := carries
  obtain ⟨id, carried, first⟩ := Option.bind_eq_some_iff.mp found
  have same : current.interfaceId = id := by simpa using List.find?_some first
  exact ⟨by rw [carried, same], List.mem_of_find?_eq_some first, working⟩

section Choices

variable {Loss : Type} [LinearOrder Loss] {cfg : FailoverConfig Loss} {s after : FailoverState}
  {paths : List (NetworkPath Loss)} {current target : NetworkPath Loss} {now : Instant}

theorem best_some {eligible : NetworkPath Loss → Bool}
    (chosen : best cfg paths eligible = some target) :
    target ∈ paths ∧ usable target = true ∧ eligible target = true := by
  have member := minBy_mem _ _ _ chosen
  rw [List.mem_filter, Bool.and_eq_true] at member
  exact member

theorem best_none : best cfg paths (fun _ => true) = none ↔ ∀ p ∈ paths, usable p = false := by
  unfold best
  cases left : paths.filter (fun p => usable p && true) with
  | nil =>
    simpa [minBy] using left
  | cons p =>
    have inside : p ∈ paths.filter (fun p => usable p && true) := by
      rw [left]
      exact List.mem_cons_self
    rw [List.mem_filter, Bool.and_true] at inside
    simp only [minBy, reduceCtorEq, false_iff, not_forall]
    exact ⟨p, inside.1, by simp [inside.2]⟩

theorem returnTo_some (returns : s.returnTo cfg current paths now = some target) :
    bandOf cfg current = .good ∧
      target ∈ paths ∧ usable target = true ∧ s.preferred cfg current now target = true := by
  obtain ⟨good, chosen⟩ := Option.ite_none_right_eq_some.mp returns
  exact ⟨good, best_some chosen⟩

variable [Field Loss]

theorem leaveFor_some (leaves : s.leaveFor cfg current paths now = some target) :
    (s.urgent cfg current now || FailoverState.held s.belowGoodSince now cfg.degradeFor) = true ∧
      target ∈ paths ∧ usable target = true ∧ s.ready cfg current now target = true := by
  obtain ⟨⟨_, sustained⟩, chosen⟩ := Option.ite_none_right_eq_some.mp leaves
  exact ⟨sustained, best_some chosen⟩

/-- A move leaves what was carrying for a usable path. -/
theorem FailoverState.Outcome.moves {source : Option InterfaceId} {target : InterfaceId}
    {reason : MoveReason} (outcome : Outcome cfg s paths now after (.move source target reason)) :
    source = s.carrying ∧ after.carrying = some target ∧
      ∃ p ∈ paths, p.interfaceId = target ∧ usable p = true := by
  cases outcome with
  | acquired p _ fresh chosen =>
    obtain ⟨listed, working, _⟩ := best_some chosen
    exact ⟨fresh.symm, rfl, p, listed, rfl, working⟩
  | lost _ p _ carried chosen =>
    obtain ⟨listed, working, _⟩ := best_some chosen
    exact ⟨carried.symm, rfl, p, listed, rfl, working⟩
  | degraded _ p carries _ _ leaves =>
    obtain ⟨_, listed, working, _⟩ := leaveFor_some leaves
    exact ⟨(carryingPath_some carries).1.symm, rfl, p, listed, rfl, working⟩
  | preferred _ p carries _ _ returns =>
    obtain ⟨_, listed, working, _⟩ := returnTo_some returns
    exact ⟨(carryingPath_some carries).1.symm, rfl, p, listed, rfl, working⟩

end Choices

section Clocks

variable {Loss : Type} [Field Loss] [LinearOrder Loss] (cfg : FailoverConfig Loss)

theorem foldl_noteGood_absent (now : Instant) (since : InterfaceId → Option Instant)
    (paths : List (NetworkPath Loss)) (id : InterfaceId)
    (absent : ∀ p ∈ paths, p.interfaceId ≠ id) :
    paths.foldl (noteGood cfg now) since id = since id := by
  induction paths generalizing since with
  | nil => rfl
  | cons p _ ih =>
    have different : id ≠ p.interfaceId := (absent p List.mem_cons_self).symm
    rw [List.foldl_cons, ih _ (fun other member => absent other (List.mem_cons_of_mem _ member)),
      noteGood, if_neg different]

/-- With distinct interfaces each path sets its own clock and no other. -/
theorem foldl_noteGood_mem (now : Instant) (since : InterfaceId → Option Instant)
    (paths : List (NetworkPath Loss)) (distinct : (paths.map NetworkPath.interfaceId).Nodup)
    (p : NetworkPath Loss) (member : p ∈ paths) :
    paths.foldl (noteGood cfg now) since p.interfaceId =
      if proves cfg p then some ((since p.interfaceId).getD now) else none := by
  induction paths generalizing since with
  | nil => cases member
  | cons head rest ih =>
    obtain ⟨fresh, distinctRest⟩ := List.nodup_cons.mp distinct
    rw [List.foldl_cons]
    rcases List.mem_cons.mp member with same | inside
    · have absent : ∀ other ∈ rest, other.interfaceId ≠ p.interfaceId := by
        intro other inRest equal
        apply fresh
        rw [← same, ← equal]
        exact List.mem_map_of_mem inRest
      rw [foldl_noteGood_absent cfg now _ rest _ absent, noteGood, same, if_pos rfl]
    · have different : p.interfaceId ≠ head.interfaceId := by
        intro equal
        exact fresh (equal ▸ List.mem_map_of_mem inside)
      rw [ih _ distinctRest inside, noteGood, if_neg different]

/-- A clock runs only for a path that proves itself now, and runs on if it ran before. -/
theorem refreshGood_some {paths : List (NetworkPath Loss)} {now began : Instant}
    {since : InterfaceId → Option Instant} {id : InterfaceId}
    (distinct : (paths.map NetworkPath.interfaceId).Nodup)
    (running : refreshGood cfg paths now since id = some began) :
    (∃ p ∈ paths, p.interfaceId = id ∧ proves cfg p = true) ∧ began = (since id).getD now := by
  unfold refreshGood at running
  by_cases listed : ∃ p ∈ paths, p.interfaceId = id
  · obtain ⟨p, member, rfl⟩ := listed
    rw [foldl_noteGood_mem cfg now _ paths distinct p member] at running
    by_cases good : proves cfg p = true
    · have stays : paths.any (fun other => decide (other.interfaceId = p.interfaceId) &&
          usable other) = true := by
        simp only [proves, Bool.and_eq_true] at good
        exact List.any_eq_true.mpr ⟨p, member, by simp [good.1.1]⟩
      rw [if_pos good, if_pos stays, Option.some_inj] at running
      exact ⟨⟨p, member, rfl, good⟩, running.symm⟩
    · rw [if_neg good] at running
      cases running
  · have absent : ∀ p ∈ paths, p.interfaceId ≠ id := fun p member same => listed ⟨p, member, same⟩
    have gone : paths.any (fun p => decide (p.interfaceId = id) && usable p) = false := by
      rw [List.any_eq_false]
      intro p member
      simp [absent p member]
    rw [foldl_noteGood_absent cfg now _ paths id absent, gone] at running
    cases running

end Clocks

section Evidence

variable {Loss : Type} [Field Loss] [LinearOrder Loss] (cfg : FailoverConfig Loss)

def CarriesIn (path : InterfaceId) (bad : QualityBand → Prop)
    (taken : Taken FailoverState (Evaluation Loss)) : Prop :=
  taken.before.carrying = some path ∧
    ∃ p ∈ taken.label.paths, p.interfaceId = path ∧ usable p = true ∧ bad (bandOf cfg p)

/-- The path is present, usable, good and measured. -/
def ProvesItself (path : InterfaceId) (taken : Taken FailoverState (Evaluation Loss)) : Prop :=
  ∃ p ∈ taken.label.paths, p.interfaceId = path ∧ proves cfg p = true

def clock (taken : Taken FailoverState (Evaluation Loss)) : Instant := taken.label.now

/-- What the timers of a state stand for in the history that led to it. -/
structure Evidence (history : History Loss) (s : FailoverState) : Prop where
  belowGood : ∀ since, s.belowGoodSince = some since →
    ∃ path, s.carrying = some path ∧
      Unbroken clock (CarriesIn cfg path (· < .good)) since history
  unusable : ∀ since, s.unusableSince = some since →
    ∃ path, s.carrying = some path ∧
      Unbroken clock (CarriesIn cfg path (· = .unusable)) since history
  good : ∀ path since, s.goodSince path = some since →
    Unbroken clock (ProvesItself cfg path) since history

variable {cfg}

variable {history : History Loss} {s after : FailoverState} {evaluation : Evaluation Loss}
  {current p : NetworkPath Loss} {now : Instant}

omit [Field Loss] in
theorem unbroken_timer {bad : QualityBand → Prop} {timer : Option Instant}
    (carries : s.carryingPath evaluation.paths = some current)
    (evidence : ∀ since, timer = some since → ∃ path, s.carrying = some path ∧
      Unbroken clock (CarriesIn cfg path bad) since history) (isBad : bad (bandOf cfg current)) :
    ∃ path, s.carrying = some path ∧ Unbroken clock (CarriesIn cfg path bad)
      (timer.getD evaluation.now) (⟨s, evaluation, after⟩ :: history) := by
  obtain ⟨carried, member, working⟩ := carryingPath_some carries
  refine ⟨current.interfaceId, carried, unbroken_getD rfl ?_ ?_⟩
  · intro since running
    obtain ⟨path, alsoCarried, unbroken⟩ := evidence since running
    rw [carried, Option.some_inj] at alsoCarried
    rwa [alsoCarried]
  · exact ⟨carried, current, member, rfl, working, isBad⟩

theorem unbroken_good (evidence : Evidence cfg history s)
    (distinct : (evaluation.paths.map NetworkPath.interfaceId).Nodup) (path : InterfaceId)
    (since : Instant)
    (running : refreshGood cfg evaluation.paths evaluation.now s.goodSince path = some since) :
    Unbroken clock (ProvesItself cfg path) since (⟨s, evaluation, after⟩ :: history) := by
  obtain ⟨proving, began⟩ := refreshGood_some cfg distinct running
  have holding : ProvesItself cfg path ⟨s, evaluation, after⟩ := proving
  rw [began]
  exact unbroken_getD rfl (evidence.good path) holding

/-- The timers of an evaluation, before it moves anywhere, stand for the evidence up to it. -/
theorem evidence_timed (evidence : Evidence cfg history s)
    (distinct : (evaluation.paths.map NetworkPath.interfaceId).Nodup)
    (carries : s.carryingPath evaluation.paths = some current) :
    Evidence cfg (⟨s, evaluation, after⟩ :: history)
      (s.timed cfg current evaluation.paths evaluation.now) where
  belowGood := by
    intro since running
    by_cases bad : bandOf cfg current < .good
    · simp only [FailoverState.timed, if_pos bad, Option.some_inj] at running
      rw [← running]
      exact unbroken_timer carries evidence.belowGood bad
    · simp [FailoverState.timed, bad] at running
  unusable := by
    intro since running
    by_cases bad : bandOf cfg current = .unusable
    · simp only [FailoverState.timed, if_pos bad, Option.some_inj] at running
      rw [← running]
      exact unbroken_timer carries evidence.unusable bad
    · simp [FailoverState.timed, bad] at running
  good := unbroken_good evidence distinct

theorem evidence_reset (below : s.belowGoodSince = none) (unusable : s.unusableSince = none)
    (good : ∀ path since, s.goodSince path = some since →
      Unbroken clock (ProvesItself cfg path) since history) : Evidence cfg history s where
  belowGood := by
    intro since running
    rw [below] at running
    cases running
  unusable := by
    intro since running
    rw [unusable] at running
    cases running
  good := good

theorem evidence_movedTo (target : InterfaceId) (now : Instant) (counted : Bool)
    (good : ∀ path since, s.goodSince path = some since →
      Unbroken clock (ProvesItself cfg path) since history) :
    Evidence cfg history (s.movedTo target now counted) := by
  cases counted <;> exact evidence_reset rfl rfl good

theorem evidence_next (evidence : Evidence cfg history s)
    (distinct : (evaluation.paths.map NetworkPath.interfaceId).Nodup)
    (evaluates : Evaluates cfg s evaluation after) :
    Evidence cfg (⟨s, evaluation, after⟩ :: history) after := by
  have clocks := @unbroken_good Loss _ _ cfg history s after evaluation evidence distinct
  generalize decided : evaluation.decision = decision
  have outcome := evaluates_outcome cfg evaluates
  rw [decided] at outcome
  cases outcome with
  | exhausted => exact evidence_reset rfl rfl clocks
  | acquired | lost | degraded | preferred => exact evidence_movedTo _ _ _ clocks
  | stays _ carries => exact evidence_timed evidence distinct carries

theorem run_evidence {start state : FailoverState} (starts : Starts start)
    (run : Run (Evaluates cfg) start history state)
    (distinct : ∀ taken ∈ history, (taken.label.paths.map NetworkPath.interfaceId).Nodup) :
    Evidence cfg history state := by
  have initial : Evidence cfg [] start := by
    rcases starts with rfl | ⟨path, rfl⟩
    · exact evidence_reset rfl rfl (fun _ _ running => by cases running)
    · exact evidence_reset rfl rfl (fun _ _ running => by cases running)
  have invariant := run_invariant
    (fun (history : History Loss) state =>
      (∀ taken ∈ history, (taken.label.paths.map NetworkPath.interfaceId).Nodup) →
        Evidence cfg history state)
    (fun _ => initial)
    (fun history state evaluation after _ holding taken distinct =>
      evidence_next (holding (fun other member => distinct other (List.mem_cons_of_mem _ member)))
        (distinct _ List.mem_cons_self) taken) run
  exact invariant distinct

omit [Field Loss] [LinearOrder Loss] in
theorem heldFor_of_held {since : Option Instant} {long : Duration}
    {holds : Taken FailoverState (Evaluation Loss) → Prop}
    (past : ∀ taken ∈ history, clock taken ≤ now)
    (evidence : ∀ began, since = some began → Unbroken clock holds began history)
    (enough : FailoverState.held since now long = true) : HeldFor clock holds long now history := by
  obtain ⟨began, running, longEnough⟩ := (Option.any_eq_true _ _).mp enough
  rw [decide_eq_true_eq] at longEnough
  exact heldFor_of_unbroken past (evidence began running) longEnough

theorem heldFor_of_stable (evidence : Evidence cfg history s)
    (past : ∀ taken ∈ history, clock taken ≤ now) (stable : s.stable cfg now p = true) :
    HeldFor clock (ProvesItself cfg p.interfaceId) cfg.stableFor now history := by
  rw [FailoverState.stable, Bool.and_eq_true] at stable
  exact heldFor_of_held past (evidence.good p.interfaceId) stable.2

/-- The path is in a higher band, or both are poor and it is measured and clearly less lossy. -/
def Better (cfg : FailoverConfig Loss) (current p : NetworkPath Loss) : Prop :=
  bandOf cfg current < bandOf cfg p ∨
    (bandOf cfg current = .poor ∧ bandOf cfg p = .poor ∧ isMeasured p.quality = true ∧
      p.quality.lossEwma + sameBandMargin ≤ current.quality.lossEwma)

/-- The carrying path has been unusable for long enough to leave it at once, or it has been below
good for long enough and the other path is proven. -/
def Warranted (cfg : FailoverConfig Loss) (history : History Loss) (now : Instant)
    (current p : NetworkPath Loss) : Prop :=
  HeldFor clock (CarriesIn cfg current.interfaceId (· = .unusable)) cfg.unusableFor now history ∨
    (HeldFor clock (CarriesIn cfg current.interfaceId (· < .good)) cfg.degradeFor now history ∧
      isMeasured p.quality = true ∧
      (bandOf cfg p = .good →
        HeldFor clock (ProvesItself cfg p.interfaceId) cfg.stableFor now history))

theorem isBetter_iff (current p : NetworkPath Loss) :
    isBetter cfg current p = true ↔ Better cfg current p := by
  simp only [isBetter, Better, Bool.or_eq_true, Bool.and_eq_true, decide_eq_true_eq, and_assoc]

variable {taken : Taken FailoverState (Evaluation Loss)}

theorem proven_spec (evidence : Evidence cfg (taken :: history) s)
    (past : ∀ other ∈ taken :: history, clock other ≤ now)
    (distinct : (taken.label.paths.map NetworkPath.interfaceId).Nodup)
    (member : p ∈ taken.label.paths) (proven : s.proven cfg now p = true) :
    isMeasured p.quality = true ∧ (bandOf cfg p = .good →
      HeldFor clock (ProvesItself cfg p.interfaceId) cfg.stableFor now (taken :: history)) := by
  unfold FailoverState.proven at proven
  by_cases good : bandOf cfg p = .good
  · rw [if_pos good] at proven
    obtain ⟨since, enough, unbroken⟩ := heldFor_of_stable evidence past proven
    obtain ⟨other, listed, same, proving⟩ := unbroken_newest unbroken
    have equal : other = p := List.inj_on_of_nodup_map distinct listed member same
    rw [equal, proves, Bool.and_eq_true] at proving
    exact ⟨proving.2, fun _ => ⟨since, enough, unbroken⟩⟩
  · rw [if_neg good] at proven
    exact ⟨proven, fun isGood => absurd isGood good⟩

theorem leaveFor_spec (evidence : Evidence cfg (taken :: history) s)
    (past : ∀ other ∈ taken :: history, clock other ≤ now)
    (distinct : (taken.label.paths.map NetworkPath.interfaceId).Nodup)
    (carried : s.carrying = some current.interfaceId)
    (leaves : s.leaveFor cfg current taken.label.paths now = some p) :
    p ∈ taken.label.paths ∧ usable p = true ∧ p.interfaceId ≠ current.interfaceId ∧
      Better cfg current p ∧ Warranted cfg (taken :: history) now current p := by
  obtain ⟨sustained, member, working, ready⟩ := leaveFor_some leaves
  simp only [FailoverState.ready, Bool.and_eq_true, decide_eq_true_eq] at ready
  obtain ⟨⟨other, better⟩, grounds⟩ := ready
  refine ⟨member, working, other, (isBetter_iff current p).mp better, ?_⟩
  have timer {bad : QualityBand → Prop} {since : Option Instant}
      (running : ∀ began, since = some began → ∃ path, s.carrying = some path ∧
        Unbroken clock (CarriesIn cfg path bad) began (taken :: history)) :
      ∀ began, since = some began →
        Unbroken clock (CarriesIn cfg current.interfaceId bad) began (taken :: history) := by
    intro began ran
    obtain ⟨path, also, unbroken⟩ := running began ran
    rw [carried, Option.some_inj] at also
    rwa [also]
  by_cases urgent : s.urgent cfg current now = true
  · rw [FailoverState.urgent, Bool.and_eq_true] at urgent
    exact Or.inl (heldFor_of_held past (timer evidence.unusable) urgent.2)
  · simp only [urgent] at sustained grounds
    exact Or.inr ⟨heldFor_of_held past (timer evidence.belowGood) sustained,
      proven_spec evidence past distinct member grounds⟩

theorem returnTo_spec {paths : List (NetworkPath Loss)} (evidence : Evidence cfg history s)
    (past : ∀ other ∈ history, clock other ≤ now)
    (returns : s.returnTo cfg current paths now = some p) :
    p ∈ paths ∧ bandOf cfg current = .good ∧ current.preference < p.preference ∧
      HeldFor clock (ProvesItself cfg p.interfaceId) cfg.stableFor now history := by
  obtain ⟨good, member, _, preferred⟩ := returnTo_some returns
  simp only [FailoverState.preferred, Bool.and_eq_true, decide_eq_true_eq] at preferred
  exact ⟨member, good, preferred.1.2, heldFor_of_stable evidence past preferred.2⟩

end Evidence

/-- Voluntary moves rest on unbroken evidence. A move from a degraded path goes to another, usable
and better path, and is warranted; a move to a preferred path leaves a good one for a path of higher
preference that has proved itself for long enough. -/
theorem voluntary_moves_on_evidence {Loss : Type} [Field Loss] [LinearOrder Loss]
    (cfg : FailoverConfig Loss) (start state : FailoverState) (starts : Starts start)
    (newer older : History Loss) (taken : Taken FailoverState (Evaluation Loss))
    (run : Run (Evaluates cfg) start (newer ++ taken :: older) state)
    (ordered : InOrder (newer ++ taken :: older))
    (distinct : ∀ other ∈ newer ++ taken :: older,
      (other.label.paths.map NetworkPath.interfaceId).Nodup)
    (source : Option InterfaceId) (target : InterfaceId) :
    (taken.label.decision = .move source target .degraded →
      ∃ current ∈ taken.label.paths, ∃ p ∈ taken.label.paths,
        taken.before.carrying = source ∧ source = some current.interfaceId ∧
          target = p.interfaceId ∧ usable p = true ∧ p.interfaceId ≠ current.interfaceId ∧
          Better cfg current p ∧ Warranted cfg (taken :: older) taken.label.now current p) ∧
    (taken.label.decision = .move source target .preferred →
      ∃ current ∈ taken.label.paths, ∃ p ∈ taken.label.paths,
        taken.before.carrying = source ∧ source = some current.interfaceId ∧
          target = p.interfaceId ∧ bandOf cfg current = .good ∧ current.preference < p.preference ∧
          HeldFor clock (ProvesItself cfg target) cfg.stableFor taken.label.now (taken :: older)) := by
  obtain ⟨earlier, evaluates, _⟩ := run_taken run
  obtain ⟨latest, _⟩ := List.pairwise_cons.mp (List.pairwise_append.mp ordered).2.1
  have here := distinct taken (List.mem_append_right _ List.mem_cons_self)
  have evidence := run_evidence starts earlier (fun other member =>
    distinct other (List.mem_append_right _ (List.mem_cons_of_mem _ member)))
  have past : ∀ other ∈ taken :: older, clock other ≤ taken.label.now := by
    intro other member
    rcases List.mem_cons.mp member with same | inside
    · rw [same]
      exact le_refl _
    · exact latest other inside
  have outcome := evaluates_outcome cfg evaluates
  constructor
  · intro decided
    rw [decided] at outcome
    generalize taken.after = after at outcome
    cases outcome with
    | degraded current p carries _ _ leaves =>
      obtain ⟨carried, listed, _⟩ := carryingPath_some carries
      obtain ⟨member, working, other, better, warranted⟩ :=
        leaveFor_spec (evidence_timed evidence here carries) past here carried leaves
      exact ⟨current, listed, p, member, carried, rfl, rfl, working, other, better, warranted⟩
  · intro decided
    rw [decided] at outcome
    generalize taken.after = after at outcome
    cases outcome with
    | preferred current p carries _ _ returns =>
      obtain ⟨carried, listed, _⟩ := carryingPath_some carries
      obtain ⟨member, good, higher, proved⟩ :=
        returnTo_spec (evidence_timed evidence here carries) past returns
      exact ⟨current, listed, p, member, carried, rfl, rfl, good, higher, proved⟩

theorem voluntary_moves_on_evidence_degraded :
    let cfg : FailoverConfig Rat := ⟨⟨1 / 5, 1 / 2, 300⟩, 2, 1, 2, 5, 1, 10⟩
    let near (loss : Rat) : NetworkPath Rat := ⟨⟨1⟩, ⟨loss, some 20⟩, .standby, 0⟩
    let far : NetworkPath Rat := ⟨⟨2⟩, ⟨0, some 40⟩, .standby, 0⟩
    let played := play cfg (.carryingOn ⟨1⟩) [([near (3 / 10), far], 1), ([near 0], 0)]
    let last := played.1.evaluate cfg [near (3 / 10), far] 3
    last.2 = .move (some ⟨1⟩) ⟨2⟩ .degraded ∧
      ∃ current ∈ [near (3 / 10), far], ∃ p ∈ [near (3 / 10), far],
        Better cfg current p ∧ Warranted cfg
          (⟨played.1, ⟨[near (3 / 10), far], 3, last.2⟩, last.1⟩ :: played.2) 3 current p := by
  intro cfg near far played last
  have run : Run (Evaluates cfg) (.carryingOn ⟨1⟩)
      (⟨played.1, ⟨[near (3 / 10), far], 3, last.2⟩, last.1⟩ :: played.2) last.1 :=
    (play_run cfg (.carryingOn ⟨1⟩) _).next rfl
  have decided : last.2 = .move (some ⟨1⟩) ⟨2⟩ .degraded := by decide +kernel
  refine ⟨decided, ?_⟩
  obtain ⟨current, listed, p, member, _, _, _, _, _, better, warranted⟩ :=
    (voluntary_moves_on_evidence cfg (.carryingOn ⟨1⟩) last.1 (Or.inr ⟨⟨1⟩, rfl⟩) [] played.2 _ run
      (by decide +kernel) (by decide +kernel) (some ⟨1⟩) ⟨2⟩).1 decided
  exact ⟨current, listed, p, member, better, warranted⟩

end DnetEngine.Failover
