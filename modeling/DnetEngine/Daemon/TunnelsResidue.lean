import DnetEngine.Daemon.TunnelsOrder

/-! What a tunnel leaves behind when it is gone: fake addresses in the resolver's cache, and the
configuration with its credentials. Both are cleaned up unless a start gives up before its own
cores were tried. -/

namespace DnetEngine.Tunnels

open Lib Netstate

def Op.kills : Op → Bool
  | .core _ (.killCore _) => true
  | _ => false

/-- A core was killed, and the resolver's cache not flushed since. -/
def unflushed (trace : List Event) : Bool :=
  outstanding (·.op.kills) (·.op == .flushResolverCache) trace

/-- A configuration was prepared, and not discarded since. -/
def undiscarded (trace : List Event) : Bool :=
  outstanding (·.op.isPrepare) (·.op == .discardConfig) trace

/-- With no tunnel up, neither is left. -/
def State.Clean (state : State) : Prop :=
  state.active = none → unflushed state.trace = false ∧ undiscarded state.trace = false

/-- The start gave up with something left: its own configuration could not be prepared, or it had
ended another tunnel and found no way out. -/
def GivesUp (taken : Taken State Call) : Prop :=
  (∃ plan detail, taken.label = .start plan (.error (.configurationInvalid detail))) ∨
    (taken.before.active.isSome ∧ ∃ plan, taken.label = .start plan (.error .noUsablePath))

section Cleaning

theorem Begins.discards {plan : TunnelPlan} {tunnel : Nat} {running : Running Nat Nat}
    {tried : List Event} (begins : Begins plan tunnel running tried) :
    (∀ event ∈ tried, event.op.isPrepare = false) ∧ ⟨.discardConfig, true⟩ ∈ tried := by
  have cores {events : List Event} (begin : CoresBegin tunnel events) :
      ∀ event ∈ events, event.op.isPrepare = false := by
    intro event member
    obtain ⟨op, is, _⟩ := begin event member
    rw [is]
    rfl
  cases begins with
  | cores _ begin =>
    refine ⟨List.forall_mem_append.mpr ⟨cores begin, ?_⟩, by simp⟩
    simp [Op.isPrepare]
  | peer begin _ peers =>
    refine ⟨List.forall_mem_append.mpr ⟨List.forall_mem_append.mpr ⟨cores begin, ?_⟩, ?_⟩, by simp⟩
    · simp [Op.isPrepare]
    · cases peers with
      | unrouted | routed => simp [Op.isPrepare]

end Cleaning

section Calls

variable {machine : Machine} {state after : State}

variable {plan : TunnelPlan}

theorem Launches.clean {tunnel : Nat} {cause : FailureCause} {active : Option (Running Nat Nat)}
    {past events : List Event} (launches : Launches plan tunnel (.error cause, active) events) :
    unflushed (past ++ events) = false ∧ undiscarded (past ++ events) = false := by
  cases launches with
  | @failed _ _ _ _ begins ends =>
    obtain ⟨prepareNone, discards⟩ := begins.discards
    constructor
    · rw [← List.append_assoc]
      exact outstanding_closed (by simp [Op.kills]) (by simp)
    · apply outstanding_closed
      · simp only [List.mem_append, List.mem_cons, List.not_mem_nil, or_false]
        rintro event (((rfl | tries) | ends_) | rfl)
        · rfl
        · exact prepareNone event tries
        · exact endOf_not_prepare _ (ends ▸ List.mem_map_of_mem ends_)
        · rfl
      · exact ⟨⟨.discardConfig, true⟩, by simp [discards], rfl⟩

theorem start_clean {returned : Except FailureCause Unit} {events : List Event}
    (starts : Starts state.active plan state.trace (returned, after.active) events)
    (adds : after.trace = state.trace ++ events) (clean : state.Clean)
    (goesOn : ¬ GivesUp ⟨state, .start plan returned, after⟩) : after.Clean := by
  intro none_
  rw [adds]
  rw [none_] at starts
  generalize ended : (returned, none) = result at starts
  cases starts with
  | @noPath older took =>
    cases ended
    -- Only a start that found nothing up is left, and it did nothing else.
    have rested : state.active = none := by
      by_contra up
      exact goesOn (.inr ⟨Option.isSome_iff_ne_none.mpr up, plan, rfl⟩)
    obtain rfl : older = [] := by simpa [EndsAll, rested] using took
    have before := clean rested
    simp only [unflushed, undiscarded] at before ⊢
    rw [List.nil_append, outstanding_append, outstanding_append, before.1, before.2]
    exact ⟨rfl, rfl⟩
  | unprepared _ detail =>
    cases ended
    exact absurd (.inl ⟨plan, detail, rfl⟩) goesOn
  | @launches older _ launched _ launches =>
    have shape : state.trace ++ (older ++ ⟨.gateway, true⟩ ::
        ⟨.prepare (numbered state.trace) plan, true⟩ :: launched) =
        state.trace ++ older ++ [⟨.gateway, true⟩, ⟨.prepare (numbered state.trace) plan, true⟩] ++
          launched := by simp
    rw [shape]
    subst ended
    cases returned with
    | error => exact launches.clean
    | ok => cases launches

theorem stop_clean (sameNumber : ∀ running ∈ state.active, running.Numbered running.runtime)
    (steps : state.Steps machine .stop after) (clean : state.Clean) : after.Clean := by
  obtain ⟨none_, ended, ends, adds⟩ := stop_stops sameNumber steps
  intro _
  rw [adds]
  cases up : state.active with
  | none =>
    obtain rfl : ended = [] := by simpa [EndsAll, up] using ends
    rw [if_neg (by simp), List.append_nil, List.append_nil]
    exact clean up
  | some =>
    rw [← List.append_assoc]
    exact ⟨outstanding_closed (by simp [Op.kills]) (by simp),
      outstanding_closed (by simp [Op.isPrepare]) (by simp)⟩

theorem carryOver_clean {gateway : IpAddr} {returned : Except NetstateError Unit}
    (steps : state.Steps machine (.carryOver gateway returned) after) (clean : state.Clean) :
    after.Clean := by
  obtain ⟨events, adds, carries⟩ := carryOver_carries steps
  intro none_
  rw [none_] at carries
  rw [adds]
  generalize active : state.active = before at carries
  cases carries with
  | unmoved =>
    rw [List.append_nil]
    exact clean active

theorem step_clean {call : Call} (whole : ∀ running ∈ state.active, running.Whole)
    (steps : state.Steps machine call after) (clean : state.Clean)
    (goesOn : ¬ GivesUp ⟨state, call, after⟩) : after.Clean := by
  have sameNumber (running : Running Nat Nat) (up : running ∈ state.active) :=
    (whole running up).numbered
  cases call with
  | start =>
    obtain ⟨events, adds, starts⟩ := start_starts sameNumber steps
    exact start_clean starts adds clean goesOn
  | carryOver => exact carryOver_clean steps clean
  | stop => exact stop_clean sameNumber steps clean

/-- A start that could not prepare returns with no tunnel up and its configuration left. -/
theorem unprepared_unclean {detail : String}
    (sameNumber : ∀ running ∈ state.active, running.Numbered running.runtime)
    (steps : state.Steps machine (.start plan (.error (.configurationInvalid detail))) after) :
    ¬ after.Clean := by
  intro clean
  have none_ := start_error sameNumber steps
  obtain ⟨events, adds, starts⟩ := start_starts sameNumber steps
  have kept := (clean none_).2
  rw [adds] at kept
  rw [none_] at starts
  generalize ended : (Except.error (FailureCause.configurationInvalid detail), none) = result
    at starts
  cases starts with
  | noPath => cases ended
  | @unprepared older =>
    have left : undiscarded (state.trace ++ older ++ [⟨.gateway, true⟩,
        ⟨.prepare (numbered state.trace) plan, false⟩]) = true :=
      outstanding_opened (by simp [Op.isPrepare]) (by simp)
    rw [← List.append_assoc, left] at kept
    cases kept
  | launches _ launches =>
    subst ended
    cases launches with
    | failed _ _ neither => exact neither.2 detail rfl

/-- A start that ended another tunnel and found no way out returns with its fake addresses left. -/
theorem noPath_unclean {running : Running Nat Nat}
    (sameNumber : ∀ running ∈ state.active, running.Numbered running.runtime)
    (up : state.active = some running)
    (steps : state.Steps machine (.start plan (.error .noUsablePath)) after) : ¬ after.Clean := by
  intro clean
  have none_ := start_error sameNumber steps
  obtain ⟨events, adds, starts⟩ := start_starts sameNumber steps
  have kept := (clean none_).1
  rw [adds] at kept
  rw [none_] at starts
  generalize ended : (Except.error FailureCause.noUsablePath, none) = result at starts
  cases starts with
  | unprepared => cases ended
  | @noPath older took =>
    rw [up] at took
    have ops : older.map Event.op = endOf running.runtime running.touched := took
    obtain ⟨event, member, is⟩ := List.mem_map.mp
      (ops ▸ kill_mem_endOf running.runtime running.touched .primaryCore)
    have left : unflushed (state.trace ++ (older ++ [⟨.gateway, false⟩])) = true := by
      apply outstanding_opened
      · exact ⟨event, List.mem_append_left _ member, by rw [is]; rfl⟩
      · rw [List.forall_mem_append]
        refine ⟨fun other among => ?_, by simp⟩
        have ends : other.op ∈ endOf running.runtime running.touched :=
          ops ▸ List.mem_map_of_mem among
        rcases mem_endOf ends with ⟨core, is⟩ | is | is | ⟨removed, is⟩
        all_goals rw [is]; rfl
    rw [left] at kept
    cases kept
  | launches _ launches =>
    subst ended
    cases launches with
    | failed _ _ neither => exact neither.1 rfl

theorem step_unclean {call : Call} (whole : ∀ running ∈ state.active, running.Whole)
    (steps : state.Steps machine call after) (gives : GivesUp ⟨state, call, after⟩) :
    ¬ after.Clean := by
  have sameNumber (running : Running Nat Nat) (up : running ∈ state.active) :=
    (whole running up).numbered
  rcases gives with ⟨plan, detail, rfl⟩ | ⟨up, plan, rfl⟩
  · exact unprepared_unclean sameNumber steps
  · obtain ⟨running, up⟩ := Option.isSome_iff_exists.mp up
    exact noPath_unclean sameNumber up steps

end Calls

/-- Every return with no tunnel up leaves neither fake addresses nor the configuration behind, if
and only if no start of the run gave up before its cores were tried, with something left. -/
theorem leaves_nothing_iff (machine : Machine) {history : List (Taken State Call)} {state : State}
    (run : Run (State.Steps machine) .new history state) :
    (∀ taken ∈ history, taken.after.active = none →
      unflushed taken.after.trace = false ∧ undiscarded taken.after.trace = false) ↔
    ∀ taken ∈ history,
      (∀ plan detail, taken.label ≠ .start plan (.error (.configurationInvalid detail))) ∧
      (taken.before.active.isSome → ∀ plan, taken.label ≠ .start plan (.error .noUsablePath)) := by
  have gives (taken : Taken State Call) : ¬ GivesUp taken ↔
      (∀ plan detail, taken.label ≠ .start plan (.error (.configurationInvalid detail))) ∧
      (taken.before.active.isSome → ∀ plan, taken.label ≠ .start plan (.error .noUsablePath)) := by
    simp [GivesUp]
  simp only [← gives]
  constructor
  · intro clean taken member gave
    obtain ⟨newer, older, rfl⟩ := List.append_of_mem member
    obtain ⟨earlier, steps, later⟩ := run_taken run
    exact step_unclean (run_sound earlier).2 steps gave (clean taken member)
  · intro goesOn
    -- Along the run the state is clean after every call, so after the calls of the history.
    have along : state.Clean ∧ ∀ taken ∈ history, taken.after.Clean := by
      induction run with
      | start => exact ⟨fun _ => ⟨rfl, rfl⟩, fun _ member => absurd member List.not_mem_nil⟩
      | next earlier steps ih =>
        obtain ⟨clean, before⟩ := ih fun taken member => goesOn taken (List.mem_cons_of_mem _ member)
        have last := step_clean (run_sound earlier).2 steps clean (goesOn _ List.mem_cons_self)
        exact ⟨last, List.forall_mem_cons.mpr ⟨last, before⟩⟩
    exact along.2

section Traces

def full : Machine where
  gateway _ := .ok (.v4 (.ofOctets 192 168 1 1))
  prepare past _ :=
    if numbered past = 1 then .error "the working directory could not be prepared" else .ok false
  core _ _ _ := .ok ()
  peer _ _ _ := .ok ()

def plainPlan : TunnelPlan := ⟨.primaryCore, ⟨"203.0.113.10", 443⟩, none⟩

/-- A start ends the tunnel that is up and cannot prepare its own. -/
def abandoned : State × List (Taken State Call) :=
  follow (State.next full) .new
    [.start plainPlan (.ok ()), .start plainPlan
      (.error (.configurationInvalid "the working directory could not be prepared"))]

theorem abandoned_start_leaves :
    Run (State.Steps full) .new abandoned.2 abandoned.1 ∧ abandoned.2.length = 2 ∧
      abandoned.1.active = none ∧ unflushed abandoned.1.trace = true ∧
        undiscarded abandoned.1.trace = true :=
  ⟨follow_run (State.next full) .new _, by decide, by decide, by decide, by decide⟩

def stopped : State × List (Taken State Call) :=
  follow (State.next flaky) .new
    [.start awgPlan (.ok ()), .stop, .start awgPlan (.error (.coreFailedPersistently .primaryCore))]

theorem leaves_nothing_iff_stopped :
    stopped.2.length = 3 ∧ ∀ taken ∈ stopped.2, taken.after.active = none →
      unflushed taken.after.trace = false ∧ undiscarded taken.after.trace = false := by
  have run : Run (State.Steps flaky) .new stopped.2 stopped.1 :=
    follow_run (State.next flaky) .new _
  refine ⟨by decide, (leaves_nothing_iff flaky run).mpr fun taken member => ?_⟩
  have among : taken.label ∈ [Call.start awgPlan (.error (.coreFailedPersistently .primaryCore)),
      .stop, .start awgPlan (.ok ())] := List.mem_map_of_mem member
  simp only [List.mem_cons, List.not_mem_nil, or_false] at among
  rcases among with is | is | is <;> simp [is]

end Traces

end DnetEngine.Tunnels
