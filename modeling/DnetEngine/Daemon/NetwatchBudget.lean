import DnetEngine.Daemon.NetwatchTunnel

/-! How often the watch of a steered profile moves the tunnel. A move that failed is put back by a
fresh failover state, which has forgotten the moves before it. -/

namespace DnetEngine.Netwatch

open Lib Failover

abbrev Turned (Loss : Type) := Taken (Watching Loss) (Turn Loss)

section Moves

variable {Loss : Type} [Field Loss] [LinearOrder Loss] (settings : Settings Loss)

def Effect.movesAway : Effect Loss → Bool
  | .moved source _ => source.isSome
  | .looked _ | .carriedOver _ _ => false

def Effect.failed : Effect Loss → Bool
  | .carriedOver _ succeeded => !succeeded
  | .looked _ | .moved _ _ => false

/-- The loop as it decides in a turn, and how. -/
def deciding (taken : Turned Loss) : Option (Loop Loss × Deciding) :=
  match taken.label with
  | .first _ => none
  | .iteration i => (taken.before.loop.ready settings i).map (fun ready => (ready, i.deciding))

def clocks (history : List (Turned Loss)) : List Instant :=
  history.filterMap (fun taken => (deciding settings taken).map (fun asked => asked.2.now))

/-- When a move away from a carrying path was carried out and reported. -/
def movedAway (taken : Turned Loss) : Option Instant :=
  (deciding settings taken).bind (fun asked =>
    if (asked.1.decide asked.2).effects.any Effect.movesAway then some asked.2.now else none)

/-- A move failed, and the path before it was put back. -/
def putBack (taken : Turned Loss) : Bool :=
  (deciding settings taken).any (fun asked =>
    asked.1.monitor.carrying.isSome && (asked.1.decide asked.2).effects.any Effect.failed)

def moves (history : List (Turned Loss)) : List Instant := history.filterMap (movedAway settings)

/-- The moves before the last one that was put back. -/
def forgotten (history : List (Turned Loss)) : List Instant :=
  moves settings (history.dropWhile (fun taken => !putBack settings taken))

def remembered (history : List (Turned Loss)) : List Instant :=
  moves settings (history.takeWhile (fun taken => !putBack settings taken))

/-- A voluntary move that is carried out, by a loop that is like this where it decides. -/
def MovesFreely (taken : Turned Loss) (ready : Loop Loss) (now : Instant) : Prop :=
  ∃ d, deciding settings taken = some (ready, d) ∧ d.now = now ∧
    movedAway settings taken = some now ∧ voluntary (ready.monitor.evaluate now).2 = true

/-- The monitor counts what is remembered. -/
structure Budgeted (history : List (Turned Loss)) (l : Loop Loss) : Prop where
  steer : l.steer = true
  cfg : l.monitor.cfg = settings.failover
  fresh : l.started = false → l.monitor.paths = [] ∧ remembered settings history = []
  counts : ∀ now, (∀ time ∈ clocks settings history, time ≤ now) →
    (l.monitor.state.recentMoves settings.failover now).length =
      (recent settings.failover.window now (remembered settings history)).length

variable {settings} {history : List (Turned Loss)} {l ready : Loop Loss} {taken : Turned Loss}
  {d : Deciding}

omit [Field Loss] [LinearOrder Loss] in
theorem followGateway_loop (l : Loop Loss) (change : Option GatewayChange) (reading : Reading Loss) :
    ∃ holdUntil, (l.followGateway change reading).loop = { l with holdUntil } := by
  unfold Loop.followGateway Loop.newGateway
  split
  · split
    · exact ⟨_, rfl⟩
    · split <;> exact ⟨_, rfl⟩
  · exact ⟨_, rfl⟩

section

variable (budgeted : Budgeted settings history l)

include budgeted

theorem Budgeted.refresh (reading : Reading Loss) :
    Budgeted settings history (l.refresh reading).loop := by
  rw [Loop.refresh]
  dsimp only
  split
  · exact ⟨budgeted.steer, budgeted.cfg, budgeted.fresh, budgeted.counts⟩
  · rw [Loop.look, if_neg (by simp [budgeted.steer])]
    split
    next unstarted =>
      split
      next path _ =>
        -- The first look makes a new failover state, and nothing has moved before it.
        refine ⟨budgeted.steer, budgeted.cfg, by simp, fun _ _ => ?_⟩
        rw [(budgeted.fresh (by simpa using unstarted)).2]
        rfl
      next =>
        obtain ⟨holdUntil, same⟩ := followGateway_loop _ _ reading
        rw [same]
        exact ⟨budgeted.steer, budgeted.cfg, by simp, budgeted.counts⟩
    next started =>
      obtain ⟨holdUntil, same⟩ := followGateway_loop _ _ reading
      rw [same]
      exact ⟨budgeted.steer, budgeted.cfg, fun fresh => absurd fresh (by simpa using started),
        budgeted.counts⟩

theorem Budgeted.prepare (i : Iteration Loss) :
    Budgeted settings history (l.prepare settings i).loop := by
  have handled : Budgeted settings history (l.handle i.event).loop := by
    cases i.event with
    | changed reading => exact budgeted.refresh reading
    | tick => exact budgeted
    | probed path sample now =>
      rw [Loop.handle]
      split
      next monitor observed =>
        obtain ⟨cfg, state, empty⟩ := observe_ok observed
        refine ⟨budgeted.steer, cfg.trans budgeted.cfg, fun fresh => ?_, state ▸ budgeted.counts⟩
        exact (budgeted.fresh fresh).imp_left empty
      next => exact budgeted
  rw [Loop.prepare, Done.andThen]
  split
  · split
    · exact handled.refresh i.refresh
    · exact handled
  · exact handled

theorem Budgeted.readied {i : Iteration Loss} (decides : l.ready settings i = some ready) :
    Budgeted settings history ready := by
  obtain ⟨_, same⟩ := Option.ite_none_right_eq_some.mp decides
  cases same
  have prepared := budgeted.prepare i
  exact ⟨prepared.steer, prepared.cfg, prepared.fresh, prepared.counts⟩

end

theorem remembered_cons (here : deciding settings taken = some (ready, d)) {away back : Bool}
    (moved : (ready.decide d).effects.any Effect.movesAway = away)
    (failed : (ready.monitor.carrying.isSome && (ready.decide d).effects.any Effect.failed) = back) :
    remembered settings (taken :: history) =
      if back then [] else (if away then [d.now] else []) ++ remembered settings history := by
  have left : movedAway settings taken = if away then some d.now else none := by
    rw [movedAway, here, Option.bind_some, moved]
  rw [remembered, List.takeWhile_cons, putBack, here, Option.any_some, failed]
  cases back <;> cases away <;> simp [moves, remembered, left]

theorem counts_move {cfg : FailoverConfig Loss} {s after : FailoverState} {now : Instant}
    {paths : List (NetworkPath Loss)} {source : Option InterfaceId} {target : InterfaceId}
    {reason : MoveReason}
    (outcome : FailoverState.Outcome cfg s paths now after (.move source target reason)) :
    counts (.move source target reason) = source.isSome := by
  cases outcome <;> rfl

theorem Budgeted.decide (budgeted : Budgeted settings history ready)
    (here : deciding settings taken = some (ready, d)) (going : (ready.decide d).goesOn = true) :
    Budgeted settings (taken :: history) (ready.decide d).loop := by
  have remembers {away back : Bool} :=
    @remembered_cons Loss _ _ settings history ready taken d here away back
  have evaluates : Evaluates settings.failover ready.monitor.state
      ⟨ready.monitor.evidence d.now, d.now, (ready.monitor.evaluate d.now).2⟩
      (ready.monitor.evaluate d.now).1.state := by
    rw [← budgeted.cfg]
    rfl
  have evaluated := ready.monitor.evaluate_evaluated d.now
  have empty (none_ : ready.monitor.paths = []) : (ready.monitor.evaluate d.now).1.paths = [] := by
    simp [PathMonitor.evaluate, PathMonitor.applyRoles, none_]
  have cfg : (ready.monitor.evaluate d.now).1.cfg = settings.failover := budgeted.cfg
  have clocked : clocks settings (taken :: history) = d.now :: clocks settings history := by
    simp [clocks, here]
  generalize decided : ready.decide d = done at going remembers ⊢
  rw [Loop.decide] at decided
  split at decided
  · subst decided
    have still := remembers rfl (Bool.and_false _)
    refine ⟨budgeted.steer, budgeted.cfg, fun fresh => still ▸ budgeted.fresh fresh, ?_⟩
    rw [still, clocked]
    exact fun now past => budgeted.counts now fun time member => past time (.tail _ member)
  · generalize ready.monitor.evaluate d.now = answer at evaluates evaluated empty cfg decided
    obtain ⟨monitor, decision⟩ := answer
    dsimp only at evaluates evaluated empty cfg decided
    have counted (kept : remembered settings (taken :: history) =
        (if Failover.counts decision then [d.now] else []) ++ remembered settings history)
        (now : Instant) (past : ∀ time ∈ clocks settings (taken :: history), time ≤ now) :
        (monitor.state.recentMoves settings.failover now).length =
          (recent settings.failover.window now (remembered settings (taken :: history))).length := by
      rw [clocked] at past
      have before := budgeted.counts now fun time member => past time (.tail _ member)
      rw [FailoverState.recentMoves, (evaluates_moves settings.failover evaluates).1, kept,
        recent_append, recent_append, FailoverState.recentMoves,
        recent_recent _ (past d.now (.head _)), List.length_append, List.length_append, ← before,
        Nat.add_comm]
      rfl
    split at decided
    · subst decided
      cases going
    · cases evaluated with
      | stay | noPath =>
        subst decided
        have still := remembers rfl (Bool.and_false _)
        refine ⟨budgeted.steer, cfg, fun fresh => ?_, counted still⟩
        exact ⟨empty (budgeted.fresh fresh).1, still ▸ (budgeted.fresh fresh).2⟩
      | move target reason carries listed =>
        obtain ⟨path, found⟩ := listed
        have started : ready.started ≠ false := by
          intro fresh
          rw [PathMonitor.path?, empty (budgeted.fresh fresh).1] at found
          cases found
        rw [counts_move (evaluates_outcome settings.failover evaluates)] at counted
        simp only [found] at decided
        split at decided
        · subst decided
          refine ⟨budgeted.steer, cfg, fun fresh => absurd fresh started, counted ?_⟩
          exact @remembers ready.monitor.carrying.isSome false (by simp [Effect.movesAway])
            (by simp [Effect.failed])
        · subst decided
          cases source : ready.monitor.carrying with
          | none =>
            rw [source] at counted
            refine ⟨budgeted.steer, cfg, fun fresh => absurd fresh started, counted ?_⟩
            exact @remembers false false rfl (by rw [source]; rfl)
          | some back =>
            rw [source] at remembers
            refine ⟨budgeted.steer, cfg, fun fresh => absurd fresh started, fun _ _ => ?_⟩
            rw [remembers rfl rfl]
            rfl

theorem Budgeted.idle (budgeted : Budgeted settings history l)
    (idle : deciding settings taken = none) : Budgeted settings (taken :: history) l := by
  have still : remembered settings (taken :: history) = remembered settings history := by
    simp [remembered, moves, putBack, movedAway, idle]
  have clocked : clocks settings (taken :: history) = clocks settings history := by
    simp [clocks, idle]
  exact ⟨budgeted.steer, budgeted.cfg, still ▸ budgeted.fresh, still ▸ clocked ▸ budgeted.counts⟩

theorem run_budgeted {needsGateway : Bool} {now : Instant} {w : Watching Loss}
    (run : Run (Watching.Steps settings) (.start settings true needsGateway now) history w) :
    (w.begun = false ∨ w.running = true) → Budgeted settings history w.loop := by
  induction run with
  | start => exact fun _ => ⟨rfl, rfl, fun _ => ⟨rfl, rfl⟩, fun _ _ => rfl⟩
  | @next _ w after turn run turns ih =>
    intro running
    have budgeted := ih (running_of_turn turns)
    obtain ⟨_, loop, goesOn, _⟩ := turn_tells budgeted.steer turns
    rw [begun_of_turn turns, goesOn] at running
    have going := running.resolve_left (by simp)
    rw [loop]
    cases turn with
    | first reading => exact (budgeted.refresh reading).idle rfl
    | iteration i =>
      cases decides : w.loop.ready settings i with
      | none =>
        rw [Watching.does, Loop.iterate, decides]
        exact (budgeted.prepare i).idle (congrArg (Option.map _) decides)
      | some ready =>
        rw [Watching.does, (iterate_some decides).2.2.2.2] at going ⊢
        exact (budgeted.readied decides).decide (congrArg (Option.map _) decides) going

end Moves

section Traces

/-- One move in ten minutes, and nothing to wait for. -/
def eager : Settings Rat :=
  { failover := ⟨⟨3 / 20, 1 / 2, Duration.ofMillis 300⟩, 0, 0, 0, 0, 1, Duration.ofSecs 600⟩ }

def path (id : UInt64) (preference : Int) (role : PathRole) : ListedPath Rat :=
  ⟨⟨⟨id⟩, .unmeasured, role, preference⟩, .other, some (.v4 (.ofOctets 10 0 0 1))⟩

def iterates (now : Instant) (event : Event Rat) (carries : Bool) : Turn Rat :=
  .iteration ⟨event, now, reading now [], now, ⟨now, false, carries, true⟩⟩

/-- A better path is found and taken; it is lost and the move away from it fails; it is back, and one
better still is found. -/
def forgetful : Watching Rat × List (Turned Rat) :=
  follow (Watching.next eager) (.start eager true true 0)
    [.first (reading 0 [path 1 0 .standby, path 2 1 .standby]),
      iterates 1 (.probed ⟨2⟩ (.answered 20) 1) true,
      iterates 2 (.changed (reading 2 [path 1 0 .standby, path 2 1 .unusable])) false,
      iterates (Duration.ofSecs 60)
        (.changed (reading (Duration.ofSecs 60) [path 1 0 .standby, path 2 1 .standby, path 3 2 .standby])) true,
      iterates (Duration.ofSecs 61) (.probed ⟨3⟩ (.answered 20) (Duration.ofSecs 61)) true]

theorem forgetful_moves : ∃ taken older ready now, forgetful.2 = taken :: older ∧
    MovesFreely eager taken ready now ∧
    (within eager.failover.window now (moves eager older)).length = eager.failover.maxMoves := by
  have facts : forgetful.2.head?.any (fun taken => (deciding eager taken).any (fun asked =>
      voluntary (asked.1.monitor.evaluate asked.2.now).2 &&
        movedAway eager taken == some asked.2.now &&
        (within eager.failover.window asked.2.now (moves eager forgetful.2.tail)).length == 1)) =
      true := by
    decide +kernel
  cases whole : forgetful.2 with
  | nil =>
    rw [whole] at facts
    cases facts
  | cons taken older =>
    rw [whole, List.head?_cons, Option.any_some] at facts
    obtain ⟨⟨ready, d⟩, here, holds⟩ := (Option.any_eq_true _ _).mp facts
    simp only [Bool.and_eq_true, beq_iff_eq] at holds
    exact ⟨taken, older, ready, d.now, rfl, ⟨d, here, rfl, holds.1.2, holds.1.1⟩, holds.2⟩

end Traces

end DnetEngine.Netwatch
