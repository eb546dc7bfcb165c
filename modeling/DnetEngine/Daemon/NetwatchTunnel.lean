import DnetEngine.Daemon.Netwatch

/-! Whether the watch of a steered profile knows where the tunnel is: a move that failed is put back
exactly when something was carrying before it. -/

namespace DnetEngine

open Lib Failover

namespace PathMonitor

section Lists

variable {Loss : Type} {m : PathMonitor Loss}

theorem interface_of_path {id : InterfaceId} {path : ListedPath Loss}
    (found : m.path? id = some path) : path.interfaceId = id := by
  simpa using List.find?_some found

theorem path_of_mem {id : InterfaceId} (listed : id ∈ m.paths.map (fun p => p.interfaceId)) :
    ∃ path, m.path? id = some path := by
  obtain ⟨path, member, same⟩ := List.mem_map.mp listed
  refine Option.isSome_iff_exists.mp (List.find?_isSome.mpr ⟨path, member, ?_⟩)
  exact decide_eq_true same

theorem interfaces_applyRoles (m : PathMonitor Loss) :
    m.applyRoles.paths.map (fun p => p.interfaceId) = m.paths.map (fun p => p.interfaceId) := by
  rw [applyRoles, List.map_map]
  rfl

theorem pathsChanged_gateway {observed : List (ListedPath Loss)} {change : GatewayChange}
    (renewed : (m.pathsChanged observed).2.carryingGateway = some change) :
    m.carrying = some change.interface := by
  simp only [pathsChanged, Option.bind_eq_some_iff] at renewed
  obtain ⟨old, ⟨id, carried, found⟩, new, _, changed⟩ := renewed
  obtain ⟨_, changed⟩ := Option.ite_none_right_eq_some.mp changed
  cases changed
  rw [carrying, carried, interface_of_path found]

end Lists

section Evaluation

variable {Loss : Type} [Field Loss] [LinearOrder Loss]

omit [LinearOrder Loss] in
theorem interfaces_evidence (m : PathMonitor Loss) (now : Instant) :
    (m.evidence now).map NetworkPath.interfaceId = m.paths.map (fun p => p.interfaceId) := by
  rw [evidence, List.map_map]
  apply List.map_congr_left
  intro path _
  dsimp only [Function.comp_apply]
  split <;> rfl

inductive Evaluated (m after : PathMonitor Loss) : Decision → Prop
  | stay (same : after.carrying = m.carrying) : Evaluated m after .stay
  | noPath (nothing : after.carrying = none) : Evaluated m after .noPath
  | move (target : InterfaceId) (reason : MoveReason) (carries : after.carrying = some target)
      (listed : ∃ path, after.path? target = some path) :
      Evaluated m after (.move m.carrying target reason)

theorem evaluate_evaluated (m : PathMonitor Loss) (now : Instant) :
    Evaluated m (m.evaluate now).1 (m.evaluate now).2 := by
  have outcome := FailoverState.evaluate_outcome m.cfg m.state (m.evidence now) now
  have carries : (m.evaluate now).1.carrying =
      (m.state.evaluate m.cfg (m.evidence now) now).1.carrying := rfl
  have interfaces : (m.evaluate now).1.paths.map (fun p => p.interfaceId) =
      (m.evidence now).map NetworkPath.interfaceId :=
    (interfaces_applyRoles _).trans (interfaces_evidence m now).symm
  have decided : (m.evaluate now).2 = (m.state.evaluate m.cfg (m.evidence now) now).2 := rfl
  rw [decided]
  generalize (m.state.evaluate m.cfg (m.evidence now) now).1 = state at outcome carries
  generalize (m.state.evaluate m.cfg (m.evidence now) now).2 = decision at outcome
  cases decision with
  | stay =>
    cases outcome
    exact .stay carries
  | noPath =>
    cases outcome
    exact .noPath carries
  | move _ target reason =>
    obtain ⟨rfl, moved, p, listed, same, _⟩ := outcome.moves
    refine .move target reason (carries.trans moved) (path_of_mem ?_)
    rw [interfaces, ← same]
    exact List.mem_map_of_mem listed

end Evaluation

end PathMonitor

namespace Netwatch

section Effects

variable {Loss : Type}

def KnowsTunnel (l : Loop Loss) (tunnel : Option InterfaceId) : Prop :=
  ∀ path, l.monitor.carrying = some path → tunnel = some path

/-- Every report of a move follows the look or the carry-over that makes it true. -/
inductive Told : List (Effect Loss) → Prop
  | nothing : Told []
  | tried (path : ListedPath Loss) (succeeded : Bool) {rest : List (Effect Loss)}
      (told : Told rest) : Told (.carriedOver path succeeded :: rest)
  | looked (carrying : InterfaceId) {rest : List (Effect Loss)} (told : Told rest) :
      Told (.looked carrying :: .moved none carrying :: rest)
  | carried (path : ListedPath Loss) (source : Option InterfaceId) {rest : List (Effect Loss)}
      (told : Told rest) :
      Told (.carriedOver path true :: .moved source path.interfaceId :: rest)

theorem Told.append {first second : List (Effect Loss)} (told : Told first)
    (also : Told second) : Told (first ++ second) := by
  induction told with
  | nothing => exact also
  | tried path succeeded _ ih => exact ih.tried path succeeded
  | looked carrying _ ih => exact ih.looked carrying
  | carried path source _ ih => exact ih.carried path source

theorem Told.before {effects before after : List (Effect Loss)} {source : Option InterfaceId}
    {target : InterfaceId} (told : Told effects)
    (here : effects = before ++ .moved source target :: after) :
    ∃ earlier, before = earlier ++ [.looked target] ∨
      ∃ path, before = earlier ++ [.carriedOver path true] ∧ path.interfaceId = target := by
  have later {first : Effect Loss} {rest : List (Effect Loss)}
      (found : ∃ earlier, rest = earlier ++ [.looked target] ∨
        ∃ path, rest = earlier ++ [.carriedOver path true] ∧ path.interfaceId = target) :
      ∃ earlier, first :: rest = earlier ++ [.looked target] ∨
        ∃ path, first :: rest = earlier ++ [.carriedOver path true] ∧
          path.interfaceId = target := by
    obtain ⟨earlier, rfl | ⟨path, rfl, same⟩⟩ := found
    · exact ⟨first :: earlier, .inl rfl⟩
    · exact ⟨first :: earlier, .inr ⟨path, rfl, same⟩⟩
  induction told generalizing before with
  | nothing => cases before <;> cases here
  | tried _ _ _ ih =>
    cases before with
    | nil => cases here
    | cons =>
      exact later (ih (List.cons.inj here).2)
  | looked _ _ ih =>
    rcases before with _ | ⟨first, _ | ⟨second, rest⟩⟩
    · cases here
    · cases here
      exact ⟨[], .inl rfl⟩
    · exact later (later (ih (List.cons.inj (List.cons.inj here).2).2))
  | carried path _ _ ih =>
    rcases before with _ | ⟨first, _ | ⟨second, rest⟩⟩
    · cases here
    · cases here
      exact ⟨[], .inr ⟨path, rfl, rfl⟩⟩
    · exact later (later (ih (List.cons.inj (List.cons.inj here).2).2))

/-- A part of the loop of a steered profile: it reports no move that was not made. -/
structure Tells (l : Loop Loss) (done : Done Loss) : Prop where
  steer : done.loop.steer = l.steer
  told : Told done.effects

/-- A part that knows where it leaves the tunnel. -/
structure Tracks (l : Loop Loss) (done : Done Loss) : Prop extends Tells l done where
  knows : done.goesOn = true → ∀ tunnel, KnowsTunnel l tunnel →
    KnowsTunnel done.loop (done.effects.foldl landed tunnel)

variable {l : Loop Loss}

theorem tracks_quiet {loop : Loop Loss} (goesOn : Bool) (steer : loop.steer = l.steer)
    (carries : loop.monitor.carrying = l.monitor.carrying ∨ loop.monitor.carrying = none) :
    Tracks l { loop, goesOn } where
  steer := steer
  told := .nothing
  knows := by
    intro _ tunnel knows path carrying
    have here : loop.monitor.carrying = some path := carrying
    rcases carries with same | nothing
    · exact knows path (same.symm.trans here)
    · rw [nothing] at here
      cases here

theorem Tracks.andThen {first : Done Loss} {next : Loop Loss → Done Loss} (tracks : Tracks l first)
    (also : first.goesOn = true → Tracks first.loop (next first.loop)) :
    Tracks l (first.andThen next) := by
  rw [Done.andThen]
  split
  · rename_i goesOn
    refine ⟨⟨(also goesOn).steer.trans tracks.steer, tracks.told.append (also goesOn).told⟩, ?_⟩
    intro still tunnel knows
    rw [List.foldl_append]
    exact (also goesOn).knows still _ (tracks.knows goesOn tunnel knows)
  · exact tracks

theorem newGateway_tracks {change : GatewayChange} (reading : Reading Loss)
    (carries : l.monitor.carrying = some change.interface) :
    Tracks l (l.newGateway change reading) := by
  rw [Loop.newGateway]
  split
  · exact tracks_quiet true rfl (.inl rfl)
  · rename_i path found
    split
    · refine ⟨⟨rfl, .tried path true .nothing⟩, ?_⟩
      intro _ tunnel knows id carrying
      rw [carries] at carrying
      cases carrying
      exact congrArg some (PathMonitor.interface_of_path found)
    · exact ⟨⟨rfl, .tried path false .nothing⟩, fun _ tunnel knows => knows⟩

variable {change : Option GatewayChange} {d : Deciding} {done : Done Loss}

theorem followGateway_tracks (reading : Reading Loss)
    (carries : ∀ c, change = some c → l.monitor.carrying = some c.interface) :
    Tracks l (l.followGateway change reading) := by
  cases change with
  | none => exact tracks_quiet true rfl (.inl rfl)
  | some c => exact newGateway_tracks reading (carries c rfl)

theorem look_tracks (reading : Reading Loss) (steer : l.steer = true)
    (carries : ∀ c, change = some c → l.monitor.carrying = some c.interface) :
    Tracks l (l.look change reading) := by
  rw [Loop.look, if_neg (by rw [steer]; exact Bool.false_ne_true)]
  split
  · split
    · rename_i path _
      refine ⟨⟨rfl, .looked path .nothing⟩, ?_⟩
      intro _ tunnel _ id carrying
      exact carrying
    · have tracks := followGateway_tracks (l := { l with started := true }) reading carries
      exact ⟨⟨tracks.steer, tracks.told⟩, tracks.knows⟩
  · exact followGateway_tracks reading carries

theorem refresh_tracks (l : Loop Loss) (reading : Reading Loss) (steer : l.steer = true) :
    Tracks l (l.refresh reading) := by
  rw [Loop.refresh]
  split
  · exact tracks_quiet true rfl (.inl rfl)
  · rename_i observed _
    have renewed (c : GatewayChange)
        (changed : (l.monitor.pathsChanged (l.capable observed)).2.carryingGateway = some c) :
        (l.monitor.pathsChanged (l.capable observed)).1.carrying = some c.interface := by
      have before := PathMonitor.pathsChanged_gateway changed
      exact before
    have tracks := @look_tracks Loss
      { l with
        refreshedAt := reading.now
        monitor := (l.monitor.pathsChanged (l.capable observed)).1 } _ reading steer renewed
    exact ⟨⟨tracks.steer, tracks.told⟩, tracks.knows⟩

inductive Decides (l : Loop Loss) (d : Deciding) : Done Loss → Prop
  | held {until_ : Instant} (hold : l.holdUntil = some until_) (early : d.now < until_) :
      Decides l d { loop := l }
  | ended {loop : Loop Loss} (steer : loop.steer = l.steer) :
      Decides l d { loop, goesOn := false }
  | stays {loop : Loop Loss} (steer : loop.steer = l.steer)
      (carries : loop.monitor.carrying = l.monitor.carrying ∨ loop.monitor.carrying = none) :
      Decides l d { loop }
  | carried {loop : Loop Loss} (path : ListedPath Loss) (steer : loop.steer = l.steer)
      (carries : loop.monitor.carrying = some path.interfaceId) (goesOn : Bool) :
      Decides l d
        { loop
          effects := [.carriedOver path true, .moved l.monitor.carrying path.interfaceId]
          goesOn }
  | failed {loop : Loop Loss} (path : ListedPath Loss) (steer : loop.steer = l.steer)
      (hold : loop.holdUntil = some (d.now + holdAfterFailure))
      (carries : loop.monitor.carrying =
        if l.monitor.carrying.isSome then l.monitor.carrying else some path.interfaceId) :
      Decides l d { loop, effects := [.carriedOver path false] }

theorem Decides.tells (decides : Decides l d done) : Tells l done := by
  cases decides with
  | held => exact ⟨rfl, .nothing⟩
  | ended steer | stays steer => exact ⟨steer, .nothing⟩
  | carried path steer => exact ⟨steer, .carried path _ .nothing⟩
  | failed path steer => exact ⟨steer, .tried path false .nothing⟩

/-- A decision knows where it leaves the tunnel, unless it failed with nothing carrying. -/
theorem Decides.tracks (decides : Decides l d done)
    (fine : ∀ path, .carriedOver path false ∈ done.effects → l.monitor.carrying ≠ none) :
    Tracks l done := by
  refine ⟨decides.tells, ?_⟩
  intro goesOn tunnel knows id carrying
  cases decides with
  | held => exact knows id carrying
  | ended => cases goesOn
  | stays steer carries =>
    exact (tracks_quiet true steer carries).knows rfl tunnel knows id carrying
  | carried _ _ carries => exact carries.symm.trans carrying
  | failed path _ _ carries =>
    have something := Option.isSome_iff_ne_none.mpr (fine path List.mem_cons_self)
    rw [if_pos something] at carries
    exact knows id (carries.symm.trans carrying)

theorem Decides.failure {path : ListedPath Loss} (decides : Decides l d done)
    (failed : .carriedOver path false ∈ done.effects) :
    done.goesOn = true ∧ done.loop.holdUntil = some (d.now + holdAfterFailure) ∧
      done.loop.monitor.carrying =
        if l.monitor.carrying.isSome then l.monitor.carrying else some path.interfaceId := by
  cases decides with
  | held | ended | stays => cases failed
  | carried => simp at failed
  | failed other _ hold carries =>
    have same : path = other := by simpa using failed
    subst same
    exact ⟨rfl, hold, carries⟩

end Effects

section Parts

variable {Loss : Type} [Field Loss] [LinearOrder Loss] {settings : Settings Loss}

theorem observe_ok {m after : PathMonitor Loss} {path : InterfaceId} {sample : PathSample}
    {now : Instant} (observed : m.observe path sample now = .ok after) :
    after.cfg = m.cfg ∧ after.state = m.state ∧ (m.paths = [] → after.paths = []) := by
  rw [PathMonitor.observe] at observed
  split at observed
  · cases observed
    exact ⟨rfl, rfl, id⟩
  · obtain ⟨quality, _, rest⟩ := bind_ok.mp observed
    cases rest
    exact ⟨rfl, rfl, fun empty => by rw [empty]; rfl⟩

variable (l : Loop Loss)

theorem handle_tracks (event : Event Loss) (steer : l.steer = true) :
    Tracks l (l.handle event) := by
  cases event with
  | changed reading => exact refresh_tracks l reading steer
  | probed path sample now =>
    rw [Loop.handle]
    split
    · rename_i monitor observed
      exact tracks_quiet true rfl (.inl (congrArg FailoverState.carrying (observe_ok observed).2.1))
    · exact tracks_quiet false rfl (.inl rfl)
  | tick => exact tracks_quiet true rfl (.inl rfl)

theorem prepare_tracks (settings : Settings Loss) (l : Loop Loss) (i : Iteration Loss) (steer : l.steer = true) :
    Tracks l (l.prepare settings i) := by
  have handled := handle_tracks l i.event steer
  apply handled.andThen
  intro _
  split
  · exact refresh_tracks _ _ (handled.steer.trans steer)
  · exact tracks_quiet true rfl (.inl rfl)

theorem decide_decides (d : Deciding) : Decides l d (l.decide d) := by
  rw [Loop.decide]
  split
  · rename_i held
    obtain ⟨until_, hold, early⟩ := (Option.any_eq_true _ _).mp held
    exact .held hold (of_decide_eq_true early)
  · have evaluated := l.monitor.evaluate_evaluated d.now
    generalize l.monitor.evaluate d.now = evaluation at evaluated ⊢
    obtain ⟨monitor, decision⟩ := evaluation
    dsimp only at evaluated ⊢
    split
    · exact .ended rfl
    · cases evaluated with
      | stay same => exact .stays rfl (.inl same)
      | noPath nothing => exact .stays rfl (.inr nothing)
      | move _ _ carries listed =>
        obtain ⟨path, found⟩ := listed
        have here := PathMonitor.interface_of_path found
        subst here
        dsimp only
        rw [found]
        dsimp only
        split
        · refine .carried path ?_ ?_ d.delivered
          · rfl
          · exact carries
        · refine .failed path rfl rfl ?_
          cases source : l.monitor.carrying with
          | none => exact carries
          | some => rfl

theorem evaluate_moves (m : PathMonitor Loss) (now : Instant)
    (lost : ∀ path ∈ m.paths, m.carrying = some path.interfaceId → path.role = .unusable)
    (other : ∃ path ∈ m.paths, path.role ≠ .unusable) :
    ∃ target reason, (m.evaluate now).2 = .move m.carrying target reason := by
  have listed {seen : NetworkPath Loss} (member : seen ∈ m.evidence now) :
      ∃ path ∈ m.paths, seen.interfaceId = path.interfaceId ∧ seen.role = path.role := by
    obtain ⟨path, inside, same⟩ := List.mem_map.mp member
    refine ⟨path, inside, ?_⟩
    dsimp only at same
    split at same <;> rw [← same] <;> exact ⟨rfl, rfl⟩
  have idle : m.state.carryingPath (m.evidence now) = none := by
    rw [Option.eq_none_iff_forall_ne_some]
    intro current carries
    obtain ⟨carried, member, working⟩ := carryingPath_some carries
    obtain ⟨path, inside, interface, role⟩ := listed member
    rw [usable, role, lost path inside (carried.trans (congrArg some interface))] at working
    cases working
  have seen : best m.cfg (m.evidence now) (fun _ => true) ≠ none := by
    intro nothing
    obtain ⟨path, inside, working⟩ := other
    have unusable := best_none.mp nothing _ (List.mem_map_of_mem inside)
    dsimp only at unusable
    split at unusable <;> exact working (by simpa [usable] using unusable)
  obtain ⟨target, chosen⟩ := Option.ne_none_iff_exists'.mp seen
  refine ⟨target.interfaceId, if m.state.carrying.isSome then .lost else .acquired, ?_⟩
  rw [PathMonitor.evaluate]
  simp only [FailoverState.evaluate, idle, chosen]
  rfl

theorem decide_tries (d : Deciding) (free : ∀ until_, l.holdUntil = some until_ → until_ ≤ d.now)
    (told : d.untold = false)
    (lost : ∀ path ∈ l.monitor.paths, l.monitor.carrying = some path.interfaceId → path.role = .unusable)
    (other : ∃ path ∈ l.monitor.paths, path.role ≠ .unusable) :
    ∃ path succeeded, .carriedOver path succeeded ∈ (l.decide d).effects := by
  have open_ : ¬l.holdUntil.any (fun until_ => decide (d.now < until_)) = true := by
    intro held
    obtain ⟨until_, hold, early⟩ := (Option.any_eq_true _ _).mp held
    exact absurd (of_decide_eq_true early) (Nat.not_lt.mpr (free until_ hold))
  obtain ⟨target, reason, decision⟩ := evaluate_moves l.monitor d.now lost other
  have evaluated := l.monitor.evaluate_evaluated d.now
  rw [Loop.decide, if_neg open_]
  generalize l.monitor.evaluate d.now = evaluation at evaluated decision ⊢
  obtain ⟨monitor, decided⟩ := evaluation
  dsimp only at decision evaluated ⊢
  subst decision
  rw [if_neg (by rw [told]; exact Bool.false_ne_true)]
  cases evaluated with
  | move _ _ _ listed =>
    obtain ⟨path, found⟩ := listed
    simp only [found]
    split
    · exact ⟨path, true, List.mem_cons_self⟩
    · exact ⟨path, false, List.mem_cons_self⟩

theorem iterate_some {l ready : Loop Loss} {i : Iteration Loss}
    (decides : l.ready settings i = some ready) :
    (l.prepare settings i).goesOn = true ∧ (l.prepare settings i).loop.steer = true ∧
      ready.steer = (l.prepare settings i).loop.steer ∧
      ready.monitor.carrying = (l.prepare settings i).loop.monitor.carrying ∧
      l.iterate settings i =
        { ready.decide i.deciding with
          effects := (l.prepare settings i).effects ++ (ready.decide i.deciding).effects } := by
  rw [Loop.iterate, decides]
  obtain ⟨goesOn, same⟩ := Option.ite_none_right_eq_some.mp decides
  rw [Bool.and_eq_true] at goesOn
  cases same
  exact ⟨goesOn.1, goesOn.2, rfl, rfl, rfl⟩

theorem iterate_tells (i : Iteration Loss) (steer : l.steer = true) :
    Tells l (l.iterate settings i) := by
  have prepared := prepare_tracks settings l i steer
  cases decides : l.ready settings i with
  | none =>
    rw [Loop.iterate, decides]
    exact prepared.toTells
  | some ready =>
    obtain ⟨_, _, same, _, iterates⟩ := iterate_some decides
    have decided := (decide_decides ready i.deciding).tells
    rw [iterates]
    exact ⟨(decided.steer.trans same).trans prepared.steer, prepared.told.append decided.told⟩

theorem iterate_tracks (i : Iteration Loss) (steer : l.steer = true)
    (fine : ∀ ready path, l.ready settings i = some ready → .carriedOver path false ∈ (ready.decide i.deciding).effects → ready.monitor.carrying ≠ none)
    :
    Tracks l (l.iterate settings i) := by
  have prepared := prepare_tracks settings l i steer
  refine ⟨iterate_tells l i steer, ?_⟩
  intro still tunnel knows
  cases decides : l.ready settings i with
  | none =>
    rw [Loop.iterate, decides] at still ⊢
    exact prepared.knows still tunnel knows
  | some ready =>
    obtain ⟨goesOn, _, _, carries, iterates⟩ := iterate_some decides
    have decided := (decide_decides ready i.deciding).tracks
      (fun path failed => fine ready path decides failed)
    rw [iterates] at still ⊢
    rw [List.foldl_append]
    apply decided.knows still
    intro path carrying
    exact prepared.knows goesOn tunnel knows path (carries.symm.trans carrying)

end Parts

section Runs

variable {Loss : Type} [Field Loss] [LinearOrder Loss]

def FailedMove (settings : Settings Loss) (taken : Taken (Watching Loss) (Turn Loss))
    (ready : Loop Loss) : Prop :=
  ∃ i path, taken.label = .iteration i ∧ taken.before.loop.ready settings i = some ready ∧
    .carriedOver path false ∈ (ready.decide i.deciding).effects

variable {settings : Settings Loss}

theorem FailedMove.after {taken : Taken (Watching Loss) (Turn Loss)} {ready : Loop Loss}
    (failed : FailedMove settings taken ready)
    (turns : Watching.Steps settings taken.before taken.label taken.after) :
    ∃ i, ∃ path : ListedPath Loss, taken.label = .iteration i ∧ taken.after.running = true ∧
      taken.after.loop.holdUntil = some (i.deciding.now + holdAfterFailure) ∧
      taken.after.loop.monitor.carrying =
        if ready.monitor.carrying.isSome then ready.monitor.carrying
        else some path.interfaceId := by
  obtain ⟨i, path, label, decides, tried⟩ := failed
  obtain ⟨before, turn, after⟩ := taken
  dsimp only at label decides turns ⊢
  subst label
  obtain ⟨_, same⟩ := Option.ite_none_right_eq_some.mp turns
  cases same
  refine ⟨i, path, rfl, ?_⟩
  simp only [Watching.does, (iterate_some decides).2.2.2.2]
  exact (decide_decides ready i.deciding).failure tried

variable {w after : Watching Loss} {turn : Turn Loss}

theorem turn_tells (steer : w.loop.steer = true) (turns : Watching.Steps settings w turn after) :
    Tells w.loop (w.does settings turn) ∧ after.loop = (w.does settings turn).loop ∧
      after.running = (w.does settings turn).goesOn ∧
      after.tunnel = (w.does settings turn).effects.foldl landed w.tunnel := by
  obtain ⟨_, same⟩ := Option.ite_none_right_eq_some.mp turns
  cases same
  refine ⟨?_, rfl, rfl, rfl⟩
  cases turn with
  | first reading => exact (refresh_tracks w.loop reading steer).toTells
  | iteration i => exact iterate_tells w.loop i steer

theorem turn_knows (steer : w.loop.steer = true) (turns : Watching.Steps settings w turn after)
    (fine : ∀ ready, FailedMove settings ⟨w, turn, after⟩ ready → ready.monitor.carrying ≠ none)
    (knows : KnowsTunnel w.loop w.tunnel) (running : after.running = true) :
    KnowsTunnel after.loop after.tunnel := by
  obtain ⟨_, loop, goesOn, tunnel⟩ := turn_tells steer turns
  rw [loop, tunnel]
  rw [goesOn] at running
  cases turn with
  | first reading => exact (refresh_tracks w.loop reading steer).knows running _ knows
  | iteration i =>
    have tracks := iterate_tracks w.loop i steer
      (fun ready path decides failed => fine ready ⟨i, path, rfl, decides, failed⟩)
    exact tracks.knows running _ knows

theorem begun_of_turn (turns : Watching.Steps settings w turn after) : after.begun = true := by
  obtain ⟨_, same⟩ := Option.ite_none_right_eq_some.mp turns
  cases same
  rfl

theorem running_of_turn (turns : Watching.Steps settings w turn after) :
    w.begun = false ∨ w.running = true := by
  obtain ⟨may, _⟩ := Option.ite_none_right_eq_some.mp turns
  cases turn with
  | first => exact .inl (by simpa [Watching.mayTurn] using may)
  | iteration => exact .inr (by simp_all [Watching.mayTurn])

variable {settings : Settings Loss} {needsGateway : Bool} {now : Instant}
  {history : List (Taken (Watching Loss) (Turn Loss))} {w : Watching Loss}

theorem run_steers
    (run : Run (Watching.Steps settings) (.start settings true needsGateway now) history w) :
    w.loop.steer = true := by
  apply run_state_invariant (fun w : Watching Loss => w.loop.steer = true) rfl _ run
  intro w turn after steer turns
  obtain ⟨tells, loop, _⟩ := turn_tells steer turns
  rw [loop]
  exact tells.steer.trans steer

theorem run_knows
    (run : Run (Watching.Steps settings) (.start settings true needsGateway now) history w)
    (fine : ∀ taken ∈ history, ∀ ready, FailedMove settings taken ready →
      ready.monitor.carrying ≠ none) :
    (w.begun = false ∨ w.running = true) → KnowsTunnel w.loop w.tunnel := by
  induction run with
  | start => exact fun _ _ => nofun
  | @next _ _ after _ run turns ih =>
    intro running
    have going : after.running = true := by
      rcases running with fresh | going
      · cases (begun_of_turn turns).symm.trans fresh
      · exact going
    refine turn_knows (run_steers run) turns (fine _ List.mem_cons_self) ?_ going
    exact ih (fun taken member => fine taken (List.mem_cons_of_mem _ member))
      (running_of_turn turns)

end Runs

/-- In every run of the watch of a steered profile: the monitor names the path the tunnel is on after
every turn, and puts back every move that failed, exactly if no move fails while the monitor carries
nothing. Whatever fails, a move is reported only right after its carry-over succeeded or the first
look found the tunnel there; after a failed move none is tried for the hold, and when it is gone a
loop whose carrying path is not usable tries the next path there is. -/
theorem watch_knows_tunnel_iff {Loss : Type} [Field Loss] [LinearOrder Loss]
    (settings : Settings Loss) (needsGateway : Bool) (now : Instant)
    (history : List (Taken (Watching Loss) (Turn Loss))) (w : Watching Loss)
    (run : Run (Watching.Steps settings) (.start settings true needsGateway now) history w) :
    ((∀ taken ∈ history,
        (taken.after.running = true → ∀ path, taken.after.loop.monitor.carrying = some path →
          taken.after.tunnel = some path) ∧
        ∀ ready, FailedMove settings taken ready →
          taken.after.loop.monitor.carrying = ready.monitor.carrying) ↔
      ∀ taken ∈ history, ∀ ready, FailedMove settings taken ready →
        ready.monitor.carrying ≠ none) ∧
    ∀ taken ∈ history,
      (∀ before source target after,
        (taken.before.does settings taken.label).effects =
            before ++ .moved source target :: after →
        ∃ earlier, before = earlier ++ [.looked target] ∨
          ∃ path, before = earlier ++ [.carriedOver path true] ∧ path.interfaceId = target) ∧
      ∀ i ready, taken.label = .iteration i → taken.before.loop.ready settings i = some ready →
        (∀ path, .carriedOver path false ∈ (ready.decide i.deciding).effects →
          taken.after.loop.holdUntil = some (i.deciding.now + holdAfterFailure)) ∧
        ((∃ until_, ready.holdUntil = some until_ ∧ i.deciding.now < until_) →
          (ready.decide i.deciding).effects = []) ∧
        ((∀ until_, ready.holdUntil = some until_ → until_ ≤ i.deciding.now) →
          i.deciding.untold = false →
          (∀ path ∈ ready.monitor.paths, ready.monitor.carrying = some path.interfaceId →
            path.role = .unusable) →
          (∃ path ∈ ready.monitor.paths, path.role ≠ .unusable) →
          ∃ path succeeded, .carriedOver path succeeded ∈ (ready.decide i.deciding).effects) := by
  have turned {taken : Taken (Watching Loss) (Turn Loss)} (member : taken ∈ history) :
      ∃ newer older, history = newer ++ taken :: older ∧
        Run (Watching.Steps settings) (.start settings true needsGateway now) older taken.before ∧
        Watching.Steps settings taken.before taken.label taken.after := by
    obtain ⟨newer, older, rfl⟩ := List.append_of_mem member
    obtain ⟨earlier, turns, _⟩ := run_taken run
    exact ⟨newer, older, rfl, earlier, turns⟩
  refine ⟨⟨?_, ?_⟩, ?_⟩
  · intro fine taken member ready failed nothing
    obtain ⟨_, _, _, _, turns⟩ := turned member
    obtain ⟨i, path, _, _, _, carries⟩ := failed.after turns
    rw [(fine taken member).2 ready failed, nothing] at carries
    cases carries
  · intro fine taken member
    obtain ⟨newer, older, rfl, earlier, turns⟩ := turned member
    refine ⟨fun running => ?_, fun ready failed => ?_⟩
    · refine turn_knows (run_steers earlier) turns (fine taken member) ?_ running
      refine run_knows earlier (fun other inside => fine other ?_) (running_of_turn turns)
      exact List.mem_append_right _ (List.mem_cons_of_mem _ inside)
    · obtain ⟨i, path, _, _, _, carries⟩ := failed.after turns
      rw [carries, if_pos (Option.isSome_iff_ne_none.mpr (fine taken member ready failed))]
  · intro taken member
    obtain ⟨_, _, _, earlier, turns⟩ := turned member
    refine ⟨?_, ?_⟩
    · exact fun before source target after here =>
        (turn_tells (run_steers earlier) turns).1.told.before here
    · intro i ready label decides
      refine ⟨?_, ?_, decide_tries ready i.deciding⟩
      · intro path tried
        obtain ⟨other, _, same, _, hold, _⟩ :=
          FailedMove.after ⟨i, path, label, decides, tried⟩ turns
        rw [hold]
        cases label.symm.trans same
        rfl
      · rintro ⟨until_, hold, early⟩
        rw [Loop.decide, if_pos]
        rw [hold]
        exact decide_eq_true early

section Traces

def wifi (role : PathRole) : ListedPath Rat :=
  ⟨⟨⟨1⟩, .unmeasured, role, 0⟩, .wifi, some (.v4 (.ofOctets 192 168 0 1))⟩

def cellular (role : PathRole) : ListedPath Rat :=
  ⟨⟨⟨2⟩, .unmeasured, role, 0⟩, .cellular, some (.v4 (.ofOctets 10 0 0 1))⟩

def reading (now : Instant) (paths : List (ListedPath Rat)) : Reading Rat :=
  { now, paths := some paths, carrying := some ⟨1⟩, follows := true, failedAt := now,
    delivered := true }

/-- The system says that the paths have changed, and a move then succeeds or fails. -/
def change (now : Instant) (paths : List (ListedPath Rat)) (carries : Bool) : Turn Rat :=
  .iteration
    { event := .changed (reading now paths), checkedAt := now, refresh := reading now paths,
      probesAt := now, deciding := ⟨now, false, carries, true⟩ }

def watched (turns : List (Turn Rat)) : Watching Rat × List (Taken (Watching Rat) (Turn Rat)) :=
  Lib.follow (Watching.next defaultSettings) (.start defaultSettings true true 0) turns

/-- Wi-Fi is lost with nothing else there; then cellular appears and the move to it fails. The
monitor says that cellular carries, the tunnel is where it was, and a minute later, the hold gone,
nothing has tried again. -/
theorem failed_move_assumed :
    let lost := [.first (reading 0 [wifi .standby]), change 1 [wifi .unusable] true,
      change 2 [wifi .unusable, cellular .standby] false]
    let failed := (watched lost).1
    let later := (watched (lost ++
      [change (Duration.ofSecs 60) [wifi .unusable, cellular .standby] true])).1
    (failed.running = true ∧ failed.loop.monitor.carrying = some ⟨2⟩ ∧ failed.tunnel = some ⟨1⟩) ∧
      later.loop.holdUntil = none ∧ later.loop.monitor.carrying = some ⟨2⟩ ∧
      later.tunnel = some ⟨1⟩ := by
  decide +kernel

/-- The same loss with cellular there all along: the move that failed is put back, and when it is
tried again it is carried out. -/
theorem watch_knows_tunnel_iff_put_back :
    let turns := [.first (reading 0 [wifi .standby, cellular .standby]),
      change 1 [wifi .unusable, cellular .standby] false]
    let failed := watched turns
    let later := (watched (turns ++
      [change (Duration.ofSecs 60) [wifi .unusable, cellular .standby] true])).1
    (∀ taken ∈ failed.2, taken.after.running = true → ∀ path,
        taken.after.loop.monitor.carrying = some path → taken.after.tunnel = some path) ∧
      failed.1.tunnel = some ⟨1⟩ ∧ later.tunnel = some ⟨2⟩ := by
  intro turns failed later
  have run := follow_run (Watching.next defaultSettings) (.start defaultSettings true true 0) turns
  have carries : failed.2.all (fun taken =>
      match taken.label with
      | .first _ => true
      | .iteration i =>
        (taken.before.loop.prepare defaultSettings i).loop.monitor.carrying.isSome) = true := by
    decide +kernel
  have results := watch_knows_tunnel_iff defaultSettings true 0 failed.2 failed.1 run
  have knows := results.1.mpr (by
    rintro taken member ready ⟨i, path, label, decides, _⟩
    have carried := List.all_eq_true.mp carries taken member
    rw [label] at carried
    rw [(iterate_some decides).2.2.2.1]
    exact Option.isSome_iff_ne_none.mp carried)
  exact ⟨fun taken member => (knows taken member).1, by decide +kernel, by decide +kernel⟩

end Traces

end Netwatch

end DnetEngine
