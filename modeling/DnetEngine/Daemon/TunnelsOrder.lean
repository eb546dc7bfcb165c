import DnetEngine.Daemon.TunnelsTrace
import Mathlib.Logic.Relation

/-! The order of a tunnel's life over every run of calls and every pattern of failures: the route
before the peer, the rewrite before the rebind, and an end that skips nothing. -/

namespace DnetEngine.Tunnels

open Lib Netstate Relation

def tearsDown (tunnel : Nat) (event : Event) : Bool :=
  match event.op with
  | .core other (.killCore _) | .core other .replayUndo | .peer other .stopTunnel
  | .peer other (.removeHostRoute _) => other == tunnel
  | _ => false

def track (tunnel : Nat) (route : Option HostRoute) (event : Event) : Option HostRoute :=
  match event with
  | ⟨.peer other (.installHostRoute installed), _⟩ =>
    if other = tunnel then some installed else route
  | ⟨.peer other (.rewriteHostRoute _ updated), true⟩ =>
    if other = tunnel then some updated else route
  | _ => route

/-- The route of a tunnel as the trace has it: the one whose install was begun, or that of the last
rewrite that succeeded since. -/
def tracked (tunnel : Nat) (trace : List Event) : Option HostRoute :=
  trace.foldl (track tunnel) none

/-- Whether the tunnel was prepared: there is something to take down. -/
def wasPrepared (tunnel : Nat) (trace : List Event) : Bool :=
  trace.any fun event =>
    match event with
    | ⟨.prepare other _, ok⟩ => other == tunnel && ok
    | _ => false

/-- A tunnel that was prepared and is not the one recorded up. -/
def State.tookDown (state : State) (tunnel : Nat) : Bool :=
  wasPrepared tunnel state.trace && state.active.map Running.runtime != some tunnel

/-- The core was started and no kill of it attempted since. -/
def standing (tunnel : Nat) (core : CoreBinding) (trace : List Event) : Bool :=
  outstanding (·.op == .core tunnel (.spawnCore core)) (·.op == .core tunnel (.killCore core)) trace

/-- A peer is started right after its endpoint's route was installed, a rebind told right after its
route was rewritten. -/
def InOrder (past : List Event) (event : Event) : Prop :=
  match event.op with
  | .peer tunnel .startTunnel =>
    ∃ earlier route plan, past = earlier ++ [⟨.peer tunnel (.installHostRoute route), true⟩] ∧
      ⟨.prepare tunnel plan, true⟩ ∈ earlier ∧ route.destination = plan.bypass.host
  | .peer tunnel (.rebindTunnel gateway) =>
    ∃ earlier current, past =
      earlier ++ [⟨.peer tunnel (.rewriteHostRoute current (current.via gateway)), true⟩]
  | _ => True

def Sole (trace : List Event) : Prop :=
  ∀ tunnel other core otherCore, standing tunnel core trace = true →
    standing other otherCore trace = true → tunnel = other

/-- The steps of the calls, each with the tunnel in hand before and after. -/
inductive Advances : State → State → Prop
  | quiet {hand : Option (Running Nat Nat)} {trace : List Event} {event : Event}
      (about : event.op.tunnel? = none) : Advances ⟨hand, trace⟩ ⟨hand, trace ++ [event]⟩
  | unprepared {trace : List Event} (plan : TunnelPlan) :
      Advances ⟨none, trace⟩ ⟨none, trace ++ [⟨.prepare (numbered trace) plan, false⟩]⟩
  | begins {trace : List Event} {plan : TunnelPlan} {running : Running Nat Nat}
      {tried : List Event} (begins : Begins plan (numbered trace) running tried) :
      Advances ⟨none, trace⟩ ⟨some running, trace ++
        ⟨.prepare (numbered trace) plan, true⟩ :: ⟨.flushResolverCache, true⟩ :: tried⟩
  | carries {running : Running Nat Nat} {after : Option (Running Nat Nat)} {trace : List Event}
      {gateway : IpAddr} {events : List Event} (touched : running.peerTouched = true)
      (carries : Carries gateway (some running) after events) :
      Advances ⟨some running, trace⟩ ⟨after, trace ++ events⟩
  | ends {running : Running Nat Nat} {trace ended : List Event}
      (ends : ended.map Event.op = endOf running.runtime running.touched) :
      Advances ⟨some running, trace⟩ ⟨none, trace ++ ended⟩

/-- What is recorded up between two calls: one number, and a peer only if it was touched. -/
structure Running.Whole (running : Running Nat Nat) : Prop where
  numbered : running.Numbered running.runtime
  touched : running.peer.isSome → running.peerTouched = true

section Steps

variable {machine : Machine}

variable {active : Option (Running Nat Nat)} {trace events : List Event}
  {result : Except FailureCause Unit × Option (Running Nat Nat)}

theorem EndsAll.advances {ended : List Event} (ends : EndsAll active ended) :
    ReflTransGen Advances ⟨active, trace⟩ ⟨none, trace ++ ended⟩ := by
  cases active with
  | none =>
    obtain rfl := List.map_eq_nil_iff.mp ends
    rw [List.append_nil]
  | some => exact .single (.ends ends)

theorem advances_quiet {hand : Option (Running Nat Nat)}
    (about : ∀ event ∈ events, event.op.tunnel? = none) :
    ReflTransGen Advances ⟨hand, trace⟩ ⟨hand, trace ++ events⟩ := by
  induction events generalizing trace with
  | nil => rw [List.append_nil]
  | cons event _ ih =>
    have first : Advances ⟨hand, trace⟩ ⟨hand, trace ++ [event]⟩ :=
      .quiet (about event List.mem_cons_self)
    rw [← List.singleton_append, ← List.append_assoc]
    exact .head first (ih fun other member => about other (List.mem_cons_of_mem event member))

variable {plan : TunnelPlan} {after : Option (Running Nat Nat)}

theorem Launches.advances (launches : Launches plan (numbered trace) result events) :
    ReflTransGen Advances ⟨none, trace⟩
      ⟨result.2, trace ++ ⟨.prepare (numbered trace) plan, true⟩ :: events⟩ := by
  cases launches with
  | up begins => exact .single (.begins begins)
  | @failed _ _ tried ended begins ends =>
    rw [← begins.numbered.runtime] at ends
    have shape : trace ++ ⟨.prepare (numbered trace) plan, true⟩ ::
        (⟨.flushResolverCache, true⟩ :: tried ++ ended ++ [⟨.flushResolverCache, true⟩]) =
        trace ++ ⟨.prepare (numbered trace) plan, true⟩ :: ⟨.flushResolverCache, true⟩ :: tried ++
          ended ++ [⟨.flushResolverCache, true⟩] := by simp
    rw [shape]
    exact ((ReflTransGen.single (.begins begins)).tail (.ends ends)).tail (.quiet rfl)

theorem Starts.advances (starts : Starts active plan trace result events) :
    ReflTransGen Advances ⟨active, trace⟩ ⟨result.2, trace ++ events⟩ := by
  have reached {older : List Event} (took : EndsAll active older) (ok : Bool) :
      ReflTransGen Advances ⟨active, trace⟩ ⟨none, trace ++ older ++ [⟨.gateway, ok⟩]⟩ :=
    took.advances.tail (.quiet rfl)
  have number {older : List Event} (took : EndsAll active older) (ok : Bool) :
      numbered (trace ++ older ++ [⟨.gateway, ok⟩]) = numbered trace := by
    rw [numbered_append, numbered_append, took.numbered]
    rfl
  cases starts with
  | noPath took => simpa using reached took false
  | unprepared took =>
    have last := (reached took true).tail (.unprepared plan)
    rw [number took] at last
    simpa using last
  | launches took launches =>
    rw [← number took true] at launches
    have last := (reached took true).trans launches.advances
    rw [number took] at last
    simpa using last

theorem Starts.whole (starts : Starts active plan trace result events) :
    ∀ running ∈ result.2, running.Whole := by
  cases starts with
  | noPath | unprepared => nofun
  | launches _ launches =>
    cases launches with
    | failed => nofun
    | up begins touched =>
      intro running up
      cases up
      have number := begins.numbered
      rw [← number.runtime] at number
      exact ⟨number, touched⟩

theorem Carries.whole {gateway : IpAddr} (carries : Carries gateway active after events)
    (whole : ∀ running ∈ active, running.Whole) :
    ∀ running ∈ after, running.Whole := by
  cases carries with
  | unmoved | unwritten => exact whole
  | rewritten peer =>
    intro running up
    cases up
    obtain ⟨number, touched⟩ := whole _ rfl
    refine ⟨⟨rfl, fun other some_ => ?_⟩, fun _ => touched (by rw [peer]; rfl)⟩
    cases some_
    have same := number.peer _ peer
    exact same

theorem Carries.advances {gateway : IpAddr} (carries : Carries gateway active after events)
    (whole : ∀ running ∈ active, running.Whole) :
    ReflTransGen Advances ⟨active, trace⟩ ⟨after, trace ++ events⟩ := by
  cases carries with
  | unmoved => rw [List.append_nil]
  | unwritten peer =>
    exact .single (.carries ((whole _ rfl).touched (by rw [peer]; rfl)) (.unwritten peer))
  | rewritten peer ok =>
    exact .single (.carries ((whole _ rfl).touched (by rw [peer]; rfl)) (.rewritten peer ok))

theorem step_advances {state after : State} {call : Call} (steps : state.Steps machine call after)
    (whole : ∀ running ∈ state.active, running.Whole) :
    ReflTransGen Advances state after ∧ ∀ running ∈ after.active, running.Whole := by
  obtain ⟨active, trace⟩ := state
  obtain ⟨up, traceAfter⟩ := after
  have sameNumber (running : Running Nat Nat) (up : running ∈ active) :
      running.Numbered running.runtime := (whole running up).numbered
  cases call with
  | start =>
    obtain ⟨events, adds, starts⟩ := start_starts sameNumber steps
    cases adds
    exact ⟨starts.advances, starts.whole⟩
  | carryOver =>
    obtain ⟨events, adds, carries⟩ := carryOver_carries steps
    cases adds
    exact ⟨carries.advances whole, carries.whole whole⟩
  | stop =>
    obtain ⟨none_, ended, ends, adds⟩ := stop_stops sameNumber steps
    subst none_ adds
    refine ⟨?_, nofun⟩
    rw [← List.append_assoc]
    refine ends.advances.trans (advances_quiet ?_)
    cases active with
    | none => nofun
    | some => simp [Op.tunnel?]

end Steps

section Projections

variable {tunnel : Nat} {trace events : List Event}

def Silent (tunnel : Nat) (events : List Event) : Prop :=
  ∀ event ∈ events, event.op.tunnel? ≠ some tunnel

theorem tearsDown_tunnel {event : Event} (tears : tearsDown tunnel event = true) :
    event.op.tunnel? = some tunnel := by
  rw [tearsDown] at tears
  split at tears
  all_goals first
    | cases tears
    | rename_i is
      rw [is, ← beq_iff_eq.mp tears]
      rfl

theorem Silent.tearsDown (silent : Silent tunnel events) : events.filter (tearsDown tunnel) = [] := by
  rw [List.filter_eq_nil_iff]
  exact fun event member tears => silent event member (tearsDown_tunnel tears)

theorem track_silent {event : Event} (silent : event.op.tunnel? ≠ some tunnel)
    (route : Option HostRoute) : track tunnel route event = route := by
  unfold track
  split
  · next other installed ok => exact if_neg fun same => silent (by rw [← same]; rfl)
  · next other current updated => exact if_neg fun same => silent (by rw [← same]; rfl)
  · rfl

theorem tracked_append (trace events : List Event) :
    tracked tunnel (trace ++ events) = events.foldl (track tunnel) (tracked tunnel trace) :=
  List.foldl_append

theorem tracked_kept (keeps : ∀ event ∈ events, ∀ route, track tunnel route event = route) :
    tracked tunnel (trace ++ events) = tracked tunnel trace := by
  rw [tracked_append]
  induction events with
  | nil => rfl
  | cons event _ ih =>
    rw [List.foldl_cons, keeps event List.mem_cons_self]
    exact ih fun other member => keeps other (List.mem_cons_of_mem event member)

theorem Silent.tracked (silent : Silent tunnel events) :
    tracked tunnel (trace ++ events) = tracked tunnel trace :=
  tracked_kept fun event member => track_silent (silent event member)

theorem wasPrepared_append :
    wasPrepared tunnel (trace ++ events) =
      (wasPrepared tunnel trace || wasPrepared tunnel events) :=
  List.any_append

theorem wasPrepared_iff :
    wasPrepared tunnel trace = true ↔ ∃ plan, ⟨.prepare tunnel plan, true⟩ ∈ trace := by
  rw [wasPrepared, List.any_eq_true]
  constructor
  · rintro ⟨⟨op, ok⟩, member, prepares⟩
    split at prepares
    · next other plan ok' same =>
        cases same
        obtain ⟨rfl, rfl⟩ := by simpa using prepares
        exact ⟨plan, member⟩
    · cases prepares
  · rintro ⟨plan, member⟩
    exact ⟨_, member, by simp⟩

theorem Silent.wasPrepared (silent : Silent tunnel events) : wasPrepared tunnel events = false := by
  rw [Bool.eq_false_iff]
  intro prepares
  obtain ⟨plan, member⟩ := wasPrepared_iff.mp prepares
  exact silent _ member rfl

end Projections

/-- What holds of the trace with a tunnel in hand. -/
structure Sound (state : State) : Prop where
  fresh : ∀ event ∈ state.trace, ∀ tunnel, event.op.tunnel? = some tunnel →
    tunnel < numbered state.trace
  held : ∀ running ∈ state.active, running.Numbered running.runtime ∧
    wasPrepared running.runtime state.trace = true ∧
      running.touched = tracked running.runtime state.trace
  ended : ∀ tunnel, (state.trace.filter (tearsDown tunnel)).map Event.op =
    if state.tookDown tunnel then endOf tunnel (tracked tunnel state.trace) else []
  inOrder : Follows InOrder [] state.trace
  sole : Follows (fun past event => Sole (past ++ [event])) [] state.trace
  stands : ∀ tunnel core, standing tunnel core state.trace = true →
    ∃ running ∈ state.active, running.runtime = tunnel

section Blocks

variable {trace events : List Event} {hand after : Option (Running Nat Nat)}

def For (tunnel : Nat) (events : List Event) : Prop :=
  ∀ event ∈ events, ∀ other, event.op.tunnel? = some other → other = tunnel

variable {tunnel : Nat} {running : Running Nat Nat} {event : Event} {plan : TunnelPlan}
  {tried : List Event}

theorem For.silent {other : Nat} (for_ : For tunnel events) (differs : other ≠ tunnel) :
    Silent other events :=
  fun event member same => differs (for_ event member other same)

section

variable (sound : Sound ⟨hand, trace⟩)

include sound

theorem Sound.silent : Silent (numbered trace) trace :=
  fun event member same => (sound.fresh event member _ same).false

theorem Sound.held_lt (inHand : running ∈ hand) :
    running.runtime < numbered trace := by
  obtain ⟨plan, member⟩ := wasPrepared_iff.mp (sound.held running inHand).2.1
  exact sound.fresh _ member _ rfl

theorem fresh_append
    (below : ∀ event ∈ events, ∀ other, event.op.tunnel? = some other → other < numbered (trace ++ events))
    :
    ∀ event ∈ trace ++ events, ∀ other, event.op.tunnel? = some other →
      other < numbered (trace ++ events) := by
  intro event member other same
  rcases List.mem_append.mp member with old | new
  · rw [numbered_append]
    exact Nat.lt_add_right _ (sound.fresh event old other same)
  · exact below event new other same

theorem ended_silent (silent : Silent tunnel events)
    (same : hand.map Running.runtime = some tunnel ↔ after.map Running.runtime = some tunnel) :
    ((trace ++ events).filter (tearsDown tunnel)).map Event.op =
      if State.tookDown ⟨after, trace ++ events⟩ tunnel then
        endOf tunnel (tracked tunnel (trace ++ events)) else [] := by
  have before := sound.ended tunnel
  have took : State.tookDown ⟨after, trace ++ events⟩ tunnel =
      State.tookDown ⟨hand, trace⟩ tunnel := by
    have up : (after.map Running.runtime != some tunnel) = (hand.map Running.runtime != some tunnel) := by
      rw [Bool.eq_iff_iff, bne_iff_ne, bne_iff_ne, Ne, Ne, same]
    rw [State.tookDown, State.tookDown, wasPrepared_append, silent.wasPrepared, Bool.or_false, up]
  rw [List.filter_append, silent.tearsDown, List.append_nil, took, silent.tracked]
  exact before

end

theorem standing_append (tunnel : Nat) (core : CoreBinding) :
    standing tunnel core (trace ++ events) =
      (standing tunnel core events || (standing tunnel core trace &&
        !events.any (·.op == .core tunnel (.killCore core)))) :=
  outstanding_append _ _ trace events

theorem Silent.standing (silent : Silent tunnel events) (core : CoreBinding) :
    standing tunnel core events = false := by
  rw [Bool.eq_false_iff]
  intro stands
  obtain ⟨before, event, later, rfl, spawns, _⟩ := (outstanding_iff _ _ _).mp stands
  exact silent event (by simp) (by rw [beq_iff_eq.mp spawns]; rfl)

def OnlyStands (tunnel : Nat) (trace : List Event) : Prop :=
  ∀ other core, standing other core trace = true → other = tunnel

theorem onlyStands_append (only : OnlyStands tunnel trace)
    (spawns : ∀ event ∈ events, ∀ other core, event.op = .core other (.spawnCore core) →
      other = tunnel) : OnlyStands tunnel (trace ++ events) := by
  intro other core stands
  rw [standing_append, Bool.or_eq_true, Bool.and_eq_true] at stands
  rcases stands with new | ⟨old, _⟩
  · obtain ⟨before, event, later, rfl, spawned, _⟩ := (outstanding_iff _ _ _).mp new
    exact spawns event (by simp) other core (beq_iff_eq.mp spawned)
  · exact only other core old

theorem OnlyStands.sole (only : OnlyStands tunnel trace) : Sole trace := by
  intro first second core otherCore stands otherStands
  rw [only first core stands, only second otherCore otherStands]

theorem OnlyStands.follows (only : OnlyStands tunnel trace)
    (spawns : ∀ event ∈ events, ∀ other core, event.op = .core other (.spawnCore core) →
      other = tunnel) : Follows (fun past event => Sole (past ++ [event])) trace events := by
  induction events generalizing trace with
  | nil => trivial
  | cons event _ ih =>
    have first : OnlyStands tunnel (trace ++ [event]) := by
      apply onlyStands_append only
      intro other member
      rw [List.mem_singleton.mp member]
      exact spawns event List.mem_cons_self
    exact ⟨first.sole, ih first fun other member => spawns other (List.mem_cons_of_mem event member)⟩

theorem For.spawns (for_ : For tunnel events) :
    ∀ event ∈ events, ∀ other core, event.op = .core other (.spawnCore core) → other = tunnel := by
  intro event member other core spawns
  exact for_ event member other (by rw [spawns]; rfl)

theorem Sound.noneStands (sound : Sound ⟨none, trace⟩) (tunnel : Nat) (core : CoreBinding) :
    standing tunnel core trace = false := by
  rw [Bool.eq_false_iff]
  intro stands
  obtain ⟨running, up, _⟩ := sound.stands tunnel core stands
  cases up

theorem Sound.onlyStands (sound : Sound ⟨some running, trace⟩) :
    OnlyStands running.runtime trace := by
  intro other core stands
  obtain ⟨held, up, rfl⟩ := sound.stands other core stands
  cases up
  rfl

/-- The operations that have to follow another. -/
def Op.guarded : Op → Bool
  | .peer _ .startTunnel | .peer _ (.rebindTunnel _) => true
  | _ => false

theorem inOrder_unguarded (unguarded : ∀ event ∈ events, event.op.guarded = false) :
    Follows InOrder trace events := by
  apply follows_of_forall
  intro event member past
  have free := unguarded event member
  unfold InOrder
  split
  · next tunnel is =>
      rw [is] at free
      cases free
  · next tunnel gateway is =>
      rw [is] at free
      cases free
  · trivial

/-- The parts of soundness for events of one tunnel that is in hand afterwards, or of none. -/
theorem Sound.extend (sound : Sound ⟨hand, trace⟩) (for_ : For tunnel events)
    (below : ∀ event ∈ events, ∀ other, event.op.tunnel? = some other →
      other < numbered (trace ++ events)) (only : OnlyStands tunnel trace)
    (order : Follows InOrder trace events) (same : ∀ other, other ≠ tunnel →
      (hand.map Running.runtime = some other ↔ after.map Running.runtime = some other))
    (held : ∀ running ∈ after, running.Numbered running.runtime ∧
      wasPrepared running.runtime (trace ++ events) = true ∧
        running.touched = tracked running.runtime (trace ++ events))
    (ended : ((trace ++ events).filter (tearsDown tunnel)).map Event.op =
      if State.tookDown ⟨after, trace ++ events⟩ tunnel then
        endOf tunnel (tracked tunnel (trace ++ events)) else [])
    (stands : ∀ core, standing tunnel core (trace ++ events) = true →
      ∃ running ∈ after, running.runtime = tunnel) : Sound ⟨after, trace ++ events⟩ where
  fresh := fresh_append sound below
  held := held
  ended other := by
    by_cases is : other = tunnel
    · rw [is]
      exact ended
    · exact ended_silent sound (for_.silent is) (same other is)
  inOrder := (follows_append InOrder [] trace events).mpr ⟨sound.inOrder, order⟩
  sole := (follows_append _ [] trace events).mpr ⟨sound.sole, only.follows for_.spawns⟩
  stands other core standing_ := by
    obtain rfl : other = tunnel := onlyStands_append only for_.spawns other core standing_
    exact stands core standing_

theorem Sound.someStands (sound : Sound ⟨hand, trace⟩) : ∃ tunnel, OnlyStands tunnel trace := by
  cases hand with
  | none => exact ⟨0, fun other core stands => by rw [sound.noneStands] at stands; cases stands⟩
  | some running => exact ⟨running.runtime, sound.onlyStands⟩

theorem Sound.quiet (sound : Sound ⟨hand, trace⟩) (about : event.op.tunnel? = none) :
    Sound ⟨hand, trace ++ [event]⟩ := by
  have silent (tunnel : Nat) : Silent tunnel [event] := by
    intro other member
    rw [List.mem_singleton.mp member, about]
    nofun
  have for_ (tunnel : Nat) : For tunnel [event] :=
    fun other member tunnel same => absurd same (silent tunnel other member)
  obtain ⟨tunnel, only⟩ := sound.someStands
  refine sound.extend (for_ tunnel) ?_ only ?_ (fun _ _ => Iff.rfl) ?_ ?_ ?_
  · exact fun other member tunnel same => absurd same (silent tunnel other member)
  · apply inOrder_unguarded
    intro other member
    rw [List.mem_singleton.mp member]
    cases is : event.op with
    | gateway | discardConfig | flushResolverCache => rfl
    | prepare | core | peer =>
      rw [is] at about
      cases about
  · intro running up
    obtain ⟨number, prepared, touched⟩ := sound.held running up
    rw [wasPrepared_append, (silent _).tracked]
    exact ⟨number, by rw [prepared]; rfl, touched⟩
  · exact ended_silent sound (silent tunnel) Iff.rfl
  · intro core stands
    rw [standing_append, (silent tunnel).standing, Bool.false_or, Bool.and_eq_true] at stands
    exact sound.stands tunnel core stands.1

theorem Sound.unprepared (sound : Sound ⟨none, trace⟩) (plan : TunnelPlan) :
    Sound ⟨none, trace ++ [⟨.prepare (numbered trace) plan, false⟩]⟩ := by
  have for_ : For (numbered trace) [⟨.prepare (numbered trace) plan, false⟩] := by
    intro event member other same
    rw [List.mem_singleton.mp member] at same
    exact (Option.some.inj same).symm
  have only : OnlyStands (numbered trace) trace :=
    fun other core stands => by rw [sound.noneStands] at stands; cases stands
  refine sound.extend for_ ?_ only ?_ (fun _ _ => Iff.rfl) nofun ?_ ?_
  · intro event member other same
    rw [for_ event member other same, numbered_append]
    exact Nat.lt_succ_self _
  · exact inOrder_unguarded (by simp [Op.guarded])
  · have took : State.tookDown ⟨none, trace ++ [⟨.prepare (numbered trace) plan, false⟩]⟩
        (numbered trace) = false := by
      rw [State.tookDown, wasPrepared_append, sound.silent.wasPrepared]
      simp [wasPrepared]
    rw [List.filter_append, sound.silent.tearsDown, took]
    rfl
  · intro core stands
    rw [standing_append, sound.noneStands] at stands
    cases stands

variable {route : Option HostRoute}

theorem mem_endOf {op : Op} (member : op ∈ endOf tunnel route) :
    (∃ core, op = .core tunnel (.killCore core)) ∨ op = .core tunnel .replayUndo ∨
      op = .peer tunnel .stopTunnel ∨ ∃ removed, op = .peer tunnel (.removeHostRoute removed) := by
  cases route with
  | none =>
    simp only [endOf, List.nil_append, List.mem_cons, List.not_mem_nil, or_false] at member
    rcases member with is | is | is
    · exact .inl ⟨_, is⟩
    · exact .inl ⟨_, is⟩
    · exact .inr (.inl is)
  | some =>
    simp only [endOf, List.cons_append, List.nil_append, List.mem_cons, List.not_mem_nil,
      or_false] at member
    rcases member with is | is | is | is | is
    · exact .inr (.inr (.inl is))
    · exact .inr (.inr (.inr ⟨_, is⟩))
    · exact .inl ⟨_, is⟩
    · exact .inl ⟨_, is⟩
    · exact .inr (.inl is)

theorem kill_mem_endOf (tunnel : Nat) (route : Option HostRoute) (core : CoreBinding) :
    .core tunnel (.killCore core) ∈ endOf tunnel route := by
  cases core <;> simp [endOf]

theorem ending (member : event.op ∈ endOf tunnel route) :
    tearsDown tunnel event = true ∧ event.op.guarded = false ∧
      (∀ tracked, track tunnel tracked event = tracked) ∧
      ∀ core, event.op ≠ .core tunnel (.spawnCore core) := by
  obtain ⟨op, ok⟩ := event
  rcases mem_endOf member with ⟨core, rfl⟩ | rfl | rfl | ⟨removed, rfl⟩
  all_goals exact ⟨beq_self_eq_true tunnel, rfl, fun _ => rfl, nofun⟩

theorem Sound.ends {ended : List Event} (sound : Sound ⟨some running, trace⟩)
    (ends : ended.map Event.op = endOf running.runtime running.touched) :
    Sound ⟨none, trace ++ ended⟩ := by
  obtain ⟨number, prepared, touched⟩ := sound.held running rfl
  have each (event : Event) (member : event ∈ ended) :=
    ending (ends ▸ List.mem_map_of_mem member : event.op ∈ endOf running.runtime running.touched)
  have for_ : For running.runtime ended := fun event member other same =>
    Option.some.inj (same.symm.trans (tearsDown_tunnel (each event member).1))
  have kept : tracked running.runtime (trace ++ ended) = running.touched := by
    rw [touched]
    exact tracked_kept fun event member => (each event member).2.2.1
  refine sound.extend for_ ?_ sound.onlyStands ?_ ?_ nofun ?_ ?_
  · intro event member other same
    rw [for_ event member other same, numbered_append]
    exact Nat.lt_add_right _ (sound.held_lt rfl)
  · exact inOrder_unguarded fun event member => (each event member).2.1
  · intro other differs
    exact ⟨fun same => absurd (Option.some.inj same).symm differs, nofun⟩
  · have before := sound.ended running.runtime
    have up : State.tookDown ⟨some running, trace⟩ running.runtime = false := by
      simp [State.tookDown]
    have took : State.tookDown ⟨none, trace ++ ended⟩ running.runtime = true := by
      rw [State.tookDown, wasPrepared_append, prepared]
      rfl
    have whole : ended.filter (tearsDown running.runtime) = ended :=
      List.filter_eq_self.mpr fun event member => (each event member).1
    rw [up] at before
    rw [List.filter_append, List.map_append, before, whole, took, kept]
    exact ends
  · intro core stands
    have killed : (ended.any (·.op == .core running.runtime (.killCore core))) = true := by
      obtain ⟨event, member, is⟩ := List.mem_map.mp (ends ▸ kill_mem_endOf _ _ core)
      exact List.any_eq_true.mpr ⟨event, member, beq_iff_eq.mpr is⟩
    rw [standing_append, killed, Bool.not_true, Bool.and_false, Bool.or_false] at stands
    obtain ⟨before, event, later, rfl, spawned, _⟩ := (outstanding_iff _ _ _).mp stands
    exact absurd (beq_iff_eq.mp spawned) ((each event (by simp)).2.2.2 core)

/-- An event that belongs to a tunnel's life before its end: for no other, and tearing nothing
down. -/
def Builds (tunnel : Nat) (event : Event) : Prop :=
  (∀ other, event.op.tunnel? = some other → other = tunnel) ∧ tearsDown tunnel event = false

theorem CoresBegin.each (cores : CoresBegin tunnel events) (member : event ∈ events) :
    Builds tunnel event ∧ event.op.guarded = false ∧
      ∀ route, track tunnel route event = route := by
  obtain ⟨op, ok⟩ := event
  obtain ⟨coreOp, is, begins⟩ := cores _ member
  subst is
  refine ⟨⟨fun other same => (Option.some.inj same).symm, ?_⟩, rfl, fun _ => rfl⟩
  cases coreOp with
  | reapOrphans | spawnCore | awaitAdapter => rfl
  | killCore | replayUndo => cases begins

theorem PeerBegins.each {route : HostRoute} (peers : PeerBegins tunnel route events)
    (member : event ∈ events) : Builds tunnel event := by
  cases peers with
  | unrouted =>
    obtain rfl := List.mem_singleton.mp member
    exact ⟨fun other same => (Option.some.inj same).symm, rfl⟩
  | routed =>
    simp only [List.mem_cons, List.not_mem_nil, or_false] at member
    rcases member with rfl | rfl
    all_goals exact ⟨fun other same => (Option.some.inj same).symm, rfl⟩

theorem PeerBegins.track {route : HostRoute} (peers : PeerBegins tunnel route events)
    (before : Option HostRoute) : events.foldl (track tunnel) before = some route := by
  cases peers with
  | unrouted | routed => exact if_pos rfl

theorem Begins.each (begins : Begins plan tunnel running tried) (member : event ∈ tried) :
    Builds tunnel event := by
  have discards : Builds tunnel ⟨.discardConfig, true⟩ := ⟨nofun, rfl⟩
  cases begins with
  | cores _ begin =>
    simp only [List.mem_append, List.mem_singleton] at member
    rcases member with core | rfl
    · exact (begin.each core).1
    · exact discards
  | peer begin _ peers =>
    simp only [List.mem_append, List.mem_singleton] at member
    rcases member with (core | rfl) | peering
    · exact (begin.each core).1
    · exact discards
    · exact peers.each peering

theorem CoresBegin.tracked (cores : CoresBegin tunnel events) :
    tracked tunnel (trace ++ (events ++ [⟨.discardConfig, true⟩])) = tracked tunnel trace := by
  apply tracked_kept
  intro event member
  rcases List.mem_append.mp member with core | discards
  · exact (cores.each core).2.2
  · rw [List.mem_singleton.mp discards]
    exact fun _ => rfl

theorem Begins.tracked (begins : Begins plan tunnel running tried)
    (fresh : tracked tunnel trace = none) : tracked tunnel (trace ++ tried) = running.touched := by
  cases begins with
  | cores _ begin => rw [begin.tracked, fresh, Running.touched, if_neg Bool.false_ne_true]
  | peer _ _ peers =>
    rw [← List.append_assoc, tracked_append, peers.track]
    rfl

theorem CoresBegin.inOrder (cores : CoresBegin tunnel events) :
    Follows InOrder trace (events ++ [⟨.discardConfig, true⟩]) := by
  apply inOrder_unguarded
  intro event member
  rcases List.mem_append.mp member with core | discards
  · exact (cores.each core).2.1
  · rw [List.mem_singleton.mp discards]
    rfl

theorem Begins.inOrder (begins : Begins plan tunnel running tried)
    (prepared : ⟨.prepare tunnel plan, true⟩ ∈ trace) : Follows InOrder trace tried := by
  cases begins with
  | cores _ begin => exact begin.inOrder
  | peer begin destination peers =>
    rw [follows_append]
    refine ⟨begin.inOrder, ?_⟩
    cases peers with
    | unrouted => exact ⟨trivial, trivial⟩
    | routed =>
      refine ⟨trivial, ⟨_, _, plan, rfl, ?_, destination⟩, trivial⟩
      exact List.mem_append_left _ prepared

theorem ended_inHand (is : running.runtime = tunnel)
    (earlier : trace.filter (tearsDown tunnel) = [])
    (builds : ∀ event ∈ events, Builds tunnel event) :
    ((trace ++ events).filter (tearsDown tunnel)).map Event.op =
      if State.tookDown ⟨some running, trace ++ events⟩ tunnel then
        endOf tunnel (tracked tunnel (trace ++ events)) else [] := by
  have up : State.tookDown ⟨some running, trace ++ events⟩ tunnel = false := by
    simp [State.tookDown, is]
  have tearsNothing : events.filter (tearsDown tunnel) = [] := by
    rw [List.filter_eq_nil_iff]
    intro event member tears
    rw [(builds event member).2] at tears
    cases tears
  rw [List.filter_append, earlier, tearsNothing, up]
  rfl

theorem Sound.begins (sound : Sound ⟨none, trace⟩)
    (begins : Begins plan (numbered trace) running tried) :
    Sound ⟨some running, trace ++
      ⟨.prepare (numbered trace) plan, true⟩ :: ⟨.flushResolverCache, true⟩ :: tried⟩ := by
  have number := begins.numbered
  have only : OnlyStands (numbered trace) trace :=
    fun other core stands => by rw [sound.noneStands] at stands; cases stands
  have builds : ∀ event ∈ (⟨.prepare (numbered trace) plan, true⟩ ::
      ⟨.flushResolverCache, true⟩ :: tried : List Event), Builds (numbered trace) event := by
    intro event member
    simp only [List.mem_cons] at member
    rcases member with rfl | rfl | tries
    · exact ⟨fun other same => (Option.some.inj same).symm, rfl⟩
    · exact ⟨nofun, rfl⟩
    · exact begins.each tries
  have shape : trace ++ ⟨.prepare (numbered trace) plan, true⟩ ::
      ⟨.flushResolverCache, true⟩ :: tried =
      trace ++ [⟨.prepare (numbered trace) plan, true⟩, ⟨.flushResolverCache, true⟩] ++ tried := by
    simp
  refine sound.extend (fun event member => (builds event member).1) ?_ only ?_ ?_ ?_ ?_ ?_
  · intro event member other same
    rw [(builds event member).1 other same, numbered_append]
    exact Nat.lt_add_of_pos_right (List.countP_pos_iff.mpr ⟨_, List.mem_cons_self, rfl⟩)
  · refine ⟨trivial, trivial, ?_⟩
    apply begins.inOrder
    simp
  · intro other differs
    refine ⟨nofun, fun same => absurd ?_ differs⟩
    rw [← Option.some.inj same, number.runtime]
  · intro held up
    cases up
    refine ⟨?_, ?_, ?_⟩
    · rw [number.runtime]
      exact number
    · rw [number.runtime, wasPrepared_iff]
      exact ⟨plan, by simp⟩
    · rw [number.runtime, shape]
      refine (begins.tracked ?_).symm
      rw [tracked_append]
      have none_ : tracked (numbered trace) ([] ++ trace) = none := sound.silent.tracked
      exact none_
  · exact ended_inHand number.runtime sound.silent.tearsDown builds
  · exact fun core stands => ⟨running, rfl, number.runtime⟩

theorem Sound.goesOn {moved : Running Nat Nat} (sound : Sound ⟨some running, trace⟩)
    (same : moved.Numbered running.runtime) (order : Follows InOrder trace events)
    (builds : ∀ event ∈ events, Builds running.runtime event)
    (touched : moved.touched = tracked running.runtime (trace ++ events)) :
    Sound ⟨some moved, trace ++ events⟩ := by
  obtain ⟨number, prepared, _⟩ := sound.held running rfl
  have earlier : trace.filter (tearsDown running.runtime) = [] := by
    have before := sound.ended running.runtime
    have up : State.tookDown ⟨some running, trace⟩ running.runtime = false := by
      simp [State.tookDown]
    rw [up] at before
    exact List.map_eq_nil_iff.mp before
  refine sound.extend (fun event member => (builds event member).1) ?_ sound.onlyStands order ?_ ?_
    (ended_inHand same.runtime earlier builds) fun core stands => ⟨moved, rfl, same.runtime⟩
  · intro event member other is
    rw [(builds event member).1 other is, numbered_append]
    exact Nat.lt_add_right _ (sound.held_lt rfl)
  · intro other differs
    simp [same.runtime]
  · intro held up
    cases up
    rw [same.runtime, wasPrepared_append, prepared]
    exact ⟨same, rfl, touched⟩

theorem Sound.carries {gateway : IpAddr} (sound : Sound ⟨some running, trace⟩)
    (touched : running.peerTouched = true) (carries : Carries gateway (some running) after events) :
    Sound ⟨after, trace ++ events⟩ := by
  obtain ⟨number, prepared, tracks⟩ := sound.held running rfl
  have builds (op : PeerOp) (ok : Bool) (building : tearsDown running.runtime
      ⟨.peer running.runtime op, ok⟩ = false) : Builds running.runtime ⟨.peer running.runtime op, ok⟩ :=
    ⟨fun other is => (Option.some.inj is).symm, building⟩
  cases carries with
  | unmoved =>
    rw [List.append_nil]
    exact sound
  | @unwritten _ tunnel _ peer =>
    obtain rfl : tunnel = running.runtime := number.peer _ peer
    refine sound.goesOn number (inOrder_unguarded (by simp [Op.guarded])) ?_ ?_
    · intro event member
      rw [List.mem_singleton.mp member]
      exact builds _ _ rfl
    · rw [tracked_append]
      exact tracks
  | @rewritten _ tunnel route peer =>
    obtain rfl : tunnel = running.runtime := number.peer _ peer
    refine sound.goesOn ⟨rfl, ?_⟩ ⟨trivial, ⟨trace, route, rfl⟩, trivial⟩ ?_ ?_
    · intro other some_
      cases some_
      rfl
    · simp only [List.mem_cons, List.not_mem_nil, or_false]
      rintro event (rfl | rfl)
      · exact builds _ _ rfl
      · exact builds _ _ rfl
    · rw [tracked_append, Running.touched, if_pos touched]
      exact (if_pos rfl).symm

end Blocks

variable {state after : State}

theorem advances_sound (advances : Advances state after) (sound : Sound state) : Sound after := by
  cases advances with
  | quiet about => exact sound.quiet about
  | unprepared plan => exact sound.unprepared plan
  | begins begins => exact sound.begins begins
  | carries touched carries => exact sound.carries touched carries
  | ends ends => exact sound.ends ends

theorem advances_run_sound (advances : ReflTransGen Advances state after) (sound : Sound state) :
    Sound after := by
  induction advances with
  | refl => exact sound
  | tail _ last ih => exact advances_sound last ih

theorem sound_new : Sound .new where
  fresh := nofun
  held := nofun
  ended _ := rfl
  inOrder := trivial
  sole := trivial
  stands := nofun

theorem run_sound {machine : Machine} {history : List (Taken State Call)}
    (run : Run (State.Steps machine) .new history state) :
    Sound state ∧ ∀ running ∈ state.active, running.Whole := by
  refine run_state_invariant (fun state => Sound state ∧ ∀ running ∈ state.active, running.Whole)
    ⟨sound_new, nofun⟩ ?_ run
  rintro before call after ⟨sound, whole⟩ steps
  obtain ⟨advances, wholeAfter⟩ := step_advances steps whole
  exact ⟨advances_run_sound advances sound, wholeAfter⟩

theorem start_error {machine : Machine} {plan : TunnelPlan} {cause : FailureCause}
    (sameNumber : ∀ running ∈ state.active, running.Numbered running.runtime)
    (steps : state.Steps machine (.start plan (.error cause)) after) : after.active = none := by
  obtain ⟨events, _, starts⟩ := start_starts sameNumber steps
  generalize up : after.active = active at starts
  generalize failed : (Except.error cause, active) = result at starts
  cases starts with
  | noPath | unprepared =>
    cases failed
    rfl
  | launches _ launches =>
    cases launches with
    | up => cases failed
    | failed =>
      cases failed
      rfl

/-- Over every run of calls on every machine: the peer is started right after its endpoint's route
was installed; a rebind follows the rewrite of its route; of every tunnel that was prepared and is
not up any more the whole end was attempted, once and in order, and of any other none of it; the
cores of one tunnel at most stand at any moment; and a start that failed leaves nothing. -/
theorem lifecycle_ordered (machine : Machine) {history : List (Taken State Call)} {state : State}
    (run : Run (State.Steps machine) .new history state) :
    (∀ past tunnel ok later, state.trace = past ++ ⟨.peer tunnel .startTunnel, ok⟩ :: later →
      ∃ earlier route plan, past = earlier ++ [⟨.peer tunnel (.installHostRoute route), true⟩] ∧
        ⟨.prepare tunnel plan, true⟩ ∈ earlier ∧ route.destination = plan.bypass.host) ∧
    (∀ past tunnel gateway ok later,
      state.trace = past ++ ⟨.peer tunnel (.rebindTunnel gateway), ok⟩ :: later →
        ∃ earlier current, past =
          earlier ++ [⟨.peer tunnel (.rewriteHostRoute current (current.via gateway)), true⟩]) ∧
    (∀ tunnel, (state.trace.filter (tearsDown tunnel)).map Event.op =
      if state.tookDown tunnel then endOf tunnel (tracked tunnel state.trace) else []) ∧
    (∀ past later tunnel other core otherCore, state.trace = past ++ later →
      standing tunnel core past = true → standing other otherCore past = true → tunnel = other) ∧
    (∀ taken ∈ history, ∀ plan cause, taken.label = .start plan (.error cause) →
      taken.after.active = none ∧
        ∀ tunnel core, standing tunnel core taken.after.trace = false) := by
  obtain ⟨sound, whole⟩ := run_sound run
  refine ⟨?_, ?_, sound.ended, ?_, ?_⟩
  · intro past tunnel ok later split
    have order := sound.inOrder
    rw [split] at order
    exact order.at
  · intro past tunnel gateway ok later split
    have order := sound.inOrder
    rw [split] at order
    exact order.at
  · intro past later tunnel other core otherCore split stands otherStands
    -- The empty trace has nothing standing, and any other ends in an event.
    rcases List.eq_nil_or_concat past with rfl | ⟨before, event, rfl⟩
    · cases stands
    · have sole := sound.sole
      rw [split, List.concat_eq_append, List.append_assoc] at sole
      rw [List.concat_eq_append] at stands otherStands
      exact sole.at tunnel other core otherCore stands otherStands
  · intro taken member plan cause is
    obtain ⟨newer, older, rfl⟩ := List.append_of_mem member
    obtain ⟨earlier, steps, later⟩ := run_taken run
    have soundAfter := (run_sound (earlier.next steps)).1
    rw [is] at steps
    have none_ : taken.after.active = none :=
      start_error (fun running up => ((run_sound earlier).2 running up).numbered) steps
    refine ⟨none_, fun tunnel core => ?_⟩
    rw [Bool.eq_false_iff]
    intro stands
    obtain ⟨running, up, _⟩ := soundAfter.stands tunnel core stands
    rw [none_] at up
    cases up

section Traces

def flaky : Machine where
  gateway _ := .ok (.v4 (.ofOctets 192 168 1 1))
  prepare _ _ := .ok true
  core _ tunnel op :=
    if tunnel = 1 ∧ op = .spawnCore .primaryCore then
      .error (.notReady .primaryCore "exited") else .ok ()
  peer _ _ _ := .ok ()

def awgPlan : TunnelPlan :=
  ⟨.amneziaWgCore, ⟨"203.0.113.10", 51820⟩, some ⟨.v4 (.ofOctets 10 8 0 2), 32⟩⟩

/-- A tunnel is carried over, and the start of another finds it up and fails. -/
def replaced : State × List (Taken State Call) :=
  follow (State.next flaky) .new
    [.start awgPlan (.ok ()), .carryOver (.v4 (.ofOctets 10 0 0 1)) (.ok ()),
      .start awgPlan (.error (.coreFailedPersistently .primaryCore))]

theorem lifecycle_ordered_replaced :
    replaced.2.length = 3 ∧ replaced.1.active = none ∧
      (replaced.1.trace.filter (tearsDown 0)).map Event.op =
        endOf 0 (some ⟨"203.0.113.10", .v4 (.ofOctets 10 0 0 1)⟩) ∧
      (replaced.1.trace.filter (tearsDown 1)).map Event.op = endOf 1 none := by
  have run : Run (State.Steps flaky) .new replaced.2 replaced.1 :=
    follow_run (State.next flaky) .new _
  have ended := (lifecycle_ordered flaky run).2.2.1
  refine ⟨by decide, by decide, ?_, ?_⟩
  · exact (ended 0).trans (by decide)
  · exact (ended 1).trans (by decide)

end Traces

end DnetEngine.Tunnels
