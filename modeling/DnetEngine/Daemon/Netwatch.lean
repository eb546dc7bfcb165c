import DnetEngine.Core.PathMonitor
import DnetEngine.Lib.Run

/-! The loop that watches the network while a tunnel is up, and moves the tunnel when it should
move. What the machine answers, and which probe results come in, is chosen from outside. -/

namespace DnetEngine

open Lib Failover

namespace Netwatch

def holdAfterFailure : Duration := Duration.ofSecs 30

structure Settings (Loss : Type) where
  failover : FailoverConfig Loss
  cadence : ProbeCadence := {}
  refreshEvery : Duration := Duration.ofSecs 30

def defaultSettings {Loss : Type} [Field Loss] : Settings Loss :=
  { failover :=
      { thresholds := ⟨(3 : Nat) / (20 : Nat), (1 : Nat) / (2 : Nat), Duration.ofMillis 300⟩
        degradeFor := Duration.ofSecs 10
        unusableFor := Duration.ofSecs 4
        stableFor := Duration.ofSecs 30
        minDwell := Duration.ofSecs 120
        maxMoves := 4
        window := Duration.ofSecs 600 } }

/-- What the loop does to the world, in order. -/
inductive Effect (Loss : Type)
  /-- The first look found the tunnel on this interface. -/
  | looked (carrying : InterfaceId)
  /-- `carry_over` was called for this path, and succeeded or failed. -/
  | carriedOver (path : ListedPath Loss) (succeeded : Bool)
  /-- A `PathMove` was sent. -/
  | moved (source : Option InterfaceId) (target : InterfaceId)

structure Loop (Loss : Type) where
  steer : Bool
  needsGateway : Bool
  monitor : PathMonitor Loss
  /-- The adapter last reported as carrying. -/
  reported : Option InterfaceId := none
  holdUntil : Option Instant := none
  started : Bool := false
  refreshedAt : Instant

/-- What a part of the loop leaves: where the loop is, what it did, and whether it goes on. -/
structure Done (Loss : Type) where
  loop : Loop Loss
  effects : List (Effect Loss) := []
  goesOn : Bool := true

/-- What comes next, unless the loop has ended. -/
def Done.andThen {Loss : Type} (first : Done Loss) (next : Loop Loss → Done Loss) : Done Loss :=
  if first.goesOn then
    { next first.loop with effects := first.effects ++ (next first.loop).effects }
  else first

/-- What the machine says when it is read, and what comes of the calls that follow. -/
structure Reading (Loss : Type) where
  now : Instant
  /-- `none`: the paths could not be read. -/
  paths : Option (List (ListedPath Loss))
  /-- The adapter the tunnel's packets leave through, if it can be told. -/
  carrying : Option InterfaceId
  /-- Whether the tunnel follows a new gateway, and when that has failed. -/
  follows : Bool
  failedAt : Instant
  /-- Whether the report channel is still there. -/
  delivered : Bool

/-- When the monitor is asked, whether the channel for what to tell the user is gone, and what comes
of a move. -/
structure Deciding where
  now : Instant
  untold : Bool
  carries : Bool
  delivered : Bool

inductive Event (Loss : Type)
  | changed (reading : Reading Loss)
  | probed (path : InterfaceId) (sample : PathSample) (now : Instant)
  /-- A tick, a probe that said nothing, or the end of the change signals. -/
  | tick

structure Iteration (Loss : Type) where
  event : Event Loss
  /-- When the age of the last reading is looked at, and the reading made if it is too old. -/
  checkedAt : Instant
  refresh : Reading Loss
  probesAt : Instant
  deciding : Deciding

namespace Loop

variable {Loss : Type} [Field Loss] [LinearOrder Loss]

def start (settings : Settings Loss) (steer needsGateway : Bool) (now : Instant) : Loop Loss :=
  { steer
    needsGateway
    monitor := { cfg := settings.failover, cadence := settings.cadence }
    refreshedAt := now }

/-- A profile that needs a gateway cannot use a path that has none. -/
def capable (l : Loop Loss) (paths : List (ListedPath Loss)) : List (ListedPath Loss) :=
  if l.needsGateway then
    paths.map (fun path => if path.gateway.isNone then { path with role := .unusable } else path)
  else paths

/-- For a profile that is not steered: note where the tunnel is, and say when that changes. -/
def follow (l : Loop Loss) (carrying : Option InterfaceId) (delivered : Bool) : Done Loss :=
  match carrying with
  | some path =>
    if l.reported ≠ some path then
      { loop := { l with monitor := l.monitor.setCarrying path, reported := some path }
        effects := [.moved l.reported path]
        goesOn := delivered }
    else { loop := l }
  | none => { loop := l }

/-- The carrying adapter has a new gateway: the host route still points at the old router. -/
def newGateway (l : Loop Loss) (change : GatewayChange) (reading : Reading Loss) : Done Loss :=
  match l.monitor.path? change.interface with
  | none => { loop := l }
  | some path =>
    if reading.follows then { loop := l, effects := [.carriedOver path true] }
    else
      { loop := { l with holdUntil := some (reading.failedAt + holdAfterFailure) }
        effects := [.carriedOver path false] }

def followGateway (l : Loop Loss) (change : Option GatewayChange) (reading : Reading Loss) :
    Done Loss :=
  match change with
  | some change => l.newGateway change reading
  | none => { loop := l }

/-- What follows once the monitor has the new paths. A steered profile is asked once where its
tunnel is. -/
def look (l : Loop Loss) (change : Option GatewayChange) (reading : Reading Loss) : Done Loss :=
  if !l.steer then l.follow reading.carrying reading.delivered
  else if !l.started then
    match reading.carrying with
    | some path =>
      { loop :=
          { l with
            started := true
            monitor := l.monitor.setCarrying path
            reported := some path }
        effects := [.looked path, .moved none path]
        goesOn := reading.delivered }
    | none => { l with started := true }.followGateway change reading
  else l.followGateway change reading

/-- Read the machine and bring the monitor up to date. -/
def refresh (l : Loop Loss) (reading : Reading Loss) : Done Loss :=
  let l := { l with refreshedAt := reading.now }
  match reading.paths with
  | none => { loop := l }
  | some observed =>
    let (monitor, delta) := l.monitor.pathsChanged (l.capable observed)
    { l with monitor }.look delta.carryingGateway reading

/-- Ask the monitor, and carry out a move. A move that failed is not assumed to have happened, and
no other is tried for a while. -/
def decide (l : Loop Loss) (d : Deciding) : Done Loss :=
  if l.holdUntil.any (fun until_ => Decidable.decide (d.now < until_)) then { loop := l }
  else
    let (monitor, decision) := l.monitor.evaluate d.now
    let l := { l with holdUntil := none, monitor }
    if d.untold then { loop := l, goesOn := false }
    else
      match decision with
      | .move source target _ =>
        match l.monitor.path? target with
        | none => { loop := l }
        | some path =>
          if d.carries then
            { loop := { l with reported := some target }
              effects := [.carriedOver path true, .moved source target]
              goesOn := d.delivered }
          else
            let monitor :=
              match source with
              | some back => l.monitor.setCarrying back
              | none => l.monitor
            { loop := { l with monitor, holdUntil := some (d.now + holdAfterFailure) }
              effects := [.carriedOver path false] }
      | .stay | .noPath => { loop := l }

def handle (l : Loop Loss) : Event Loss → Done Loss
  | .changed reading => l.refresh reading
  | .probed path sample now =>
    match l.monitor.observe path sample now with
    | .ok monitor => { loop := { l with monitor } }
    | .error _ => { loop := l, goesOn := false }
  | .tick => { loop := l }

/-- The loop up to where it decides. -/
def prepare (settings : Settings Loss) (l : Loop Loss) (i : Iteration Loss) : Done Loss :=
  (l.handle i.event).andThen (fun l =>
    if settings.refreshEvery ≤ i.checkedAt - l.refreshedAt then l.refresh i.refresh
    else { loop := l })

/-- The loop as it is when it decides, unless it ended before or decides nothing. -/
def ready (settings : Settings Loss) (l : Loop Loss) (i : Iteration Loss) : Option (Loop Loss) :=
  let prepared := l.prepare settings i
  if prepared.goesOn && prepared.loop.steer then
    let monitor := (prepared.loop.monitor.dueProbes i.probesAt).1
    some { prepared.loop with monitor }
  else none

def iterate (settings : Settings Loss) (l : Loop Loss) (i : Iteration Loss) : Done Loss :=
  match l.ready settings i with
  | some ready =>
    let decided := ready.decide i.deciding
    { decided with effects := (l.prepare settings i).effects ++ decided.effects }
  | none => l.prepare settings i

end Loop

/-- The loop, and where its effects put the tunnel. -/
structure Watching (Loss : Type) where
  loop : Loop Loss
  begun : Bool := false
  running : Bool := true
  tunnel : Option InterfaceId := none

/-- The tunnel is where the first look found it, until a path has carried it over. -/
def landed {Loss : Type} (tunnel : Option InterfaceId) : Effect Loss → Option InterfaceId
  | .looked carrying => some carrying
  | .carriedOver path true => some path.interfaceId
  | .carriedOver _ false | .moved _ _ => tunnel

inductive Turn (Loss : Type)
  | first (reading : Reading Loss)
  | iteration (i : Iteration Loss)

namespace Watching

variable {Loss : Type} [Field Loss] [LinearOrder Loss]

def start (settings : Settings Loss) (steer needsGateway : Bool) (now : Instant) : Watching Loss :=
  { loop := .start settings steer needsGateway now }

/-- What happens in a turn. -/
def does (settings : Settings Loss) (w : Watching Loss) : Turn Loss → Done Loss
  | .first reading => w.loop.refresh reading
  | .iteration i => w.loop.iterate settings i

def mayTurn (w : Watching Loss) : Turn Loss → Bool
  | .first _ => !w.begun
  | .iteration _ => w.begun && w.running

def next (settings : Settings Loss) (w : Watching Loss) (turn : Turn Loss) :
    Option (Watching Loss) :=
  if w.mayTurn turn then
    let done := w.does settings turn
    some
      { loop := done.loop
        begun := true
        running := done.goesOn
        tunnel := done.effects.foldl landed w.tunnel }
  else none

def Steps (settings : Settings Loss) (w : Watching Loss) (turn : Turn Loss)
    (after : Watching Loss) : Prop :=
  w.next settings turn = some after

end Watching

end Netwatch

end DnetEngine
