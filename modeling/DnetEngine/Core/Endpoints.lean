import DnetEngine.Core.Domain
import DnetEngine.Lib.Fallible
import DnetEngine.Lib.SortFind
import Mathlib.Data.Prod.Lex

/-! Endpoint health, the ranking of endpoints by it, and the plan for leaving one that stopped
answering. -/

namespace DnetEngine

open Lib

/-- The sites of the engine where the source would panic. -/
inductive Panic
  /-- `expect("a race always has an endpoint")`. -/
  | raceWithoutEndpoint
  /-- `expect("checked by the caller")`. -/
  | requestedMissing
  /-- `expect("rank returns ids from the same slice")`. -/
  | rankedMissing
  /-- `candidates[0]`. -/
  | noCandidate
  /-- `Duration::from_secs_f64` out of range. -/
  | secondsOutOfRange
  deriving DecidableEq

def defaultUnreachableAfter : Nat := 3
def degradedRttThreshold : Duration := Duration.ofMillis 250
def degradedAfterBad : Nat := 2
def healthyAfterGood : Nat := 3
def rttEwmaAlpha : Float := 0.125
def rttvarEwmaBeta : Float := 0.25

inductive HealthState
  | unknown
  | healthy
  | degraded
  | unreachable
  deriving DecidableEq

inductive ProbeOutcome
  | ok (rtt : Duration) (loss : Bool)
  | failed
  deriving DecidableEq

def ProbeOutcome.isGoodQuality : ProbeOutcome → Bool
  | .ok rtt loss => decide (rtt < degradedRttThreshold) && !loss
  | .failed => false

structure HealthConfig where
  unreachableAfter : Nat := defaultUnreachableAfter
  deriving DecidableEq

structure EndpointHealth where
  state : HealthState := .unknown
  lastProbe : Option Instant := none
  consecutiveFailures : Nat := 0
  consecutiveBadQuality : Nat := 0
  consecutiveGoodQuality : Nat := 0
  rttEwma : Option Duration := none
  rttvarEwma : Option Duration := none
  deriving DecidableEq

structure Transition where
  next : EndpointHealth
  becameUnreachable : Bool
  deriving DecidableEq

namespace EndpointHealth

def updateRtt (health : EndpointHealth) (sample : Duration) : Except Panic EndpointHealth :=
  let r := Duration.asSecsF64 sample
  match health.rttEwma with
  | none => .ok { health with rttEwma := some sample, rttvarEwma := some (sample / 2) }
  | some srtt => do
      let srtt := Duration.asSecsF64 srtt
      let rttvar := (health.rttvarEwma.map Duration.asSecsF64).getD 0
      let newRttvar := (1 - rttvarEwmaBeta) * rttvar + rttvarEwmaBeta * (srtt - r).abs
      let newSrtt := (1 - rttEwmaAlpha) * srtt + rttEwmaAlpha * r
      let rttEwma ← orError .secondsOutOfRange (Duration.fromSecsF64 (max newSrtt 0))
      let rttvarEwma ← orError .secondsOutOfRange (Duration.fromSecsF64 (max newRttvar 0))
      .ok { health with rttEwma := some rttEwma, rttvarEwma := some rttvarEwma }

def stateAfterSuccess (health : EndpointHealth) : HealthState → HealthState
  | .unknown | .unreachable | .healthy =>
    if degradedAfterBad ≤ health.consecutiveBadQuality then .degraded else .healthy
  | .degraded =>
    if healthyAfterGood ≤ health.consecutiveGoodQuality then .healthy else .degraded

def afterProbe (health : EndpointHealth) (outcome : ProbeOutcome) (observedAt : Instant)
    (cfg : HealthConfig) : Except Panic EndpointHealth :=
  let prev := health.state
  match outcome with
  | .failed =>
    let failures := saturatingSucc health.consecutiveFailures
    let nowUnreachable := prev = .unknown ∨ prev = .unreachable ∨
      cfg.unreachableAfter ≤ failures
    .ok { health with
      lastProbe := some observedAt
      consecutiveFailures := failures
      consecutiveBadQuality := 0
      consecutiveGoodQuality := 0
      state := if nowUnreachable then .unreachable else prev }
  | .ok rtt _ => do
      let next ← updateRtt { health with lastProbe := some observedAt, consecutiveFailures := 0 } rtt
      let next : EndpointHealth :=
        if outcome.isGoodQuality then
          { next with
            consecutiveGoodQuality := saturatingSucc health.consecutiveGoodQuality
            consecutiveBadQuality := 0 }
        else
          { next with
            consecutiveBadQuality := saturatingSucc health.consecutiveBadQuality
            consecutiveGoodQuality := 0 }
      .ok { next with state := next.stateAfterSuccess prev }

def onProbe (health : EndpointHealth) (outcome : ProbeOutcome) (observedAt : Instant)
    (cfg : HealthConfig) : Except Panic Transition := do
  let next ← health.afterProbe outcome observedAt cfg
  .ok ⟨next, decide (health.state ≠ .unreachable) && decide (next.state = .unreachable)⟩

end EndpointHealth

structure Endpoint where
  id : EndpointId
  label : String
  health : EndpointHealth := {}
  enabled : Bool := true
  deriving DecidableEq

def isCandidate (endpoint : Endpoint) : Bool :=
  endpoint.enabled && decide (endpoint.health.state ≠ .unreachable)

def stateRank : HealthState → Nat
  | .healthy => 0
  | .degraded => 1
  | .unknown => 2
  | .unreachable => 3

/-- The state, then whether a round trip is still missing, then the smoothed round trip. -/
def rankKey (endpoint : Endpoint) : Nat ×ₗ Nat ×ₗ Duration :=
  let rtt := match endpoint.health.rttEwma with
    | some rtt => (0, rtt)
    | none => (1, 0)
  toLex (stateRank endpoint.health.state, toLex rtt)

def rank (endpoints : List Endpoint) : List EndpointId :=
  (sortByKey rankKey (endpoints.filter isCandidate)).map Endpoint.id

inductive Migration
  | stay
  | moveTo (target : EndpointId) (event : ConnectionEvent)
  | noEndpointReachable
  deriving DecidableEq

def migrationBecause (current : Option Endpoint) (active : EndpointId) (target : Endpoint) :
    String :=
  let fromLabel := match current with
    | none => active.display
    | some e => e.label
  let why := match current with
    | none => "is no longer configured"
    | some e =>
      if !e.enabled then "was disabled"
      else
        let n := e.health.consecutiveFailures
        let probes := if n = 1 then "probe" else "probes"
        "stopped answering after " ++ toString n ++ " failed " ++ probes
  let state := match target.health.state with
    | .healthy => "healthy"
    | .degraded => "degraded"
    | .unknown | .unreachable => "not yet measured"
  let rtt := match target.health.rttEwma with
    | some r => " with a smoothed round trip of " ++ toString (Duration.asMillis r) ++ " ms"
    | none => ""
  "endpoint \"" ++ fromLabel ++ "\" " ++ why ++ "; moved to \"" ++ target.label ++
    "\", which is " ++ state ++ rtt

def planMigration (endpoints : List Endpoint) (active : EndpointId) : Except Panic Migration :=
  let current := endpoints.find? (fun e => e.id == active)
  if current.any isCandidate then .ok .stay
  else
    match (rank endpoints).head? with
    | none => .ok .noEndpointReachable
    | some next => do
        let target ← orError .rankedMissing (endpoints.find? (fun e => e.id == next))
        .ok (.moveTo next
          (.endpointMigrated active next (migrationBecause current active target)))

theorem onProbe_becameUnreachable (health : EndpointHealth) (outcome : ProbeOutcome)
    (observedAt : Instant) (cfg : HealthConfig) (transition : Transition)
    (applied : health.onProbe outcome observedAt cfg = .ok transition) :
    transition.becameUnreachable = true ↔
      health.state ≠ .unreachable ∧ transition.next.state = .unreachable := by
  obtain ⟨next, _, result⟩ := bind_ok.mp applied
  cases result
  simp

theorem onProbe_error (health : EndpointHealth) (outcome : ProbeOutcome) (observedAt : Instant)
    (cfg : HealthConfig) (site : Panic)
    (panics : health.onProbe outcome observedAt cfg = .error site) : site = .secondsOutOfRange := by
  have seconds (health : EndpointHealth) (sample : Duration)
      (panics : health.updateRtt sample = .error site) : site = .secondsOutOfRange := by
    have expected (value : Option Duration)
        (panics : orError Panic.secondsOutOfRange value = .error site) :
        site = .secondsOutOfRange := by
      cases value with
      | none => exact (Except.error.inj panics).symm
      | some => cases panics
    unfold EndpointHealth.updateRtt at panics
    split at panics
    · cases panics
    · rcases bind_error.mp panics with first | ⟨_, _, rest⟩
      · exact expected _ first
      · rcases bind_error.mp rest with second | ⟨_, _, done⟩
        · exact expected _ second
        · cases done
  rcases bind_error.mp panics with inside | ⟨_, _, done⟩
  · cases outcome with
    | failed => cases inside
    | ok rtt =>
      rcases bind_error.mp inside with rtt | ⟨_, _, done⟩
      · exact seconds _ _ rtt
      · cases done
  · cases done

variable (endpoints : List Endpoint)

theorem mem_rank (id : EndpointId) :
    id ∈ rank endpoints ↔ ∃ e ∈ endpoints, isCandidate e = true ∧ e.id = id := by
  simp only [rank, List.mem_map, mem_sortByKey, List.mem_filter, and_assoc]

theorem rank_head_candidate (id : EndpointId) (best : (rank endpoints).head? = some id) :
    ∃ e ∈ endpoints, isCandidate e = true ∧ e.id = id :=
  (mem_rank endpoints id).mp (List.mem_of_head? best)

theorem rank_head_none (nothing : (rank endpoints).head? = none) :
    ∀ e ∈ endpoints, isCandidate e = false := by
  intro e member
  have empty : rank endpoints = [] := List.head?_eq_none_iff.mp nothing
  by_contra candidate
  have ranked := (mem_rank endpoints e.id).mpr ⟨e, member, by simpa using candidate, rfl⟩
  simp [empty] at ranked

/-- The plan in full: it never panics, stays exactly while the active endpoint is a candidate,
and otherwise goes to the best ranked one. -/
theorem planMigration_cases (active : EndpointId) :
    (planMigration endpoints active = .ok .stay ∧
      (endpoints.find? (fun e => e.id == active)).any isCandidate = true) ∨
    ((endpoints.find? (fun e => e.id == active)).any isCandidate = false ∧
      ((planMigration endpoints active = .ok .noEndpointReachable ∧
          (rank endpoints).head? = none) ∨
        ∃ target because, (rank endpoints).head? = some target ∧
          planMigration endpoints active =
            .ok (.moveTo target (.endpointMigrated active target because)))) := by
  by_cases usable : (endpoints.find? (fun e => e.id == active)).any isCandidate = true
  · left
    simp only [planMigration, usable, if_true, and_self]
  · right
    have unusable : (endpoints.find? (fun e => e.id == active)).any isCandidate = false := by
      simpa using usable
    refine ⟨unusable, ?_⟩
    cases best : (rank endpoints).head? with
    | none =>
      left
      simp [planMigration, unusable, best]
    | some target =>
      right
      obtain ⟨e, member, _, named⟩ := rank_head_candidate endpoints target best
      have known : (endpoints.find? (fun e => e.id == target)).isSome = true := by
        rw [List.find?_isSome]
        exact ⟨e, member, by simp [named]⟩
      obtain ⟨found, lookup⟩ := Option.isSome_iff_exists.mp known
      simp [planMigration, unusable, best, lookup, bind, Except.bind]

end DnetEngine
