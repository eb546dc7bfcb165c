import DnetEngine.Core.Endpoints
import DnetEngine.Lib.Run

/-! The health of an endpoint is a function of the outcomes of its probes, here newest first. -/

namespace DnetEngine.EndpointHealth

open Lib

def isFailed (outcome : ProbeOutcome) : Bool := decide (outcome = .failed)

/-- A success that is slow or lossy. -/
def isBad (outcome : ProbeOutcome) : Bool := !isFailed outcome && !outcome.isGoodQuality

/-- How many outcomes in a row, up to now, are of one kind. -/
def inARow (kind : ProbeOutcome → Bool) (outcomes : List ProbeOutcome) : Nat :=
  (outcomes.takeWhile kind).length

/-- The sequence ends in a failure, and either all of it failed or enough failed in a row. -/
def Outage (cfg : HealthConfig) (outcomes : List ProbeOutcome) : Prop :=
  1 ≤ inARow isFailed outcomes ∧ ((∀ outcome ∈ outcomes, outcome = .failed) ∨
    max 1 cfg.unreachableAfter ≤ inARow isFailed outcomes)

/-- Where the newest of the outcomes leads, told by the outcomes alone. -/
structure LedTo (cfg : HealthConfig) (outcomes : List ProbeOutcome) (state next : HealthState) :
    Prop where
  known : next ≠ .unknown
  unreachable : next = .unreachable ↔ Outage cfg outcomes
  degraded : state ≠ .degraded →
    (next = .degraded ↔ state = .healthy ∧ inARow isBad outcomes = degradedAfterBad)
  healthy : state = .degraded →
    (next = .healthy ↔ inARow ProbeOutcome.isGoodQuality outcomes = healthyAfterGood)
  recovered : state = .unreachable → outcomes.head? ≠ some .failed → next = .healthy

/-- The counters are the lengths of the runs that the sequence ends in. -/
structure Counts (outcomes : List ProbeOutcome) (health : EndpointHealth) : Prop where
  failures : health.consecutiveFailures = min (inARow isFailed outcomes) u32Max
  bad : health.consecutiveBadQuality = min (inARow isBad outcomes) u32Max
  good : health.consecutiveGoodQuality = min (inARow ProbeOutcome.isGoodQuality outcomes) u32Max

structure Keeps (cfg : HealthConfig) (outcomes : List ProbeOutcome) (health : EndpointHealth) :
    Prop extends Counts outcomes health where
  unknown : health.state = .unknown ↔ outcomes = []
  unreachable : health.state = .unreachable ↔ Outage cfg outcomes
  fewBad : health.state = .healthy → inARow isBad outcomes < degradedAfterBad
  fewGood : health.state = .degraded →
    inARow ProbeOutcome.isGoodQuality outcomes < healthyAfterGood

instance (cfg : HealthConfig) (outcomes : List ProbeOutcome) : Decidable (Outage cfg outcomes) :=
  inferInstanceAs (Decidable (_ ∧ _))

/-- A probe that returns; the label is its outcome and when it was observed. -/
def Probed (cfg : HealthConfig) (health : EndpointHealth) (probe : ProbeOutcome × Instant)
    (next : EndpointHealth) : Prop :=
  ∃ became, health.onProbe probe.1 probe.2 cfg = .ok ⟨next, became⟩

def outcomesOf (run : List (Taken EndpointHealth (ProbeOutcome × Instant))) : List ProbeOutcome :=
  run.map fun taken => taken.label.1

variable {cfg : HealthConfig} {health next : EndpointHealth} {outcome : ProbeOutcome}
  {outcomes : List ProbeOutcome} {observedAt : Instant}

theorem inARow_cons (kind : ProbeOutcome → Bool) : inARow kind (outcome :: outcomes) =
    if kind outcome then inARow kind outcomes + 1 else 0 := by
  unfold inARow
  rw [List.takeWhile_cons]
  split <;> rfl

theorem inARow_apart {one other : ProbeOutcome → Bool}
    (apart : ∀ outcome, one outcome = true → other outcome = false) :
    inARow one outcomes = 0 ∨ inARow other outcomes = 0 := by
  cases outcomes with
  | nil => exact .inl rfl
  | cons outcome _ =>
    rw [inARow_cons, inARow_cons]
    by_cases first : one outcome = true
    · exact .inr (by simp [apart outcome first])
    · exact .inl (if_neg first)

theorem outage_failed : Outage cfg (.failed :: outcomes) ↔
    outcomes = [] ∨ Outage cfg outcomes ∨ cfg.unreachableAfter ≤ inARow isFailed outcomes + 1 := by
  unfold Outage
  rw [inARow_cons, if_pos (show isFailed .failed = true from rfl)]
  constructor
  · rintro ⟨_, all | long⟩
    · cases outcomes with
      | nil => exact .inl rfl
      | cons first earlier =>
        cases all first (by simp)
        exact .inr (.inl ⟨Nat.le_add_left 1 _, .inl fun _ member => all _ (.tail _ member)⟩)
    · exact .inr (.inr (by omega))
  · rintro (rfl | ⟨_, all | long⟩ | long)
    · exact ⟨by omega, .inl fun _ member => List.mem_singleton.mp member⟩
    · exact ⟨by omega, .inl fun other member => (List.mem_cons.mp member).elim id (all other)⟩
    · exact ⟨by omega, .inr (by omega)⟩
    · exact ⟨by omega, .inr (by omega)⟩

theorem updateRtt_ok {sample : Duration} (done : health.updateRtt sample = .ok next) :
    ∃ rttEwma rttvarEwma, next = { health with rttEwma, rttvarEwma } := by
  unfold updateRtt at done
  split at done
  · cases done
    exact ⟨_, _, rfl⟩
  · obtain ⟨_, _, done⟩ := bind_ok.mp done
    obtain ⟨_, _, done⟩ := bind_ok.mp done
    cases done
    exact ⟨_, _, rfl⟩

theorem saturatingSucc_min (n : Nat) : saturatingSucc (min n u32Max) = min (n + 1) u32Max := by
  unfold saturatingSucc
  omega

theorem Counts.afterProbe (counts : Counts outcomes health)
    (done : health.afterProbe outcome observedAt cfg = .ok next) :
    Counts (outcome :: outcomes) next ∧
      next.state = if outcome = .failed then
          if health.state = .unknown ∨ health.state = .unreachable ∨
            cfg.unreachableAfter ≤ next.consecutiveFailures then .unreachable else health.state
        else next.stateAfterSuccess health.state := by
  cases outcome with
  | failed =>
    cases done
    exact ⟨⟨(congrArg _ counts.failures).trans (saturatingSucc_min _), rfl, rfl⟩, rfl⟩
  | ok rtt loss =>
    obtain ⟨_, measured, done⟩ := bind_ok.mp done
    obtain ⟨_, _, rfl⟩ := updateRtt_ok measured
    cases done
    refine ⟨?_, (if_neg nofun).symm⟩
    by_cases quality : (ProbeOutcome.ok rtt loss).isGoodQuality = true
    · simp only [quality]
      refine ⟨rfl, ?_, ?_⟩
      · simp [inARow_cons, isBad, quality]
      · simp [inARow_cons, quality, counts.good, saturatingSucc_min]
    · simp only [quality]
      refine ⟨rfl, ?_, ?_⟩
      · simp [inARow_cons, isBad, isFailed, quality, counts.bad, saturatingSucc_min]
      · simp [inARow_cons, quality]

theorem Keeps.fresh (keeps : Keeps cfg outcomes health)
    (fresh : health.state = .unknown ∨ health.state = .unreachable) :
    inARow isBad outcomes = 0 := by
  rcases fresh with unknown | down
  · rw [keeps.unknown.mp unknown]
    rfl
  · have failed := (keeps.unreachable.mp down).1
    have apart : inARow isBad outcomes = 0 ∨ inARow isFailed outcomes = 0 :=
      inARow_apart fun outcome bad => by simp_all [isBad]
    omega

theorem Keeps.afterProbe (range : cfg.unreachableAfter ≤ u32Max) (keeps : Keeps cfg outcomes health)
    (done : health.afterProbe outcome observedAt cfg = .ok next) :
    Keeps cfg (outcome :: outcomes) next ∧
      LedTo cfg (outcome :: outcomes) health.state next.state := by
  obtain ⟨counts, state⟩ := keeps.toCounts.afterProbe done
  have fresh := keeps.fresh
  obtain ⟨_, unknown, unreachable, fewBad, fewGood⟩ := keeps
  have moreBad : inARow isBad (outcome :: outcomes) = _ := inARow_cons isBad
  have moreGood : inARow ProbeOutcome.isGoodQuality (outcome :: outcomes) = _ :=
    inARow_cons ProbeOutcome.isGoodQuality
  have enoughBad : 2 ≤ next.consecutiveBadQuality ↔ 2 ≤ inARow isBad (outcome :: outcomes) := by
    rw [counts.bad, u32Max]
    omega
  have enoughGood : 3 ≤ next.consecutiveGoodQuality ↔
      3 ≤ inARow ProbeOutcome.isGoodQuality (outcome :: outcomes) := by
    rw [counts.good, u32Max]
    omega
  have led : LedTo cfg (outcome :: outcomes) health.state next.state := by
    cases outcome with
    | failed =>
      have oneMore : inARow isFailed (.failed :: outcomes) = inARow isFailed outcomes + 1 := rfl
      have enough : cfg.unreachableAfter ≤ next.consecutiveFailures ↔
          cfg.unreachableAfter ≤ inARow isFailed outcomes + 1 := by
        rw [counts.failures]
        omega
      have outage : Outage cfg (.failed :: outcomes) ↔ _ := outage_failed
      have noBad : inARow isBad (.failed :: outcomes) = 0 := rfl
      have noGood : inARow ProbeOutcome.isGoodQuality (.failed :: outcomes) = 0 := rfl
      constructor <;> grind [degradedAfterBad, healthyAfterGood]
    | ok rtt loss =>
      have up : ¬Outage cfg (.ok rtt loss :: outcomes) := fun outage => absurd outage.1 nofun
      constructor <;> cases was : health.state <;>
        grind [stateAfterSuccess, degradedAfterBad, healthyAfterGood]
  have apart : inARow isBad (outcome :: outcomes) = 0 ∨
      inARow ProbeOutcome.isGoodQuality (outcome :: outcomes) = 0 :=
    inARow_apart fun outcome bad => by simp_all [isBad]
  obtain ⟨known, _, worse, better, _⟩ := id led
  refine ⟨⟨counts, by simp [known], led.unreachable, ?_, ?_⟩, led⟩
  all_goals
    intro now
    cases was : health.state <;> grind [degradedAfterBad, healthyAfterGood]

theorem keeps_of_run {run : List (Taken EndpointHealth (ProbeOutcome × Instant))}
    (range : cfg.unreachableAfter ≤ u32Max) (probes : Run (Probed cfg) {} run health) :
    Keeps cfg (outcomesOf run) health := by
  refine run_invariant (fun run health => Keeps cfg (outcomesOf run) health) ?_ ?_ probes
  · exact ⟨⟨rfl, rfl, rfl⟩, ⟨fun _ => rfl, fun _ => rfl⟩, ⟨nofun, fun outage => absurd outage.1 nofun⟩,
      nofun, nofun⟩
  · intro _ _ probe after _ keeps ⟨_, probed⟩
    obtain ⟨_, done, same⟩ := bind_ok.mp probed
    cases same
    exact (keeps.afterProbe range done).1

/-- A change to unreachable is reported where an outage begins and nowhere else, and a probe stops
only at a round trip out of range. -/
theorem health_of_history (cfg : HealthConfig) (range : cfg.unreachableAfter ≤ u32Max)
    (run : List (Taken EndpointHealth (ProbeOutcome × Instant))) (health : EndpointHealth)
    (probes : Run (Probed cfg) {} run health) :
    (health.state = .unreachable ↔ Outage cfg (outcomesOf run)) ∧
      ∀ outcome observedAt,
        (∀ site, health.onProbe outcome observedAt cfg = .error site →
          outcome ≠ .failed ∧ site = .secondsOutOfRange) ∧
        ∀ transition, health.onProbe outcome observedAt cfg = .ok transition →
          LedTo cfg (outcome :: outcomesOf run) health.state transition.next.state ∧
          (transition.becameUnreachable = true ↔
            ¬Outage cfg (outcomesOf run) ∧ Outage cfg (outcome :: outcomesOf run)) := by
  have keeps := keeps_of_run range probes
  refine ⟨keeps.unreachable, fun outcome observedAt => ⟨fun site panics => ⟨?_, ?_⟩, ?_⟩⟩
  · rintro rfl
    cases panics
  · exact onProbe_error health outcome observedAt cfg site panics
  · intro transition probed
    have became := onProbe_becameUnreachable health outcome observedAt cfg transition probed
    obtain ⟨next, done, same⟩ := bind_ok.mp probed
    cases same
    have led := (keeps.afterProbe range done).2
    exact ⟨led, by rw [became, led.unreachable, Ne, keeps.unreachable]⟩

/-- One answer, then silence: the second failure in a row begins the outage. -/
theorem second_failure_reported : ∃ run health, Run (Probed ⟨2⟩) {} run health ∧
    outcomesOf run = [.failed, .ok 1 false] ∧
    ∀ transition, health.onProbe .failed 30 ⟨2⟩ = .ok transition →
      transition.becameUnreachable = true := by
  have probes : Run (Probed ⟨2⟩) {} [⟨_, (.failed, 20), _⟩, ⟨_, (.ok 1 false, 10), _⟩] _ :=
    .next (.next .start ⟨_, rfl⟩) ⟨_, rfl⟩
  refine ⟨_, _, probes, rfl, fun transition probed => ?_⟩
  have told := (((health_of_history ⟨2⟩ (by decide) _ _ probes).2 .failed 30).2 transition probed).2
  exact told.mpr (by decide)

end DnetEngine.EndpointHealth
