import DnetEngine.Core.Domain
import DnetEngine.Lib.Run

/-! While the person has left it on, a connection that failed is tried again: after a wait that
doubles with each attempt, and sooner when the network changes, but not soon after an attempt. -/

namespace DnetEngine.KeepTrying

open Lib Duration

inductive Tick
  | idle
  | healthy
  | inProgress
  | attempted
  deriving DecidableEq

structure Pace where
  first : Duration := ofSecs 15
  cap : Duration := ofSecs (5 * 60)
  minGap : Duration := ofSecs 60

structure Backoff where
  pace : Pace
  delay : Duration := pace.first
  lastAttempt : Option Instant := none

def Backoff.after (backoff : Backoff) (now : Instant) : Tick → Duration × Backoff
  | .attempted =>
    let delay := min (backoff.delay * 2) backoff.pace.cap
    (delay, { backoff with lastAttempt := some now, delay })
  | .inProgress => (backoff.pace.first, backoff)
  | .healthy | .idle => (backoff.pace.first, { backoff with delay := backoff.pace.first })

def Backoff.changeMayRetry (backoff : Backoff) (now : Instant) : Bool :=
  backoff.lastAttempt.all (fun last => decide (backoff.pace.minGap ≤ now - last))

/-- A look at the target: when, whether a network change led to it, and what it found. -/
structure Look where
  moment : Instant
  byChange : Bool
  tick : Tick

/-- The loop of `run`: `changes` while it has a source of them, `clock` the time of its last turn,
and the looks it has taken, the last one first. -/
structure Loop where
  backoff : Backoff
  deadline : Instant
  changes : Bool
  clock : Instant
  looks : List Look := []

def Loop.start (pace : Pace) (now : Instant) (changes : Bool) : Loop :=
  { backoff := { pace }, deadline := now + pace.first, changes, clock := now }

/-- What ends the wait of the loop, and what the target answers if it is asked. -/
inductive Turn
  | timer (now : Instant) (tick : Tick)
  | change (now : Instant) (tick : Tick)
  | sourceGone (now : Instant)

def Turn.now : Turn → Instant
  | .timer now _ | .change now _ | .sourceGone now => now

def Loop.look (loop : Loop) (byChange : Bool) (tick : Tick) : Loop :=
  let (wait, backoff) := loop.backoff.after loop.clock tick
  { loop with
    backoff, deadline := loop.clock + wait, looks := ⟨loop.clock, byChange, tick⟩ :: loop.looks }

/-- One turn of the loop, while the target lives; a turn that cannot be the next has no result. -/
def Loop.turn (loop : Loop) (turn : Turn) : Option Loop :=
  let next := { loop with clock := turn.now }
  if loop.clock ≤ turn.now then
    match turn with
    | .timer now tick => if loop.deadline ≤ now then some (next.look false tick) else none
    | .change now tick =>
      if loop.changes then
        some (if loop.backoff.changeMayRetry now then next.look true tick else next)
      else none
    | .sourceGone _ => if loop.changes then some { next with changes := false } else none
  else none

/-- The attempts since the start, or since the last look that found nothing to try. -/
def attempts (looks : List Look) : Nat :=
  (looks.takeWhile (fun look => look.tick = .attempted || look.tick = .inProgress)).countP
    (fun look => look.tick = .attempted)

def Pace.delay (pace : Pace) : Nat → Duration
  | 0 => pace.first
  | k + 1 => min (pace.first * 2 ^ (k + 1)) pace.cap

theorem Pace.delay_succ (pace : Pace) (k : Nat) :
    min (pace.delay k * 2) pace.cap = pace.delay (k + 1) := by
  cases k with
  | zero => simp [delay]
  | succ k =>
    have doubled : pace.cap ≤ pace.cap * 2 := Nat.le_mul_of_pos_right _ (by decide)
    rw [delay, ← Nat.mul_min_mul_right, min_assoc, min_eq_right doubled, mul_assoc]
    rfl

/-- An attempt that a network change led to comes so long after an earlier one. -/
def Apart (gap : Duration) (later earlier : Look) : Prop :=
  later.byChange = true → later.tick = .attempted → earlier.tick = .attempted →
    earlier.moment + gap ≤ later.moment

/-- What the loop remembers of the looks it has taken since it began. -/
structure Paced (pace : Pace) (began : Instant) (loop : Loop) : Prop where
  own : loop.backoff.pace = pace
  delay : loop.backoff.delay = pace.delay (attempts loop.looks)
  past : ∀ look ∈ loop.looks, look.moment ≤ loop.clock
  known : ∀ look ∈ loop.looks, look.tick = .attempted →
    ∃ last, loop.backoff.lastAttempt = some last ∧ look.moment ≤ last
  apart : loop.looks.Pairwise (Apart pace.minGap)
  due : loop.deadline ≤ loop.looks.head?.elim began Look.moment + max pace.first pace.cap
  waits : ∀ look older, loop.looks = look :: older → look.tick = .attempted →
    loop.deadline = look.moment + pace.delay (attempts older + 1)

variable {pace : Pace} {began now : Instant} {loop after : Loop}

section

variable (paced : Paced pace began loop)

include paced

theorem Paced.later (later : loop.clock ≤ now) :
    Paced pace began { loop with clock := now } :=
  { paced with past := fun look seen => (paced.past look seen).trans later }

theorem Paced.attempt (byChange : Bool)
    (allowed : byChange = true → loop.backoff.changeMayRetry loop.clock = true) :
    Paced pace began (loop.look byChange .attempted) := by
  have past := List.forall_mem_cons (p := fun look : Look => look.moment ≤ loop.clock)
    (a := ⟨loop.clock, byChange, .attempted⟩).mpr ⟨le_rfl, paced.past⟩
  have delay : min (loop.backoff.delay * 2) loop.backoff.pace.cap =
      pace.delay (attempts loop.looks + 1) := by
    rw [paced.delay, paced.own, pace.delay_succ]
  have apart (earlier : Look) (seen : earlier ∈ loop.looks) :
      Apart pace.minGap ⟨loop.clock, byChange, .attempted⟩ earlier := by
    intro changed _ tried
    obtain ⟨last, known, before⟩ := paced.known earlier seen tried
    have gap := allowed changed
    simp only [Backoff.changeMayRetry, known, paced.own, Option.all_some, decide_eq_true_eq] at gap
    exact Nat.add_le_of_le_sub' (paced.past earlier seen) (gap.trans (Nat.sub_le_sub_left before _))
  refine ⟨paced.own, ?_, past, ?_, .cons apart paced.apart, ?_, ?_⟩
  · simpa [Loop.look, Backoff.after, attempts] using delay
  · exact fun look seen _ => ⟨loop.clock, rfl, past look seen⟩
  · exact Nat.add_le_add_left ((min_le_right ..).trans (paced.own ▸ le_max_right ..)) _
  · intro look older same _
    cases same
    exact congrArg (loop.clock + ·) delay

/-- A look that is no attempt is followed by the first wait. -/
theorem Paced.rest (byChange : Bool) {tick : Tick} (other : tick ≠ .attempted) :
    Paced pace began (loop.look byChange tick) := by
  have wait : (loop.backoff.after loop.clock tick).1 = pace.first ∧
      (loop.backoff.after loop.clock tick).2.pace = pace ∧
      (loop.backoff.after loop.clock tick).2.lastAttempt = loop.backoff.lastAttempt := by
    cases tick <;> simp_all [Backoff.after, paced.own]
  refine ⟨wait.2.1, ?_, List.forall_mem_cons.mpr ⟨le_rfl, paced.past⟩,
    List.forall_mem_cons.mpr ⟨fun tried => absurd tried other, ?_⟩,
    .cons (fun _ _ _ tried => absurd tried other) paced.apart, ?_, ?_⟩
  · have kept := paced.delay
    cases tick <;> simp_all [Loop.look, Backoff.after, attempts, Pace.delay]
  · exact wait.2.2 ▸ paced.known
  · exact Nat.add_le_add_left (wait.1 ▸ le_max_left ..) _
  · intro look older same tried
    cases same
    exact absurd tried other

theorem Paced.look (byChange : Bool) (tick : Tick)
    (allowed : byChange = true → loop.backoff.changeMayRetry loop.clock = true) :
    Paced pace began (loop.look byChange tick) := by
  by_cases tried : tick = .attempted
  · exact tried ▸ paced.attempt byChange allowed
  · exact paced.rest byChange tried

theorem Paced.turn {turn : Turn} (turns : loop.turn turn = some after) : Paced pace began after := by
  obtain ⟨later, turns⟩ := Option.ite_none_right_eq_some.mp turns
  cases turn with
  | timer now tick =>
    cases (Option.ite_none_right_eq_some.mp turns).2
    exact (paced.later later).look false tick (by simp)
  | change now tick =>
    cases (Option.ite_none_right_eq_some.mp turns).2
    split
    next allowed => exact (paced.later later).look true tick (fun _ => allowed)
    next => exact paced.later later
  | sourceGone now =>
    cases (Option.ite_none_right_eq_some.mp turns).2
    exact { paced.later later with }

end

theorem paced_follow (pace : Pace) (began : Instant) (changes : Bool) (turns : List Turn) :
    Paced pace began (follow Loop.turn (.start pace began changes) turns).1 := by
  refine run_state_invariant (Paced pace began) ?_ (fun _ _ _ paced turns => paced.turn turns)
    (follow_run Loop.turn _ turns)
  refine ⟨rfl, rfl, by simp [Loop.start], by simp [Loop.start], .nil, ?_, by simp [Loop.start]⟩
  exact Nat.add_le_add_left (le_max_left ..) _

/-- The pace of every run. -/
theorem attempts_paced (pace : Pace) (began : Instant) (changes : Bool) (turns : List Turn) :
    let loop := (follow Loop.turn (.start pace began changes) turns).1
    loop.looks.Pairwise (Apart pace.minGap) ∧
    loop.deadline ≤ loop.looks.head?.elim began Look.moment + max pace.first pace.cap ∧
    (∀ now tick, loop.clock ≤ now → loop.deadline ≤ now →
      loop.turn (.timer now tick) = some ({ loop with clock := now }.look false tick)) ∧
    (∀ look older, loop.looks = look :: older → look.tick = .attempted →
      loop.deadline = look.moment + min (pace.first * 2 ^ (attempts older + 1)) pace.cap) ∧
    ∀ now tick after, loop.backoff.changeMayRetry now = false →
      loop.turn (.change now tick) = some after → after = { loop with clock := now } := by
  intro loop
  have paced := paced_follow pace began changes turns
  refine ⟨paced.apart, paced.due, ?_, paced.waits, ?_⟩
  · intro now tick later due
    simp [Loop.turn, Turn.now, later, due]
  · intro now tick after refused turns
    have possible := (Option.ite_none_right_eq_some.mp turns).2
    simpa [refused, Turn.now, eq_comm] using (Option.ite_none_right_eq_some.mp possible).2

/-- A look that finds an attempt in progress does not begin the count anew: the third look of the
usual pace is the first of its kind in a row, and a minute is waited after it. -/
theorem inProgress_keeps_delay :
    let loop := (follow Loop.turn (.start {} 0 true) [.timer (ofSecs 15) .attempted,
      .timer (ofSecs 45) .inProgress, .timer (ofSecs 60) .attempted]).1
    loop.looks.map Look.tick = [.attempted, .inProgress, .attempted] ∧
      loop.deadline = ofSecs (60 + 60) ∧
      loop.deadline ≠ ofSecs 60 + min (ofSecs 15 * 2 ^ 1) (ofSecs 300) := by
  decide

end DnetEngine.KeepTrying
