import DnetEngine.Lib.Fallible
import Mathlib.Control.Monad.Basic

/-! Programs whose effects are recorded: a program runs on the events so far, oldest first, and
adds its own. `Emits` is the judgment of what it returns and adds, and the rules below take it
through the sequencing of programs and through their early returns. The second part is about
traces as such: what holds of each event and the events before it, and what has been opened and not
closed since. -/

namespace DnetEngine.Lib

variable {Event Value Result Error : Type}

abbrev Recorded (Event : Type) : Type → Type := StateM (List Event)

/-- One effect: it is answered by what happened so far, and recorded with the answer. -/
def effect (answer : List Event → Value) (event : List Event → Value → Event) :
    Recorded Event Value :=
  fun past => (answer past, past ++ [event past (answer past)])

/-- After `past`, the program adds events that, with what it returns, satisfy `post`. -/
def Emits (past : List Event) (program : Recorded Event Value)
    (post : Value → List Event → Prop) : Prop :=
  ∃ events, (program past).2 = past ++ events ∧ post (program past).1 events

section Rules

variable {past : List Event}

variable {post inner : Value → List Event → Prop}

theorem emits_pure {value : Value} (holds : post value []) :
    Emits past (pure value) post :=
  ⟨[], (List.append_nil past).symm, holds⟩

theorem Emits.mono {program : Recorded Event Value} (emits : Emits past program inner)
    (weaker : ∀ value events, inner value events → post value events) :
    Emits past program post := by
  obtain ⟨events, adds, holds⟩ := emits
  exact ⟨events, adds, weaker _ _ holds⟩

theorem Emits.bind {first : Recorded Event Value} {rest : Value → Recorded Event Result}
    {post : Result → List Event → Prop} (emits : Emits past first inner)
    (after : ∀ value events, inner value events →
      Emits (past ++ events) (rest value) fun result more => post result (events ++ more)) :
    Emits past (first >>= rest) post := by
  obtain ⟨events, adds, holds⟩ := emits
  obtain ⟨more, addsMore, whole⟩ := after _ _ holds
  rw [← adds] at addsMore whole
  refine ⟨events ++ more, ?_, whole⟩
  rw [← List.append_assoc, ← adds]
  exact addsMore

/-- The early return of a step that failed. -/
theorem Emits.attempt {first : ExceptT Error (Recorded Event) Value}
    {rest : Value → ExceptT Error (Recorded Event) Result}
    {inner : Except Error Value → List Event → Prop}
    {post : Except Error Result → List Event → Prop}
    (emits : Emits past first.run inner)
    (failed : ∀ error events, inner (.error error) events → post (.error error) events)
    (after : ∀ value events, inner (.ok value) events →
      Emits (past ++ events) (rest value).run fun result more => post result (events ++ more)) :
    Emits past (first >>= rest).run post := by
  change Emits past (first.run >>= ExceptT.bindCont rest) post
  apply Emits.bind emits
  intro answer events holds
  cases answer with
  | error error =>
    apply emits_pure
    rw [List.append_nil]
    exact failed error events holds
  | ok value => exact after value events holds

end Rules

section Follows

variable (fits : List Event → Event → Prop)

/-- Every further event fits the ones before it. -/
def Follows : List Event → List Event → Prop
  | _, [] => True
  | past, event :: rest => fits past event ∧ Follows (past ++ [event]) rest

theorem follows_append (past first second : List Event) :
    Follows fits past (first ++ second) ↔
      Follows fits past first ∧ Follows fits (past ++ first) second := by
  induction first generalizing past with
  | nil => simp [Follows]
  | cons _ _ ih => simp [Follows, ih, and_assoc]

theorem Follows.at {fits : List Event → Event → Prop} {past before after : List Event}
    {event : Event} (follows : Follows fits past (before ++ event :: after)) :
    fits (past ++ before) event :=
  ((follows_append fits past before (event :: after)).mp follows).2.1

theorem follows_of_forall {past events : List Event}
    (each : ∀ event ∈ events, ∀ before, fits before event) : Follows fits past events := by
  induction events generalizing past with
  | nil => trivial
  | cons event _ ih =>
    refine ⟨each event List.mem_cons_self past, ih fun other member => ?_⟩
    exact each other (List.mem_cons_of_mem event member)

end Follows

section Outstanding

variable (opens closes : Event → Bool)

/-- Whether something was opened and not closed since. -/
def outstanding (trace : List Event) : Bool :=
  trace.foldl
    (fun still event => if opens event then true else if closes event then false else still) false

theorem outstanding_from (still : Bool) (trace : List Event) :
    trace.foldl
      (fun still event => if opens event then true else if closes event then false else still)
        still = (outstanding opens closes trace || (still && !trace.any closes)) := by
  induction trace generalizing still with
  | nil => cases still <;> rfl
  | cons event rest ih =>
    rw [outstanding, List.foldl_cons, List.foldl_cons, List.any_cons, ih, ih]
    cases opens event <;> cases closes event <;> cases still <;>
      cases outstanding opens closes rest <;> simp

theorem outstanding_append (past events : List Event) :
    outstanding opens closes (past ++ events) =
      (outstanding opens closes events ||
        (outstanding opens closes past && !events.any closes)) := by
  rw [outstanding, List.foldl_append]
  exact outstanding_from opens closes _ events

@[simp] theorem outstanding_nil : outstanding opens closes [] = false := rfl

theorem outstanding_cons (event : Event) (rest : List Event) :
    outstanding opens closes (event :: rest) =
      (outstanding opens closes rest || (opens event && !rest.any closes)) := by
  have one : outstanding opens closes [event] = opens event := by
    cases closing : closes event <;> cases opening : opens event <;>
      simp [outstanding, opening]
  rw [← List.singleton_append, outstanding_append, one]

theorem outstanding_iff (trace : List Event) :
    outstanding opens closes trace = true ↔
      ∃ before event after, trace = before ++ event :: after ∧ opens event = true ∧
        ∀ later ∈ after, closes later = false := by
  induction trace with
  | nil => simp
  | cons first rest ih =>
    rw [outstanding_cons, Bool.or_eq_true, ih, Bool.and_eq_true]
    constructor
    · rintro (⟨before, event, after, split, opening, open_⟩ | ⟨opening, open_⟩)
      · exact ⟨first :: before, event, after, by rw [split]; rfl, opening, open_⟩
      · exact ⟨[], first, rest, rfl, opening, by simpa using open_⟩
    · rintro ⟨before, event, after, split, opening, open_⟩
      cases before with
      | nil =>
        cases split
        exact .inr ⟨opening, by simpa using open_⟩
      | cons _ before =>
        cases split
        exact .inl ⟨before, event, after, rfl, opening, open_⟩

variable {closes : Event → Bool}

theorem outstanding_closed {opens : Event → Bool} {past events : List Event}
    (opensNone : ∀ event ∈ events, opens event = false)
    (closing : ∃ event ∈ events, closes event = true) :
    outstanding opens closes (past ++ events) = false := by
  have still : outstanding opens closes events = false := by
    rw [Bool.eq_false_iff]
    intro open_
    obtain ⟨before, event, after, rfl, opening, _⟩ := (outstanding_iff _ _ _).mp open_
    rw [opensNone event (by simp)] at opening
    cases opening
  rw [outstanding_append, still, List.any_eq_true.mpr closing, Bool.not_true, Bool.and_false]
  rfl

theorem outstanding_opened {opens : Event → Bool} {past events : List Event}
    (opening : ∃ event ∈ events, opens event = true)
    (closesNone : ∀ event ∈ events, closes event = false) :
    outstanding opens closes (past ++ events) = true := by
  obtain ⟨event, member, opened⟩ := opening
  obtain ⟨before, after, rfl⟩ := List.append_of_mem member
  rw [outstanding_iff]
  refine ⟨past ++ before, event, after, by rw [List.append_assoc], opened, fun later among => ?_⟩
  exact closesNone later (List.mem_append_right _ (List.mem_cons_of_mem event among))

end Outstanding

end DnetEngine.Lib
