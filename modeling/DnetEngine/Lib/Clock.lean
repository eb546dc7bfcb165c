import Mathlib.Data.List.Basic

/-! Events that still count within a window of time, and evidence that was not broken since some
moment. Histories are kept newest first. -/

namespace DnetEngine.Lib

section Windows

variable (window : Nat)

/-- The times that are not older than the window, by saturating difference. -/
def recent (now : Nat) (times : List Nat) : List Nat :=
  times.filter (fun time => decide (now - time < window))

/-- The times in the half-open interval of the window that ends now. -/
def within (now : Nat) (times : List Nat) : List Nat :=
  times.filter (fun time => decide (now < time + window ∧ time ≤ now))

theorem recent_append (now : Nat) (earlier later : List Nat) :
    recent window now (earlier ++ later) = recent window now earlier ++ recent window now later :=
  List.filter_append earlier later

variable {now : Nat}

theorem recent_recent {later : Nat} (order : now ≤ later) (times : List Nat) :
    recent window later (recent window now times) = recent window later times := by
  unfold recent
  rw [List.filter_filter]
  apply List.filter_congr
  intro time _
  rw [Bool.eq_iff_iff, Bool.and_eq_true, decide_eq_true_eq, decide_eq_true_eq]
  omega

theorem recent_eq_within {times : List Nat} (past : ∀ time ∈ times, time ≤ now) :
    recent window now times = within window now times := by
  apply List.filter_congr
  intro time member
  have before := past time member
  rw [Bool.eq_iff_iff, decide_eq_true_eq, decide_eq_true_eq]
  omega

theorem length_within_append (now : Nat) (times more : List Nat) :
    (within window now (times ++ more)).length ≤ (within window now times).length + more.length := by
  rw [within, List.filter_append, List.length_append]
  exact Nat.add_le_add_left (List.length_filter_le _ more) _

/-- After a rest since the last event, no event lies within the time of rest. -/
theorem none_within_rest {rest last time : Nat} (rested : rest ≤ now - last) (before : time ≤ last)
    : ¬(now < time + rest ∧ time < now) := by
  omega

end Windows

section Evidence

variable {Observation : Type}

/-- From an observation made at `since` on, everything observed has the property. -/
def Unbroken (clock : Observation → Nat) (holds : Observation → Prop) (since : Nat)
    (history : List Observation) : Prop :=
  ∃ newer first older, history = newer ++ first :: older ∧ clock first = since ∧
    ∀ observed ∈ newer ++ [first], holds observed

variable {clock : Observation → Nat} {holds : Observation → Prop}

theorem unbroken_first (observed : Observation) (history : List Observation)
    (holding : holds observed) :
    Unbroken clock holds (clock observed) (observed :: history) := by
  refine ⟨[], observed, history, rfl, rfl, ?_⟩
  intro other member
  rw [List.nil_append, List.mem_singleton] at member
  rw [member]
  exact holding

variable {history : List Observation}

variable {since : Nat} {observed : Observation}

theorem unbroken_next (observed : Observation) (unbroken : Unbroken clock holds since history)
    (holding : holds observed) :
    Unbroken clock holds since (observed :: history) := by
  obtain ⟨newer, first, older, whole, began, all⟩ := unbroken
  refine ⟨observed :: newer, first, older, by rw [whole]; rfl, began, ?_⟩
  intro other member
  rcases List.mem_cons.mp member with same | inside
  · rw [same]
    exact holding
  · exact all other inside

/-- A clock that is started where the property begins to hold tells since when it has held. -/
theorem unbroken_getD {since : Option Nat} {now : Nat} (made : clock observed = now)
    (evidence : ∀ began, since = some began → Unbroken clock holds began history)
    (holding : holds observed) :
    Unbroken clock holds (since.getD now) (observed :: history) := by
  cases since with
  | none =>
    rw [← made]
    exact unbroken_first observed history holding
  | some began => exact unbroken_next observed (evidence began rfl) holding

theorem unbroken_newest (unbroken : Unbroken clock holds since (observed :: history)) :
    holds observed := by
  obtain ⟨newer, first, older, whole, _, all⟩ := unbroken
  cases newer with
  | nil =>
    have same := (List.cons.inj whole).1
    rw [same]
    exact all first (by simp)
  | cons newest =>
    have same := (List.cons.inj whole).1
    rw [same]
    exact all newest (by simp)

theorem unbroken_began (unbroken : Unbroken clock holds since history) :
    ∃ observed ∈ history, clock observed = since := by
  obtain ⟨newer, first, older, whole, began, _⟩ := unbroken
  exact ⟨first, by rw [whole]; simp, began⟩

/-- The property has held without a break for at least so long. -/
def HeldFor (clock : Observation → Nat) (holds : Observation → Prop) (long now : Nat)
    (history : List Observation) : Prop :=
  ∃ since, since + long ≤ now ∧ Unbroken clock holds since history

theorem heldFor_of_unbroken {long now : Nat} (past : ∀ observed ∈ history, clock observed ≤ now)
    (unbroken : Unbroken clock holds since history) (long_enough : long ≤ now - since) :
    HeldFor clock holds long now history := by
  obtain ⟨first, member, began⟩ := unbroken_began unbroken
  have before := past first member
  exact ⟨since, by omega, unbroken⟩

end Evidence

end DnetEngine.Lib
