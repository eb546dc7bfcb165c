import DnetEngine.Core.Failover
import DnetEngine.Lib.Clock

/-! What is said about a poor carrying path that cannot be left. -/

namespace DnetEngine.Degraded

open Lib Failover

structure Look where
  carrying : Option InterfaceId
  /-- `none`: not measured recently enough to say. -/
  band : Option QualityBand
  staying : NoMove
  deriving DecidableEq

structure DegradationReporter where
  carrying : Option InterfaceId := none
  poorSince : Option Instant := none
  goodSince : Option Instant := none
  reported : Option Degradation := none
  deriving DecidableEq

def isNews (before : Option Degradation) (degradation : Degradation) : Bool :=
  before.all fun before =>
    before.path != degradation.path || before.staying != degradation.staying ||
      (degradation.band == .unusable && before.band != .unusable)

@[grind →] theorem reported_of_not_news {before : Option Degradation} {degradation : Degradation}
    (old : isNews before degradation = false) : before.isSome = true := by
  cases before with
  | none => cases old
  | some => rfl

/-- A different carrying path starts its clocks from nothing. -/
def DegradationReporter.onPath (r : DegradationReporter) (carrying : Option InterfaceId) :
    DegradationReporter :=
  if carrying ≠ r.carrying then { r with carrying, poorSince := none, goodSince := none } else r

@[grind =] theorem onPath_carrying (r : DegradationReporter) (carrying : Option InterfaceId) :
    (r.onPath carrying).carrying = carrying := by
  unfold DegradationReporter.onPath
  split
  · rfl
  · exact (not_ne_iff.mp ‹_›).symm

@[grind =] theorem onPath_reported (r : DegradationReporter) (carrying : Option InterfaceId) :
    (r.onPath carrying).reported = r.reported := by
  unfold DegradationReporter.onPath
  split <;> rfl

@[grind] def DegradationReporter.observe (r : DegradationReporter) (look : Look) (now : Instant)
    (degradeFor recoverFor : Duration) : DegradationReporter × Option Change :=
  let r := r.onPath look.carrying
  match look.carrying, look.band with
  | none, _ => ({ r with reported := none }, none)
  | some _, none => (r, none)
  | some path, some .good =>
    let since := r.goodSince.getD now
    let r := { r with poorSince := none, goodSince := some since }
    if r.reported.isSome && decide (recoverFor ≤ now - since) then
      ({ r with reported := none }, some (.recovered path))
    else (r, none)
  | some path, some band =>
    let since := r.poorSince.getD now
    let r := { r with goodSince := none, poorSince := some since }
    if degradeFor ≤ now - since then
      let degradation : Degradation := ⟨path, band, look.staying⟩
      ({ r with reported := some degradation },
        if isNews r.reported degradation then some (.degraded degradation) else none)
    else (r, none)

variable (degradeFor recoverFor : Duration)

/-- The reporter after some looks, newest first, and what the newest of them changed. -/
@[grind] def reporter : List (Look × Instant) → DegradationReporter
  | [] => {}
  | look :: earlier => ((reporter earlier).observe look.1 look.2 degradeFor recoverFor).1

@[grind] def change : List (Look × Instant) → Option Change
  | [] => none
  | look :: earlier => ((reporter degradeFor recoverFor earlier).observe look.1 look.2 degradeFor recoverFor).2

/-- A degradation was announced, and since then nothing recovered and some path always carried. -/
@[grind] def standing : List (Look × Instant) → Bool
  | [] => false
  | look :: earlier =>
    match change degradeFor recoverFor (look :: earlier) with
    | some (.degraded _) => true
    | some (.recovered _) => false
    | none => look.1.carrying.isSome && standing earlier

/-- This path carried, and its band is as asked if it was measured. -/
def On (path : InterfaceId) (asked : QualityBand → Prop) (look : Look × Instant) : Prop :=
  look.1.carrying = some path ∧ ∀ band, look.1.band = some band → asked band

structure Keeps (looks : List (Look × Instant)) (r : DegradationReporter) : Prop where
  poor : ∀ path since, r.carrying = some path → r.poorSince = some since →
    Unbroken Prod.snd (On path (· ≠ .good)) since looks
  good : ∀ path since, r.carrying = some path → r.goodSince = some since →
    Unbroken Prod.snd (On path (· = .good)) since looks
  standing : r.reported.isSome = standing degradeFor recoverFor looks

variable {degradeFor recoverFor}

theorem Keeps.onPath {looks : List (Look × Instant)} {r : DegradationReporter}
    (keeps : Keeps degradeFor recoverFor looks r) (carrying : Option InterfaceId) :
    Keeps degradeFor recoverFor looks (r.onPath carrying) := by
  unfold DegradationReporter.onPath
  split
  · exact ⟨nofun, nofun, keeps.standing⟩
  · exact keeps

theorem keeps (looks : List (Look × Instant)) :
    Keeps degradeFor recoverFor looks (reporter degradeFor recoverFor looks) := by
  induction looks with
  | nil => constructor <;> grind
  | cons look earlier ih =>
    obtain ⟨⟨carries, band, staying⟩, now⟩ := look
    obtain ⟨poor, good, stands⟩ := ih.onPath carries
    cases carries with
    | none => constructor <;> grind
    | some path =>
      -- A clock that runs goes on with a look that breaks nothing, and one that does not starts here.
      have runs (asked : QualityBand → Prop) (since : Option Instant)
          (evidence : ∀ began, since = some began → Unbroken Prod.snd (On path asked) began earlier)
          (holding : ∀ own, band = some own → asked own) :
          Unbroken Prod.snd (On path asked) (since.getD now)
            ((⟨some path, band, staying⟩, now) :: earlier) :=
        unbroken_getD rfl evidence ⟨rfl, holding⟩
      have poorRuns := runs _ _ fun began => poor path began (onPath_carrying _ _)
      have goodRuns := runs _ _ fun began => good path began (onPath_carrying _ _)
      rcases band with _ | _ | _ | _ <;> constructor <;> grind

theorem degraded_between {newer older : List (Look × Instant)} {path : InterfaceId}
    (stands : standing degradeFor recoverFor (newer ++ older) = true)
    (recovered : change degradeFor recoverFor older = some (.recovered path)) :
    ∃ part d, part <:+ newer ∧ change degradeFor recoverFor (part ++ older) = some (.degraded d) := by
  induction newer with
  | nil => cases older <;> grind
  | cons look newer ih =>
    rw [List.cons_append, standing] at stands
    split at stands
    next d told => exact ⟨look :: newer, d, List.suffix_refl _, told⟩
    next => cases stands
    next =>
      obtain ⟨part, d, inside, told⟩ := ih (Bool.and_eq_true_iff.mp stands).2
      exact ⟨part, d, inside.trans (List.suffix_cons _ _), told⟩

variable {r : DegradationReporter} {look : Look} {now : Instant}

theorem observe_degraded {d : Degradation}
    (told : (r.observe look now degradeFor recoverFor).2 = some (.degraded d)) :
    d.band ≠ .good ∧ look.band = some d.band ∧ isNews r.reported d = true ∧
      ∃ since, (r.observe look now degradeFor recoverFor).1.poorSince = some since ∧
        (r.observe look now degradeFor recoverFor).1.carrying = some d.path ∧
          degradeFor ≤ now - since := by
  obtain ⟨carries, band, staying⟩ := look
  rcases carries with _ | path <;> rcases band with _ | _ | _ | _ <;> grind

theorem observe_recovered {path : InterfaceId}
    (told : (r.observe look now degradeFor recoverFor).2 = some (.recovered path)) :
    r.reported.isSome = true ∧
      ∃ since, (r.observe look now degradeFor recoverFor).1.goodSince = some since ∧
        (r.observe look now degradeFor recoverFor).1.carrying = some path ∧
          recoverFor ≤ now - since := by
  obtain ⟨carries, band, staying⟩ := look
  rcases carries with _ | path <;> rcases band with _ | _ | _ | _ <;> grind

/-- A degradation is said only of a path that stayed below good for long enough, and only as news;
a recovery only of one that stayed good, while an announced degradation stands. -/
theorem reports_are_honest (degradeFor recoverFor : Duration) (look : Look) (now : Instant)
    (earlier : List (Look × Instant)) (ordered : ∀ other ∈ earlier, other.2 ≤ now) :
    let looks := (look, now) :: earlier
    (∀ d, change degradeFor recoverFor looks = some (.degraded d) →
      d.band ≠ .good ∧ look.band = some d.band ∧
      HeldFor Prod.snd (On d.path (· ≠ .good)) degradeFor now looks ∧
      ∀ before, (reporter degradeFor recoverFor earlier).reported = some before →
        before.path ≠ d.path ∨ before.staying ≠ d.staying ∨
          d.band = .unusable ∧ before.band ≠ .unusable) ∧
    ∀ path, change degradeFor recoverFor looks = some (.recovered path) →
      standing degradeFor recoverFor earlier = true ∧
      HeldFor Prod.snd (On path (· = .good)) recoverFor now looks ∧
      ∀ newer older other, earlier = newer ++ older →
        change degradeFor recoverFor older = some (.recovered other) →
        ∃ part d, part <:+ newer ∧
          change degradeFor recoverFor (part ++ older) = some (.degraded d) := by
  intro looks
  obtain ⟨poor, good, _⟩ : Keeps degradeFor recoverFor looks (reporter degradeFor recoverFor looks) :=
    keeps looks
  have past : ∀ other ∈ looks, other.2 ≤ now := by simpa [looks] using ordered
  constructor
  · intro d told
    obtain ⟨below, measured, news, start, began, carries, long⟩ := observe_degraded told
    refine ⟨below, measured, heldFor_of_unbroken past (poor d.path start carries began) long,
      fun before reported => ?_⟩
    simpa [isNews, reported, or_assoc] using news
  · intro path told
    obtain ⟨reported, start, began, carries, long⟩ := observe_recovered told
    rw [(keeps earlier).standing] at reported
    refine ⟨reported, heldFor_of_unbroken past (good path start carries began) long,
      fun newer older other same recovered => ?_⟩
    exact degraded_between (same ▸ reported) recovered

/-- Ten seconds of a poor path are told, and the good readings after it too. -/
theorem poor_then_good_told : let look band : Look := ⟨some ⟨1⟩, some band, .onlyPath⟩
    let looks := [(look .good, 20), (look .poor, 15), (look .poor, 5)]
    change 10 5 looks.tail = some (.degraded ⟨⟨1⟩, .poor, .onlyPath⟩) ∧
      standing 10 5 looks = true ∧
      change 10 5 ((look .good, 25) :: looks) = some (.recovered ⟨1⟩) := by
  refine ⟨by decide, ?_, by decide⟩
  have honest := reports_are_honest 10 5 ⟨some ⟨1⟩, some .good, .onlyPath⟩ 25
    [(⟨some ⟨1⟩, some .good, .onlyPath⟩, 20), (⟨some ⟨1⟩, some .poor, .onlyPath⟩, 15),
      (⟨some ⟨1⟩, some .poor, .onlyPath⟩, 5)] (by decide)
  exact (honest.2 ⟨1⟩ (by decide)).1

end DnetEngine.Degraded
