import DnetEngine.Core.Probe
import Mathlib.Data.Prod.Lex
import Mathlib.Order.Compare

/-! A race of profiles: what each has reported so far, and what there is to decide. -/

namespace DnetEngine

open Lib

def tierGrace : Duration := Duration.ofSecs 3
/-- A profile that has not reported usable traffic by now has failed. -/
def probeDeadline : Duration := Duration.ofSecs 15

def Duration.saturatingAdd (d e : Duration) : Duration := min (d + e) Duration.maximum

structure ProbeRace.Entry where
  id : ProfileId
  tier : FailoverTier
  done : Option (Verdict × Duration) := none
  deriving DecidableEq

abbrev ProbeRace := List ProbeRace.Entry

namespace ProbeRace

def start (profiles : List ConnectionProfile) : ProbeRace :=
  profiles.map fun profile => { id := profile.id, tier := profile.tier }

/-- The first report of a profile stands; whether this is one. -/
def record (race : ProbeRace) (id : ProfileId) (probe : ProfileProbe) (at_ : Duration) :
    ProbeRace × Bool :=
  (updateFirst (fun entry => entry.id == id && entry.done.isNone)
    (fun entry => { entry with done := some (judge probe, at_) }) race,
    race.any (fun entry => entry.id == id && entry.done.isNone))

/-- No more results will arrive: what has not reported has died. -/
def failPending (race : ProbeRace) (at_ : Duration) : ProbeRace :=
  race.map fun entry =>
    if entry.done.isNone then { entry with done := some (.unusable .handshakeFailed, at_) } else entry

def usable (entry : Entry) : Option (Entry × Nat × Duration) :=
  match entry.done with
  | some (.usable bitsPerSec, at_) => some (entry, bitsPerSec, at_)
  | some (.unusable _, _) | none => none

def order (a b : Entry × Nat × Duration) : Ordering :=
  (compare a.1.tier.ord b.1.tier.ord).then (compare a.2.2 b.2.2)

def best (race : ProbeRace) : Option (Entry × Nat × Duration) := minBy order (race.filterMap usable)

/-- What to do at the time `now` since the race started. -/
def decide (race : ProbeRace) (now : Duration) : RaceDecision :=
  match race.best with
  | none =>
    if race.any (fun entry => entry.done.isNone) && now < probeDeadline then .pending
    else .noneUsable
  | some (entry, bitsPerSec, at_) =>
    if entry.tier = .tier2 && race.any (fun entry => entry.tier == .tier1 && entry.done.isNone) &&
        now < probeDeadline && now < at_.saturatingAdd tierGrace then .pending
    else .selected entry.id entry.tier bitsPerSec

/-- What happens to a race. -/
inductive Call
  | record (id : ProfileId) (probe : ProfileProbe) (at_ : Duration)
  | failPending (at_ : Duration)
  deriving DecidableEq

def call (race : ProbeRace) : Call → ProbeRace
  | .record id probe at_ => (race.record id probe at_).1
  | .failPending at_ => race.failPending at_

def after (profiles : List ConnectionProfile) (calls : List Call) : ProbeRace :=
  calls.foldl call (start profiles)

section Answers

/-- What a call says of a profile that has not reported. -/
def Call.answer (id : ProfileId) : Call → Option (Verdict × Duration)
  | .record other probe at_ => if other = id then some (judge probe, at_) else none
  | .failPending at_ => some (.unusable .handshakeFailed, at_)

/-- What the calls say of a profile first, which stands. -/
def answer (calls : List Call) (id : ProfileId) : Option (Verdict × Duration) :=
  calls.findSome? (Call.answer id)

def ReportedUsable (calls : List Call) (id : ProfileId) (bitsPerSec : Nat) (at_ : Duration) : Prop :=
  answer calls id = some (.usable bitsPerSec, at_)

variable {race : ProbeRace}

theorem call_eq (distinct : (race.map Entry.id).Nodup) (made : Call) :
    race.call made = race.map fun entry =>
      { entry with done := entry.done.or (made.answer entry.id) } := by
  cases made with
  | record id =>
    rw [call, record, updateFirst_and_eq_map Entry.id id (fun entry => entry.done.isNone) _ race
      distinct]
    apply List.map_congr_left
    rintro ⟨entryId, tier, done⟩ _
    cases done with
    | some => simp [Call.answer]
    | none =>
      by_cases named : entryId = id
      · simp [Call.answer, named]
      · simp [Call.answer, named, Ne.symm named]
  | failPending =>
    apply List.map_congr_left
    rintro ⟨entryId, tier, done⟩ _
    cases done <;> simp [Call.answer]

/-- A race is its profiles, each with the first answer there was for it. -/
theorem after_eq {profiles : List ConnectionProfile}
    (distinct : (profiles.map ConnectionProfile.id).Nodup) (calls : List Call) :
    after profiles calls =
      profiles.map fun profile => ⟨profile.id, profile.tier, answer calls profile.id⟩ := by
  induction calls using List.reverseRecOn with
  | nil => rfl
  | append_singleton calls made ih =>
    have apart : ((after profiles calls).map Entry.id).Nodup := by
      rw [ih, List.map_map]
      exact distinct
    rw [after, List.foldl_append]
    change (after profiles calls).call made = _
    rw [call_eq apart, ih, List.map_map]
    apply List.map_congr_left
    intro profile _
    simp [answer]

theorem recorded_of_usable {calls : List Call} {id : ProfileId} {bitsPerSec : Nat} {at_ : Duration}
    (reported : ReportedUsable calls id bitsPerSec at_) :
    ∃ probe, Call.record id probe at_ ∈ calls ∧ judge probe = .usable bitsPerSec := by
  obtain ⟨made, member, answers⟩ := List.exists_of_findSome?_eq_some reported
  cases made with
  | record _ probe =>
    obtain ⟨same, answers⟩ := Option.ite_none_right_eq_some.mp answers
    obtain ⟨judged, rfl⟩ := Prod.mk.inj (Option.some.inj answers)
    exact ⟨probe, same ▸ member, judged⟩
  | failPending => cases answers

/-- A report, as it is recorded. -/
structure Report where
  id : ProfileId
  probe : ProfileProbe
  at_ : Duration
  deriving DecidableEq

def Report.toCall (report : Report) : Call := .record report.id report.probe report.at_

theorem answer_append (earlier later : List Call) (id : ProfileId) :
    answer (earlier ++ later) id = (answer earlier id).or (answer later id) :=
  List.findSome?_append

variable {reports : List Report}

theorem answer_reports (distinct : (reports.map Report.id).Nodup) {report : Report}
    (member : report ∈ reports) :
    answer (reports.map Report.toCall) report.id = some (judge report.probe, report.at_) := by
  induction reports with
  | nil => cases member
  | cons first _ ih =>
    obtain ⟨fresh, distinctRest⟩ := List.nodup_cons.mp distinct
    rw [List.map_cons, ← List.singleton_append, answer_append]
    rcases List.mem_cons.mp member with rfl | inside
    · simp [answer, Report.toCall, Call.answer]
    · have other : first.id ≠ report.id := by
        intro same
        exact fresh (same ▸ List.mem_map_of_mem inside)
      rw [ih distinctRest inside]
      simp [answer, Report.toCall, Call.answer, other]

theorem answer_reports_none {id : ProfileId} (absent : ∀ report ∈ reports, report.id ≠ id) :
    answer (reports.map Report.toCall) id = none := by
  rw [answer, List.findSome?_eq_none_iff]
  intro made member
  obtain ⟨report, inside, rfl⟩ := List.mem_map.mp member
  simp [Report.toCall, Call.answer, absent report inside]

theorem answer_perm {first second : List Report} (perm : first.Perm second)
    (distinct : (first.map Report.id).Nodup) (id : ProfileId) :
    answer (first.map Report.toCall) id = answer (second.map Report.toCall) id := by
  by_cases reported : ∃ report ∈ first, report.id = id
  · obtain ⟨report, member, rfl⟩ := reported
    have distinctToo := (perm.map Report.id).nodup_iff.mp distinct
    rw [answer_reports distinct member, answer_reports distinctToo (perm.mem_iff.mp member)]
  · have absent : ∀ report ∈ first, report.id ≠ id :=
      fun report member same => reported ⟨report, member, same⟩
    rw [answer_reports_none absent,
      answer_reports_none fun report member => absent report (perm.mem_iff.mpr member)]

end Answers

section Decision

/-- What reports are compared by, as one key. -/
def key (item : Entry × Nat × Duration) : ℕ ×ₗ ℕ := toLex (item.1.tier.ord, item.2.2)

variable {a b : Entry × Nat × Duration} {now : Duration}

theorem order_gt : order a b = .gt ↔ key b < key a := by
  simp only [order, key, Prod.Lex.toLex_lt_toLex, Ordering.then_eq_gt, compare_gt_iff_gt,
    compare_eq_iff_eq]
  constructor
  · rintro (higher | ⟨same, later⟩)
    · exact Or.inl higher
    · exact Or.inr ⟨same.symm, later⟩
  · rintro (higher | ⟨same, later⟩)
    · exact Or.inl higher
    · exact Or.inr ⟨same.symm, later⟩

theorem order_le : order a b ≠ .gt ↔ key a ≤ key b := by
  rw [Ne, order_gt, not_lt]

theorem usable_eq_some {entry : Entry} {item : Entry × Nat × Duration} :
    usable entry = some item ↔
      item.1 = entry ∧ entry.done = some (.usable item.2.1, item.2.2) := by
  obtain ⟨other, bitsPerSec, at_⟩ := item
  unfold usable
  split
  next rate reportedAt done => simp [done, eq_comm]
  next done => simp [done]
  next done => simp [done]

variable {race : ProbeRace}

theorem best_none : race.best = none ↔
    ∀ entry ∈ race, ∀ bitsPerSec at_, entry.done ≠ some (.usable bitsPerSec, at_) := by
  have empty : race.best = none ↔ race.filterMap usable = [] := by
    rw [best]
    cases race.filterMap usable <;> simp [minBy]
  rw [empty, List.filterMap_eq_nil_iff]
  constructor
  · intro unusable entry member bitsPerSec at_ done
    have found := unusable entry member
    rw [usable_eq_some.mpr (⟨rfl, done⟩ : (entry, bitsPerSec, at_).1 = entry ∧ _)] at found
    cases found
  · intro unusable entry member
    cases found : usable entry with
    | none => rfl
    | some => exact absurd (usable_eq_some.mp found).2 (unusable entry member _ _)

theorem best_some {entry : Entry} {bitsPerSec : Nat} {at_ : Duration}
    (found : race.best = some (entry, bitsPerSec, at_)) :
    entry ∈ race ∧ entry.done = some (.usable bitsPerSec, at_) ∧
      ∀ other ∈ race, ∀ rate reportedAt, other.done = some (.usable rate, reportedAt) →
        entry.tier.ord < other.tier.ord ∨
          entry.tier.ord = other.tier.ord ∧ at_ ≤ reportedAt := by
  have trans (a b c : Entry × Nat × Duration) (one : order a b ≠ .gt) (two : order b c ≠ .gt) :
      order a c ≠ .gt := order_le.mpr ((order_le.mp one).trans (order_le.mp two))
  have total (a b : Entry × Nat × Duration) (greater : order a b = .gt) : order b a ≠ .gt :=
    order_le.mpr (order_gt.mp greater).le
  obtain ⟨original, member, isUsable⟩ := List.mem_filterMap.mp (minBy_mem _ _ _ found)
  obtain ⟨rfl, done⟩ := usable_eq_some.mp isUsable
  refine ⟨member, done, ?_⟩
  intro other inside rate reportedAt otherDone
  have listed : (other, rate, reportedAt) ∈ race.filterMap usable :=
    List.mem_filterMap.mpr ⟨other, inside, usable_eq_some.mpr ⟨rfl, otherDone⟩⟩
  obtain ⟨before, behind, split, first⟩ := minBy_first trans total found
  have least : key (entry, bitsPerSec, at_) ≤ key (other, rate, reportedAt) := by
    rw [split, List.mem_append, List.mem_cons] at listed
    rcases listed with early | same | late
    · exact (order_gt.mp (first.before _ early)).le
    · rw [same]
    · exact order_le.mp (first.after _ late)
  rw [key, key, Prod.Lex.toLex_le_toLex] at least
  exact least

theorem decide_noneUsable : race.decide now = .noneUsable ↔
    race.best = none ∧ ((∀ entry ∈ race, entry.done ≠ none) ∨ probeDeadline ≤ now) := by
  unfold decide
  split
  next none_ =>
    by_cases late : probeDeadline ≤ now
    · simp [none_, late]
    · have early : now < probeDeadline := Nat.lt_of_not_le late
      simp [none_, early]
  next some_ =>
    split <;> simp [some_]

theorem decide_pending (waits : race.decide now = .pending) :
    now < probeDeadline := by
  unfold decide at waits
  split at waits
  · split at waits
    next early =>
      rw [Bool.and_eq_true, decide_eq_true_eq] at early
      exact early.2
    next => cases waits
  · split at waits
    next early =>
      simp only [Bool.and_eq_true, decide_eq_true_eq] at early
      exact early.1.2
    next => cases waits

theorem decide_selected {id : ProfileId} {tier : FailoverTier} {bitsPerSec : Nat}
    (decided : race.decide now = .selected id tier bitsPerSec) :
    ∃ entry at_, race.best = some (entry, bitsPerSec, at_) ∧ entry.id = id ∧ entry.tier = tier ∧
      (tier = .tier2 → (∃ other ∈ race, other.tier = .tier1 ∧ other.done = none) →
        at_ + tierGrace ≤ now ∨ probeDeadline ≤ now) := by
  unfold decide at decided
  split at decided
  · split at decided <;> cases decided
  next entry rate at_ found =>
    split at decided
    · cases decided
    next waited =>
      cases decided
      refine ⟨entry, at_, found, rfl, rfl, ?_⟩
      rintro second ⟨other, member, first, waits⟩
      by_contra early
      simp only [not_or, Nat.not_le] at early
      have waiting : race.any (fun entry => entry.tier == .tier1 && entry.done.isNone) = true := by
        rw [List.any_eq_true]
        exact ⟨other, member, by simp [first, waits]⟩
      have deadline : probeDeadline ≤ Duration.maximum := by decide
      have inGrace : now < at_.saturatingAdd tierGrace :=
        lt_min early.1 (Nat.lt_of_lt_of_le early.2 deadline)
      exact waited (by simp [second, waiting, early.2, inGrace])

end Decision

section Outcome

variable {profiles : List ConnectionProfile} {calls : List Call} {now : Duration}

theorem after_noneUsable (distinct : (profiles.map ConnectionProfile.id).Nodup) :
    (after profiles calls).decide now = .noneUsable ↔
      (∀ profile ∈ profiles, ∀ bitsPerSec at_, ¬ ReportedUsable calls profile.id bitsPerSec at_) ∧
        ((∀ profile ∈ profiles, answer calls profile.id ≠ none) ∨ probeDeadline ≤ now) := by
  rw [decide_noneUsable, best_none, after_eq distinct]
  simp only [List.forall_mem_map]
  rfl

/-- What is selected reported usable, before every other of its tier and with none of a better one
passed over; one that is still to report has had its time. -/
theorem after_selected (distinct : (profiles.map ConnectionProfile.id).Nodup) {id : ProfileId}
    {tier : FailoverTier} {bitsPerSec : Nat}
    (decided : (after profiles calls).decide now = .selected id tier bitsPerSec) :
    ∃ profile ∈ profiles, profile.id = id ∧ profile.tier = tier ∧
      ∃ at_, ReportedUsable calls id bitsPerSec at_ ∧
        (∀ other ∈ profiles, ∀ rate reportedAt,
          ReportedUsable calls other.id rate reportedAt →
            (other.tier = .tier1 → tier = .tier1) ∧ (other.tier = tier → at_ ≤ reportedAt)) ∧
        (tier = .tier2 →
          (∃ other ∈ profiles, other.tier = .tier1 ∧ answer calls other.id = none) →
            at_ + tierGrace ≤ now ∨ probeDeadline ≤ now) := by
  obtain ⟨entry, at_, found, rfl, rfl, grace⟩ := decide_selected decided
  obtain ⟨member, done, least⟩ := best_some found
  rw [after_eq distinct] at member least grace
  simp only [List.forall_mem_map] at least
  obtain ⟨profile, listed, rfl⟩ := List.mem_map.mp member
  refine ⟨profile, listed, rfl, rfl, at_, done, ?_, ?_⟩
  · intro other inside rate reportedAt reported
    have compared := least other inside rate reportedAt reported
    constructor
    · intro first
      rw [first] at compared
      cases own : profile.tier with
      | tier1 => rfl
      | tier2 => simp [own, FailoverTier.ord] at compared
    · intro same
      rw [same] at compared
      rcases compared with less | ⟨_, order⟩
      · exact absurd less (Nat.lt_irrefl _)
      · exact order
  · rintro second ⟨other, inside, first, waits⟩
    exact grace second ⟨_, List.mem_map_of_mem inside, first, waits⟩

end Outcome

/-- How a race comes out, whatever is called and whenever it is asked: what the three decisions mean
for the reports there were, that none is left open at the deadline, and that the order of the
reports makes no difference. -/
theorem race_outcome (profiles : List ConnectionProfile)
    (distinct : (profiles.map ConnectionProfile.id).Nodup) (calls : List Call) (now : Duration) :
    ((after profiles calls).decide now = .noneUsable ↔
        (∀ profile ∈ profiles, ∀ bitsPerSec at_, ¬ ReportedUsable calls profile.id bitsPerSec at_) ∧
          ((∀ profile ∈ profiles, answer calls profile.id ≠ none) ∨ probeDeadline ≤ now)) ∧
      (probeDeadline ≤ now → (after profiles calls).decide now ≠ .pending) ∧
      (∀ id tier bitsPerSec, (after profiles calls).decide now = .selected id tier bitsPerSec →
        ∃ profile ∈ profiles, profile.id = id ∧ profile.tier = tier ∧
          ∃ at_, ReportedUsable calls id bitsPerSec at_ ∧
            (∃ probe, Call.record id probe at_ ∈ calls ∧ judge probe = .usable bitsPerSec) ∧
            (∀ other ∈ profiles, ∀ rate reportedAt,
              ReportedUsable calls other.id rate reportedAt →
                (other.tier = .tier1 → tier = .tier1) ∧
                  (other.tier = tier → at_ ≤ reportedAt)) ∧
            (tier = .tier2 →
              (∃ other ∈ profiles, other.tier = .tier1 ∧ answer calls other.id = none) →
                at_ + tierGrace ≤ now ∨ probeDeadline ≤ now)) ∧
      ∀ (earlier later : List Call) (first second : List Report), first.Perm second →
        (first.map Report.id).Nodup →
          (after profiles (earlier ++ first.map Report.toCall ++ later)).decide now =
            (after profiles (earlier ++ second.map Report.toCall ++ later)).decide now := by
  refine ⟨after_noneUsable distinct, ?_, ?_, ?_⟩
  · intro late waits
    exact absurd (decide_pending waits) (Nat.not_lt.mpr late)
  · intro id tier bitsPerSec decided
    obtain ⟨profile, listed, named, isTier, at_, reported, others, grace⟩ :=
      after_selected distinct decided
    exact ⟨profile, listed, named, isTier, at_, reported, recorded_of_usable reported, others, grace⟩
  · intro earlier later first second perm apart
    rw [after_eq distinct, after_eq distinct]
    simp only [answer_append, answer_perm perm apart]

/-- A Tier 2 profile reports after a second, and is chosen once a Tier 1 profile had its grace. -/
theorem race_outcome_graced :
    let profiles : List ConnectionProfile :=
      [⟨⟨"hy2-default"⟩, .hysteria2, .tier1, .untested⟩,
        ⟨⟨"reality-default"⟩, .vlessReality, .tier2, .untested⟩]
    let calls := [Call.record ⟨"reality-default"⟩ (.transferred 65536 500000000) (Duration.ofSecs 1)]
    (after profiles calls).decide (Duration.ofSecs 3) = .pending ∧
      (after profiles calls).decide (Duration.ofSecs 4) =
        .selected ⟨"reality-default"⟩ .tier2 1048576 ∧
      ∃ at_, ReportedUsable calls ⟨"reality-default"⟩ 1048576 at_ := by
  intro profiles calls
  have decided : (after profiles calls).decide (Duration.ofSecs 4) =
      .selected ⟨"reality-default"⟩ .tier2 1048576 := by decide +kernel
  obtain ⟨_, _, _, _, at_, reported, _⟩ :=
    (race_outcome profiles (by decide) calls (Duration.ofSecs 4)).2.2.1 _ _ _ decided
  exact ⟨by decide +kernel, decided, at_, reported⟩

end ProbeRace

end DnetEngine
