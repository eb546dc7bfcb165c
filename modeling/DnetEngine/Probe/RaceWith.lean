import DnetEngine.Core.ProbeRace
import DnetEngine.Lib.Run

/-! Racing profiles: every probe is a task that reports once or dies, and a loop takes the reports
in until there is a decision. Probes, the clock and the loop go on in any order. -/

namespace DnetEngine.RaceWith

open Lib ProbeRace

/-- Where the loop is: taking in what is queued, about to decide, waiting, or done. -/
inductive Place
  | absorbing
  | deciding
  | waiting
  | returned (decision : RaceDecision)
  deriving DecidableEq

def Place.going : Place → Bool
  | .absorbing | .deciding | .waiting => true
  | .returned _ => false

theorem Place.ne_returned {place : Place} (going : place.going = true) (decision : RaceDecision) :
    place ≠ .returned decision := by
  rintro rfl
  cases going

structure State where
  /-- The tasks whose probe goes on. -/
  running : List ProfileId
  /-- The tasks that have reported and still hold their sender. -/
  leaving : List ProfileId := []
  queue : List Report := []
  race : ProbeRace
  results : List Report := []
  receiving : Bool := true
  place : Place := .absorbing
  now : Duration := 0
  deriving DecidableEq

inductive Event
  | finished (id : ProfileId) (probe : ProfileProbe) (at_ : Duration)
  | left (id : ProfileId)
  | died (id : ProfileId)
  | clock (time : Duration)
  /-- The loop goes on; where it waits, with the channel or at the end of its sleep. -/
  | loop (channel : Bool)
  deriving DecidableEq

def start (profiles : List ConnectionProfile) : State where
  running := profiles.map ConnectionProfile.id
  race := .start profiles

namespace State

variable (s : State)

/-- No task holds a sender. -/
def disconnected : Bool := s.running.isEmpty && s.leaving.isEmpty

def receive (report : Report) (rest : List Report) : State :=
  { s with
    queue := rest
    race := (s.race.record report.id report.probe report.at_).1
    results := s.results ++ [report] }

/-- Every probe has finished or died: what has not reported never will. -/
def close : State := { s with receiving := false, race := s.race.failPending s.now }

/-- One turn of `absorb_queued`. -/
def absorb : State :=
  if s.receiving then
    match s.queue with
    | report :: rest => s.receive report rest
    | [] => { (if s.disconnected then s.close else s) with place := .deciding }
  else { s with place := .deciding }

def decide : State :=
  match s.race.decide s.now with
  | .pending => { s with place := .waiting }
  | decision => { s with place := .returned decision }

/-- The channel is ready: a report, or the word that no more will come. -/
def hear : Option State :=
  if s.receiving then
    match s.queue with
    | report :: rest => some { s.receive report rest with place := .absorbing }
    | [] => if s.disconnected then some { s.close with place := .absorbing } else none
  else none

def move : Event → Option State
  | .finished id probe at_ =>
    if id ∈ s.running ∧ at_ ≤ s.now then
      some { s with
        running := s.running.erase id
        leaving := id :: s.leaving
        queue := if s.receiving then s.queue ++ [⟨id, probe, at_⟩] else s.queue }
    else none
  | .left id => if id ∈ s.leaving then some { s with leaving := s.leaving.erase id } else none
  | .died id => if id ∈ s.running then some { s with running := s.running.erase id } else none
  | .clock time => if s.now ≤ time then some { s with now := time } else none
  | .loop channel =>
    match s.place with
    | .absorbing => some s.absorb
    | .deciding => some s.decide
    | .waiting => if channel then s.hear else some { s with place := .absorbing }
    | .returned _ => none

end State

/-- `after` is what `event` makes of `s`. -/
def Moves (s : State) (event : Event) (after : State) : Prop := s.move event = some after

/-- What the profiles of a state are: of the probes that go on, and of the reports. -/
def State.ids (s : State) : List ProfileId := s.running ++ (s.queue ++ s.results).map Report.id

/-- The ways in which a step can change what the loop has taken in. -/
inductive Moved (s : State) : State → Prop
  | outside {after : State} (race : after.race = s.race) (results : after.results = s.results)
      (receiving : after.receiving = s.receiving) (place : after.place = s.place)
      (fewer : List.Subperm after.ids s.ids) : Moved s after
  | placed {place : Place} (going : s.place.going = true) (stays : place.going = true) :
      Moved s { s with place }
  | received {report : Report} {rest : List Report} {place : Place} (going : s.place.going = true)
      (receiving : s.receiving = true) (queue : s.queue = report :: rest)
      (stays : place.going = true) : Moved s { s.receive report rest with place }
  | closed {place : Place} (going : s.place.going = true) (receiving : s.receiving = true)
      (stays : place.going = true) : Moved s { s.close with place }
  | decided (going : s.place.going = true) : Moved s s.decide

section Moved

variable {s : State}

theorem perm_reported {running : List ProfileId} {queue results : List Report} (report : Report)
    (going : report.id ∈ running) :
    (running.erase report.id ++ (queue ++ [report] ++ results).map Report.id).Perm
      (running ++ (queue ++ results).map Report.id) := by
  have first : (running.erase report.id ++ (queue ++ [report] ++ results).map Report.id).Perm
      (report.id :: running.erase report.id ++ (queue ++ results).map Report.id) := by
    simp only [List.map_append, List.append_assoc, List.cons_append]
    rw [← List.append_assoc, ← List.append_assoc]
    exact List.perm_middle
  exact first.trans ((List.perm_cons_erase going).symm.append_right _)

theorem moved_absorb (place : s.place = .absorbing) : Moved s s.absorb := by
  have going : s.place.going = true := by rw [place]; rfl
  unfold State.absorb
  split
  next receiving =>
    split
    next report rest queue => exact .received going receiving queue going
    next =>
      split
      · exact .closed going receiving rfl
      · exact .placed going rfl
  next => exact .placed going rfl

theorem moved_hear {after : State} (going : s.place.going = true) (heard : s.hear = some after) :
    Moved s after := by
  obtain ⟨receiving, heard⟩ := Option.ite_none_right_eq_some.mp heard
  split at heard
  next report rest queue =>
    cases heard
    exact .received going receiving queue rfl
  next =>
    obtain ⟨_, heard⟩ := Option.ite_none_right_eq_some.mp heard
    cases heard
    exact .closed going receiving rfl

theorem moved_of_moves {event : Event} {after : State} (moves : Moves s event after) :
    Moved s after := by
  cases event with
  | finished id probe at_ =>
    obtain ⟨ready, moves⟩ := Option.ite_none_right_eq_some.mp moves
    cases moves
    refine .outside rfl rfl rfl rfl ?_
    split
    · exact (perm_reported ⟨id, probe, at_⟩ ready.1).subperm
    · exact (List.erase_sublist.append_right _).subperm
  | left | clock =>
    obtain ⟨_, moves⟩ := Option.ite_none_right_eq_some.mp moves
    cases moves
    exact .outside rfl rfl rfl rfl (List.Subperm.refl _)
  | died =>
    obtain ⟨_, moves⟩ := Option.ite_none_right_eq_some.mp moves
    cases moves
    exact .outside rfl rfl rfl rfl (List.erase_sublist.append_right _).subperm
  | loop =>
    rw [Moves, State.move] at moves
    split at moves
    next place =>
      cases moves
      exact moved_absorb place
    next place =>
      cases moves
      exact .decided (by rw [place]; rfl)
    next place =>
      have going : s.place.going = true := by rw [place]; rfl
      split at moves
      · exact moved_hear going moves
      · cases moves
        exact .placed going rfl
    · cases moves

end Moved

/-- What holds in every state: the probes that go on, the reports on their way and those taken in
are of different profiles of the race, which is as the reports say. -/
structure Kept (profiles : List ConnectionProfile) (s : State) : Prop where
  apart : s.ids.Nodup
  raced : ∀ id ∈ s.ids, id ∈ profiles.map ConnectionProfile.id
  race : ∃ closing, s.race = after profiles (s.results.map Report.toCall ++ closing) ∧
    (s.receiving = true → closing = []) ∧ ∀ call ∈ closing, ∃ at_, call = .failPending at_
  decided : ∀ decision, s.place = .returned decision →
    decision ≠ .pending ∧ ∃ time, s.race.decide time = decision

section Invariant

variable {profiles : List ConnectionProfile} {s : State}

theorem kept_start (distinct : (profiles.map ConnectionProfile.id).Nodup) :
    Kept profiles (start profiles) where
  apart := by simpa [start, State.ids] using distinct
  raced := by simp [start, State.ids]
  race := ⟨[], rfl, fun _ => rfl, by simp⟩
  decided := by simp [start]

section

variable (kept : Kept profiles s)

include kept

theorem Kept.fewer (other : State) (fewer : List.Subperm other.ids s.ids) :
    other.ids.Nodup ∧ ∀ id ∈ other.ids, id ∈ profiles.map ConnectionProfile.id := by
  obtain ⟨some_, perm, sublist⟩ := fewer
  exact ⟨perm.nodup_iff.mp (kept.apart.sublist sublist),
    fun id member => kept.raced id (sublist.subset (perm.mem_iff.mpr member))⟩

theorem Kept.receive {report : Report} {rest : List Report} (receiving : s.receiving = true)
    (queue : s.queue = report :: rest) {place : Place} (stays : place.going = true) :
    Kept profiles { s.receive report rest with place } := by
  have moved : (rest ++ (s.results ++ [report])).Perm (s.queue ++ s.results) := by
    rw [queue, ← List.append_assoc]
    exact List.perm_append_singleton report (rest ++ s.results)
  obtain ⟨apart, raced⟩ :=
    kept.fewer { s.receive report rest with place }
      ((moved.map Report.id).append_left s.running).subperm
  refine ⟨apart, raced, ?_, fun decision returned => absurd returned (Place.ne_returned stays _)⟩
  obtain ⟨closing, race, none_, _⟩ := kept.race
  have isOpen := none_ receiving
  subst isOpen
  refine ⟨[], ?_, fun _ => rfl, by simp⟩
  simp only [State.receive, race, List.map_append, ProbeRace.after,
    List.foldl_append]
  rfl

theorem Kept.close {place : Place} (stays : place.going = true) :
    Kept profiles { s.close with place } := by
  refine ⟨kept.apart, kept.raced, ?_,
    fun decision returned => absurd returned (Place.ne_returned stays _)⟩
  obtain ⟨closing, race, _, failed⟩ := kept.race
  refine ⟨closing ++ [.failPending s.now], ?_, nofun, ?_⟩
  · simp only [State.close, race, ProbeRace.after, List.foldl_append]
    rfl
  · intro call member
    rcases List.mem_append.mp member with old | new
    · exact failed call old
    · exact ⟨s.now, List.mem_singleton.mp new⟩

theorem Kept.decide : Kept profiles s.decide := by
  unfold State.decide
  split
  · exact ⟨kept.apart, kept.raced, kept.race, by simp⟩
  next decision reached =>
    refine ⟨kept.apart, kept.raced, kept.race, ?_⟩
    intro other returned
    cases returned
    exact ⟨reached, s.now, rfl⟩

theorem Kept.moves {after : State} {event : Event} (moves : Moves s event after) :
    Kept profiles after := by
  cases moved_of_moves moves with
  | outside race results receiving place fewer =>
    obtain ⟨apart, raced⟩ := kept.fewer _ fewer
    refine ⟨apart, raced, ?_, ?_⟩
    · rw [race, results, receiving]
      exact kept.race
    · rw [race, place]
      exact kept.decided
  | placed _ stays =>
    exact ⟨kept.apart, kept.raced, kept.race,
      fun decision returned => absurd returned (Place.ne_returned stays _)⟩
  | received _ receiving queue stays => exact kept.receive receiving queue stays
  | closed _ _ stays => exact kept.close stays
  | decided => exact kept.decide

end

theorem kept_of_run (distinct : (profiles.map ConnectionProfile.id).Nodup)
    {history : List (Taken State Event)} (run : Run Moves (start profiles) history s) :
    Kept profiles s :=
  run_state_invariant (Kept profiles) (kept_start distinct)
    (fun _ _ _ holding moves => holding.moves moves) run

end Invariant

/-- What a race reports agrees with what was raced: only its profiles, each at most once, and the
decision with the results. -/
theorem race_with_consistent (profiles : List ConnectionProfile)
    (distinct : (profiles.map ConnectionProfile.id).Nodup) (history : List (Taken State Event))
    (state : State) (run : Run Moves (start profiles) history state) (decision : RaceDecision)
    (returned : state.place = .returned decision) :
    (∀ report ∈ state.results, report.id ∈ profiles.map ConnectionProfile.id) ∧
      (state.results.map Report.id).Nodup ∧ decision ≠ .pending ∧
      (∀ id tier bitsPerSec, decision = .selected id tier bitsPerSec →
        ∃ report ∈ state.results, report.id = id ∧ judge report.probe = .usable bitsPerSec) ∧
      (decision = .noneUsable →
        ∀ report ∈ state.results, (judge report.probe).isUsable = false) := by
  have kept := kept_of_run distinct run
  obtain ⟨closing, race, _, failed⟩ := kept.race
  obtain ⟨open_, time, decided⟩ := kept.decided decision returned
  rw [race] at decided
  have apart : (state.results.map Report.id).Nodup := by
    have all := kept.apart
    rw [State.ids, List.map_append] at all
    replace all := (List.nodup_append.mp all).2.1
    exact (List.nodup_append.mp all).2.1
  have raced : ∀ report ∈ state.results, report.id ∈ profiles.map ConnectionProfile.id := by
    intro report member
    apply kept.raced
    exact List.mem_append_right _ (List.mem_map_of_mem (List.mem_append_right _ member))
  refine ⟨raced, apart, open_, ?_, ?_⟩
  · rintro id tier bitsPerSec rfl
    obtain ⟨_, _, _, _, at_, reported, _⟩ := after_selected distinct decided
    obtain ⟨probe, member, usable⟩ := recorded_of_usable reported
    rcases List.mem_append.mp member with result | closed
    · obtain ⟨report, inside, same⟩ := List.mem_map.mp result
      cases same
      exact ⟨report, inside, rfl, usable⟩
    · obtain ⟨failedAt, never⟩ := failed _ closed
      cases never
  · rintro rfl report member
    obtain ⟨profile, listed, named⟩ := List.mem_map.mp (raced report member)
    have answered : answer (state.results.map Report.toCall ++ closing) profile.id =
        some (judge report.probe, report.at_) := by
      rw [answer_append, named, answer_reports apart member, Option.some_or]
    have none_ := (after_noneUsable distinct).mp decided
    cases judged : judge report.probe with
    | unusable => rfl
    | usable bitsPerSec =>
      rw [judged] at answered
      exact absurd answered (none_.1 profile listed bitsPerSec report.at_)

/-- One probe dies and the other reports: the race ends with what it reported. -/
theorem race_with_consistent_dying :
    let profiles : List ConnectionProfile :=
      [⟨⟨"hy2-default"⟩, .hysteria2, .tier2, .untested⟩,
        ⟨⟨"reality-default"⟩, .vlessReality, .tier2, .untested⟩]
    let ended := (follow State.move (start profiles)
      [.loop false, .died ⟨"hy2-default"⟩, .loop false, .loop false, .clock 600000000,
        .finished ⟨"reality-default"⟩ (.transferred 65536 500000000) 600000000, .loop false,
        .loop false, .loop false]).1
    ended.place = .returned (.selected ⟨"reality-default"⟩ .tier2 1048576) ∧
      ∃ report ∈ ended.results, judge report.probe = .usable 1048576 := by
  intro profiles ended
  have returned : ended.place = .returned (.selected ⟨"reality-default"⟩ .tier2 1048576) := by
    decide +kernel
  obtain ⟨_, _, _, selected, _⟩ := race_with_consistent profiles (by decide) _ ended
    (follow_run State.move (start profiles) _) _ returned
  obtain ⟨report, member, _, usable⟩ := selected _ _ _ rfl
  exact ⟨returned, report, member, usable⟩

section Ends

variable {s : State}

/-- The loop alone brings the race to an end. -/
def Ends (s : State) : Prop :=
  ∃ history after decision, Run Moves s history after ∧
    (∀ taken ∈ history, taken.label = .loop false) ∧ after.place = .returned decision

theorem ends_of_loop {next : State} (moves : Moves s (.loop false) next) (ends : Ends next) :
    Ends s := by
  obtain ⟨history, after, decision, run, loops, returned⟩ := ends
  refine ⟨_, after, decision, run_append (Run.start.next moves) run, ?_, returned⟩
  intro taken member
  rcases List.mem_append.mp member with later | first
  · exact loops taken later
  · rw [List.mem_singleton.mp first]

theorem ends_deciding (place : s.place = .deciding) (late : probeDeadline ≤ s.now) : Ends s := by
  have moves : Moves s (.loop false) s.decide := by rw [Moves, State.move, place]
  have reached : s.race.decide s.now ≠ .pending := by
    intro waits
    exact absurd (decide_pending waits) (Nat.not_lt.mpr late)
  refine ⟨_, s.decide, s.race.decide s.now, Run.start.next moves, by simp, ?_⟩
  unfold State.decide
  split
  next waits => exact absurd waits reached
  next => rfl

theorem ends_absorbing (place : s.place = .absorbing) (late : probeDeadline ≤ s.now) : Ends s := by
  have moves : Moves s (.loop false) s.absorb := by rw [Moves, State.move, place]
  -- Each turn takes one report from the queue.
  induction queue : s.queue generalizing s with
  | nil =>
    refine ends_of_loop moves (ends_deciding ?_ ?_)
    · unfold State.absorb
      simp only [queue]
      split <;> rfl
    · unfold State.absorb
      repeat' split
      all_goals exact late
  | cons report rest ih =>
    cases receiving : s.receiving with
    | true =>
      have taken : s.absorb = s.receive report rest := by
        rw [State.absorb, receiving, queue]
        rfl
      rw [taken] at moves
      refine ends_of_loop moves (ih place late ?_ rfl)
      rw [Moves, State.move]
      simp [State.receive, place]
    | false =>
      have done : s.absorb = { s with place := .deciding } := by
        rw [State.absorb, receiving]
        rfl
      rw [done] at moves
      exact ends_of_loop moves (ends_deciding rfl late)

/-- Once the deadline has passed, a race ends by what the loop does next, whatever has come in. -/
theorem ends_after_deadline (going : s.place.going = true) (late : probeDeadline ≤ s.now) :
    Ends s := by
  cases place : s.place with
  | absorbing => exact ends_absorbing place late
  | deciding => exact ends_deciding place late
  | waiting =>
    have moves : Moves s (.loop false) { s with place := .absorbing } := by
      rw [Moves, State.move, place]
      rfl
    exact ends_of_loop moves (ends_absorbing rfl late)
  | returned =>
    rw [place] at going
    cases going

theorem ends_after_deadline_unheard :
    Ends { start [⟨⟨"hy2"⟩, .hysteria2, .tier2, .untested⟩] with now := probeDeadline } :=
  ends_after_deadline rfl (Nat.le_refl _)

end Ends

section Looks

/-- One turn of the loop: what has come in since the last decision, when the word came that nothing
more will, and the time of the next decision. -/
structure Look where
  queued : List Report
  closed : Option Duration
  now : Duration

/-- Only the probes of the race report to it. -/
def Look.heard (ids : List ProfileId) (look : Look) : List Report :=
  look.queued.filter fun report => ids.contains report.id

/-- The race once reports have been taken in, and perhaps the end of all reports. -/
def taken (race : ProbeRace) (reports : List Report) (closed : Option Duration) : ProbeRace :=
  let recorded := reports.foldl (fun race report =>
    (race.record report.id report.probe report.at_).1) race
  match closed with
  | some at_ => recorded.failPending at_
  | none => recorded

/-- Look until there is a decision; a race that is called off before gives none. -/
def raceWith (ids : List ProfileId) (race : ProbeRace) (results : List Report) :
    List Look → Option (RaceDecision × List Report)
  | [] => none
  | look :: rest =>
    let race := taken race (look.heard ids) look.closed
    let results := results ++ look.heard ids
    match race.decide look.now with
    | .pending => raceWith ids race results rest
    | decision => some (decision, results)

variable {profiles : List ConnectionProfile} {s : State}

theorem heard_eq {ids : List ProfileId} {look : Look}
    (raced : ∀ report ∈ look.queued, report.id ∈ ids) : look.heard ids = look.queued := by
  rw [Look.heard, List.filter_eq_self]
  intro report member
  exact List.contains_iff_mem.mpr (raced report member)

/-- The loop so far as a row of looks, and what has come in since the last. -/
structure Seen (ids : List ProfileId) (first : ProbeRace) (s : State) (looks : List Look)
    (queued : List Report) (closed : Option Duration) (race : ProbeRace)
    (results : List Report) : Prop where
  before : ∀ rest, raceWith ids first [] (looks ++ rest) = raceWith ids race results rest
  race : s.race = taken race queued closed
  results : s.results = results ++ queued
  raced : ∀ report ∈ queued, report.id ∈ ids
  none_ : s.receiving = true → closed = none

/-- The loop as a row of looks, with the last of which it ended if it has. -/
structure Looked (profiles : List ConnectionProfile) (s : State) : Prop where
  ended : ∀ decision, s.place = .returned decision → ∃ looks,
    raceWith (profiles.map ConnectionProfile.id) (.start profiles) [] looks =
      some (decision, s.results)
  going : s.place.going = true → ∃ looks queued closed race results,
    Seen (profiles.map ConnectionProfile.id) (.start profiles) s looks queued closed race results

theorem looked_start : Looked profiles (start profiles) where
  ended := by simp [start]
  going _ := ⟨[], [], none, .start profiles, [], fun _ => rfl, rfl, rfl, by simp, fun _ => rfl⟩

section

variable (looked : Looked profiles s)

include looked

theorem Looked.receive (kept : Kept profiles s) (going : s.place.going = true) {report : Report}
    {rest : List Report} (receiving : s.receiving = true) (queue : s.queue = report :: rest)
    {place : Place} (stays : place.going = true) :
    Looked profiles { s.receive report rest with place } where
  ended decision returned := absurd returned (Place.ne_returned stays _)
  going _ := by
    obtain ⟨looks, queued, closed, before, earlier, seen⟩ := looked.going going
    have none_ := seen.none_ receiving
    subst none_
    refine ⟨looks, queued ++ [report], none, before, earlier, seen.before, ?_, ?_, ?_, fun _ => rfl⟩
    · simp only [State.receive, seen.race, taken, List.foldl_append]
      rfl
    · simp only [State.receive, seen.results, List.append_assoc]
    · intro other member
      rcases List.mem_append.mp member with old | new
      · exact seen.raced other old
      · rw [List.mem_singleton.mp new]
        apply kept.raced
        simp [State.ids, queue]

theorem Looked.close (going : s.place.going = true) (receiving : s.receiving = true) {place : Place}
    (stays : place.going = true) :
    Looked profiles { s.close with place } where
  ended decision returned := absurd returned (Place.ne_returned stays _)
  going _ := by
    obtain ⟨looks, queued, closed, before, earlier, seen⟩ := looked.going going
    have none_ := seen.none_ receiving
    subst none_
    refine ⟨looks, queued, some s.now, before, earlier, seen.before, ?_, seen.results, seen.raced,
      nofun⟩
    simp only [State.close, seen.race, taken]

theorem Looked.decide (going : s.place.going = true) :
    Looked profiles s.decide := by
  obtain ⟨looks, queued, closed, before, earlier, seen⟩ := looked.going going
  unfold State.decide
  split
  next waits =>
    refine ⟨by simp, fun _ => ⟨looks ++ [⟨queued, closed, s.now⟩], [], none, s.race, s.results, ?_,
      rfl, ?_, by simp, fun _ => rfl⟩⟩
    · intro rest
      rw [List.append_assoc, List.singleton_append, seen.before, raceWith,
        heard_eq seen.raced, ← seen.race, seen.results]
      simp only [waits]
    · rw [List.append_nil]
  next decision reached =>
    refine ⟨?_, nofun⟩
    intro other returned
    cases returned
    refine ⟨looks ++ [⟨queued, closed, s.now⟩], ?_⟩
    rw [seen.before, raceWith, heard_eq seen.raced, ← seen.race, seen.results]
    cases decided : s.race.decide s.now with
    | pending => exact absurd decided reached
    | selected | noneUsable => rfl

theorem Looked.moves {after : State} {event : Event} (kept : Kept profiles s)
    (moves : Moves s event after) : Looked profiles after := by
  cases moved_of_moves moves with
  | outside race results receiving place =>
    refine ⟨?_, ?_⟩
    · rw [place, results]
      exact looked.ended
    · rw [place]
      intro going
      obtain ⟨looks, queued, closed, before, earlier, seen⟩ := looked.going going
      exact ⟨looks, queued, closed, before, earlier, seen.before, race.trans seen.race,
        results.trans seen.results, seen.raced, fun open_ => seen.none_ (receiving ▸ open_)⟩
  | placed going stays =>
    refine ⟨fun decision returned => absurd returned (Place.ne_returned stays _), fun _ => ?_⟩
    obtain ⟨looks, queued, closed, before, earlier, seen⟩ := looked.going going
    exact ⟨looks, queued, closed, before, earlier, seen.before, seen.race, seen.results,
      seen.raced, seen.none_⟩
  | received going receiving queue stays => exact looked.receive kept going receiving queue stays
  | closed going receiving stays => exact looked.close going receiving stays
  | decided going => exact looked.decide going

end

/-- Whatever the probes, the clock and the loop do, what a race reports is what some row of looks
at it gives. -/
theorem raceWith_of_returned (distinct : (profiles.map ConnectionProfile.id).Nodup)
    {history : List (Taken State Event)} (run : Run Moves (start profiles) history s)
    {decision : RaceDecision} (returned : s.place = .returned decision) :
    ∃ looks, raceWith (profiles.map ConnectionProfile.id) (.start profiles) [] looks =
      some (decision, s.results) := by
  have looked : Looked profiles s := by
    apply run_invariant (fun _ state => Looked profiles state) looked_start _ run
    intro _ state _ _ earlier holding moves
    exact holding.moves (kept_of_run distinct earlier) moves
  exact looked.ended decision returned

theorem raceWith_of_returned_dying :
    let profiles : List ConnectionProfile := [⟨⟨"hy2-default"⟩, .hysteria2, .tier2, .untested⟩]
    ∃ looks, raceWith (profiles.map ConnectionProfile.id) (.start profiles) [] looks =
      some (.noneUsable, []) :=
  raceWith_of_returned (by decide)
    (follow_run State.move _ [.died ⟨"hy2-default"⟩, .loop false, .loop false])
    (by decide +kernel)

end Looks

end DnetEngine.RaceWith
