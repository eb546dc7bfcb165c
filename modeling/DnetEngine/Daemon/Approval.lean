import DnetEngine.Core.Domain
import DnetEngine.Lib.Run
import Mathlib.Data.List.Nodup

/-! The changes that wait for an elevated client: what is held, under which name and for how long.
Whoever asks chooses every call but the clock; the name a change is approved under must still stand
for what was asked first. -/

namespace DnetEngine

open Lib

namespace Approval

def holdForMs : Nat := 10 * 60 * 1000
def maxHeld : Nat := 8

structure Held (Request : Type) where
  id : String
  what : String
  request : Request
  proposedUnixMs : Nat
  expiresUnixMs : Nat
  deriving DecidableEq

inductive HoldError
  | full
  deriving DecidableEq

inductive FindError
  | unknown
  | expired
  deriving DecidableEq

structure Listed where
  id : String
  what : String
  proposedUnixMs : Nat
  expiresUnixMs : Nat
  deriving DecidableEq

structure PendingChanges (Request : Type) where
  held : List (Held Request)
  deriving DecidableEq

/-- `id` with an `x` added as often as it is taken; the loop ends after at most one round for each
id that is waiting. -/
def freshId (waiting : List String) : (rounds : Nat) → (id : String) → String
  | 0, id => id
  | rounds + 1, id => if id ∈ waiting then freshId waiting rounds (id.push 'x') else id

namespace PendingChanges

variable {Request : Type}

def new : PendingChanges Request := ⟨[]⟩

def expire (changes : PendingChanges Request) (now : Nat) : PendingChanges Request :=
  ⟨changes.held.filter (fun held => decide (now < held.expiresUnixMs))⟩

def hold [DecidableEq Request] (changes : PendingChanges Request) (request : Request)
    (what : String) (now : Nat) (newId : String) :
    Except HoldError String × PendingChanges Request :=
  let changes := changes.expire now
  match changes.held.find? (fun held => held.request == request) with
  | some same => (.ok same.id, changes)
  | none =>
    if maxHeld ≤ changes.held.length then (.error .full, changes)
    else
      let id := freshId (changes.held.map Held.id) changes.held.length newId
      (.ok id,
        ⟨changes.held ++ [⟨id, what, request, now, saturatingAdd now holdForMs⟩]⟩)

def find (changes : PendingChanges Request) (id : String) (now : Nat) :
    Except FindError (Held Request) × PendingChanges Request :=
  let expired := changes.held.any (fun held => held.id == id && decide (held.expiresUnixMs ≤ now))
  let changes := changes.expire now
  match changes.held.find? (fun held => held.id == id) with
  | some held => (.ok held, changes)
  | none => (.error (if expired then .expired else .unknown), changes)

def remove (changes : PendingChanges Request) (id : String) : Bool × PendingChanges Request :=
  let left := changes.held.filter (fun held => held.id != id)
  (left.length != changes.held.length, ⟨left⟩)

/-- What is waiting, oldest first. -/
def list (changes : PendingChanges Request) (now : Nat) :
    List Listed × PendingChanges Request :=
  let changes := changes.expire now
  (changes.held.map (fun held =>
    ⟨held.id, held.what, held.proposedUnixMs, held.expiresUnixMs⟩), changes)

variable {changes : PendingChanges Request} {held : Held Request}

theorem mem_expire {now : Nat} :
    held ∈ (changes.expire now).held ↔ held ∈ changes.held ∧ now < held.expiresUnixMs := by
  simp [expire]

theorem mem_remove {id : String} :
    held ∈ (changes.remove id).2.held ↔ held ∈ changes.held ∧ held.id ≠ id := by
  simp [remove]

theorem find_changes (changes : PendingChanges Request) (id : String) (now : Nat) :
    (changes.find id now).2 = changes.expire now := by
  unfold find
  dsimp only
  split <;> rfl

theorem find_ok {after : PendingChanges Request} {id : String} {now : Nat}
    (found : changes.find id now = (.ok held, after)) :
    held ∈ changes.held ∧ held.id = id ∧ now < held.expiresUnixMs := by
  unfold find at found
  dsimp only at found
  split at found
  next other match_ =>
    obtain ⟨same, _⟩ := Prod.mk.inj found
    cases same
    obtain ⟨member, unexpired⟩ := mem_expire.mp (List.mem_of_find?_eq_some match_)
    exact ⟨member, by simpa using List.find?_some match_, unexpired⟩
  next =>
    obtain ⟨wrong, _⟩ := Prod.mk.inj found
    cases wrong

end PendingChanges

/-- Each round leaves behind one id at least, as the next candidate is longer. -/
theorem freshId_not_mem (waiting : List String) (rounds : Nat) (id : String)
    (enough : (waiting.filter (fun other => decide (id.length ≤ other.length))).length ≤ rounds) :
    freshId waiting rounds id ∉ waiting := by
  induction rounds generalizing id with
  | zero =>
    intro member
    have listed : id ∈ waiting.filter (fun other => decide (id.length ≤ other.length)) :=
      List.mem_filter.mpr ⟨member, by simp⟩
    have some_ := List.length_pos_of_mem listed
    omega
  | succ _ ih =>
    rw [freshId]
    split
    next taken =>
      apply ih
      have longer : waiting.filter (fun other => decide ((id.push 'x').length ≤ other.length)) =
          (waiting.filter (fun other => decide (id.length ≤ other.length))).filter
            (fun other => decide ((id.push 'x').length ≤ other.length)) := by
        rw [List.filter_filter]
        apply List.filter_congr
        intro other _
        rw [Bool.eq_iff_iff, Bool.and_eq_true, decide_eq_true_eq, decide_eq_true_eq,
          String.length_push]
        omega
      have shorter := List.length_filter_lt_length_iff_exists
        (l := waiting.filter (fun other => decide (id.length ≤ other.length)))
        (p := fun other => decide ((id.push 'x').length ≤ other.length))
      have left := shorter.mpr ⟨id, List.mem_filter.mpr ⟨taken, by simp⟩, by
        simp [String.length_push]⟩
      rw [longer]
      omega
    next free => exact free

theorem fresh_among (waiting : List String) (newId : String) :
    freshId waiting waiting.length newId ∉ waiting :=
  freshId_not_mem waiting _ newId (List.length_filter_le _ waiting)

section Histories

variable {Request : Type}

/-- The waiting changes, and the last time they were given. -/
structure State (Request : Type) where
  changes : PendingChanges Request
  clock : Nat

def State.start : State Request := ⟨.new, 0⟩

inductive Call (Request : Type)
  | hold (request : Request) (what : String) (now : Nat) (newId : String)
      (result : Except HoldError String)
  | find (id : String) (now : Nat) (result : Except FindError (Held Request))
  | remove (id : String) (found : Bool)
  | list (now : Nat) (listed : List Listed)

abbrev History (Request : Type) := List (Taken (State Request) (Call Request))

/-- What a call that returns `given` does to the note of who asked first: an id that is still in
time stays with the call that returned it before. -/
def noteHold (request : Request) (now : Nat) (given : String)
    (noted : String → Option (Request × Nat)) (id : String) : Option (Request × Nat) :=
  if given = id then
    match noted id with
    | some (first, time) =>
      if now < saturatingAdd time holdForMs then some (first, time) else some (request, now)
    | none => some (request, now)
  else noted id

/-- The request and the time of the call that first returned an id since the id was last removed
or expired. -/
def opened : History Request → String → Option (Request × Nat)
  | [], _ => none
  | taken :: older, id =>
    match taken.label with
    | .hold request _ now _ (.ok given) => noteHold request now given (opened older) id
    | .remove gone _ => if gone = id then none else opened older id
    | .hold _ _ _ _ (.error _) | .find _ _ _ | .list _ _ => opened older id

/-- What holds of the waiting changes, `noted` being who asked first for each id. -/
structure Sound (noted : String → Option (Request × Nat)) (state : State Request) : Prop where
  few : state.changes.held.length ≤ maxHeld
  ids : (state.changes.held.map Held.id).Nodup
  requests : (state.changes.held.map Held.request).Nodup
  lasting : ∀ held ∈ state.changes.held,
    held.expiresUnixMs = saturatingAdd held.proposedUnixMs holdForMs
  asked : ∀ held ∈ state.changes.held,
    noted held.id = some (held.request, held.proposedUnixMs)
  kept : ∀ id request time, noted id = some (request, time) →
    state.clock < saturatingAdd time holdForMs →
    ∃ held ∈ state.changes.held, held.id = id ∧ held.proposedUnixMs = time

variable {noted : String → Option (Request × Nat)} {changes : PendingChanges Request}
  {clock now : Nat}

theorem sound_start : Sound (opened []) (State.start : State Request) where
  few := Nat.zero_le _
  ids := List.nodup_nil
  requests := List.nodup_nil
  lasting _ member := absurd member List.not_mem_nil
  asked _ member := absurd member List.not_mem_nil
  kept _ _ _ first _ := by cases first

theorem Sound.expire (sound : Sound noted ⟨changes, clock⟩) (later : clock ≤ now) :
    Sound noted ⟨changes.expire now, now⟩ where
  few := (List.length_filter_le _ changes.held).trans sound.few
  ids := sound.ids.sublist (List.filter_sublist.map Held.id)
  requests := sound.requests.sublist (List.filter_sublist.map Held.request)
  lasting held member := sound.lasting held (PendingChanges.mem_expire.mp member).1
  asked held member := sound.asked held (PendingChanges.mem_expire.mp member).1
  kept id request time first inTime := by
    obtain ⟨held, member, name, proposed⟩ :=
      sound.kept id request time first (later.trans_lt inTime)
    have lasts := sound.lasting held member
    rw [proposed] at lasts
    exact ⟨held, PendingChanges.mem_expire.mpr ⟨member, lasts ▸ inTime⟩, name, proposed⟩

theorem Sound.remove (sound : Sound noted ⟨changes, clock⟩) (gone : String) :
    Sound (fun id => if gone = id then none else noted id) ⟨(changes.remove gone).2, clock⟩ where
  few := (List.length_filter_le _ changes.held).trans sound.few
  ids := sound.ids.sublist (List.filter_sublist.map Held.id)
  requests := sound.requests.sublist (List.filter_sublist.map Held.request)
  lasting held member := sound.lasting held (PendingChanges.mem_remove.mp member).1
  asked held member := by
    obtain ⟨waiting, other⟩ := PendingChanges.mem_remove.mp member
    rw [if_neg (Ne.symm other)]
    exact sound.asked held waiting
  kept id request time first inTime := by
    obtain ⟨other, first⟩ := Option.ite_none_left_eq_some.mp first
    obtain ⟨held, member, name, proposed⟩ := sound.kept id request time first inTime
    have stays : held.id ≠ gone := fun same => other (same.symm.trans name)
    exact ⟨held, PendingChanges.mem_remove.mpr ⟨member, stays⟩, name, proposed⟩

theorem noteHold_again (sound : Sound noted ⟨changes, now⟩) {held : Held Request}
    (member : held ∈ changes.held) (unexpired : now < held.expiresUnixMs) (request : Request) :
    noteHold request now held.id noted = noted := by
  funext id
  unfold noteHold
  split
  next same =>
    have first := sound.asked held member
    rw [same] at first
    rw [sound.lasting held member] at unexpired
    simp only [first, if_pos unexpired]
  next => rfl

variable {given : String} {history : History Request} {state : State Request}

theorem noteHold_fresh (sound : Sound noted ⟨changes, now⟩)
    (fresh : given ∉ changes.held.map Held.id) (request : Request) :
    noteHold request now given noted given = some (request, now) := by
  unfold noteHold
  rw [if_pos rfl]
  split
  next first time earlier =>
    split
    next inTime =>
      obtain ⟨held, member, name, _⟩ := sound.kept given first time earlier inTime
      exact absurd (List.mem_map.mpr ⟨held, member, name⟩) fresh
    next => rfl
  next => rfl

theorem noteHold_other (request : Request) {id : String} (other : given ≠ id) :
    noteHold request now given noted id = noted id := by
  rw [noteHold, if_neg other]

theorem Sound.push (sound : Sound noted ⟨changes, now⟩) (room : changes.held.length < maxHeld)
    {request : Request} (new : ∀ held ∈ changes.held, held.request ≠ request)
    (fresh : given ∉ changes.held.map Held.id) (what : String) :
    Sound (noteHold request now given noted)
      ⟨⟨changes.held ++ [⟨given, what, request, now, saturatingAdd now holdForMs⟩]⟩, now⟩ where
  few := by
    rw [List.length_append]
    exact room
  ids := by
    rw [List.map_append]
    refine List.Nodup.append sound.ids (List.nodup_singleton _) ?_
    exact List.disjoint_singleton.mpr fresh
  requests := by
    rw [List.map_append]
    refine List.Nodup.append sound.requests (List.nodup_singleton _) ?_
    rw [List.map_singleton, List.disjoint_singleton]
    intro member
    obtain ⟨held, waiting, same⟩ := List.mem_map.mp member
    exact new held waiting same
  lasting held member := by
    rcases List.mem_append.mp member with waiting | pushed
    · exact sound.lasting held waiting
    · rw [List.mem_singleton.mp pushed]
  asked held member := by
    rcases List.mem_append.mp member with waiting | pushed
    · have other : given ≠ held.id :=
        fun same => fresh (List.mem_map.mpr ⟨held, waiting, same.symm⟩)
      rw [noteHold_other request other]
      exact sound.asked held waiting
    · rw [List.mem_singleton.mp pushed]
      exact noteHold_fresh sound fresh request
  kept id first time earlier inTime := by
    by_cases same : given = id
    · subst same
      rw [noteHold_fresh sound fresh request] at earlier
      cases earlier
      exact ⟨_, List.mem_append_right _ (List.mem_singleton_self _), rfl, rfl⟩
    · rw [noteHold_other request same] at earlier
      obtain ⟨held, member, name, proposed⟩ := sound.kept id first time earlier inTime
      exact ⟨held, List.mem_append_left _ member, name, proposed⟩

variable [DecidableEq Request]

/-- One call; the times that are given do not decrease. -/
inductive State.Steps : State Request → Call Request → State Request → Prop
  | hold {changes after : PendingChanges Request} {clock now : Nat} {request : Request}
      {what newId : String} {result : Except HoldError String} (later : clock ≤ now)
      (returns : changes.hold request what now newId = (result, after)) :
      Steps ⟨changes, clock⟩ (.hold request what now newId result) ⟨after, now⟩
  | find {changes after : PendingChanges Request} {clock now : Nat} {id : String}
      {result : Except FindError (Held Request)} (later : clock ≤ now)
      (returns : changes.find id now = (result, after)) :
      Steps ⟨changes, clock⟩ (.find id now result) ⟨after, now⟩
  | remove {changes after : PendingChanges Request} {clock : Nat} {id : String} {found : Bool}
      (returns : changes.remove id = (found, after)) :
      Steps ⟨changes, clock⟩ (.remove id found) ⟨after, clock⟩
  | list {changes after : PendingChanges Request} {clock now : Nat} {listed : List Listed}
      (later : clock ≤ now) (returns : changes.list now = (listed, after)) :
      Steps ⟨changes, clock⟩ (.list now listed) ⟨after, now⟩

/-- What a call to hold a change does: it was waiting, there is no room, or it waits from now on. -/
theorem hold_cases {after : PendingChanges Request} {request : Request} {what newId : String}
    {result : Except HoldError String}
    (returns : changes.hold request what now newId = (result, after)) :
    (∃ held ∈ (changes.expire now).held, held.request = request ∧ result = .ok held.id ∧
        after = changes.expire now) ∨
      ((∀ held ∈ (changes.expire now).held, held.request ≠ request) ∧
        (result = .error .full ∧ maxHeld ≤ (changes.expire now).held.length ∧
            after = changes.expire now ∨
          ∃ given, given ∉ (changes.expire now).held.map Held.id ∧ result = .ok given ∧
            (changes.expire now).held.length < maxHeld ∧
            after = ⟨(changes.expire now).held ++
              [⟨given, what, request, now, saturatingAdd now holdForMs⟩]⟩)) := by
  unfold PendingChanges.hold at returns
  dsimp only at returns
  split at returns
  next same found =>
    cases returns
    exact .inl ⟨same, List.mem_of_find?_eq_some found, by simpa using List.find?_some found, rfl,
      rfl⟩
  next none_ =>
    have new : ∀ held ∈ (changes.expire now).held, held.request ≠ request := by
      simpa using none_
    split at returns
    next full =>
      cases returns
      exact .inr ⟨new, .inl ⟨rfl, full, rfl⟩⟩
    next room =>
      cases returns
      have fresh := fresh_among ((changes.expire now).held.map Held.id) newId
      rw [List.length_map] at fresh
      exact .inr ⟨new, .inr ⟨_, fresh, rfl, Nat.lt_of_not_le room, rfl⟩⟩

theorem sound_step {after : State Request} {call : Call Request}
    (sound : Sound (opened history) state) (steps : state.Steps call after) :
    Sound (opened (⟨state, call, after⟩ :: history)) after := by
  cases steps with
  | hold later returns =>
    have expired := sound.expire later
    rcases hold_cases returns with ⟨held, member, _, rfl, rfl⟩ |
      ⟨new, ⟨rfl, _, rfl⟩ | ⟨given, fresh, rfl, room, rfl⟩⟩
    · have unexpired := (PendingChanges.mem_expire.mp member).2
      have again := noteHold_again expired member unexpired
      simp only [opened, again]
      exact expired
    · exact expired
    · exact expired.push room new fresh _
  | find later returns =>
    have same := PendingChanges.find_changes _ _ _ ▸ congrArg Prod.snd returns
    subst same
    exact sound.expire later
  | remove returns =>
    have same := congrArg Prod.snd returns
    subst same
    exact sound.remove _
  | list later returns =>
    cases returns
    exact sound.expire later

theorem sound_run (run : Run State.Steps State.start history state) : Sound (opened history) state :=
  run_invariant (fun history state => Sound (opened history) state) sound_start
    (fun _ _ _ _ _ sound steps => sound_step sound steps) run

/-- Whatever was called before, a name stands for the change it was first given to, as long as
that one is in time. -/
theorem approved_as_held {history : History Request} {state : State Request}
    (run : Run State.Steps State.start history state) :
    (state.changes.held.length ≤ maxHeld ∧ (state.changes.held.map Held.id).Nodup ∧
        (state.changes.held.map Held.request).Nodup ∧
        ∀ held ∈ state.changes.held,
          opened history held.id = some (held.request, held.proposedUnixMs) ∧
            held.expiresUnixMs = saturatingAdd held.proposedUnixMs holdForMs) ∧
      (∀ id now held after, state.Steps (.find id now (.ok held)) after →
        ∃ time, opened history id = some (held.request, time) ∧ now < time + holdForMs) ∧
      (∀ request what now newId result after,
        state.Steps (.hold request what now newId result) after →
          ∀ held ∈ state.changes.held, held.request ≠ request → now < held.expiresUnixMs →
            held ∈ after.changes.held) ∧
      ∀ request what now newId after,
        state.Steps (.hold request what now newId (.error .full)) after →
          (state.changes.held.filter
              (fun held => decide (now < held.expiresUnixMs))).length = maxHeld ∧
            ∀ held ∈ state.changes.held, now < held.expiresUnixMs → held.request ≠ request := by
  have sound := sound_run run
  refine ⟨⟨sound.few, sound.ids, sound.requests,
    fun held member => ⟨sound.asked held member, sound.lasting held member⟩⟩, ?_, ?_, ?_⟩
  · intro id now held after steps
    cases steps with
    | find _ returns =>
      obtain ⟨member, rfl, unexpired⟩ := PendingChanges.find_ok returns
      refine ⟨held.proposedUnixMs, sound.asked held member, ?_⟩
      rw [sound.lasting held member] at unexpired
      exact unexpired.trans_le (min_le_left _ _)
  · intro request what now newId result after steps held member other unexpired
    cases steps with
    | hold _ returns =>
      have waiting := PendingChanges.mem_expire.mpr ⟨member, unexpired⟩
      rcases hold_cases returns with ⟨_, _, _, _, rfl⟩ |
        ⟨_, ⟨_, _, rfl⟩ | ⟨_, _, _, _, rfl⟩⟩
      · exact waiting
      · exact waiting
      · exact List.mem_append_left _ waiting
  · intro request what now newId after steps
    cases steps with
    | hold later returns =>
      rcases hold_cases returns with ⟨_, _, _, wrong, _⟩ |
        ⟨new, ⟨_, full, _⟩ | ⟨_, _, wrong, _⟩⟩
      · cases wrong
      · exact ⟨Nat.le_antisymm (sound.expire later).few full,
          fun held member unexpired => new held (PendingChanges.mem_expire.mpr ⟨member, unexpired⟩)⟩
      · cases wrong

section Repeated

def twoHeld : List (Held Nat) :=
  [⟨"c4", "one", 1, 10, 600010⟩, ⟨"c4x", "two", 2, 20, 600020⟩]

/-- The first of them is asked for again, and found under its name. -/
theorem approved_as_held_repeated :
    ∃ history : History Nat, Run State.Steps State.start history ⟨⟨twoHeld⟩, 30⟩ ∧
      State.Steps ⟨⟨twoHeld⟩, 30⟩ (.find "c4" 500000 (.ok ⟨"c4", "one", 1, 10, 600010⟩))
        ⟨⟨twoHeld⟩, 500000⟩ ∧
      ∃ time, opened history "c4" = some (1, time) ∧ 500000 < time + holdForMs := by
  have first : State.Steps State.start (.hold 1 "one" 10 "c4" (.ok "c4"))
      ⟨⟨twoHeld.take 1⟩, 10⟩ := .hold (by decide) (by decide)
  have second : State.Steps ⟨⟨twoHeld.take 1⟩, 10⟩ (.hold 2 "two" 20 "c4" (.ok "c4x"))
      ⟨⟨twoHeld⟩, 20⟩ := .hold (by decide) (by decide)
  have again : State.Steps ⟨⟨twoHeld⟩, 20⟩ (.hold 1 "one" 30 "c5" (.ok "c4"))
      ⟨⟨twoHeld⟩, 30⟩ := .hold (by decide) (by decide)
  have found : State.Steps ⟨⟨twoHeld⟩, 30⟩
      (.find "c4" 500000 (.ok ⟨"c4", "one", 1, 10, 600010⟩)) ⟨⟨twoHeld⟩, 500000⟩ :=
    .find (by decide) (by decide)
  have run := ((Run.start.next first).next second).next again
  exact ⟨_, run, found, (approved_as_held run).2.1 _ _ _ _ found⟩

end Repeated

end Histories

end Approval

end DnetEngine
