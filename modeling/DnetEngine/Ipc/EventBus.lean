import DnetEngine.Ipc.Wire
import DnetEngine.Lib.Broadcast
import DnetEngine.Lib.Run
import Mathlib.Data.List.DropRight

/-! The event bus: it numbers events, keeps those of the current session for a late subscriber, and
sends new ones to every subscriber. -/

namespace DnetEngine.Ipc

open Lib

/-- How many events of the current session a late subscriber is given. -/
def sessionBacklog : Nat := 256
/-- How many subscriptions may be held at once. -/
def maxSubscribers : Nat := 16

section Bus

variable {Text : Type} (serde : SerdeJson Text) (channel : Broadcast Text)

/-- The session so far, and then everything new. What its holder was told of that is kept. -/
structure Subscription where
  backlog : List Text
  live : channel.Receiver
  heard : List (Received Text) := []

/-- The bus, with the subscriptions that are open, each under a number of its own. -/
structure EventBus where
  nextSeq : Nat := 1
  backlog : List Text := []
  subscribers : Nat := 0
  opened : List (Nat × Subscription channel) := []
  nextId : Nat := 0

namespace EventBus

variable {channel} (bus : EventBus channel)

def beginSession : EventBus channel := { bus with backlog := [] }

/-- An event under a number. -/
def numbered (seq : Nat) (value : Json) : Text := serde.toText (value.insert "seq" (.number seq))

/-- Number an event, remember it, and send it to every subscriber. -/
def publish (event : ConnectionEvent) : Except IpcError Unit × EventBus channel :=
  match eventValue event with
  | .error error => (.error error, bus)
  | .ok value =>
    let seq := bus.nextSeq
    let frame := numbered serde seq value
    let backlog := if bus.backlog.length = sessionBacklog then bus.backlog.drop 1 else bus.backlog
    (.ok (), { bus with
      nextSeq := seq + 1
      backlog := backlog ++ [frame]
      opened := bus.opened.map fun (id, subscription) =>
        (id, { subscription with live := channel.send subscription.live frame }) })

/-- Start a subscription, unless too many are held. -/
def subscribe : Except IpcError (Subscription channel) × EventBus channel :=
  let held := bus.subscribers
  let bus := { bus with subscribers := held + 1 }
  if maxSubscribers ≤ held then
    -- The slot is given back.
    (.error .serviceBusy, { bus with subscribers := bus.subscribers - 1 })
  else
    let subscription : Subscription channel := { backlog := bus.backlog, live := channel.subscribed }
    (.ok subscription, { bus with
      opened := bus.opened ++ [(bus.nextId, subscription)]
      nextId := bus.nextId + 1 })

/-- A subscription is dropped, and its slot with it. -/
def unsubscribe (id : Nat) : EventBus channel :=
  if bus.opened.any (fun held => held.1 == id) then
    { bus with
      subscribers := bus.subscribers - 1
      opened := bus.opened.eraseP (fun held => held.1 == id) }
  else bus

/-- The holder of a subscription reads from it. -/
def receive (id : Nat) : EventBus channel :=
  { bus with
    opened := bus.opened.map fun (held, subscription) =>
      if held = id then
        (held, { subscription with
          live := (channel.recv subscription.live).2
          heard := subscription.heard ++ [(channel.recv subscription.live).1] })
      else (held, subscription) }

end EventBus

inductive Operation
  | publish (event : ConnectionEvent)
  | beginSession
  | subscribe
  | unsubscribe (id : Nat)
  | receive (id : Nat)

variable {channel}

def EventBus.after (bus : EventBus channel) : Operation → EventBus channel
  | .publish event => (bus.publish serde event).2
  | .beginSession => bus.beginSession
  | .subscribe => bus.subscribe.2
  | .unsubscribe id => bus.unsubscribe id
  | .receive id => bus.receive id

variable (channel)

abbrev BusRun := Run (fun (bus : EventBus channel) operation after => bus.after serde operation = after) {}

variable {channel}

theorem busRun_next {history : List (Taken (EventBus channel) Operation)} {bus : EventBus channel}
    (run : BusRun serde channel history bus) (operation : Operation) :
    BusRun serde channel (⟨bus, operation, bus.after serde operation⟩ :: history)
      (bus.after serde operation) :=
  run.next rfl

def EventBus.sends (bus : EventBus channel) : Operation → List Text
  | .publish event =>
    match eventValue event with
    | .error _ => []
    | .ok value => [EventBus.numbered serde bus.nextSeq value]
  | _ => []

/-- Every frame sent, in order. -/
def published : List (Taken (EventBus channel) Operation) → List Text
  | [] => []
  | taken :: older => published older ++ taken.before.sends serde taken.label

/-- Every frame sent since the latest session began. -/
def session : List (Taken (EventBus channel) Operation) → List Text
  | [] => []
  | taken :: older =>
    match taken.label with
    | .beginSession => []
    | _ => session older ++ taken.before.sends serde taken.label

def seqOf (frame : Text) : Option Int :=
  match serde.fromStr frame with
  | .error _ => none
  | .ok value => (value.get "seq").bind Json.asNumber

section Numbering

theorem seqOf_numbered {event : ConnectionEvent} {value : Json} (valued : eventValue event = .ok value)
    (seq : Nat) : seqOf serde (EventBus.numbered serde seq value) = some (seq : Int) := by
  obtain ⟨isValue, isObject⟩ := eventValue_isValue valued
  have number : (Json.number seq).IsValue := trivial
  have read := serde.fromStr_toText (isValue.insert "seq" number)
  simp only [seqOf, EventBus.numbered, read, Json.get_insert_self isObject]
  rfl

theorem sends_cases (bus : EventBus channel) (operation : Operation) :
    (bus.sends serde operation = [] ∧ (bus.after serde operation).nextSeq = bus.nextSeq) ∨
      ∃ frame, bus.sends serde operation = [frame] ∧ seqOf serde frame = some (bus.nextSeq : Int) ∧
        (bus.after serde operation).nextSeq = bus.nextSeq + 1 := by
  cases operation with
  | publish event =>
    simp only [EventBus.sends, EventBus.after, EventBus.publish]
    cases valued : eventValue event with
    | error => simp
    | ok => simp [seqOf_numbered serde valued]
  | beginSession | receive => exact .inl ⟨rfl, rfl⟩
  | subscribe =>
    refine .inl ⟨rfl, ?_⟩
    simp only [EventBus.after, EventBus.subscribe]
    split <;> rfl
  | unsubscribe =>
    refine .inl ⟨rfl, ?_⟩
    simp only [EventBus.after, EventBus.unsubscribe]
    split <;> rfl

theorem published_numbers {history : List (Taken (EventBus channel) Operation)}
    {bus : EventBus channel} (run : BusRun serde channel history bus) :
    bus.nextSeq = (published serde history).length + 1 ∧
      (published serde history).map (seqOf serde) =
        (List.range' 1 (published serde history).length).map (fun seq : Nat => some (seq : Int)) := by
  induction run with
  | start => exact ⟨rfl, rfl⟩
  | @next _ state _ operation _ taken ih =>
    obtain ⟨seq, numbers⟩ := ih
    subst taken
    rcases sends_cases serde state operation with ⟨nothing, same⟩ | ⟨frame, one, carries, more⟩
    · simp only [published, nothing, List.append_nil, same]
      exact ⟨seq, numbers⟩
    · simp only [published, one, more, List.length_append, List.length_singleton]
      rw [List.range'_concat, List.map_append, numbers]
      simp [carries, seq, Nat.add_comm]

theorem numbers_between {earlier middle later : List Text}
    (numbers : (earlier ++ (middle ++ later)).map (seqOf serde) =
      (List.range' 1 (earlier ++ (middle ++ later)).length).map (fun seq : Nat => some (seq : Int))) :
    middle.map (seqOf serde) =
      (List.range' (earlier.length + 1) middle.length).map (fun seq : Nat => some (seq : Int)) := by
  rw [List.length_append, List.length_append, ← List.range'_append_1, ← List.range'_append_1,
    List.map_append, List.map_append, List.map_append, List.map_append] at numbers
  have rest := (List.append_inj numbers (by simp)).2
  have middle := (List.append_inj rest (by simp)).1
  rw [middle, Nat.add_comm]

end Numbering

section Backlog

/-- The last of a list, with one more pushed and the oldest given up for it. -/
theorem push_rtake {Item : Type} {limit : Nat} (positive : 0 < limit) (items : List Item) (item : Item) :
    (if (items.rtake limit).length = limit then (items.rtake limit).drop 1
      else items.rtake limit) ++ [item] = (items ++ [item]).rtake limit := by
  obtain ⟨n, rfl⟩ := Nat.exists_eq_succ_of_ne_zero (Nat.ne_of_gt positive)
  rw [List.rtake_concat_succ]
  congr 1
  simp only [List.rtake, List.length_drop, List.drop_drop]
  split
  · congr 1
    omega
  · congr 1
    omega

variable {history : List (Taken (EventBus channel) Operation)} {bus : EventBus channel}

theorem backlog_session (run : BusRun serde channel history bus) :
    bus.backlog = (session serde history).rtake sessionBacklog := by
  induction run with
  | start => exact (List.rtake_nil _).symm
  | @next _ _ _ operation _ taken ih =>
    subst taken
    cases operation with
    | publish event =>
      simp only [session, EventBus.sends, EventBus.after, EventBus.publish]
      cases valued : eventValue event with
      | error =>
        rw [List.append_nil]
        exact ih
      | ok =>
        have positive : 0 < sessionBacklog := by decide
        rw [← push_rtake positive, ← ih]
    | beginSession => exact (List.rtake_nil _).symm
    | subscribe =>
      simp only [session, EventBus.sends, EventBus.after, EventBus.subscribe, List.append_nil]
      split <;> exact ih
    | unsubscribe =>
      simp only [session, EventBus.sends, EventBus.after, EventBus.unsubscribe, List.append_nil]
      split <;> exact ih
    | receive =>
      simp only [session, EventBus.sends, List.append_nil]
      exact ih

theorem session_suffix (history : List (Taken (EventBus channel) Operation)) :
    session serde history <:+ published serde history := by
  induction history with
  | nil => exact List.suffix_rfl
  | cons _ _ ih =>
    unfold session published
    split
    · exact List.nil_suffix
    · obtain ⟨earlier, whole⟩ := ih
      exact ⟨earlier, by rw [← whole, List.append_assoc]⟩

theorem backlog_suffix (run : BusRun serde channel history bus) :
    bus.backlog <:+ published serde history := by
  rw [backlog_session serde run]
  exact (List.drop_suffix _ _).trans (session_suffix serde history)

end Backlog

section Stories

/-- The backlog and what came after it are the last of all that was published, and the holder follows
what came after. -/
def Subscription.OnStory (all : List Text) (subscription : Subscription channel) : Prop :=
  ∃ earlier since, all = earlier ++ subscription.backlog ++ since ∧
    channel.Follows subscription.live subscription.heard since

variable {all : List Text} {subscription : Subscription channel}

theorem Subscription.OnStory.send (story : subscription.OnStory all) (frame : Text) :
    { subscription with live := channel.send subscription.live frame }.OnStory (all ++ [frame]) := by
  obtain ⟨earlier, since, rfl, follows⟩ := story
  exact ⟨earlier, since ++ [frame], by simp, follows.send frame⟩

theorem Subscription.OnStory.recv (story : subscription.OnStory all) :
    { subscription with
      live := (channel.recv subscription.live).2
      heard := subscription.heard ++ [(channel.recv subscription.live).1] }.OnStory all := by
  obtain ⟨earlier, since, rfl, follows⟩ := story
  exact ⟨earlier, since, rfl, follows.recv⟩

variable {bus : EventBus channel}

theorem stories_step (backlog : bus.backlog <:+ all)
    (stories : ∀ held ∈ bus.opened, held.2.OnStory all) (operation : Operation) :
    ∀ held ∈ (bus.after serde operation).opened,
      held.2.OnStory (all ++ bus.sends serde operation) := by
  cases operation with
  | publish event =>
    simp only [EventBus.after, EventBus.publish, EventBus.sends]
    cases eventValue event with
    | error =>
      rw [List.append_nil]
      exact stories
    | ok =>
      intro held present
      obtain ⟨old, was, rfl⟩ := List.mem_map.mp present
      exact (stories old was).send _
  | beginSession =>
    simp only [EventBus.sends, List.append_nil]
    exact stories
  | subscribe =>
    simp only [EventBus.after, EventBus.subscribe, EventBus.sends, List.append_nil]
    split
    · exact stories
    · intro held present
      rcases List.mem_append.mp present with old | new
      · exact stories held old
      · obtain ⟨earlier, rfl⟩ := backlog
        rw [List.mem_singleton.mp new]
        exact ⟨earlier, [], by simp, channel.follows_subscribed⟩
  | unsubscribe =>
    simp only [EventBus.after, EventBus.unsubscribe, EventBus.sends, List.append_nil]
    split
    · exact fun held present => stories held (List.mem_of_mem_eraseP present)
    · exact stories
  | receive =>
    simp only [EventBus.after, EventBus.receive, EventBus.sends, List.append_nil]
    intro held present
    obtain ⟨old, was, rfl⟩ := List.mem_map.mp present
    split
    · exact (stories old was).recv
    · exact stories old was

theorem stories_run {history : List (Taken (EventBus channel) Operation)}
    (run : BusRun serde channel history bus) :
    ∀ held ∈ bus.opened, held.2.OnStory (published serde history) := by
  induction run with
  | start => exact fun _ present => absurd present List.not_mem_nil
  | @next _ _ _ operation run taken ih =>
    subst taken
    exact stories_step serde (backlog_suffix serde run) ih operation

end Stories

section Slots

/-- Every open subscription holds a slot. -/
structure Slotted (bus : EventBus channel) : Prop where
  held : bus.subscribers = bus.opened.length
  few : bus.opened.length ≤ maxSubscribers

theorem slotted_step {bus : EventBus channel} (slotted : Slotted bus) (operation : Operation) :
    Slotted (bus.after serde operation) := by
  obtain ⟨held, few⟩ := slotted
  cases operation with
  | publish event =>
    simp only [EventBus.after, EventBus.publish]
    cases eventValue event with
    | error => exact ⟨held, few⟩
    | ok => exact ⟨by simpa using held, by simpa using few⟩
  | beginSession => exact ⟨held, few⟩
  | subscribe =>
    simp only [EventBus.after, EventBus.subscribe]
    split
    · exact ⟨held, few⟩
    next room => exact ⟨by simpa using held, by simp; omega⟩
  | unsubscribe id =>
    simp only [EventBus.after, EventBus.unsubscribe]
    split
    next some_ =>
      obtain ⟨member, present, same⟩ := List.any_eq_true.mp some_
      have shorter := List.length_eraseP_of_mem (p := fun held => held.1 == id) present same
      exact ⟨by rw [shorter, held], by rw [shorter]; omega⟩
    · exact ⟨held, few⟩
  | receive => exact ⟨by simpa [EventBus.after, EventBus.receive] using held,
      by simpa [EventBus.after, EventBus.receive] using few⟩

end Slots

/-- Whatever happens, each subscription's backlog and what it heard before it lagged are frames that
were published one after another, under one number after another, and nothing is missing of what was
published since but what it has not read. A backlog is the end of the session, an event that is refused
changes nothing, and no more subscriptions are open than may be. -/
theorem stories_have_no_gap {history : List (Taken (EventBus channel) Operation)}
    {bus : EventBus channel} (run : BusRun serde channel history bus) :
    (∀ held ∈ bus.opened, ∃ earlier since,
      published serde history = earlier ++ held.2.backlog ++ since ∧
        heardInOrder held.2.heard <+: since ∧
        (¬ Lagged held.2.heard → ∀ waiting, channel.unread held.2.live = some waiting →
          heardInOrder held.2.heard ++ waiting = since) ∧
        (held.2.backlog ++ heardInOrder held.2.heard).map (seqOf serde) =
          (List.range' (earlier.length + 1)
            (held.2.backlog ++ heardInOrder held.2.heard).length).map
              (fun seq : Nat => some (seq : Int))) ∧
      (∀ subscription after, bus.subscribe = (.ok subscription, after) →
        subscription.backlog = (session serde history).rtake sessionBacklog) ∧
      (∀ event error after, bus.publish serde event = (.error error, after) → after = bus) ∧
      bus.opened.length ≤ maxSubscribers := by
  refine ⟨fun held present => ?_, fun subscription after gives => ?_, fun event error after fails => ?_,
    ?_⟩
  · obtain ⟨earlier, since, whole, follows⟩ := stories_run serde run held present
    refine ⟨earlier, since, whole, follows.inOrder, follows.whole, ?_⟩
    obtain ⟨rest, heard⟩ := follows.inOrder
    have numbers := (published_numbers serde run).2
    rw [whole, ← heard, List.append_assoc, ← List.append_assoc _ _ rest] at numbers
    exact numbers_between serde numbers
  · unfold EventBus.subscribe at gives
    dsimp only at gives
    split at gives
    · cases gives
    · cases gives
      exact backlog_session serde run
  · unfold EventBus.publish at fails
    cases valued : eventValue event with
    | error =>
      rw [valued] at fails
      cases fails
      rfl
    | ok =>
      rw [valued] at fails
      cases fails
  · have new : Slotted ({} : EventBus channel) := ⟨rfl, Nat.zero_le _⟩
    have step (state : EventBus channel) (operation : Operation) (after : EventBus channel)
        (slotted : Slotted state) (taken : state.after serde operation = after) : Slotted after :=
      taken ▸ slotted_step serde slotted operation
    exact (run_state_invariant Slotted new step run).few

end Bus

/-- One event before a subscription and one after it. -/
theorem stories_have_no_gap_two :
    ∃ history bus held, BusRun SerdeJson.trees (.ring Json sessionBacklog) history bus ∧
      held ∈ bus.opened ∧ held.2.backlog.length = 1 ∧
      (heardInOrder held.2.heard).length = 1 ∧
      ∃ first : Nat, (held.2.backlog ++ heardInOrder held.2.heard).map (seqOf SerdeJson.trees) =
        [some (first : Int), some ((first + 1 : Nat) : Int)] := by
  have new : BusRun SerdeJson.trees (.ring Json sessionBacklog) [] {} := .start
  have first := busRun_next _ new (.publish .probeStarted)
  have second := busRun_next _ (busRun_next _ first .subscribe) (.publish (.recovered ⟨0⟩))
  have run := busRun_next _ second (.receive 0)
  obtain ⟨stories, _⟩ := stories_have_no_gap SerdeJson.trees run
  obtain ⟨earlier, since, _, _, _, numbers⟩ := stories _ List.mem_cons_self
  exact ⟨_, _, _, run, List.mem_cons_self, rfl, rfl, earlier.length + 1, numbers⟩

end DnetEngine.Ipc
