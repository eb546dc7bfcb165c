import Mathlib.Data.List.Basic

/-! A broadcast channel as one of its receivers sees it. -/

namespace DnetEngine.Lib

/-- What a receiver is told. -/
inductive Received (Message : Type)
  | message (sent : Message)
  | lagged (missed : Nat)
  | empty

/-- A channel that keeps `capacity` messages for a receiver that does not read them. One that falls
further behind is told that it lagged. -/
structure Broadcast (Message : Type) where
  capacity : Nat
  Receiver : Type
  subscribed : Receiver
  send : Receiver → Message → Receiver
  recv : Receiver → Received Message × Receiver
  /-- What it was sent and has not read; nothing when some of that was dropped. -/
  unread : Receiver → Option (List Message)
  unread_subscribed : unread subscribed = some []
  unread_send : ∀ receiver message, unread (send receiver message) =
    (unread receiver).bind fun waiting =>
      if waiting.length < capacity then some (waiting ++ [message]) else none
  recv_dropped : ∀ receiver, unread receiver = none →
    ∃ missed after, recv receiver = (.lagged missed, after)
  recv_nothing : ∀ receiver, unread receiver = some [] → recv receiver = (.empty, receiver)
  recv_next : ∀ receiver message waiting, unread receiver = some (message :: waiting) →
    ∃ after, recv receiver = (.message message, after) ∧ unread after = some waiting

variable {Message : Type}

/-- The messages that came before the receiver lagged. -/
def heardInOrder : List (Received Message) → List Message
  | [] => []
  | .message message :: rest => message :: heardInOrder rest
  | .empty :: rest => heardInOrder rest
  | .lagged _ :: _ => []

def Lagged (heard : List (Received Message)) : Prop := ∃ missed, .lagged missed ∈ heard

variable {heard : List (Received Message)}

theorem heardInOrder_append_of_lagged (lagged : Lagged heard) (more : List (Received Message)) :
    heardInOrder (heard ++ more) = heardInOrder heard := by
  obtain ⟨missed, told⟩ := lagged
  induction heard with
  | nil => cases told
  | cons first =>
    cases first with
    | lagged => rfl
    | message | empty => simp_all [heardInOrder]

theorem heardInOrder_append (kept : ¬ Lagged heard) (more : List (Received Message)) :
    heardInOrder (heard ++ more) = heardInOrder heard ++ heardInOrder more := by
  induction heard with
  | nil => rfl
  | cons first rest ih =>
    have later : ¬ Lagged rest := fun ⟨missed, told⟩ => kept ⟨missed, List.mem_cons_of_mem _ told⟩
    cases first with
    | lagged missed => exact absurd ⟨missed, List.mem_cons_self⟩ kept
    | message | empty => simp [heardInOrder, ih later]

/-- What the receiver heard of all that was sent since it subscribed: a beginning of it, and if it did
not lag, all but what it has not read. -/
structure Broadcast.Follows (channel : Broadcast Message) (receiver : channel.Receiver)
    (heard : List (Received Message)) (sent : List Message) : Prop where
  inOrder : heardInOrder heard <+: sent
  whole : ¬ Lagged heard → ∀ waiting, channel.unread receiver = some waiting →
    heardInOrder heard ++ waiting = sent

namespace Broadcast

variable {channel : Broadcast Message} {receiver : channel.Receiver}
  {heard : List (Received Message)} {sent : List Message}

theorem follows_subscribed (channel : Broadcast Message) :
    channel.Follows channel.subscribed [] [] := by
  refine ⟨List.prefix_rfl, fun _ waiting unread => ?_⟩
  rw [channel.unread_subscribed] at unread
  cases unread
  rfl

theorem Follows.send (follows : channel.Follows receiver heard sent) (message : Message) :
    channel.Follows (channel.send receiver message) heard (sent ++ [message]) := by
  refine ⟨follows.inOrder.trans (List.prefix_append _ _), fun kept waiting unread => ?_⟩
  rw [channel.unread_send, Option.bind_eq_some_iff] at unread
  obtain ⟨before, wasUnread, room⟩ := unread
  obtain ⟨_, room⟩ := Option.ite_none_right_eq_some.mp room
  cases room
  rw [← follows.whole kept before wasUnread, List.append_assoc]

theorem Follows.recv (follows : channel.Follows receiver heard sent) :
    channel.Follows (channel.recv receiver).2 (heard ++ [(channel.recv receiver).1]) sent := by
  by_cases lagged : Lagged heard
  · have still : Lagged (heard ++ [(channel.recv receiver).1]) := by
      obtain ⟨missed, told⟩ := lagged
      exact ⟨missed, List.mem_append_left _ told⟩
    constructor
    · rw [heardInOrder_append_of_lagged lagged]
      exact follows.inOrder
    · exact fun kept => absurd still kept
  · cases unread : channel.unread receiver with
    | none =>
      obtain ⟨missed, after, told⟩ := channel.recv_dropped receiver unread
      rw [told]
      constructor
      · rw [heardInOrder_append lagged, heardInOrder, List.append_nil]
        exact follows.inOrder
      · exact fun kept => absurd ⟨missed, by simp⟩ kept
    | some waiting =>
      have whole := follows.whole lagged waiting unread
      cases waiting with
      | nil =>
        rw [channel.recv_nothing receiver unread]
        refine ⟨?_, fun _ waiting unread => ?_⟩
        · simpa [heardInOrder_append lagged, heardInOrder] using follows.inOrder
        · simpa [heardInOrder_append lagged, heardInOrder] using
            follows.whole lagged waiting unread
      | cons message rest =>
        obtain ⟨after, told, left⟩ := channel.recv_next receiver message rest unread
        rw [told]
        refine ⟨⟨rest, ?_⟩, fun _ waiting unread => ?_⟩
        · simpa [heardInOrder_append lagged, heardInOrder] using whole
        · cases left.symm.trans unread
          simpa [heardInOrder_append lagged, heardInOrder] using whole

/-- A channel that drops the oldest message of a receiver that is full, and counts what it dropped. -/
def ring (Message : Type) (capacity : Nat) : Broadcast Message where
  capacity
  Receiver := List Message × Nat
  subscribed := ([], 0)
  send receiver message :=
    if receiver.1.length < capacity then (receiver.1 ++ [message], receiver.2)
    else (receiver.1.drop 1 ++ [message], receiver.2 + 1)
  recv
    | (kept, missed + 1) => (.lagged (missed + 1), (kept, 0))
    | ([], 0) => (.empty, ([], 0))
    | (message :: rest, 0) => (.message message, (rest, 0))
  unread receiver := if receiver.2 = 0 then some receiver.1 else none
  unread_subscribed := rfl
  unread_send receiver message := by
    obtain ⟨kept, missed⟩ := receiver
    by_cases room : kept.length < capacity <;> by_cases whole : missed = 0 <;> simp [room, whole]
  recv_dropped receiver dropped := by
    obtain ⟨kept, missed⟩ := receiver
    cases missed with
    | zero => cases dropped
    | succ => exact ⟨_, _, rfl⟩
  recv_nothing receiver nothing := by
    obtain ⟨kept, missed⟩ := receiver
    cases missed with
    | zero =>
      cases nothing
      rfl
    | succ => cases nothing
  recv_next receiver message waiting next := by
    obtain ⟨kept, missed⟩ := receiver
    cases missed with
    | zero =>
      cases next
      exact ⟨_, rfl, rfl⟩
    | succ => cases next

end Broadcast

end DnetEngine.Lib
