import DnetEngine.Lib.Incremental
import DnetEngine.Lib.Run
import Mathlib.Algebra.Ring.Nat

/-! Length-prefixed frames on the control pipe: how one is written and taken off a buffer, and the
two loops that read them, the server's and the client's. -/

namespace DnetEngine.Ipc

open Lib

def headerLen : Nat := 4
def maxFrameLen : Nat := 1024 * 1024
/-- How much is read from the stream at once, at either end. -/
def readChunk : Nat := 4096

inductive FrameError
  | oversized (declared max : Nat)
  | malformed
  deriving DecidableEq

def FrameError.display : FrameError → String
  | .oversized declared max =>
    "declared frame length " ++ toString declared ++ " exceeds the " ++ toString max ++ "-byte limit"
  | .malformed => "frame payload is not valid UTF-8"

structure Frame where
  payload : String
  consumed : Nat
  deriving DecidableEq

namespace Frame

/-- One frame off the front of the buffer. An oversized length is refused on the header alone. -/
def decode (buf : Bytes) : Except FrameError (Option Frame) :=
  if buf.length < headerLen then .ok none
  else
    let declared := fromLeBytes (buf.take headerLen)
    if maxFrameLen < declared then .error (.oversized declared maxFrameLen)
    else
      let stop := headerLen + declared
      if buf.length < stop then .ok none
      else
        match fromUtf8 ((buf.take stop).drop headerLen) with
        | none => .error .malformed
        | some payload => .ok (some ⟨payload, stop⟩)

def encode (payload : String) : Except FrameError Bytes :=
  let bytes := utf8 payload
  if maxFrameLen < bytes.length then .error (.oversized bytes.length maxFrameLen)
  else .ok (toLeBytes headerLen bytes.length ++ bytes)

end Frame

/-- What the stream gives to a read. A stream that gives nothing any more was closed. -/
inductive Read
  | chunk (bytes : Bytes)
  | timedOut
  | failed (detail : String)
  deriving DecidableEq

/-- What the handler of a request answers. -/
inductive Reply
  | response (text : String)
  | stream
  deriving DecidableEq

/-- Why the server stopped reading frames. -/
inductive Ending
  | disconnected
  | idle
  | undecodable
  | failed (detail : String)
  | streaming
  deriving DecidableEq

/-- Who the server serves: the handler of requests, which may go by what it was given before, and the
stream that responses are written to. -/
structure Service where
  onFrame : List String → String → Option Reply
  write : List Bytes → Bytes → Except String Unit

/-- The framing loop of the server: the buffer, what the stream will give, and what was handed to
the handler and written back so far. -/
structure FrameLoop where
  buf : Bytes
  reads : List Read
  handed : List String := []
  written : List Bytes := []
  ending : Option Ending := none

namespace FrameLoop

/-- A response is written back; a subscription takes the stream over. -/
def answer (service : Service) (loop : FrameLoop) : Option Reply → FrameLoop
  | none => loop
  | some .stream => { loop with ending := some .streaming }
  | some (.response text) =>
    match Frame.encode text with
    | .error error =>
      { loop with ending := some (.failed ("failed to encode response: " ++ error.display)) }
    | .ok bytes =>
      match service.write loop.written bytes with
      | .error detail => { loop with ending := some (.failed detail) }
      | .ok () => { loop with written := loop.written ++ [bytes] }

/-- More bytes from the stream. -/
def read (loop : FrameLoop) : FrameLoop :=
  match loop.reads with
  | [] | .chunk [] :: _ => { loop with ending := some .disconnected }
  | .timedOut :: _ => { loop with ending := some .idle }
  | .failed detail :: _ => { loop with ending := some (.failed detail) }
  | .chunk bytes :: later => { loop with buf := loop.buf ++ bytes, reads := later }

def turn (service : Service) (loop : FrameLoop) : Option FrameLoop :=
  match loop.ending with
  | some _ => none
  | none =>
    match Frame.decode loop.buf with
    | .ok (some frame) =>
      let rest := { loop with
        buf := loop.buf.drop frame.consumed
        handed := loop.handed ++ [frame.payload] }
      some (rest.answer service (service.onFrame loop.handed frame.payload))
    | .ok none => some loop.read
    | .error _ => some { loop with ending := some .undecodable }

end FrameLoop

abbrev Serves (service : Service) :=
  Run (fun loop (_ : Unit) after => FrameLoop.turn service loop = some after)

inductive ClientError
  | io (detail : String)
  | closed
  | malformed (detail : String)
  deriving DecidableEq

/-- The client's end: a buffer, and what the stream will give. -/
structure Connection where
  buf : Bytes
  reads : List Read

namespace Connection

/-- One turn of the client's loop: what `nextFrame` returns, if it does. -/
def turn (connection : Connection) :
    Option (Except ClientError (Option String)) × Connection :=
  match Frame.decode connection.buf with
  | .ok (some found) =>
    (some (.ok (some found.payload)),
      { connection with buf := connection.buf.drop found.consumed })
  | .error error => (some (.error (.malformed error.display)), connection)
  | .ok none =>
    match connection.reads with
    | [] | .chunk [] :: _ =>
      (some (if connection.buf.isEmpty then .ok none else .error .closed), connection)
    | .failed detail :: _ => (some (.error (.io detail)), connection)
    -- The client sets no limit of time.
    | .timedOut :: later => (none, { connection with reads := later })
    | .chunk bytes :: later => (none, ⟨connection.buf ++ bytes, later⟩)

theorem turn_reads {connection after : Connection} (turns : connection.turn = (none, after)) :
    after.reads.length < connection.reads.length := by
  unfold turn at turns
  split at turns
  · cases turns
  · cases turns
  · split at turns
    · cases turns
    · cases turns
    · cases turns
    next later there =>
      cases turns
      rw [there]
      exact Nat.lt_succ_self _
    next bytes later _ there =>
      cases turns
      rw [there]
      exact Nat.lt_succ_self _

/-- The next frame's payload, or nothing if the stream was closed between frames. -/
def nextFrame (connection : Connection) : Except ClientError (Option String) × Connection :=
  match _turns : connection.turn with
  | (some result, after) => (result, after)
  | (none, after) => nextFrame after
termination_by connection.reads.length
decreasing_by exact turn_reads _turns

/-- The results of so many calls, one after another. -/
def frames (connection : Connection) : (calls : Nat) → List (Except ClientError (Option String))
  | 0 => []
  | calls + 1 => connection.nextFrame.1 :: connection.nextFrame.2.frames calls

end Connection

/-- The client's reading, call after call, turn after turn. -/
abbrev Receives := Run (fun connection result after => Connection.turn connection = (result, after))

section Decoding

/-- The header is not complete, or the payload it declares is not. -/
def Truncated (buf : Bytes) : Prop :=
  buf.length < headerLen ∨
    fromLeBytes (buf.take headerLen) ≤ maxFrameLen ∧
      buf.length < headerLen + fromLeBytes (buf.take headerLen)

theorem decode_none_iff (buf : Bytes) : Frame.decode buf = .ok none ↔ Truncated buf := by
  unfold Frame.decode Truncated
  split
  next short => simp [short]
  next long =>
    dsimp only
    split
    next over_ =>
      simp only [reduceCtorEq, false_iff, not_or, not_and]
      exact ⟨long, fun small => absurd small (Nat.not_le.mpr over_)⟩
    next small =>
      split
      next short => simp [short, Nat.le_of_not_lt small]
      next whole => split <;> simp [long, whole]

variable {buf : Bytes} {payload : String}

theorem decode_some {frame : Frame} (done : Frame.decode buf = .ok (some frame)) :
    headerLen ≤ frame.consumed ∧ frame.consumed ≤ headerLen + maxFrameLen ∧
      frame.consumed ≤ buf.length := by
  unfold Frame.decode at done
  split at done
  · cases done
  · dsimp only at done
    split at done
    · cases done
    next small =>
      split at done
      · cases done
      next whole =>
        split at done
        · cases done
        · cases done
          exact ⟨Nat.le_add_right _ _, Nat.add_le_add_left (Nat.le_of_not_lt small) _,
            Nat.le_of_not_lt whole⟩

theorem decode_append (buf more : Bytes) (decided : Frame.decode buf ≠ .ok none) :
    Frame.decode (buf ++ more) = Frame.decode buf := by
  rw [Ne, decode_none_iff, Truncated, not_or, not_and, Nat.not_lt] at decided
  obtain ⟨header, rest⟩ := decided
  have sameHeader : (buf ++ more).take headerLen = buf.take headerLen :=
    List.take_append_of_le_length header
  have long : headerLen ≤ (buf ++ more).length := by
    rw [List.length_append]
    exact Nat.le_trans header (Nat.le_add_right _ _)
  unfold Frame.decode
  rw [if_neg (Nat.not_lt.mpr header), if_neg (Nat.not_lt.mpr long), sameHeader]
  dsimp only
  split
  · rfl
  next small =>
    have whole := Nat.le_of_not_lt (rest (Nat.le_of_not_lt small))
    have longer : headerLen + fromLeBytes (buf.take headerLen) ≤ (buf ++ more).length := by
      rw [List.length_append]
      exact Nat.le_trans whole (Nat.le_add_right _ _)
    rw [if_neg (Nat.not_lt.mpr whole), if_neg (Nat.not_lt.mpr longer),
      List.take_append_of_le_length whole]

/-- The decoder as a decoder of payloads. -/
def payloads : Incremental FrameError String := fun buf =>
  (Frame.decode buf).map (Option.map (fun frame => (frame.payload, frame.consumed)))

def frameBytes (payload : String) : Bytes :=
  toLeBytes headerLen (utf8 payload).length ++ utf8 payload

theorem encode_ok_iff {bytes : Bytes} :
    Frame.encode payload = .ok bytes ↔
      (utf8 payload).length ≤ maxFrameLen ∧ frameBytes payload = bytes := by
  unfold Frame.encode
  dsimp only
  split
  next large =>
    simp only [reduceCtorEq, false_iff, not_and]
    exact fun fits => absurd fits (Nat.not_le.mpr large)
  next fits => simp only [Except.ok.injEq, Nat.le_of_not_lt fits, true_and, frameBytes]

theorem payloads_stable : payloads.Stable where
  kept buf more decided := by
    have same : Frame.decode buf ≠ .ok none := by
      intro none_
      apply decided
      rw [payloads, none_]
      rfl
    rw [payloads, payloads, decode_append buf more same]
  taken {buf payload count} done := by
    unfold payloads at done
    cases found : Frame.decode buf with
    | error =>
      rw [found] at done
      cases done
    | ok frame =>
      rw [found] at done
      cases frame with
      | none => cases done
      | some =>
        cases done
        obtain ⟨least, _, fits⟩ := decode_some found
        exact ⟨Nat.lt_of_lt_of_le (by decide) least, fits⟩

theorem decode_frameBytes (fits : (utf8 payload).length ≤ maxFrameLen) :
    Frame.decode (frameBytes payload) = .ok (some ⟨payload, (frameBytes payload).length⟩) := by
  have small : (utf8 payload).length < 256 ^ headerLen :=
    Nat.lt_of_le_of_lt fits (by decide)
  have header : (frameBytes payload).take headerLen = toLeBytes headerLen (utf8 payload).length :=
    List.take_left' (length_toLeBytes _ _)
  have rest : (frameBytes payload).drop headerLen = utf8 payload :=
    List.drop_left' (length_toLeBytes _ _)
  have size : (frameBytes payload).length = headerLen + (utf8 payload).length := by
    rw [frameBytes, List.length_append, length_toLeBytes]
  unfold Frame.decode
  rw [if_neg (by omega), header, fromLeBytes_toLeBytes small]
  rw [if_neg (Nat.not_lt.mpr fits), if_neg (by omega), ← size, List.take_length, rest,
    fromUtf8_utf8]

theorem payloads_reads (fits : (utf8 payload).length ≤ maxFrameLen) :
    payloads.Reads frameBytes payload := by
  rw [Incremental.Reads, payloads, decode_frameBytes fits]
  rfl

theorem Truncated.short (truncated : Truncated buf) :
    buf.length < headerLen + maxFrameLen := by
  rcases truncated with header | ⟨small, payload⟩
  · exact Nat.lt_of_lt_of_le header (Nat.le_add_right _ _)
  · exact Nat.lt_of_lt_of_le payload (Nat.add_le_add_left small _)

theorem decode_of_payloads {count : Nat} (found : payloads buf = .ok (some (payload, count))) :
    Frame.decode buf = .ok (some ⟨payload, count⟩) := by
  unfold payloads at found
  cases decoded : Frame.decode buf with
  | error =>
    rw [decoded] at found
    cases found
  | ok frame =>
    rw [decoded] at found
    cases frame <;> cases found
    rfl

theorem decode_none_of_payloads (found : payloads buf = .ok none) :
    Frame.decode buf = .ok none := by
  unfold payloads at found
  cases decoded : Frame.decode buf with
  | error =>
    rw [decoded] at found
    cases found
  | ok frame =>
    rw [decoded] at found
    cases frame <;> cases found
    rfl

theorem decode_stream {later : Bytes} {rest : List String}
    (fits : (utf8 payload).length ≤ maxFrameLen)
    (stream : buf ++ later = (payload :: rest).flatMap frameBytes) :
    Frame.decode buf = .ok none ∨
      Frame.decode buf = .ok (some ⟨payload, (frameBytes payload).length⟩) ∧
        buf.drop (frameBytes payload).length ++ later = rest.flatMap frameBytes := by
  rcases payloads_stable.decode_stream (payloads_reads fits) stream with short | ⟨found, left⟩
  · exact .inl (decode_none_of_payloads short)
  · exact .inr ⟨decode_of_payloads found, left⟩

theorem decode_whole {rest : List String} (fits : (utf8 payload).length ≤ maxFrameLen)
    (stream : buf = (payload :: rest).flatMap frameBytes) : Frame.decode buf ≠ .ok none := by
  rw [decode_of_payloads (payloads_stable.decode_whole (payloads_reads fits) stream)]
  simp

end Decoding

/-- What is still to come of a list of payloads: the buffer and the chunks after it are the frames of
`left`. -/
structure Arrives (buf : Bytes) (reads : List Read) (left : List String) : Prop where
  fit : ∀ payload ∈ left, (utf8 payload).length ≤ maxFrameLen
  cut : ∃ chunks : List Bytes, reads = chunks.map .chunk ∧ (∀ chunk ∈ chunks, chunk ≠ []) ∧
    buf ++ chunks.flatten = left.flatMap frameBytes

section Arriving

variable {buf : Bytes} {reads : List Read} {left : List String}

theorem Arrives.decodes (arrives : Arrives buf reads left) :
    (Frame.decode buf = .ok none ∧ (reads = [] → buf = [] ∧ left = [])) ∨
      ∃ payload rest, left = payload :: rest ∧
        Frame.decode buf = .ok (some ⟨payload, (frameBytes payload).length⟩) ∧
        Arrives (buf.drop (frameBytes payload).length) reads rest := by
  obtain ⟨fit, chunks, rfl, nonempty, stream⟩ := arrives
  cases left with
  | nil =>
    obtain ⟨rfl, _⟩ := List.append_eq_nil_iff.mp stream
    exact .inl ⟨rfl, fun _ => ⟨rfl, rfl⟩⟩
  | cons payload rest =>
    have fits := fit payload List.mem_cons_self
    rcases decode_stream fits stream with short | ⟨found, after⟩
    · refine .inl ⟨short, fun none_ => absurd short ?_⟩
      have nothing : chunks = [] := List.map_eq_nil_iff.mp none_
      rw [nothing, List.flatten_nil, List.append_nil] at stream
      exact decode_whole fits stream
    · exact .inr ⟨payload, rest, rfl, found,
        fun other member => fit other (List.mem_cons_of_mem _ member), chunks, rfl, nonempty, after⟩

theorem Arrives.read (arrives : Arrives buf reads left) {next : Read} {later : List Read}
    (there : reads = next :: later) :
    ∃ bytes, next = .chunk bytes ∧ bytes ≠ [] ∧ Arrives (buf ++ bytes) later left := by
  obtain ⟨fit, chunks, rfl, nonempty, stream⟩ := arrives
  cases chunks with
  | nil => cases there
  | cons chunk chunks =>
    cases there
    refine ⟨chunk, rfl, nonempty chunk List.mem_cons_self, fit, chunks, rfl, ?_, ?_⟩
    · exact fun other member => nonempty other (List.mem_cons_of_mem _ member)
    · rw [List.append_assoc]
      exact stream

end Arriving

section Server

/-- The service neither fails nor takes the stream over. -/
def Service.Carries (service : Service) : Prop :=
  ∀ earlier payload, match service.onFrame earlier payload with
    | none => True
    | some .stream => False
    | some (.response text) =>
      ∀ written, ∃ bytes, Frame.encode text = .ok bytes ∧ service.write written bytes = .ok ()

variable {service : Service} {loop after : FrameLoop}

theorem answer_keeps (service : Service) (loop : FrameLoop) (reply : Option Reply) :
    (loop.answer service reply).buf = loop.buf ∧ (loop.answer service reply).reads = loop.reads ∧
      (loop.answer service reply).handed = loop.handed := by
  unfold FrameLoop.answer
  split
  · exact ⟨rfl, rfl, rfl⟩
  · exact ⟨rfl, rfl, rfl⟩
  · split
    · exact ⟨rfl, rfl, rfl⟩
    · split <;> exact ⟨rfl, rfl, rfl⟩

theorem answer_goesOn (carries : service.Carries) (earlier : List String) (payload : String) :
    (loop.answer service (service.onFrame earlier payload)).ending = loop.ending := by
  have carried := carries earlier payload
  unfold FrameLoop.answer
  cases replied : service.onFrame earlier payload with
  | none => rfl
  | some reply =>
    rw [replied] at carried
    cases reply with
    | stream => exact carried.elim
    | response =>
      obtain ⟨bytes, encoded, writes⟩ := carried loop.written
      simp only [encoded, writes]

inductive FrameLoop.Turns (service : Service) (loop after : FrameLoop) : Prop
  | hands (frame : Frame) (found : Frame.decode loop.buf = .ok (some frame))
      (buf : after.buf = loop.buf.drop frame.consumed) (reads : after.reads = loop.reads)
      (handed : after.handed = loop.handed ++ [frame.payload])
      (goesOn : service.Carries → after.ending = none)
  | reads (bytes : Bytes) (later : List Read) (waits : Frame.decode loop.buf = .ok none)
      (there : loop.reads = .chunk bytes :: later)
      (after_eq : after = { loop with buf := loop.buf ++ bytes, reads := later })
  | ends (ending : Ending) (nothing : ∀ frame, Frame.decode loop.buf ≠ .ok (some frame))
      (closed : Frame.decode loop.buf = .ok none →
        ∀ bytes later, loop.reads = .chunk bytes :: later → bytes = [])
      (after_eq : after = { loop with ending := some ending })

theorem read_turns (waits : Frame.decode loop.buf = .ok none) :
    FrameLoop.Turns service loop loop.read := by
  have nothing : ∀ frame, Frame.decode loop.buf ≠ .ok (some frame) := by simp [waits]
  unfold FrameLoop.read
  split
  next there => exact .ends .disconnected nothing (fun _ _ _ other => by simp [there] at other) rfl
  next there =>
    exact .ends .disconnected nothing (fun _ _ _ other => by simp_all) rfl
  next there => exact .ends .idle nothing (fun _ _ _ other => by simp [there] at other) rfl
  next detail _ there =>
    exact .ends (.failed detail) nothing (fun _ _ _ other => by simp [there] at other) rfl
  next bytes later _ there => exact .reads bytes later waits there rfl

theorem turn_turns (turns : loop.turn service = some after) :
    loop.ending = none ∧ FrameLoop.Turns service loop after := by
  unfold FrameLoop.turn at turns
  split at turns
  · cases turns
  next goesOn =>
    refine ⟨goesOn, ?_⟩
    split at turns
    next frame found =>
      cases turns
      obtain ⟨buf, reads, handed⟩ := answer_keeps service
        { loop with buf := loop.buf.drop frame.consumed, handed := loop.handed ++ [frame.payload] }
        (service.onFrame loop.handed frame.payload)
      exact .hands frame found buf reads handed fun carries =>
        (answer_goesOn carries _ _).trans goesOn
    next waits =>
      cases turns
      exact read_turns waits
    next error refused =>
      cases turns
      exact .ends .undecodable (by simp [refused]) (by simp [refused]) rfl

theorem ended_of_stops (stops : loop.turn service = none) : loop.ending.isSome = true := by
  unfold FrameLoop.turn at stops
  split at stops
  next ending => rw [ending]; rfl
  next => split at stops <;> cases stops

/-- Of all the payloads those before `left` were handed on, `left` is still to come, and the loop does
not end before it came. -/
structure HandsOn (all : List String) (loop : FrameLoop) (left : List String) : Prop where
  split : all = loop.handed ++ left
  arrives : Arrives loop.buf loop.reads left
  ended : loop.ending.isSome = true → left = []

theorem handsOn_turn (carries : service.Carries) {all left : List String}
    (hands : HandsOn all loop left) (turns : loop.turn service = some after) :
    ∃ rest, HandsOn all after rest := by
  obtain ⟨goesOn, turns⟩ := turn_turns turns
  cases turns with
  | hands _ found buf reads handed ending =>
    rcases hands.arrives.decodes with ⟨short, _⟩ | ⟨payload, rest, rfl, decoded, arrives⟩
    · cases short.symm.trans found
    · cases decoded.symm.trans found
      refine ⟨rest, ?_, ?_, ?_⟩
      · rw [handed, List.append_assoc]
        exact hands.split
      · rw [buf, reads]
        exact arrives
      · simp [ending carries]
  | reads _ _ _ there after_eq =>
    obtain ⟨_, same, _, arrives⟩ := hands.arrives.read there
    cases same
    subst after_eq
    exact ⟨left, hands.split, arrives, by simp [goesOn]⟩
  | ends _ nothing closed after_eq =>
    subst after_eq
    refine ⟨left, hands.split, hands.arrives, fun _ => ?_⟩
    rcases hands.arrives.decodes with ⟨short, last⟩ | ⟨payload, rest, rfl, decoded, _⟩
    · cases reads : loop.reads with
      | nil => exact (last reads).2
      | cons _ later =>
        obtain ⟨bytes, rfl, some_, _⟩ := hands.arrives.read reads
        exact absurd (closed short bytes later reads) some_
    · exact absurd decoded (nothing _)

theorem handed_all (carries : service.Carries) {all : List String} {reads : List Read}
    (arrives : Arrives [] reads all) {history : List (Taken FrameLoop Unit)} {last : FrameLoop}
    (serves : Serves service { buf := [], reads } history last) :
    last.handed <+: all ∧ (last.turn service = none → last.handed = all) := by
  have start : HandsOn all { buf := [], reads } all := ⟨rfl, arrives, by simp⟩
  obtain ⟨left, hands⟩ := run_state_invariant (fun loop => ∃ left, HandsOn all loop left)
    ⟨all, start⟩ (fun _ _ _ ⟨_, hands⟩ turns => handsOn_turn carries hands turns) serves
  refine ⟨⟨left, hands.split.symm⟩, fun stops => ?_⟩
  have split := hands.split
  rw [hands.ended (ended_of_stops stops), List.append_nil] at split
  exact split.symm

/-- The bytes that are left, and the turns they can take. -/
def Read.weight : Read → Nat
  | .chunk bytes => bytes.length + 1
  | .timedOut | .failed _ => 1

def FrameLoop.budget (loop : FrameLoop) : Nat :=
  loop.buf.length + (loop.reads.map Read.weight).sum + (if loop.ending.isNone then 1 else 0)

theorem turn_budget (turns : loop.turn service = some after) : after.budget < loop.budget := by
  obtain ⟨goesOn, turns⟩ := turn_turns turns
  cases turns with
  | hands _ found buf reads _ _ =>
    obtain ⟨least, _, fits⟩ := decode_some found
    have : 0 < headerLen := by decide
    simp only [FrameLoop.budget, buf, reads, goesOn]
    split <;> simp <;> omega
  | reads _ _ _ there after_eq =>
    subst after_eq
    simp only [FrameLoop.budget, there, List.length_append, List.map_cons, Read.weight,
      List.sum_cons]
    omega
  | ends _ _ _ after_eq =>
    subst after_eq
    simp [FrameLoop.budget, goesOn]

/-- No more is buffered than a frame that is not complete, and what one read adds to it. -/
structure Bounded (buf : Bytes) (reads : List Read) : Prop where
  buffered : buf.length ≤ headerLen + maxFrameLen + readChunk
  chunks : ∀ bytes, .chunk bytes ∈ reads → bytes.length ≤ readChunk

theorem Bounded.drop {buf : Bytes} {reads : List Read} (bounded : Bounded buf reads) (count : Nat) :
    Bounded (buf.drop count) reads :=
  ⟨Nat.le_trans (by simp) bounded.buffered, bounded.chunks⟩

theorem Bounded.read {buf bytes : Bytes} {later : List Read}
    (bounded : Bounded buf (.chunk bytes :: later)) (waits : Frame.decode buf = .ok none) :
    Bounded (buf ++ bytes) later := by
  have short := ((decode_none_iff buf).mp waits).short
  have added := bounded.chunks bytes List.mem_cons_self
  constructor
  · rw [List.length_append]
    omega
  · exact fun other member => bounded.chunks other (List.mem_cons_of_mem _ member)

theorem bounded_turn (turns : loop.turn service = some after)
    (bounded : Bounded loop.buf loop.reads) : Bounded after.buf after.reads := by
  cases (turn_turns turns).2 with
  | hands frame _ buf reads =>
    rw [buf, reads]
    exact bounded.drop frame.consumed
  | reads _ _ waits there after_eq =>
    subst after_eq
    rw [there] at bounded
    exact bounded.read waits
  | ends _ _ _ after_eq =>
    subst after_eq
    exact bounded

end Server

section Client

variable {connection after : Connection}

theorem bounded_clientTurn {result : Option (Except ClientError (Option String))}
    (turns : connection.turn = (result, after)) (bounded : Bounded connection.buf connection.reads) :
    Bounded after.buf after.reads := by
  unfold Connection.turn at turns
  split at turns
  · cases turns
    exact bounded.drop _
  · cases turns
    exact bounded
  next waits =>
    split at turns
    · cases turns
      exact bounded
    · cases turns
      exact bounded
    · cases turns
      exact bounded
    next later there =>
      cases turns
      exact ⟨bounded.buffered, fun bytes member =>
        bounded.chunks bytes (by rw [there]; exact List.mem_cons_of_mem _ member)⟩
    next bytes later _ there =>
      cases turns
      rw [there] at bounded
      exact bounded.read waits

theorem nextFrame_of_returns {result : Except ClientError (Option String)}
    (turns : connection.turn = (some result, after)) : connection.nextFrame = (result, after) := by
  rw [Connection.nextFrame]
  split
  next same =>
    cases same.symm.trans turns
    rfl
  next same => cases same.symm.trans turns

theorem nextFrame_of_reads (turns : connection.turn = (none, after)) :
    connection.nextFrame = after.nextFrame := by
  rw [Connection.nextFrame]
  split
  next same => cases same.symm.trans turns
  next same =>
    cases same.symm.trans turns
    rfl

theorem nextFrame_of_decodes {buf : Bytes} {reads : List Read} {frame : Frame}
    (found : Frame.decode buf = .ok (some frame)) :
    Connection.nextFrame ⟨buf, reads⟩ =
      (.ok (some frame.payload), ⟨buf.drop frame.consumed, reads⟩) := by
  apply nextFrame_of_returns
  rw [Connection.turn, found]

theorem nextFrame_arrives {buf : Bytes} {reads : List Read} {left : List String}
    (arrives : Arrives buf reads left) :
    (left = [] ∧ (Connection.nextFrame ⟨buf, reads⟩).1 = .ok none) ∨
      ∃ payload rest later, left = payload :: rest ∧
        Connection.nextFrame ⟨buf, reads⟩ = (.ok (some payload), later) ∧
        Arrives later.buf later.reads rest := by
  induction reads generalizing buf with
  | nil =>
    rcases arrives.decodes with ⟨_, last⟩ | ⟨payload, rest, same, found, later⟩
    · obtain ⟨rfl, ended⟩ := last rfl
      have turns : (⟨[], []⟩ : Connection).turn = (some (.ok none), ⟨[], []⟩) := rfl
      exact .inl ⟨ended, by rw [nextFrame_of_returns turns]⟩
    · exact .inr ⟨payload, rest, ⟨_, _⟩, same,
        nextFrame_of_decodes found, later⟩
  | cons _ reads ih =>
    rcases arrives.decodes with ⟨short, _⟩ | ⟨payload, rest, same, found, later⟩
    · obtain ⟨bytes, rfl, some_, more⟩ := arrives.read rfl
      obtain ⟨byte, bytes, rfl⟩ := List.exists_cons_of_ne_nil some_
      have turns : (⟨buf, .chunk (byte :: bytes) :: reads⟩ : Connection).turn =
          (none, ⟨buf ++ byte :: bytes, reads⟩) := by
        rw [Connection.turn, short]
      rw [nextFrame_of_reads turns]
      exact ih more
    · exact .inr ⟨payload, rest, ⟨_, _⟩, same,
        nextFrame_of_decodes found, later⟩

theorem frames_arrives {left : List String}
    (arrives : Arrives connection.buf connection.reads left) :
    connection.frames (left.length + 1) =
      left.map (fun payload => .ok (some payload)) ++ [.ok none] := by
  induction left generalizing connection with
  | nil =>
    rcases nextFrame_arrives arrives with ⟨_, none_⟩ | ⟨_, _, _, same, _⟩
    · simp only [Connection.frames, none_]
      rfl
    · cases same
  | cons _ _ ih =>
    rcases nextFrame_arrives arrives with ⟨same, _⟩ | ⟨_, _, later, same, next, more⟩
    · cases same
    · cases same
      rw [List.length_cons, Connection.frames, next, ih more]
      rfl

end Client

theorem encode_all {payloads : List String}
    (fit : ∀ payload ∈ payloads, (utf8 payload).length ≤ maxFrameLen) :
    payloads.mapM Frame.encode = .ok (payloads.map frameBytes) := by
  induction payloads with
  | nil => rfl
  | cons payload _ ih =>
    rw [List.mapM_cons, encode_ok_iff.mpr ⟨fit payload List.mem_cons_self, rfl⟩,
      ih fun other member => fit other (List.mem_cons_of_mem _ member)]
    rfl

/-- However the frames of a list of payloads are cut, both ends read those payloads, the server as long
as its handler neither fails nor takes the stream over. What the decoder says of a buffer it says again
when more has arrived, unless it asked for more; it asks for more when the header or the payload is not
complete; and neither end buffers more than a frame that is not complete and one read. -/
theorem framing_survives_chunking :
    (∀ payloads : List String, (∀ payload ∈ payloads, (utf8 payload).length ≤ maxFrameLen) →
      ∃ frames, payloads.mapM Frame.encode = .ok frames ∧
        ∀ chunks : List Bytes, (∀ chunk ∈ chunks, chunk ≠ []) → chunks.flatten = frames.flatten →
          (∀ service : Service, service.Carries →
            (∃ history last, Serves service { buf := [], reads := chunks.map .chunk } history last ∧
              last.turn service = none) ∧
            (∀ history last, Serves service { buf := [], reads := chunks.map .chunk } history last →
              last.handed <+: payloads ∧ (last.turn service = none → last.handed = payloads))) ∧
          Connection.frames ⟨[], chunks.map .chunk⟩ (payloads.length + 1) =
            payloads.map (fun payload => .ok (some payload)) ++ [.ok none]) ∧
      (∀ buf, Frame.decode buf = .ok none ↔ Truncated buf) ∧
      (∀ buf more, Frame.decode buf ≠ .ok none → Frame.decode (buf ++ more) = Frame.decode buf) ∧
      (∀ buf frame, Frame.decode buf = .ok (some frame) →
        headerLen ≤ frame.consumed ∧ frame.consumed ≤ headerLen + maxFrameLen) ∧
      (∀ service initial reads history last, initial.length ≤ readChunk →
        (∀ bytes, .chunk bytes ∈ reads → bytes.length ≤ readChunk) →
        Serves service { buf := initial, reads } history last →
        last.buf.length ≤ headerLen + maxFrameLen + readChunk) ∧
      (∀ reads history last, (∀ bytes, .chunk bytes ∈ reads → bytes.length ≤ readChunk) →
        Receives ⟨[], reads⟩ history last →
        last.buf.length ≤ headerLen + maxFrameLen + readChunk) := by
  refine ⟨?_, decode_none_iff, decode_append, fun buf frame found => ?_, ?_, ?_⟩
  · intro payloads fit
    refine ⟨_, encode_all fit, fun chunks nonempty stream => ?_⟩
    have arrives : Arrives [] (chunks.map .chunk) payloads :=
      ⟨fit, chunks, rfl, nonempty, by rw [stream]; rfl⟩
    exact ⟨fun service carries => ⟨run_to_end _ FrameLoop.budget (fun _ _ turns => turn_budget turns) _,
      fun history last serves => handed_all carries arrives serves⟩, frames_arrives arrives⟩
  · obtain ⟨least, most, _⟩ := decode_some found
    exact ⟨least, most⟩
  · intro service initial reads history last short chunks run
    have start : Bounded initial reads := ⟨Nat.le_trans short (Nat.le_add_left _ _), chunks⟩
    exact (run_state_invariant (fun loop : FrameLoop => Bounded loop.buf loop.reads) start
      (fun _ _ _ bounded turns => bounded_turn turns bounded) run).buffered
  · intro reads history last chunks run
    exact (run_state_invariant (fun connection : Connection => Bounded connection.buf connection.reads)
      ⟨Nat.zero_le _, chunks⟩ (fun _ _ _ bounded turns => bounded_clientTurn turns bounded) run).buffered

/-- Two frames in four chunks, for a service that answers each with an empty text. -/
theorem framing_survives_chunking_answered :
    let service : Service := ⟨fun _ _ => some (.response ""), fun _ _ => .ok ()⟩
    ∃ history last, Serves service
      { buf := [], reads := [[2], [0, 0, 0, 104], [105, 0, 0], [0, 0]].map .chunk } history last ∧
        last.handed = ["hi", ""] := by
  intro service
  have carries : service.Carries := fun _ _ _ => ⟨_, rfl, rfl⟩
  obtain ⟨frames, encoded, cut⟩ := framing_survives_chunking.1 ["hi", ""] (by decide +kernel)
  have same : ["hi", ""].mapM Frame.encode = .ok [[2, 0, 0, 0, 104, 105], [0, 0, 0, 0]] := by
    decide +kernel
  cases encoded.symm.trans same
  obtain ⟨⟨history, last, serves, stops⟩, handsOn⟩ :=
    (cut [[2], [0, 0, 0, 104], [105, 0, 0], [0, 0]] (by decide) rfl).1 service carries
  exact ⟨history, last, serves, (handsOn history last serves).2 stops⟩

/-- The third byte of a length already says that it is too large, but the decoder asks for more. -/
theorem decode_waits_for_nothing :
    Frame.decode [0, 0, 0x11] = .ok none ∧
      ∀ more frame, Frame.decode ([0, 0, 0x11] ++ more) ≠ .ok (some frame) := by
  refine ⟨rfl, fun more frame => ?_⟩
  cases more with
  | nil => simp [Frame.decode, headerLen]
  | cons byte rest =>
    have large : maxFrameLen < fromLeBytes [0, 0, 0x11, byte] := by
      simp [fromLeBytes, maxFrameLen]
      omega
    have long : ¬ rest.length + 1 + 1 + 1 + 1 < 4 := by omega
    simp [Frame.decode, headerLen, large, long]

end DnetEngine.Ipc
