import DnetEngine.Core.Probe
import DnetEngine.Lib.Bytes
import DnetEngine.Lib.Search

/-! One measured transfer over a connection that is open: what is reported of it, for every cut of
the response into reads. -/

namespace DnetEngine.Measure

open Lib

def maxHead : Nat := 16 * 1024

/-- `\r\n\r\n`. -/
def headEnd : Bytes := [13, 10, 13, 10]

/-- `HTTP/`. -/
def versionStart : Bytes := [72, 84, 84, 80, 47]

/-- Whether a response head's status line is a 2xx. -/
def isSuccess (head : Bytes) : Bool :=
  let line := head.takeWhile (· != 10)
  match line.dropWhile (· != 32) with
  | _ :: status =>
    versionStart.isPrefixOf (line.takeWhile (· != 32)) &&
      (status.takeWhile (· != 32)).head? == some 50
  | [] => false

/-- What a read returns before the deadline: no bytes at the end of the stream. -/
inductive Read
  | data (bytes : Bytes)
  | error
  deriving DecidableEq

structure Progress where
  head : Bytes := []
  inBody : Bool := false
  body : Nat := 0
  deriving DecidableEq

/-- One read that returned something; `none` is a response to be given up. -/
def Progress.receive (progress : Progress) (chunk : Bytes) : Option Progress :=
  if progress.inBody then some { progress with body := progress.body + chunk.length }
  else
    let head := progress.head ++ chunk
    match findWindow headEnd head with
    | some place =>
      if isSuccess (head.take place) then some ⟨[], true, head.length - (place + 4)⟩ else none
    | none => if maxHead < head.length then none else some { progress with head }

def report (body : Nat) (cutShort : Bool) (elapsed : Duration) : ProfileProbe :=
  if body == 0 || cutShort then .handshakeOnly else .transferred body (max elapsed 1000)

/-- The loop. It ends with `reads` where the deadline passes. -/
def readAll (bytes : Nat) (elapsed : Duration) : Progress → List Read → ProfileProbe
  | progress, [] => report progress.body false elapsed
  | progress, .error :: _ | progress, .data [] :: _ => report progress.body true elapsed
  | progress, .data (byte :: chunk) :: reads =>
    match progress.receive (byte :: chunk) with
    | none => .handshakeOnly
    | some next =>
      if bytes ≤ next.body then report next.body false elapsed
      else readAll bytes elapsed next reads

/-- `bytes` is the body size that is asked for, `written` whether the request could be sent. -/
def transfer (bytes : Nat) (written : Bool) (reads : List Read) (elapsed : Duration) :
    ProfileProbe :=
  if written then readAll bytes elapsed {} reads else .handshakeOnly

/-- The stream is a head, the first `\r\n\r\n` in it, and a body. -/
structure Response (stream head body : Bytes) : Prop where
  whole : stream = head ++ headEnd ++ body
  first : ∀ earlier later, stream = earlier ++ headEnd ++ later → head.length ≤ earlier.length

/-- The first line begins with `HTTP/`, and what follows its first blank with the digit 2. -/
def LooksSuccessful (head : Bytes) : Prop :=
  ∃ version status, head.takeWhile (· != 10) = version ++ 32 :: 50 :: status ∧
    32 ∉ version ∧ versionStart <+: version

theorem headEnd_ne_nil : headEnd ≠ [] := List.cons_ne_nil _ _

theorem response_iff {stream head body : Bytes} :
    Response stream head body ↔
      stream = head ++ headEnd ++ body ∧ findWindow headEnd stream = some head.length := by
  constructor
  · intro response
    refine ⟨response.whole, (findWindow_eq_some_iff headEnd_ne_nil).mpr ⟨?_, ?_⟩⟩
    · rw [response.whole, List.append_assoc, List.drop_left]
      exact List.prefix_append _ _
    · rintro place before ⟨later, here⟩
      have parts : stream = stream.take place ++ headEnd ++ later := by
        rw [List.append_assoc, here, List.take_append_drop]
      have behind := response.first _ _ parts
      rw [List.length_take] at behind
      omega
  · rintro ⟨whole, found⟩
    refine ⟨whole, fun earlier later parts => Nat.le_of_not_lt fun before => ?_⟩
    apply ((findWindow_eq_some_iff headEnd_ne_nil).mp found).2 _ before
    rw [parts, List.append_assoc, List.drop_left]
    exact List.prefix_append _ _

theorem isSuccess_iff {head : Bytes} : isSuccess head = true ↔ LooksSuccessful head := by
  rw [isSuccess, LooksSuccessful]
  generalize head.takeWhile (· != 10) = line
  constructor
  · intro success
    split at success
    next separator status behind =>
      have blank := List.head?_dropWhile_not (· != 32) line
      rw [behind] at blank
      have separator_eq : separator = 32 := by simpa using blank
      simp only [Bool.and_eq_true, List.isPrefixOf_iff_prefix] at success
      cases status with
      | nil => simp at success
      | cons digit status =>
        have digit_eq : digit = 50 := by
          by_cases other : digit = 32
          · simp [other] at success
          · simpa [other] using success.2
        subst separator_eq digit_eq
        refine ⟨_, status, ?_, ?_, success.1⟩
        · rw [← behind, List.takeWhile_append_dropWhile]
        · intro inside
          simpa using List.mem_takeWhile_imp inside
    next => cases success
  · rintro ⟨version, status, rfl, unbroken, starts⟩
    have plain : ∀ byte ∈ version, (byte != 32) = true := by
      intro byte member
      rw [bne_iff_ne]
      rintro rfl
      exact unbroken member
    rw [List.dropWhile_append_of_pos plain, List.takeWhile_append_of_pos plain]
    simpa using starts

/-- The progress once `received` has come in and was not given up. -/
def reached (received : Bytes) : Progress :=
  match findWindow headEnd received with
  | some place => ⟨[], true, received.length - (place + 4)⟩
  | none => { head := received }

theorem receive_reached (received chunk : Bytes) :
    (reached received).receive chunk =
      if (findWindow headEnd received).isSome then some (reached (received ++ chunk))
      else match findWindow headEnd (received ++ chunk) with
        | some place =>
          if isSuccess ((received ++ chunk).take place) then some (reached (received ++ chunk))
          else none
        | none =>
          if maxHead < (received ++ chunk).length then none
          else some (reached (received ++ chunk)) := by
  cases before : findWindow headEnd received with
  | some =>
    have fits := fits_of_findWindow headEnd_ne_nil before
    have still := (findWindow_append headEnd_ne_nil chunk fits).mpr before
    have length : headEnd.length = 4 := rfl
    simp only [reached, before, still, Progress.receive, if_true,
      List.length_append]
    congr 2
    omega
  | none =>
    simp only [reached, before, Progress.receive, Bool.false_eq_true, if_false]
    split <;> rfl

/-- What has come in so far was taken for the beginning of a successful response. -/
def Fine (received : Bytes) : Prop :=
  ∀ place, findWindow headEnd received = some place → isSuccess (received.take place) = true

theorem fine_of_receive {received chunk : Bytes} {next : Progress} (fine : Fine received)
    (goesOn : (reached received).receive chunk = some next) :
    next = reached (received ++ chunk) ∧ Fine (received ++ chunk) := by
  rw [receive_reached] at goesOn
  split at goesOn
  next found =>
    obtain ⟨place, before⟩ := Option.isSome_iff_exists.mp found
    have fits := fits_of_findWindow headEnd_ne_nil before
    refine ⟨(Option.some.inj goesOn).symm, fun other again => ?_⟩
    rw [(findWindow_append headEnd_ne_nil chunk fits).mpr before] at again
    cases again
    rw [List.take_append_of_le_length (by omega)]
    exact fine _ before
  next =>
    split at goesOn
    next place found =>
      obtain ⟨success, goesOn⟩ := Option.ite_none_right_eq_some.mp goesOn
      refine ⟨(Option.some.inj goesOn).symm, fun other again => ?_⟩
      rw [found] at again
      cases again
      exact success
    next none_ =>
      obtain ⟨_, goesOn⟩ := Option.ite_none_left_eq_some.mp goesOn
      refine ⟨(Option.some.inj goesOn).symm, fun place found => ?_⟩
      rw [none_] at found
      cases found

theorem report_transferred {body bytes : Nat} {cutShort : Bool} {elapsed time : Duration}
    (reported : report body cutShort elapsed = .transferred bytes time) :
    bytes = body ∧ 0 < body ∧ cutShort = false := by
  rw [report] at reported
  split at reported
  · cases reported
  next moved =>
    cases reported
    simp only [Bool.or_eq_true, beq_iff_eq, not_or, Bool.not_eq_true] at moved
    exact ⟨rfl, Nat.pos_of_ne_zero moved.1, moved.2⟩

theorem response_of_reached {received : Bytes} (fine : Fine received)
    (some_ : 0 < (reached received).body) :
    ∃ head body, Response received head body ∧ LooksSuccessful head ∧
      (reached received).body = body.length := by
  rw [reached] at some_ ⊢
  split
  next place found =>
    obtain ⟨body, here⟩ := ((findWindow_eq_some_iff headEnd_ne_nil).mp found).1
    have fits := fits_of_findWindow headEnd_ne_nil found
    have length : headEnd.length = 4 := rfl
    have whole : received = received.take place ++ headEnd ++ body := by
      rw [List.append_assoc, here, List.take_append_drop]
    refine ⟨received.take place, body, response_iff.mpr ⟨whole, ?_⟩, ?_, ?_⟩
    · rw [found, List.length_take, Nat.min_eq_left (by omega)]
    · exact isSuccess_iff.mp (fine place found)
    · have total := congrArg List.length here
      simp only [List.length_append, List.length_drop] at total
      dsimp only
      omega
  next none_ => simp [none_] at some_

section Reads

variable {bytes : Nat} {elapsed : Duration}

/-- What is reported as transferred came in by reads that returned something, and either is enough
or all there was before the deadline. -/
theorem received_of_transferred {reads : List Read} (received : Bytes) {amount : Nat}
    {time : Duration} (fine : Fine received)
    (done : readAll bytes elapsed (reached received) reads = .transferred amount time) :
    ∃ (chunks : List Bytes) (rest : List Read), reads = chunks.map .data ++ rest ∧ [] ∉ chunks ∧
      Fine (received ++ chunks.flatten) ∧ amount = (reached (received ++ chunks.flatten)).body ∧
      0 < amount ∧ (bytes ≤ amount ∨ rest = []) := by
  induction reads generalizing received with
  | nil =>
    obtain ⟨rfl, moved, _⟩ := report_transferred done
    exact ⟨[], [], rfl, List.not_mem_nil, by simpa using fine, by simp, moved, .inr rfl⟩
  | cons read reads ih =>
    match read with
    | .error | .data [] =>
      obtain ⟨_, _, cut⟩ := report_transferred done
      cases cut
    | .data (byte :: chunk) =>
      rw [readAll] at done
      split at done
      · cases done
      next next goesOn =>
        obtain ⟨rfl, fine⟩ := fine_of_receive fine goesOn
        split at done
        next enough =>
          obtain ⟨rfl, moved, _⟩ := report_transferred done
          exact ⟨[byte :: chunk], reads, rfl, by simp, by simpa using fine, by simp, moved,
            .inl enough⟩
        next =>
          obtain ⟨chunks, rest, rfl, full, fine, amount_eq, result⟩ := ih _ fine done
          refine ⟨(byte :: chunk) :: chunks, rest, rfl, by simpa using full, ?_, ?_, result⟩
          · simpa using fine
          · simpa using amount_eq

theorem report_of_pos {body : Nat} (moved : 0 < body) :
    report body false elapsed = .transferred body (max elapsed 1000) := by
  simp [report, Nat.ne_of_gt moved]

theorem receive_of_response {received chunk later head body : Bytes}
    (response : Response (received ++ chunk ++ later) head body)
    (success : isSuccess head = true) (fits : head.length + 3 ≤ maxHead) :
    (reached received).receive chunk = some (reached (received ++ chunk)) := by
  obtain ⟨whole, found⟩ := response_iff.mp response
  rw [receive_reached]
  split
  · rfl
  · split
    next place here =>
      have inside := fits_of_findWindow headEnd_ne_nil here
      have same := (findWindow_append headEnd_ne_nil later inside).mpr here
      rw [found] at same
      have head_eq : (received ++ chunk).take place = head := by
        rw [← List.take_append_of_le_length (by omega), whole, ← Option.some.inj same,
          List.append_assoc, List.take_left]
      rw [head_eq, if_pos success]
    next none_ =>
      have short : (received ++ chunk).length < head.length + headEnd.length := by
        refine Nat.lt_of_not_le fun long => ?_
        rw [(findWindow_append headEnd_ne_nil later long).mp found] at none_
        cases none_
      have length : headEnd.length = 4 := rfl
      rw [if_neg (by omega)]

/-- A response with enough of a body is transferred from wherever the reads have come to in it, if
its head and all but one byte of the end of that fit into what is kept. -/
theorem transferred_of_response (received : Bytes) {chunks : List Bytes} (rest : List Read)
    {head body : Bytes}
    (full : [] ∉ chunks) (response : Response (received ++ chunks.flatten) head body)
    (success : isSuccess head = true) (fits : head.length + 3 ≤ maxHead) (asked : 0 < bytes)
    (enough : bytes ≤ body.length) (open_ : (reached received).body < bytes) :
    ∃ amount time, readAll bytes elapsed (reached received) (chunks.map .data ++ rest) =
      .transferred amount time := by
  obtain ⟨whole, found⟩ := response_iff.mp response
  have length : headEnd.length = 4 := rfl
  induction chunks generalizing received with
  | nil =>
    have all : (reached received).body = body.length := by
      simp only [List.flatten_nil, List.append_nil] at whole found
      simp only [reached, found]
      rw [whole]
      simp only [List.length_append]
      omega
    omega
  | cons chunk _ ih =>
    rw [List.flatten_cons, ← List.append_assoc] at response whole found
    have taken := receive_of_response response success fits
    obtain ⟨byte, more, rfl⟩ : ∃ byte more, chunk = byte :: more :=
      List.exists_cons_of_ne_nil fun none_ => full (none_ ▸ List.mem_cons_self)
    simp only [List.map_cons, List.cons_append, readAll, taken]
    split
    next reached_ => exact ⟨_, _, report_of_pos (by omega)⟩
    next missing =>
      exact ih _ (fun inside => full (List.mem_cons_of_mem _ inside)) response
        (Nat.lt_of_not_le missing) whole found

end Reads

/-- A status line with a code of three digits, the first a 2. -/
def Has2xx (head : Bytes) : Prop :=
  ∃ version tens units reason,
    head.takeWhile (· != 10) = version ++ 32 :: 50 :: tens :: units :: reason ∧ 32 ∉ version ∧
      versionStart <+: version ∧ 48 ≤ tens ∧ tens ≤ 57 ∧ 48 ≤ units ∧ units ≤ 57 ∧
      (reason = [] ∨ reason = [13] ∨ reason.head? = some 32)

/-- `HTTP/1.0 2`. -/
def shortStatus : Bytes := [72, 84, 84, 80, 47, 49, 46, 48, 32, 50]

theorem shortStatus_not_2xx : ¬ Has2xx shortStatus := by
  rintro ⟨version, tens, units, reason, line, _⟩
  have all : shortStatus.takeWhile (· != 10) = shortStatus := by decide
  rw [all] at line
  have length := congrArg List.length line
  have blank : shortStatus[version.length]? = some 32 := by rw [line]; simp
  have early : ∀ place ≤ 6, shortStatus[place]? ≠ some 32 := by decide
  refine early version.length ?_ blank
  simp only [shortStatus, List.length_cons, List.length_nil, List.length_append] at length
  omega

/-- `HTTP/1.0 200 `. -/
def okStatus : Bytes := [72, 84, 84, 80, 47, 49, 46, 48, 32, 50, 48, 48, 32]

/-- A reason that makes the head as long as it may be. -/
def longHead : Bytes := okStatus ++ List.replicate (maxHead - 13) 97

theorem mem_longHead {byte : UInt8} (member : byte ∈ longHead) : byte ≠ 10 ∧ byte ≠ 13 := by
  have plain : okStatus.all (fun byte => byte != 10 && byte != 13) = true := by decide
  rw [longHead, List.mem_append, List.mem_replicate] at member
  rcases member with start | ⟨_, rfl⟩
  · simpa using List.all_eq_true.mp plain byte start
  · decide

theorem length_longHead : longHead.length = maxHead := by
  rw [longHead, List.length_append, List.length_replicate]
  rfl

theorem longHead_2xx : Has2xx longHead := by
  have all : longHead.takeWhile (· != 10) = longHead := by
    rw [List.takeWhile_eq_self_iff]
    intro byte member
    rw [bne_iff_ne]
    exact (mem_longHead member).1
  rw [Has2xx, all]
  exact ⟨[72, 84, 84, 80, 47, 49, 46, 48], 48, 48, 32 :: List.replicate (maxHead - 13) 97, rfl,
    by decide, by decide, by decide, by decide, by decide, by decide, .inr (.inr rfl)⟩

end DnetEngine.Measure
