import DnetEngine.Provision.LedgerFile

/-! What is read from the ledger's file when it is opened again, after any sequence of appends that
succeeded, failed or were cut off. -/

namespace DnetEngine.Provision

open Lib

section Counting

/-- What of the appends counts: all that returned `Ok`, in order, and any of the others. -/
inductive Counted : List (Event × Bool) → List (Event × Bool) → Prop
  | nothing : Counted [] []
  | counts {history counted : List (Event × Bool)} (append : Event × Bool)
      (rest : Counted history counted) : Counted (append :: history) (append :: counted)
  | left {history counted : List (Event × Bool)} (event : Event)
      (rest : Counted history counted) : Counted ((event, false) :: history) counted

theorem counted_all (history : List (Event × Bool)) : Counted history history := by
  induction history with
  | nil => exact .nothing
  | cons append _ ih => exact .counts append ih

variable {history counted : List (Event × Bool)}

theorem counted_none (cut : ∀ append ∈ history, append.2 = false) :
    Counted history [] := by
  induction history with
  | nil => exact .nothing
  | cons append _ ih =>
    obtain ⟨event, ok⟩ := append
    have isCut : ok = false := cut (event, ok) List.mem_cons_self
    rw [isCut]
    exact .left event (ih fun other member => cut other (List.mem_cons_of_mem _ member))

theorem Counted.append {one two first second : List (Event × Bool)} (left : Counted one first)
    (right : Counted two second) : Counted (one ++ two) (first ++ second) := by
  induction left with
  | nothing => exact right
  | counts append _ ih => exact .counts append ih
  | left event _ ih => exact .left event ih

theorem Counted.trans {middle : List (Event × Bool)} (first : Counted history middle)
    (second : Counted middle counted) : Counted history counted := by
  induction first generalizing counted with
  | nothing => exact second
  | counts append _ ih =>
    cases second with
    | counts _ rest => exact .counts append (ih rest)
    | left event rest => exact .left event (ih rest)
  | left event _ ih => exact .left event (ih second)

theorem Counted.mem (count : Counted history counted) {event : Event} (ok : (event, true) ∈ history)
    : (event, true) ∈ counted := by
  induction count with
  | nothing => exact ok
  | counts _ _ ih =>
    rcases List.mem_cons.mp ok with first | later
    · exact first ▸ List.mem_cons_self
    · exact List.mem_cons_of_mem _ (ih later)
  | left _ _ ih =>
    rcases List.mem_cons.mp ok with first | later
    · cases first
    · exact ih later

/-- The entries after a sequence of events. -/
def replay (events : List Event) : Entries := events.foldl apply []

def Promised (history : List (Event × Bool)) (entries : Entries) : Prop :=
  ∃ counted, Counted history counted ∧ entries = replay (counted.map Prod.fst)

theorem replay_append (events : List Event) (event : Event) :
    replay (events ++ [event]) = apply (replay events) event := by
  rw [replay, List.foldl_append]
  rfl

theorem mem_tokens_replay {events : List Event} {token : String} :
    token ∈ tokens (replay events) ↔ ∃ kind region, .intent kind token region ∈ events := by
  induction events using List.reverseRecOn with
  | nil => simp [replay, tokens]
  | append_singleton events event ih =>
    rw [replay_append, mem_tokens_apply, ih]
    simp [exists_or, eq_comm]

theorem tokens_replay_subset {some_ more : List Event} (inside : some_ ⊆ more) :
    tokens (replay some_) ⊆ tokens (replay more) := by
  intro token member
  obtain ⟨kind, region, listed⟩ := mem_tokens_replay.mp member
  exact mem_tokens_replay.mpr ⟨kind, region, inside listed⟩

theorem check_mono {entries more : Entries} (inside : tokens entries ⊆ tokens more) {event : Event}
    (checked : check entries event = .ok ()) : check more event = .ok () := by
  cases event with
  | intent => exact checked
  | created | removed =>
    rw [check] at checked ⊢
    obtain ⟨found, checked⟩ := required_ok.mp checked
    rw [if_pos (any_token.mpr (inside (any_token.mp found)))]

theorem tokens_apply_subset {entries more : Entries} (inside : tokens entries ⊆ tokens more)
    (event : Event) : tokens (apply entries event) ⊆ tokens (apply more event) := by
  intro token member
  rw [mem_tokens_apply] at member ⊢
  exact member.imp_left (@inside token)

end Counting

section Reading

variable (reader : JsonReader)

/-- The text of a line. -/
def Row.read (row : Row) : Option (List Char) := (fromUtf8 row.bytes).map String.toList

/-- What the reading of the lines comes to, once each is known to be an event or none. -/
def readEvents (index : Nat) (entries : Entries) :
    List (Option Event) → Except LedgerError Entries
  | [] => .ok entries
  | some event :: rest =>
    match check entries event with
    | .error _ => .error (.corrupt (index + 1))
    | .ok () => readEvents (index + 1) (apply entries event) rest
  | none :: rest => if rest = [] then .ok entries else .error (.corrupt (index + 1))

/-- The row comes from appends, each of which has left something. -/
structure Row.Cut (row : Row) : Prop where
  some_ : row ≠ []
  cuts : ∀ piece ∈ row, piece.Cut

theorem read_starts {row : Row} (cut : row.Cut) {line : List Char} (read : row.read = some line) :
    '{' ∈ line := by
  obtain ⟨text, decoded, rfl⟩ := Option.map_eq_some_iff.mp read
  have first : (123 : UInt8) ∈ utf8 text := by
    rw [fromUtf8_eq_some.mp decoded]
    cases row with
    | nil => exact absurd rfl cut.some_
    | cons piece =>
      obtain ⟨tail, starts⟩ := (cut.cuts piece List.mem_cons_self).starts
      rw [Row.bytes, List.flatMap_cons, starts]
      exact List.mem_append_left _ List.mem_cons_self
  exact mem_utf8 (by decide) first

theorem readLines_rows {lines : List (List Char)} {rows : List Row}
    (reads : List.Forall₂ (fun line (row : Row) => row.read = some line ∧ row.Cut) lines rows)
    (index : Nat) (entries : Entries) :
    readLines reader index entries lines = readEvents index entries (rows.map Row.event) := by
  induction reads generalizing index entries with
  | nil => rfl
  | @cons line row lines rows first rest ih =>
    obtain ⟨read, cut⟩ := first
    have visible : line.all isWhitespace = false := by
      rw [List.all_eq_false]
      exact ⟨'{', read_starts cut read, by decide⟩
    obtain ⟨text, decoded, rfl⟩ := Option.map_eq_some_iff.mp read
    have none_ : lines = [] ↔ rows.map Row.event = [] := by
      cases rest with
      | nil | cons => simp
    rw [readLines, visible, List.map_cons]
    simp only [Bool.false_eq_true, if_false]
    rw [fromLine_row reader cut.cuts cut.some_ decoded]
    cases row.event with
    | none => simp only [readEvents, none_]
    | some event =>
      simp only [readEvents]
      cases check entries event with
      | error => rfl
      | ok => exact ih (index + 1) (apply entries event)

theorem readEvents_ok {index : Nat} {before : List Event} {events : List (Option Event)}
    {entries : Entries} (read : readEvents index (replay before) events = .ok entries) :
    (∀ event ∈ events.dropLast, event.isSome = true) ∧
      entries = replay (before ++ events.filterMap id) := by
  induction events generalizing index before with
  | nil =>
    cases read
    simp
  | cons event rest ih =>
    cases event with
    | none =>
      obtain ⟨last, read⟩ := required_ok.mp read
      cases read
      simp [last]
    | some =>
      rw [readEvents] at read
      split at read
      next => cases read
      next =>
        rw [← replay_append] at read
        obtain ⟨somes, isEntries⟩ := ih read
        refine ⟨?_, by rw [isEntries]; simp⟩
        cases rest with
        | nil => simp
        | cons =>
          intro other member
          rcases List.mem_cons.mp member with rfl | later
          · rfl
          · exact somes other later

theorem readEvents_rows {rows : List Row} (somes : ∀ row ∈ rows.dropLast, row.event.isSome = true)
    (before : List Event)
    (checks : ∀ first row later event, rows = first ++ row :: later → row.event = some event →
      check (replay (before ++ first.filterMap Row.event)) event = .ok ()) (index : Nat) :
    readEvents index (replay before) (rows.map Row.event) =
      .ok (replay (before ++ rows.filterMap Row.event)) := by
  induction rows generalizing index before with
  | nil => simp [readEvents]
  | cons row rest ih =>
    rw [List.map_cons]
    cases isEvent : row.event with
    | none =>
      have last : rest = [] := by
        cases rest with
        | nil => rfl
        | cons =>
          have some_ := somes row (by simp)
          rw [isEvent] at some_
          cases some_
      simp [readEvents, last, isEvent]
    | some event =>
      have checked := checks [] row rest event rfl isEvent
      rw [List.filterMap_nil, List.append_nil] at checked
      rw [readEvents, checked, List.filterMap_cons_some isEvent]
      rw [← replay_append, ih]
      · simp
      · intro other member
        refine somes other ?_
        cases rest with
        | nil => cases member
        | cons =>
          exact List.mem_cons_of_mem _ member
      · intro first other later otherEvent split isOther
        have checked := checks (row :: first) other later otherEvent (by rw [split]; rfl) isOther
        rw [List.filterMap_cons_some isEvent] at checked
        simpa using checked

end Reading

section Invariant

/-- The events with which the lines ended. -/
def closers (rows : List Row) : List Event :=
  rows.filterMap fun row => row.getLast?.map Piece.event

def Piece.said (piece : Piece) : Event × Bool := (piece.event, piece.ok)

/-- A line ends with an append that wrote all of its own, behind others that were cut off. -/
structure Row.Closed (row : Row) : Prop where
  cut : row.Cut
  ends : ∃ parts last, row = parts ++ [last] ∧ last.bytes = last.event.bytes ∧
    ∀ piece ∈ parts, piece.ok = false

/-- How the file comes from the appends. -/
structure Written (disk : Disk) : Prop where
  bytes : disk.bytes =
    (disk.finished.map Row.bytes).flatMap (· ++ [newline]) ++ Row.bytes disk.tail
  closed : ∀ row ∈ disk.finished, row.Closed
  tail : ∀ piece ∈ disk.tail, piece.Cut ∧ piece.ok = false
  history : Counted disk.history ((disk.finished.flatten ++ disk.tail).map Piece.said)
  /-- What was appended made sense after the lines before it. -/
  checked : ∀ before row after, disk.finished = before ++ row :: after →
    ∀ piece ∈ row, check (replay (closers before)) piece.event = .ok ()
  checkedTail : ∀ piece ∈ disk.tail,
    check (replay (closers disk.finished)) piece.event = .ok ()
  /-- The ledger that is open knows nothing that is not in the file. -/
  known : ∀ entries, disk.ledger = some entries →
    tokens entries ⊆ tokens (replay (closers disk.finished))

variable {disk : Disk}

theorem closers_append (rows : List Row) {parts : Row} {last : Piece} :
    closers (rows ++ [parts ++ [last]]) = closers rows ++ [last.event] := by
  simp [closers]

theorem Written.broken (written : Written disk) :
    breakLines disk.bytes = (disk.finished.map Row.bytes, Row.bytes disk.tail) := by
  have plain {row : Row} (cuts : ∀ piece ∈ row, piece.Cut) : newline ∉ row.bytes := by
    intro member
    obtain ⟨piece, inside, isByte⟩ := List.mem_flatMap.mp member
    exact (cuts piece inside).newline_notMem isByte
  rw [written.bytes]
  apply breakLines_lines
  · intro line member
    obtain ⟨row, inside, rfl⟩ := List.mem_map.mp member
    exact plain (written.closed row inside).cut.cuts
  · exact plain fun piece member => (written.tail piece member).1

theorem tail_bytes_eq_nil (written : Written disk) : Row.bytes disk.tail = [] ↔ disk.tail = [] := by
  constructor
  · intro none_
    cases isTail : disk.tail with
    | nil => rfl
    | cons piece =>
      have cut := (written.tail piece (by rw [isTail]; exact List.mem_cons_self)).1
      rw [isTail, Row.bytes, List.flatMap_cons, List.append_eq_nil_iff] at none_
      exact absurd none_.1 cut.some_
  · intro none_
    rw [none_]
    rfl

variable {row : Row} {reader : JsonReader} {entries : Entries}

theorem withoutReturn_row (closed : row.Closed) {text : String}
    (decoded : fromUtf8 row.bytes = some text) : withoutReturn text.toList = text.toList := by
  rw [withoutReturn, if_neg]
  intro isReturn
  obtain ⟨before, isText⟩ := List.getLast?_eq_some_iff.mp isReturn
  obtain ⟨parts, last, rfl, whole, _⟩ := closed.ends
  have bytes := fromUtf8_eq_some.mp decoded
  obtain ⟨start, isLine⟩ := List.getLast?_eq_some_iff.mp (toLine_ends last.event)
  have isRow : Row.bytes (parts ++ [last]) = Row.bytes parts ++ last.event.bytes := by
    rw [← whole]
    simp [Row.bytes]
  rw [utf8_eq, isText, isRow, bytes_eq, isLine, List.flatMap_append, List.flatMap_append,
    ← List.append_assoc] at bytes
  have ends := List.append_inj_right' bytes rfl
  revert ends
  decide

theorem Written.textLines (written : Written disk) :
    textLines disk.bytes = disk.rows.mapM Row.read := by
  have finished : (disk.finished.map Row.bytes).mapM
      (fun line => (fromUtf8 line).map (withoutReturn ·.toList)) = disk.finished.mapM Row.read := by
    rw [List.mapM_map]
    apply mapM_congr_of_mem
    intro row member
    cases decoded : fromUtf8 row.bytes with
    | none => simp [Row.read, decoded]
    | some =>
      have same := withoutReturn_row (written.closed row member) decoded
      simp [Row.read, decoded, same]
  rw [Provision.textLines, written.broken]
  simp only [finished, tail_bytes_eq_nil written]
  rw [Disk.rows, List.mapM_append]
  by_cases none_ : disk.tail = []
  · simp [none_]
  · simp only [none_, if_false]
    cases disk.finished.mapM Row.read with
    | none => rfl
    | some =>
      cases decoded : fromUtf8 (Row.bytes disk.tail) with
      | none | some => simp [Row.read, decoded]

theorem Written.rows_cut (written : Written disk) : ∀ row ∈ disk.rows, row.Cut := by
  intro row member
  rcases List.mem_append.mp member with finished | tail
  · exact (written.closed row finished).cut
  · split at tail
    · cases tail
    next some_ =>
      rw [List.mem_singleton.mp tail]
      exact ⟨some_, fun piece inside => (written.tail piece inside).1⟩

theorem concat_split {Item : Type} {items before after : List Item} {last item : Item}
    (split : items ++ [last] = before ++ item :: after) :
    (∃ more, items = before ++ item :: more) ∨ (items = before ∧ item = last ∧ after = []) := by
  induction after using List.reverseRecOn with
  | nil =>
    have ends := List.append_inj' split rfl
    exact .inr ⟨ends.1, (List.singleton_inj.mp ends.2).symm, rfl⟩
  | append_singleton after =>
    rw [← List.cons_append, ← List.append_assoc] at split
    exact .inl ⟨after, (List.append_inj' split rfl).1⟩

theorem rows_split {before after : List Row} (split : disk.rows = before ++ row :: after) :
    (∃ more, disk.finished = before ++ row :: more) ∨
      (disk.finished = before ∧ row = disk.tail ∧ after = []) := by
  rw [Disk.rows] at split
  split at split
  · rw [List.append_nil] at split
    exact .inl ⟨after, split⟩
  · exact concat_split split

theorem Row.Closed.event_of_single (closed : row.Closed) (single : row.length = 1) :
    ∃ piece, row = [piece] ∧ row.event = some piece.event := by
  obtain ⟨parts, last, rfl, whole, _⟩ := closed.ends
  have none_ : parts = [] := by simpa using single
  rw [none_]
  exact ⟨last, rfl, if_pos whole⟩

theorem event_some {event : Event} (isEvent : row.event = some event) :
    ∃ piece, row = [piece] ∧ piece.bytes = piece.event.bytes ∧ event = piece.event := by
  match row with
  | [] => cases isEvent
  | [piece] =>
    obtain ⟨whole, isEvent⟩ := Option.ite_none_right_eq_some.mp isEvent
    cases isEvent
    exact ⟨piece, rfl, whole, rfl⟩
  | _ :: _ :: _ => cases isEvent

theorem closers_of_events {rows : List Row} (somes : ∀ row ∈ rows, row.event.isSome = true) :
    closers rows = rows.filterMap Row.event := by
  apply List.filterMap_congr
  intro row member
  obtain ⟨event, isEvent⟩ := Option.isSome_iff_exists.mp (somes row member)
  obtain ⟨piece, rfl, _, rfl⟩ := event_some isEvent
  rw [isEvent]
  rfl

theorem Written.readState_eq (written : Written disk) (reader : JsonReader)
    (texts : ∀ row ∈ disk.rows, (fromUtf8 row.bytes).isSome = true) :
    readState reader disk.bytes = readEvents 0 [] (disk.rows.map Row.event) := by
  have reads : List.Forall₂ (fun row line => Row.read row = some line) disk.rows
      (disk.rows.map fun row => ((fromUtf8 row.bytes).getD "").toList) := by
    rw [List.forall₂_map_right_iff, List.forall₂_same]
    intro row member
    obtain ⟨text, decoded⟩ := Option.isSome_iff_exists.mp (texts row member)
    rw [Row.read, decoded]
    rfl
  rw [readState, written.textLines, mapM_some.mpr reads]
  apply readLines_rows
  apply List.Forall₂.flip
  have cuts := written.rows_cut
  rw [List.forall₂_map_right_iff, List.forall₂_same] at reads ⊢
  exact fun row member => ⟨reads row member, cuts row member⟩

theorem Written.texts_of_ok (written : Written disk)
    (read : readState reader disk.bytes = .ok entries) :
    ∀ row ∈ disk.rows, (fromUtf8 row.bytes).isSome = true := by
  rw [readState, written.textLines] at read
  cases found : disk.rows.mapM Row.read with
  | none =>
    rw [found] at read
    cases read
  | some =>
    intro row member
    obtain ⟨line, _, isRead⟩ := mem_of_forall₂ (mapM_some.mp found).flip member
    rw [Row.read, Option.map_eq_some_iff] at isRead
    obtain ⟨text, decoded, _⟩ := isRead
    rw [decoded]
    rfl

theorem cut_whole (event : Event) (ok : Bool) : Piece.Cut ⟨event, event.bytes, ok⟩ := by
  refine ⟨?_, List.prefix_refl _⟩
  obtain ⟨tail, starts⟩ := bytes_starts event
  simp [starts]

theorem Written.line (written : Written disk) (closed : row.Closed) (bytes : Bytes)
    (history : List (Event × Bool)) (ledger : Option Entries)
    (isBytes : bytes = (disk.finished.map Row.bytes).flatMap (· ++ [newline]) ++ row.bytes ++ [newline])
    (counted : Counted history ((disk.finished.flatten ++ row).map Piece.said))
    (checked : ∀ piece ∈ row, check (replay (closers disk.finished)) piece.event = .ok ())
    (known : ∀ entries, ledger = some entries →
      tokens entries ⊆ tokens (replay (closers (disk.finished ++ [row])))) :
    Written ⟨bytes, ledger, history, disk.finished ++ [row], []⟩ where
  bytes := by
    rw [isBytes]
    simp [Row.bytes]
  closed := by
    intro other member
    rcases List.mem_append.mp member with old | new
    · exact written.closed other old
    · rw [List.mem_singleton.mp new]
      exact closed
  tail := fun _ member => absurd member List.not_mem_nil
  history := by simpa using counted
  checked := by
    intro before other after split
    rcases concat_split split with ⟨more, old⟩ | ⟨rfl, rfl, _⟩
    · exact written.checked before other more old
    · exact checked
  checkedTail := fun _ member => absurd member List.not_mem_nil
  known := known

theorem Written.add (written : Written disk) {event : Event} {bytes : Bytes} {ok : Bool}
    {ledger : Option Entries} (part : bytes <+: event.lineBytes)
    (whole : ok = true → bytes = event.lineBytes)
    (checked : check (replay (closers disk.finished)) event = .ok ())
    (known : ∀ entries, ledger = some entries →
      tokens entries ⊆ tokens (replay (closers (disk.add event bytes ok).finished))) :
    Written { disk.add event bytes ok with ledger := ledger } := by
  rw [Disk.add] at known ⊢
  by_cases isLine : bytes = event.lineBytes
  · rw [if_pos isLine] at known ⊢
    refine written.line ⟨⟨by simp, ?_⟩, disk.tail, _, rfl, rfl, fun piece member =>
      (written.tail piece member).2⟩ _ _ _ ?_ ?_ ?_ known
    · intro piece member
      rcases List.mem_append.mp member with old | new
      · exact (written.tail piece old).1
      · rw [List.mem_singleton.mp new]
        exact cut_whole event ok
    · rw [written.bytes, isLine]
      simp [Row.bytes, Event.lineBytes]
    · rw [← List.append_assoc, List.map_append]
      exact written.history.append (counted_all _)
    · intro piece member
      rcases List.mem_append.mp member with old | new
      · exact written.checkedTail piece old
      · rw [List.mem_singleton.mp new]
        exact checked
  · have cut : ok = false := by
      cases ok with
      | false => rfl
      | true => exact absurd (whole rfl) isLine
    rw [if_neg isLine] at known ⊢
    by_cases none_ : bytes = []
    · rw [if_pos none_] at known ⊢
      refine ⟨?_, written.closed, written.tail, ?_, written.checked, written.checkedTail, known⟩
      · rw [none_, List.append_nil]
        exact written.bytes
      · rw [← List.append_nil ((disk.finished.flatten ++ disk.tail).map Piece.said)]
        exact written.history.append (counted_none (by simp [cut]))
    · rw [if_neg none_] at known ⊢
      have added : ∀ piece ∈ disk.tail ++ [⟨event, bytes, ok⟩], piece ∈ disk.tail ∨
          piece = ⟨event, bytes, ok⟩ := by simp
      refine ⟨?_, written.closed, ?_, ?_, written.checked, ?_, known⟩
      · rw [written.bytes]
        simp [Row.bytes]
      · intro piece member
        rcases added piece member with old | rfl
        · exact written.tail piece old
        · exact ⟨⟨none_, (List.prefix_concat_iff.mp part).resolve_left isLine⟩, cut⟩
      · rw [← List.append_assoc, List.map_append]
        exact written.history.append (counted_all _)
      · intro piece member
        rcases added piece member with old | rfl
        · exact written.checkedTail piece old
        · exact checked

theorem written_isPrefix (fate : Append) (event : Event) : fate.written event <+: event.lineBytes := by
  cases fate with
  | done => exact List.prefix_refl _
  | failed | died => exact List.take_prefix _ _

theorem add_finished (disk : Disk) (event : Event) (ok : Bool) :
    (disk.add event event.lineBytes ok).finished =
      disk.finished ++ [disk.tail ++ [⟨event, event.bytes, ok⟩]] := by
  rw [Disk.add, if_pos rfl]

theorem closers_add (disk : Disk) (event : Event) (bytes : Bytes) (ok : Bool) :
    closers disk.finished ⊆ closers (disk.add event bytes ok).finished := by
  by_cases isLine : bytes = event.lineBytes
  · rw [isLine, add_finished, closers_append]
    exact List.subset_append_left _ _
  · rw [Disk.add, if_neg isLine]
    split <;> exact List.Subset.refl _

theorem Written.append (written : Written disk) (open_ : disk.ledger = some entries) (event : Event)
    (fate : Append) :
    Written (disk.append entries event fate) := by
  rw [Disk.append]
  split
  · exact written
  next checked =>
    have known := written.known entries open_
    apply written.add (written_isPrefix fate event)
    · intro ok
      cases fate with
      | done => rfl
      | failed | died => cases ok
    · exact check_mono known checked
    · intro after remembered
      cases fate with
      | done =>
        cases remembered
        rw [Append.written, add_finished, closers_append, replay_append]
        exact tokens_apply_subset known event
      | failed =>
        cases remembered
        exact List.Subset.trans known (tokens_replay_subset (closers_add disk event _ _))
      | died => cases remembered

theorem Written.opened (written : Written disk) (read : readState reader disk.bytes = .ok entries) :
    (∀ row ∈ disk.rows.dropLast, row.event.isSome = true) ∧
      entries = replay (disk.rows.filterMap Row.event) := by
  rw [written.readState_eq reader (written.texts_of_ok read)] at read
  have empty : replay [] = [] := rfl
  rw [← empty] at read
  obtain ⟨somes, isEntries⟩ := readEvents_ok read
  refine ⟨?_, ?_⟩
  · intro row member
    rw [← List.map_dropLast] at somes
    exact somes row.event (List.mem_map_of_mem member)
  · rw [isEntries, List.filterMap_map]
    rfl

/-- The repair looks at what follows the last newline as the reading does. -/
theorem Written.repairTail_eq (written : Written disk) (reader : JsonReader) :
    repairTail reader disk.bytes = if disk.tail.event.isSome then disk.bytes ++ [newline]
      else (disk.finished.map Row.bytes).flatMap (· ++ [newline]) := by
  rw [repairTail, written.broken]
  simp only [tail_bytes_eq_nil written]
  by_cases none_ : disk.tail = []
  · rw [written.bytes, none_]
    simp [Row.event, Row.bytes]
  · rw [if_neg none_]
    have same : ((fromUtf8 (Row.bytes disk.tail)).bind
        fun text => Event.fromLine reader text.toList) = Row.event disk.tail := by
      cases decoded : fromUtf8 (Row.bytes disk.tail) with
      | some =>
        exact fromLine_row reader (fun piece member => (written.tail piece member).1) none_ decoded
      | none =>
        cases isEvent : Row.event disk.tail with
        | none => rfl
        | some =>
          obtain ⟨piece, isTail, whole, _⟩ := event_some isEvent
          rw [isTail, Row.bytes, List.flatMap_singleton, whole, Event.bytes,
            fromUtf8_utf8] at decoded
          cases decoded
    rw [same]
    rw [written.bytes]
    simp

theorem events_subset_closers (rows : List Row) : rows.filterMap Row.event ⊆ closers rows := by
  intro event member
  obtain ⟨row, inside, isEvent⟩ := List.mem_filterMap.mp member
  obtain ⟨piece, rfl, _, rfl⟩ := event_some isEvent
  exact List.mem_filterMap.mpr ⟨[piece], inside, rfl⟩

theorem rows_of_tail (some_ : disk.tail ≠ []) : disk.rows = disk.finished ++ [disk.tail] := by
  rw [Disk.rows, if_neg some_]

/-- What follows the last newline adds nothing if it is no event. -/
theorem rows_events (none_ : Row.event disk.tail = none) :
    disk.rows.filterMap Row.event = disk.finished.filterMap Row.event := by
  rw [Disk.rows]
  split
  · simp
  · simp [none_]

theorem Written.repaired (written : Written disk) (read : readState reader disk.bytes = .ok entries)
    :
    Written (disk.repaired entries (repairTail reader disk.bytes)) := by
  obtain ⟨_, isEntries⟩ := written.opened read
  rw [written.repairTail_eq reader, Disk.repaired]
  cases isEvent : Row.event disk.tail with
  | some =>
    obtain ⟨piece, isTail, whole, rfl⟩ := event_some isEvent
    have closed : Row.Closed disk.tail := by
      refine ⟨⟨by simp [isTail], fun piece member => (written.tail piece member).1⟩,
        [], piece, isTail, whole, ?_⟩
      simp
    simp only [Option.isSome_some, if_true]
    apply written.line closed
    · rw [written.bytes]
    · exact written.history
    · exact written.checkedTail
    · intro _ isLedger
      cases isLedger
      rw [isEntries, rows_of_tail (by simp [isTail])]
      exact tokens_replay_subset (events_subset_closers _)
  | none =>
    refine ⟨by simp [Row.bytes], written.closed, fun _ member => absurd member List.not_mem_nil, ?_,
      written.checked, fun _ member => absurd member List.not_mem_nil, ?_⟩
    · refine written.history.trans ?_
      have cut : Counted (disk.tail.map Piece.said) [] := by
        apply counted_none
        intro append member
        obtain ⟨piece, inside, rfl⟩ := List.mem_map.mp member
        exact (written.tail piece inside).2
      simpa using (counted_all (disk.finished.flatten.map Piece.said)).append cut
    · intro _ isLedger
      cases isLedger
      rw [isEntries, rows_events isEvent]
      exact tokens_replay_subset (events_subset_closers _)

theorem Written.closedBy (written : Written disk) :
    Written { disk with ledger := none } :=
  ⟨written.bytes, written.closed, written.tail, written.history, written.checked,
    written.checkedTail, fun _ open_ => (by cases open_)⟩

theorem Written.operate (written : Written disk) (reader : JsonReader) (operation : FileOperation) :
    Written (disk.operate reader operation) := by
  cases operation with
  | die => exact written.closedBy
  | record event fate =>
    rw [Disk.operate]
    split
    · exact written
    next entries open_ => exact written.append open_ event fate
  | reopen =>
    rw [Disk.operate, Disk.reopen, openLedger]
    cases read : readState reader disk.bytes with
    | error => exact written.closedBy
    | ok => exact written.repaired read

def diskAfter (reader : JsonReader) (operations : List FileOperation) : Disk :=
  operations.foldl (Disk.operate reader) {}

theorem written_after (reader : JsonReader) (operations : List FileOperation) :
    Written (diskAfter reader operations) := by
  have initial : Written {} := by
    refine ⟨rfl, ?_, ?_, .nothing, ?_, ?_, ?_⟩ <;> simp
  exact List.foldlRecOn operations _ initial fun _ written operation _ =>
    written.operate reader operation

end Invariant

def PromiseKept (reader : JsonReader) (disk : Disk) : Prop :=
  ∃ entries bytes, openLedger reader disk.bytes = .ok (entries, bytes) ∧
    Promised disk.history entries

/-- No append was cut off inside a character, and none went on behind a cut-off one in a line before the
last. If one did in the last, it makes no difference to the entries, or did not return `Ok`. -/
structure Intact (disk : Disk) : Prop where
  text : ∀ row ∈ disk.rows, (fromUtf8 row.bytes).isSome = true
  single : ∀ row ∈ disk.rows.dropLast, row.length = 1
  last : ∀ row ∈ disk.rows.getLast?, row.length ≠ 1 → (∃ piece ∈ row, piece.ok = true) →
    Promised disk.history (replay (disk.rows.dropLast.filterMap Row.event))

section Claim

variable {disk : Disk}

theorem event_none_of_length {row : Row} (length : row.length ≠ 1) : row.event = none := by
  match row with
  | [] => rfl
  | [_] => exact absurd rfl length
  | _ :: _ :: _ => rfl

theorem events_without_last {rows : List Row} {row : Row} (isLast : rows.getLast? = some row)
    (none_ : row.event = none) : rows.filterMap Row.event = rows.dropLast.filterMap Row.event := by
  obtain ⟨before, rfl⟩ := List.getLast?_eq_some_iff.mp isLast
  simp [none_]

theorem openLedger_ok {reader : JsonReader} {bytes after : Bytes} {entries : Entries}
    (opened : openLedger reader bytes = .ok (entries, after)) :
    readState reader bytes = .ok entries := by
  rw [openLedger] at opened
  split at opened
  · cases opened
  next read =>
    cases opened
    exact read

theorem Written.intact (written : Written disk) {reader : JsonReader} (kept : PromiseKept reader disk) :
    Intact disk := by
  obtain ⟨entries, bytes, opened, promised⟩ := kept
  have read := openLedger_ok opened
  obtain ⟨somes, isEntries⟩ := written.opened read
  refine ⟨written.texts_of_ok read, ?_, ?_⟩
  · intro row member
    obtain ⟨event, isEvent⟩ := Option.isSome_iff_exists.mp (somes row member)
    obtain ⟨piece, rfl, _⟩ := event_some isEvent
    rfl
  · intro row isLast length _
    rw [← events_without_last isLast (event_none_of_length length), ← isEntries]
    exact promised

theorem Written.events_of_single (written : Written disk)
    (single : ∀ row ∈ disk.rows.dropLast, row.length = 1) :
    ∀ row ∈ disk.rows.dropLast, row.event.isSome = true := by
  intro row member
  have finished : row ∈ disk.finished := by
    rw [Disk.rows] at member
    split at member
    · rw [List.append_nil] at member
      exact List.dropLast_subset _ member
    · rwa [List.dropLast_concat] at member
  obtain ⟨piece, _, isEvent⟩ := (written.closed row finished).event_of_single (single row member)
  rw [isEvent]
  rfl

/-- What is read made sense when it was written, and still does. -/
theorem Written.checks (written : Written disk)
    (somes : ∀ row ∈ disk.rows.dropLast, row.event.isSome = true) :
    ∀ first row later event, disk.rows = first ++ row :: later → row.event = some event →
      check (replay ([] ++ first.filterMap Row.event)) event = .ok () := by
  intro first row later event split isEvent
  obtain ⟨piece, rfl, _, rfl⟩ := event_some isEvent
  have before : closers first = first.filterMap Row.event := by
    apply closers_of_events
    intro other member
    apply somes
    rw [split, List.dropLast_append_cons]
    exact List.mem_append_left _ member
  rw [← before]
  rcases rows_split split with ⟨more, finished⟩ | ⟨rfl, isTail, _⟩
  · exact written.checked first [piece] more finished piece List.mem_cons_self
  · exact written.checkedTail piece (by rw [← isTail]; exact List.mem_cons_self)

/-- What a line that is read gives, with what was said of it. -/
def Row.kept (row : Row) : List (Event × Bool) :=
  if row.event.isSome then row.map Piece.said else []

theorem kept_events (rows : List Row) :
    (rows.flatMap Row.kept).map Prod.fst = rows.filterMap Row.event := by
  induction rows with
  | nil => rfl
  | cons row _ ih =>
    rw [List.flatMap_cons, List.map_append, ih, Row.kept]
    cases isEvent : row.event with
    | none => simp [isEvent]
    | some =>
      obtain ⟨piece, rfl, _, rfl⟩ := event_some isEvent
      simp [isEvent, Piece.said]

theorem counted_rows {rows : List Row}
    (whole : ∀ row ∈ rows, row.event.isSome = true ∨ ∀ piece ∈ row, piece.ok = false) :
    Counted (rows.flatten.map Piece.said) (rows.flatMap Row.kept) := by
  induction rows with
  | nil => exact .nothing
  | cons row _ ih =>
    rw [List.flatten_cons, List.map_append]
    refine Counted.append ?_ (ih fun other member => whole other (List.mem_cons_of_mem _ member))
    rw [Row.kept]
    split
    · exact counted_all _
    next none_ =>
      apply counted_none
      intro append member
      obtain ⟨piece, inside, rfl⟩ := List.mem_map.mp member
      exact (whole row List.mem_cons_self).resolve_left none_ piece inside

theorem flatten_rows (disk : Disk) : disk.rows.flatten = disk.finished.flatten ++ disk.tail := by
  rw [Disk.rows]
  split
  next none_ => simp [none_]
  next => simp

/-- If no line hides an append that returned `Ok`, what is read was promised. -/
theorem Written.promised (written : Written disk)
    (whole : ∀ row ∈ disk.rows, row.event.isSome = true ∨ ∀ piece ∈ row, piece.ok = false) :
    Promised disk.history (replay (disk.rows.filterMap Row.event)) := by
  refine ⟨disk.rows.flatMap Row.kept, ?_, by rw [kept_events]⟩
  apply written.history.trans
  rw [← flatten_rows]
  exact counted_rows whole

theorem Written.kept (written : Written disk) (reader : JsonReader) (intact : Intact disk) :
    PromiseKept reader disk := by
  have somes := written.events_of_single intact.single
  have read : readState reader disk.bytes = .ok (replay (disk.rows.filterMap Row.event)) := by
    rw [written.readState_eq reader intact.text]
    exact readEvents_rows somes [] (written.checks somes) 0
  refine ⟨_, repairTail reader disk.bytes, by rw [openLedger, read], ?_⟩
  by_cases hidden : ∃ row ∈ disk.rows.getLast?, row.length ≠ 1 ∧ ∃ piece ∈ row, piece.ok = true
  · obtain ⟨row, isLast, length, ok⟩ := hidden
    rw [events_without_last isLast (event_none_of_length length)]
    exact intact.last row isLast length ok
  · apply written.promised
    intro row member
    by_cases isLast : disk.rows.getLast? = some row
    · by_cases length : row.length = 1
      · obtain ⟨before, split⟩ := List.getLast?_eq_some_iff.mp isLast
        rcases rows_split split with ⟨more, finished⟩ | ⟨_, isTail, _⟩
        · obtain ⟨piece, _, isEvent⟩ :=
            (written.closed row (by rw [finished]; simp)).event_of_single length
          exact .inl (by rw [isEvent]; rfl)
        · exact .inr fun piece inside => (written.tail piece (isTail ▸ inside)).2
      · right
        intro piece inside
        rw [Bool.eq_false_iff]
        exact fun ok => hidden ⟨row, isLast, length, piece, inside, ok⟩
    · exact .inl (somes row (List.mem_dropLast_of_mem_of_ne_getLast? member (Ne.symm isLast)))

/-- The ledger keeps its promise exactly as long as the file is intact. -/
theorem promise_kept_iff_intact (reader : JsonReader) (operations : List FileOperation) :
    PromiseKept reader (diskAfter reader operations) ↔ Intact (diskAfter reader operations) :=
  ⟨fun kept => (written_after reader operations).intact kept,
    fun intact => (written_after reader operations).kept reader intact⟩

/-- An append fails after its first byte, and the next one, that returns `Ok`, is glued to it. -/
def gluedIntents : List FileOperation :=
  [.reopen, .record (.intent .machine "a" "home") (.failed 1),
    .record (.intent .machine "b" "home") .done, .die]

/-- The intent of `b` was recorded with `Ok`, and is not there when the file is opened again. -/
theorem intent_lost :
    (.intent .machine "b" "home", true) ∈ (diskAfter .strings gluedIntents).history ∧
      (openLedger .strings (diskAfter .strings gluedIntents).bytes).map Prod.fst = .ok [] ∧
      ¬ PromiseKept .strings (diskAfter .strings gluedIntents) := by
  have opened : (openLedger .strings (diskAfter .strings gluedIntents).bytes).map Prod.fst = .ok [] := by
    decide +kernel
  have recorded : (.intent .machine "b" "home", true) ∈ (diskAfter .strings gluedIntents).history := by
    decide +kernel
  refine ⟨recorded, opened, ?_⟩
  rintro ⟨entries, bytes, isOpen, counted, count, isEntries⟩
  rw [isOpen] at opened
  have none_ : entries = [] := Except.ok.inj opened
  have known : "b" ∈ tokens (replay (counted.map Prod.fst)) :=
    mem_tokens_replay.mpr ⟨.machine, "home", List.mem_map_of_mem (count.mem recorded)⟩
  rw [← isEntries, none_] at known
  cases known

end Claim

end DnetEngine.Provision
