import DnetEngine.Lib.Bytes
import DnetEngine.Lib.JsonText
import DnetEngine.Provision.Ledger
import DnetEngine.Rules.Rule

/-! The ledger in a file: an event a line, appended and flushed. An append may stop after any of its
bytes, where it fails or the process dies; the file is repaired and read when it is opened again. -/

namespace DnetEngine.Provision

open Lib

section Lines

/-- The members of an event, by the order of their names. -/
def Event.members : Event → List (String × String)
  | .intent kind token region =>
    [("e", "intent"), ("kind", kind.asStr), ("region", region), ("token", token)]
  | .created token providerId => [("e", "created"), ("id", providerId), ("token", token)]
  | .removed token => [("e", "removed"), ("token", token)]

def Event.toLine (event : Event) : List Char := printObject event.members

variable (reader : JsonReader)

def Event.fromLine (line : List Char) : Option Event := do
  let value ← reader.parse line
  let text (key : String) := (value.get key).bind Json.asStr
  match ← (← value.get "e").asStr with
  | "intent" =>
    let kind ← ResourceKind.fromName (← text "kind")
    some (.intent kind (← text "token") (← text "region"))
  | "created" => some (.created (← text "token") (← text "id"))
  | "removed" => some (.removed (← text "token"))
  | _ => none

def newline : UInt8 := 10

/-- The lines, each without its newline, and what follows the last newline. -/
def breakLines : Bytes → List Bytes × Bytes
  | [] => ([], [])
  | byte :: rest =>
    if byte = newline then ([] :: (breakLines rest).1, (breakLines rest).2)
    else
      match (breakLines rest).1 with
      | [] => ([], byte :: (breakLines rest).2)
      | line :: more => ((byte :: line) :: more, (breakLines rest).2)

/-- A newline takes the carriage return before it away. -/
def withoutReturn (line : List Char) : List Char :=
  if line.getLast? = some '\r' then line.dropLast else line

/-- `BufRead::lines`, or nothing where the bytes of a line are not text. -/
def textLines (bytes : Bytes) : Option (List (List Char)) := do
  let lines ← (breakLines bytes).1.mapM fun line => (fromUtf8 line).map (withoutReturn ·.toList)
  let tail := (breakLines bytes).2
  if tail = [] then some lines
  else (fromUtf8 tail).map fun text => lines ++ [text.toList]

/-- The events of the lines, applied in order; a last line that is none is left out. -/
def readLines (index : Nat) (entries : Entries) : List (List Char) → Except LedgerError Entries
  | [] => .ok entries
  | line :: rest =>
    if line.all isWhitespace then readLines (index + 1) entries rest
    else
      match Event.fromLine reader line with
      | some event =>
        match check entries event with
        | .error _ => .error (.corrupt (index + 1))
        | .ok () => readLines (index + 1) (apply entries event) rest
      | none => if rest = [] then .ok entries else .error (.corrupt (index + 1))

def readState (bytes : Bytes) : Except LedgerError Entries :=
  match textLines bytes with
  | none => .error (.corrupt 0)
  | some lines => readLines reader 0 [] lines

/-- A last event that lacks only its newline gets it; a fragment is removed. -/
def repairTail (bytes : Bytes) : Bytes :=
  let tail := (breakLines bytes).2
  if tail = [] then bytes
  else if ((fromUtf8 tail).bind fun text => Event.fromLine reader text.toList).isSome then
    bytes ++ [newline]
  else bytes.take (bytes.length - tail.length)

/-- `FileLedger::open`: the entries, and the file that is appended to from here on. -/
def openLedger (bytes : Bytes) : Except LedgerError (Entries × Bytes) :=
  match readState reader bytes with
  | .error error => .error error
  | .ok entries => .ok (entries, repairTail reader bytes)

end Lines

/-- The bytes of an event's line, before its newline. -/
def Event.bytes (event : Event) : Bytes := utf8 (String.ofList event.toLine)

def Event.lineBytes (event : Event) : Bytes := event.bytes ++ [newline]

/-- What becomes of an append: all of it is on the disk, or only its first bytes are when it fails or
the process dies. -/
inductive Append
  | done
  | failed (written : Nat)
  | died (written : Nat)

/-- What an append leaves in the file. -/
def Append.written (fate : Append) (event : Event) : Bytes :=
  match fate with
  | .done => event.lineBytes
  | .failed written | .died written => event.lineBytes.take written

def Append.isOk : Append → Bool
  | .done => true
  | _ => false

/-- What is done with the file. -/
inductive FileOperation
  | reopen
  | record (event : Event) (fate : Append)
  | die

/-- A part of a line, by the append it comes from. -/
structure Piece where
  event : Event
  bytes : Bytes
  ok : Bool

/-- A line, by the appends it comes from; more than one if an append went on behind a cut-off one. -/
abbrev Row := List Piece

def Row.bytes (row : Row) : Bytes := row.flatMap Piece.bytes

/-- The event of a line that is one append's and complete. -/
def Row.event : Row → Option Event
  | [piece] => if piece.bytes = piece.event.bytes then some piece.event else none
  | _ => none

/-- The file and the ledger that is open on it. The rest records where the file comes from: the
appends so far, each with whether it returned `Ok`, the lines that have their newline, and what follows
the last newline. -/
structure Disk where
  bytes : Bytes := []
  ledger : Option Entries := none
  history : List (Event × Bool) := []
  finished : List Row := []
  tail : Row := []

def Disk.rows (disk : Disk) : List Row :=
  disk.finished ++ if disk.tail = [] then [] else [disk.tail]

/-- What an append adds goes to what follows the last newline, and may end it. -/
def Disk.add (disk : Disk) (event : Event) (written : Bytes) (ok : Bool) : Disk :=
  let longer := { disk with bytes := disk.bytes ++ written, history := disk.history ++ [(event, ok)] }
  if written = event.lineBytes then
    { longer with finished := disk.finished ++ [disk.tail ++ [⟨event, event.bytes, ok⟩]], tail := [] }
  else if written = [] then longer
  else { longer with tail := disk.tail ++ [⟨event, written, ok⟩] }

/-- What a repair keeps of what follows the last newline. -/
def Disk.repaired (disk : Disk) (entries : Entries) (bytes : Bytes) : Disk :=
  { disk with
    bytes, ledger := some entries, tail := []
    finished := if disk.tail.event.isSome then disk.finished ++ [disk.tail] else disk.finished }

variable (reader : JsonReader)

def Disk.reopen (disk : Disk) : Disk :=
  match openLedger reader disk.bytes with
  | .error _ => { disk with ledger := none }
  | .ok (entries, bytes) => disk.repaired entries bytes

/-- What the ledger has in memory after an append. -/
def Append.remembered (fate : Append) (entries : Entries) (event : Event) : Option Entries :=
  match fate with
  | .done => some (apply entries event)
  | .failed _ => some entries
  | .died _ => none

def Disk.append (disk : Disk) (entries : Entries) (event : Event) (fate : Append) : Disk :=
  match check entries event with
  | .error _ => disk
  | .ok () =>
    { disk.add event (fate.written event) fate.isOk with
      ledger := fate.remembered entries event }

def Disk.operate (disk : Disk) : FileOperation → Disk
  | .reopen => disk.reopen reader
  | .die => { disk with ledger := none }
  | .record event fate =>
    match disk.ledger with
    | none => disk
    | some entries => disk.append entries event fate

section LineFacts

theorem toLine_starts (event : Event) : ∃ tail, event.toLine = '{' :: '"' :: 'e' :: tail := by
  cases event with
  | intent | created | removed => exact ⟨_, rfl⟩

theorem bytes_eq (event : Event) : event.bytes = event.toLine.flatMap String.utf8EncodeChar :=
  utf8_ofList _

theorem bytes_starts (event : Event) : ∃ tail, event.bytes = 123 :: tail := by
  rw [bytes_eq]
  exact ⟨_, rfl⟩

theorem newline_notMem_bytes (event : Event) : newline ∉ event.bytes := by
  intro member
  have inside := mem_utf8 (by decide) member
  rw [String.toList_ofList] at inside
  have printable := printObject_printable event.members _ inside
  revert printable
  decide

theorem toLine_ends (event : Event) : event.toLine.getLast? = some '}' := by
  rw [Event.toLine, printObject, List.getLast?_cons]
  simp

theorem members_distinct (event : Event) : (event.members.map Prod.fst).Nodup := by
  cases event <;> simp [Event.members]

theorem fromLine_toLine (event : Event) : Event.fromLine reader event.toLine = some event := by
  rw [Event.fromLine, Event.toLine, reader.parse_printObject _ (members_distinct event)]
  cases event with
  | intent kind =>
    cases kind <;> simp [Event.members, Json.get, Json.asStr, List.lookup, ResourceKind.asStr,
      ResourceKind.fromName]
  | created | removed => simp [Event.members, Json.get, Json.asStr, List.lookup]

/-- An event is read only from a text that the machine finds closed. -/
theorem scan_of_fromLine {line : List Char} {event : Event}
    (read : Event.fromLine reader line = some event) : scan .start line = .done := by
  rw [Event.fromLine] at read
  cases parsed : reader.parse line with
  | none =>
    rw [parsed] at read
    cases read
  | some value =>
    rw [parsed] at read
    cases value with
    | object members => exact reader.parse_scan line members parsed
    | _ => cases read

theorem breakLines_line {line : Bytes} (plain : newline ∉ line) (rest : Bytes) :
    breakLines (line ++ newline :: rest) = (line :: (breakLines rest).1, (breakLines rest).2) := by
  induction line with
  | nil => rw [List.nil_append, breakLines, if_pos rfl]
  | cons byte _ ih =>
    have other : byte ≠ newline := fun same => plain (same ▸ List.mem_cons_self)
    rw [List.cons_append, breakLines, if_neg other,
      ih fun member => plain (List.mem_cons_of_mem _ member)]

theorem breakLines_tail {tail : Bytes} (plain : newline ∉ tail) : breakLines tail = ([], tail) := by
  induction tail with
  | nil => rfl
  | cons byte _ ih =>
    have other : byte ≠ newline := fun same => plain (same ▸ List.mem_cons_self)
    rw [breakLines, if_neg other, ih fun member => plain (List.mem_cons_of_mem _ member)]

theorem breakLines_lines (lines : List Bytes) (tail : Bytes) (plain : ∀ line ∈ lines, newline ∉ line)
    (plainTail : newline ∉ tail) :
    breakLines (lines.flatMap (· ++ [newline]) ++ tail) = (lines, tail) := by
  induction lines with
  | nil => exact breakLines_tail plainTail
  | cons line _ ih =>
    rw [List.flatMap_cons, List.append_assoc, List.append_assoc, List.singleton_append,
      breakLines_line (plain line List.mem_cons_self),
      ih fun other member => plain other (List.mem_cons_of_mem _ member)]

end LineFacts

section Rows

/-- Something of the event's line is there, the newline apart. -/
structure Piece.Cut (piece : Piece) : Prop where
  some_ : piece.bytes ≠ []
  part : piece.bytes <+: piece.event.bytes

theorem Piece.Cut.newline_notMem {piece : Piece} (cut : piece.Cut) : newline ∉ piece.bytes :=
  fun member => newline_notMem_bytes piece.event (cut.part.subset member)

theorem Piece.Cut.starts {piece : Piece} (cut : piece.Cut) : ∃ tail, piece.bytes = 123 :: tail := by
  obtain ⟨rest, whole⟩ := cut.part
  obtain ⟨tail, starts⟩ := bytes_starts piece.event
  cases bytes : piece.bytes with
  | nil => exact absurd bytes cut.some_
  | cons _ after =>
    rw [bytes, starts] at whole
    cases whole
    exact ⟨after, rfl⟩

variable {row : Row}

/-- Every piece of a line that is text is the text's, and a part of its event's line. -/
theorem row_text (cuts : ∀ piece ∈ row, piece.Cut) {text : List Char}
    (bytes : text.flatMap String.utf8EncodeChar = row.bytes) :
    ∃ parts : List (List Char), parts.flatten = text ∧
      List.Forall₂ (fun part piece => part.flatMap String.utf8EncodeChar = piece.bytes ∧
        part ≠ [] ∧ part <+: piece.event.toLine) parts row := by
  induction row generalizing text with
  | nil =>
    refine ⟨[], ?_, .nil⟩
    cases text with
    | nil => rfl
    | cons =>
      rw [List.flatMap_cons, Row.bytes, List.flatMap_nil, List.append_eq_nil_iff] at bytes
      exact absurd bytes.1 String.utf8EncodeChar_ne_nil
  | cons piece row ih =>
    have cut := cuts piece List.mem_cons_self
    have others : ∀ other ∈ row, other.Cut := fun other member =>
      cuts other (List.mem_cons_of_mem _ member)
    -- The next piece begins with a bracket, so the text can be split there.
    have splits : ∃ one two, text = one ++ two ∧
        one.flatMap String.utf8EncodeChar = piece.bytes ∧
        two.flatMap String.utf8EncodeChar = Row.bytes row := by
      cases row with
      | nil => exact ⟨text, [], by simp, by simpa [Row.bytes] using bytes, rfl⟩
      | cons next row =>
        obtain ⟨tail, starts⟩ := (others next List.mem_cons_self).starts
        have isRow : Row.bytes (next :: row) = 123 :: (tail ++ Row.bytes row) := by
          rw [Row.bytes, List.flatMap_cons, starts]
          rfl
        have whole : text.flatMap String.utf8EncodeChar =
            piece.bytes ++ 123 :: (tail ++ Row.bytes row) := by
          rw [bytes, ← isRow]
          rfl
        obtain ⟨one, two, isText, isOne, isTwo⟩ := utf8_split (by decide) whole
        exact ⟨one, two, isText, isOne, by rw [isTwo, isRow]⟩
    obtain ⟨one, two, rfl, isOne, isTwo⟩ := splits
    obtain ⟨parts, flat, each⟩ := ih others isTwo
    refine ⟨one :: parts, by rw [List.flatten_cons, flat], .cons ⟨isOne, ?_, ?_⟩ each⟩
    · rintro rfl
      exact cut.some_ isOne.symm
    · obtain ⟨rest, isWhole⟩ := cut.part
      have whole : one.flatMap String.utf8EncodeChar ++ rest =
          piece.event.toLine.flatMap String.utf8EncodeChar := by
        rw [isOne, isWhole, bytes_eq]
      exact isPrefix_of_utf8 whole

theorem scan_part_ne_start {event : Event} {part : List Char} (some_ : part ≠ [])
    (isPart : part <+: event.toLine) : scan .start part ≠ .start := by
  obtain ⟨rest, whole⟩ := isPart
  cases part with
  | nil => exact absurd rfl some_
  | cons c part =>
    have isBracket : c = '{' := (List.cons.inj whole).1
    rw [isBracket]
    exact scan_ne_start (by simp [Place.next]) part

theorem scan_behind_ne_done {place : Place} (begun : place ≠ .start) {event : Event}
    {part : List Char} (some_ : part ≠ []) (isPart : part <+: event.toLine) :
    scan place part ≠ .done := by
  obtain ⟨tail, starts⟩ := toLine_starts event
  exact scan_glued_ne_done begun (by decide) starts isPart some_

theorem scan_glued {parts : List (List Char)} {place : Place} (begun : place ≠ .start)
    (each : List.Forall₂ (fun part (piece : Piece) =>
      part.flatMap String.utf8EncodeChar = piece.bytes ∧ part ≠ [] ∧ part <+: piece.event.toLine)
      parts row) (some_ : row ≠ []) : scan place parts.flatten ≠ .done := by
  induction each generalizing place with
  | nil => exact absurd rfl some_
  | @cons part _ _ _ first rest ih =>
    rw [List.flatten_cons, scan_append]
    cases rest with
    | nil => exact scan_behind_ne_done begun first.2.1 first.2.2
    | cons => exact ih (scan_ne_start begun part) (by simp)

/-- A line of the file is read as the event of the one append it comes from, if it is complete. -/
theorem fromLine_row (cuts : ∀ piece ∈ row, piece.Cut) (some_ : row ≠ []) {text : String}
    (decoded : fromUtf8 row.bytes = some text) :
    Event.fromLine reader text.toList = row.event := by
  have bytes : text.toList.flatMap String.utf8EncodeChar = row.bytes := by
    rw [← utf8_eq]
    exact fromUtf8_eq_some.mp decoded
  obtain ⟨parts, flat, each⟩ := row_text cuts bytes
  have unread (open_ : scan .start text.toList ≠ .done) :
      Event.fromLine reader text.toList = none := by
    rw [Option.eq_none_iff_forall_ne_some]
    exact fun event read => open_ (scan_of_fromLine reader read)
  cases each with
  | nil => exact absurd rfl some_
  | @cons part piece _ _ first rest =>
    cases rest with
    | nil =>
      have isText : part = text.toList := by rw [← flat]; simp
      rw [isText] at first
      rw [Row.event]
      split
      next complete =>
        have isLine : text.toList = piece.event.toLine := by
          obtain ⟨isBytes, _, rest, whole⟩ := first
          have more : rest.flatMap String.utf8EncodeChar = [] := by
            rw [complete, bytes_eq, ← whole, List.flatMap_append] at isBytes
            exact List.append_right_eq_self.mp isBytes.symm
          cases rest with
          | nil => rw [← whole, List.append_nil]
          | cons =>
            rw [List.flatMap_cons, List.append_eq_nil_iff] at more
            exact absurd more.1 String.utf8EncodeChar_ne_nil
        rw [isLine]
        exact fromLine_toLine reader piece.event
      next partial_ =>
        apply unread
        obtain ⟨isBytes, _, rest, whole⟩ := first
        apply scan_part_ne_done whole
        · rintro rfl
          rw [List.append_nil] at whole
          apply partial_
          rw [← isBytes, whole, bytes_eq]
        · have closed := scan_printObject piece.event.members
          rw [closed]
          simp
    | cons next later =>
      apply unread
      rw [← flat, List.flatten_cons, scan_append]
      exact scan_glued (scan_part_ne_start first.2.1 first.2.2) (.cons next later) (by simp)

end Rows

end DnetEngine.Provision
