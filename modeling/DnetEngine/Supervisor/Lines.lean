import Mathlib.Logic.Function.Iterate
import DnetEngine.Lib.Bytes

/-! What a core prints, cut into lines as it arrives. -/

namespace DnetEngine.Supervisor

open Lib

def maxLineBytes : Nat := 8 * 1024

def newline : UInt8 := 10

/-- The loop of `for_each_line`. A read that gives nothing is the end of the stream, and one that
fails is `none`. -/
structure Lines where
  reads : List (Option Bytes)
  buffer : Bytes := []
  line : Bytes := []
  handed : List Bytes := []
  ended : Bool := false

/-- The buffer up to the first newline goes to the line, as far as there is room. -/
def Lines.consume (s : Lines) : Lines :=
  let chunk := s.buffer.takeWhile (· != newline)
  let line := s.line ++ chunk.take (maxLineBytes - s.line.length)
  match s.buffer.dropWhile (· != newline) with
  | [] => { s with buffer := [], line }
  | _ :: rest => { s with buffer := rest, line := [], handed := s.handed ++ [line] }

/-- One turn of the loop: what is buffered comes before the next read. -/
def Lines.turn (s : Lines) : Lines :=
  if s.ended then s
  else
    match s.buffer, s.reads with
    | [], none :: _ => { s with ended := true }
    | [], [] | [], some [] :: _ =>
      { s with ended := true, handed := s.handed ++ [s.line].filter (· ≠ []) }
    | [], some buffer :: reads => { s with reads, buffer }.consume
    | _, _ => s.consume

/-- What the reads deliver, and whether they come to an end and not to a failure. -/
def delivered : List (Option Bytes) → Bytes × Bool
  | [] | some [] :: _ => ([], true)
  | none :: _ => ([], false)
  | some chunk :: later => (chunk ++ (delivered later).1, (delivered later).2)

/-- The pieces between the newlines, each cut; the last, which no newline ends, is a line only if it
is not empty and the stream did not fail. -/
def linesOf (stream : Bytes × Bool) : List Bytes :=
  let pieces := stream.1.splitOn newline
  (pieces.dropLast ++ pieces.getLast?.toList.filter (fun last => stream.2 && last ≠ [])).map
    (List.take maxLineBytes)

section Loop

variable {piece : Bytes} {whole : Bool} {s : Lines} {reads : List (Option Bytes)}

theorem linesOf_line (inside : newline ∉ piece) (rest : Bytes) :
    linesOf (piece ++ newline :: rest, whole) =
      piece.take maxLineBytes :: linesOf (rest, whole) := by
  obtain ⟨first, others, pieces⟩ := List.exists_cons_of_ne_nil (List.splitOn_ne_nil newline rest)
  simp [linesOf, List.splitOn_append_cons_self_of_not_mem inside, pieces]

theorem linesOf_last (inside : newline ∉ piece) :
    linesOf (piece, whole) = [piece.take maxLineBytes].filter (fun last => whole && last ≠ []) := by
  rw [linesOf, List.splitOn_eq_singleton inside]
  cases whole <;> cases piece <;> simp [maxLineBytes]

/-- What the loop keeps: with what is buffered and what is still to be read, the lines come to those
of all the reads; and it holds no more than it may. -/
structure Lines.Cut (reads : List (Option Bytes)) (s : Lines) : Prop where
  going : s.ended = false → ∃ piece, newline ∉ piece ∧ s.line = piece.take maxLineBytes ∧
    s.handed ++ linesOf (piece ++ (s.buffer ++ (delivered s.reads).1), (delivered s.reads).2) =
      linesOf (delivered reads)
  done : s.ended = true → s.handed = linesOf (delivered reads)
  later : s.reads <:+ reads
  held : s.line.length ≤ maxLineBytes ∧
    (s.buffer = [] ∨ ∃ chunk, some chunk ∈ reads ∧ s.buffer <:+ chunk)

def Lines.work (s : Lines) : Nat :=
  s.buffer.length + (s.reads.map (fun read => (read.getD []).length + 1)).sum

/-- The line goes on, or it ends and the next begins. -/
theorem Lines.Cut.consume (cut : s.Cut reads) (going : s.ended = false) (some_ : s.buffer ≠ []) :
    s.consume.Cut reads ∧ s.consume.work < s.work := by
  obtain ⟨piece, inside, line, result⟩ := cut.going going
  have longer : s.line ++ (s.buffer.takeWhile (· != newline)).take (maxLineBytes - s.line.length) =
      (piece ++ s.buffer.takeWhile (· != newline)).take maxLineBytes := by
    rw [line, List.take_append, List.length_take]
    congr 2
    omega
  have open_ : newline ∉ piece ++ s.buffer.takeWhile (· != newline) := by
    intro member
    rcases List.mem_append.mp member with before | new
    · exact inside before
    · simpa using List.all_eq_true.mp List.all_takeWhile _ new
  have parts := List.takeWhile_append_dropWhile (p := (· != newline)) (l := s.buffer)
  rw [Lines.consume, longer]
  cases found : s.buffer.dropWhile (· != newline) with
  | nil =>
    rw [found, List.append_nil] at parts
    refine ⟨⟨fun _ => ⟨_, open_, rfl, ?_⟩, by simp [going], cut.later, List.length_take_le _ _,
      .inl rfl⟩, Nat.add_lt_add_right (List.length_pos_iff.mpr some_) _⟩
    simpa [parts] using result
  | cons b rest =>
    have ends : b = newline := by
      simpa [found] using List.head?_dropWhile_not (· != newline) s.buffer
    rw [found, ends] at parts
    have suffix : newline :: rest <:+ s.buffer := ⟨_, parts⟩
    obtain ⟨chunk, read, part⟩ := cut.held.2.resolve_left some_
    refine ⟨⟨fun _ => ⟨[], List.not_mem_nil, rfl, ?_⟩, by simp [going], cut.later, Nat.zero_le _,
      .inr ⟨chunk, read, (List.suffix_cons _ _).trans (suffix.trans part)⟩⟩,
      Nat.add_lt_add_right suffix.length_le _⟩
    rw [← parts, List.append_assoc, ← List.append_assoc, List.cons_append,
      linesOf_line open_] at result
    simpa using result

theorem Lines.Cut.turn (cut : s.Cut reads) :
    s.turn.Cut reads ∧ (s.turn.ended = true ∨ s.turn.work < s.work) := by
  obtain ⟨next, buffer, line, handed, ended⟩ := s
  cases ended with
  | true => exact ⟨cut, .inl rfl⟩
  | false =>
    cases buffer with
    | cons b rest => exact (cut.consume rfl (List.cons_ne_nil b rest)).imp_right .inr
    | nil =>
      obtain ⟨piece, inside, rfl, result⟩ := cut.going rfl
      have last (whole : Bool) (none_ : delivered next = ([], whole)) :
          handed ++ [piece.take maxLineBytes].filter (fun last => whole && last ≠ []) =
            linesOf (delivered reads) := by
        rw [← result, none_, List.append_nil, List.append_nil, linesOf_last inside]
      have stop {handed : List Bytes} (done : handed = linesOf (delivered reads)) :
          Cut reads ⟨next, [], piece.take maxLineBytes, handed, true⟩ :=
        ⟨by simp, fun _ => done, cut.later, cut.held⟩
      rcases next with _ | ⟨_ | _ | ⟨b, chunk⟩, later⟩
      · exact ⟨stop (last true rfl), .inl rfl⟩
      · exact ⟨stop ((List.append_nil handed).symm.trans (last false rfl)), .inl rfl⟩
      · exact ⟨stop (last true rfl), .inl rfl⟩
      · have filled : Cut reads ⟨later, b :: chunk, piece.take maxLineBytes, handed, false⟩ :=
          ⟨fun _ => ⟨piece, inside, rfl, result⟩, by simp, (List.suffix_cons _ _).trans cut.later,
            cut.held.1, .inr ⟨_, cut.later.subset List.mem_cons_self, List.suffix_refl _⟩⟩
        obtain ⟨next, less⟩ := filled.consume rfl (List.cons_ne_nil b chunk)
        exact ⟨next, .inr (Nat.lt_trans less (by simp [work]))⟩

theorem Lines.Cut.turns (cut : s.Cut reads) (n : Nat) : (Lines.turn^[n] s).Cut reads := by
  induction n generalizing s with
  | zero => exact cut
  | succ n ih => exact ih cut.turn.1

theorem Lines.Cut.ends (cut : s.Cut reads) : ∃ n, (Lines.turn^[n] s).ended = true := by
  induction left : s.work using Nat.strong_induction_on generalizing s with
  | _ _ ih =>
    obtain ⟨next, ends | less⟩ := cut.turn
    · exact ⟨1, ends⟩
    · obtain ⟨n, ends⟩ := ih _ (left ▸ less) next rfl
      exact ⟨n + 1, ends⟩

end Loop

/-- However a stream is delivered, the loop comes to its end, has then handed on the lines of all
that was delivered, and never holds more than a line within the limit and the rest of one chunk. -/
theorem for_each_line_of_any_chunks (reads : List (Option Bytes)) :
    (∃ n, let s := Lines.turn^[n] { reads }
      s.ended = true ∧ s.handed = linesOf (delivered reads)) ∧
    ∀ n, let s := Lines.turn^[n] { reads }
      s.line.length ≤ maxLineBytes ∧
        (s.buffer = [] ∨ ∃ chunk, some chunk ∈ reads ∧ s.buffer <:+ chunk) := by
  have start : Lines.Cut reads { reads } :=
    ⟨fun _ => ⟨[], by simp, rfl, rfl⟩, by simp, List.suffix_refl _, Nat.zero_le _, .inl rfl⟩
  obtain ⟨n, ends⟩ := start.ends
  exact ⟨⟨n, ends, (start.turns n).done ends⟩, fun n => (start.turns n).held⟩

end DnetEngine.Supervisor
