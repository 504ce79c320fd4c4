import Mathlib.Data.List.Basic
import OnlineJudge.Text

/-!
# The captured output

`append_bounded` and the read loops of `judge/local_executor.cpp`: the output of a process
is read in pieces of any size, as they arrive, into a buffer of bounded size. What stays in
the buffer is the beginning of the whole output, and a flag tells if there was more.
-/

namespace OnlineJudge.Judge

/-- What a stream has left in its buffer, and whether something did not fit. -/
structure Capture where
  buffer : Bytes := []
  truncated : Bool := false
  deriving DecidableEq, Repr

def appendBounded (limit : ℕ) (capture : Capture) (chunk : Bytes) : Capture :=
  if limit ≤ capture.buffer.length then { capture with truncated := true }
  else
    let room := limit - capture.buffer.length
    let take := min room chunk.length
    { buffer := capture.buffer ++ chunk.take take
      truncated := capture.truncated || take < chunk.length }

/-- The output delivered so far, cut at the limit. -/
structure Capture.Holds (limit : ℕ) (delivered : Bytes) (capture : Capture) : Prop where
  buffer : capture.buffer = delivered.take limit
  truncated : capture.truncated = true ↔ limit < delivered.length

section Chunks

variable {limit : ℕ} {delivered chunk : Bytes} {capture other : Capture} {chunks : List Bytes}

theorem Capture.holds_nil : Capture.Holds limit [] {} where
  buffer := by simp
  truncated := by simp

/-- One chunk. That it is not empty matters when the buffer is full already. -/
theorem Capture.Holds.appendBounded (holds : capture.Holds limit delivered)
    (nonempty : chunk ≠ []) :
    (appendBounded limit capture chunk).Holds limit (delivered ++ chunk) := by
  have positive : 0 < chunk.length := List.length_pos_iff.mpr nonempty
  have filled : capture.buffer.length = min limit delivered.length := by
    rw [holds.buffer, List.length_take]
  rw [Judge.appendBounded]
  split
  case isTrue full =>
    have enough : limit ≤ delivered.length := by omega
    constructor
    · simp [holds.buffer, List.take_append_of_le_length enough]
    · simp only [List.length_append, true_iff]
      omega
  case isFalse room =>
    have short : delivered.length < limit := by omega
    have whole : capture.buffer = delivered := by
      rw [holds.buffer, List.take_of_length_le (by omega)]
    have notYet : capture.truncated = false := by
      apply Bool.eq_false_iff.mpr
      intro truncated
      have more := holds.truncated.mp truncated
      omega
    constructor
    · simp only [whole, List.take_append, List.take_of_length_le short.le]
      simp
    · simp only [notYet, whole, Bool.false_or, decide_eq_true_eq, List.length_append]
      omega

theorem Capture.Holds.foldl (holds : capture.Holds limit delivered)
    (nonempty : ∀ chunk ∈ chunks, chunk ≠ []) :
    (chunks.foldl (Judge.appendBounded limit) capture).Holds limit
      (delivered ++ chunks.flatten) := by
  induction chunks generalizing capture delivered with
  | nil => simpa using holds
  | cons chunk rest ih =>
      have first := holds.appendBounded (nonempty chunk List.mem_cons_self)
      have later := ih first fun other mem => nonempty other (List.mem_cons_of_mem _ mem)
      simpa using later

/-- How the output was cut into chunks does not matter. -/
theorem capture_of_chunks (nonempty : ∀ chunk ∈ chunks, chunk ≠ []) :
    (chunks.foldl (appendBounded limit) {}).buffer =
        chunks.flatten.take (min limit chunks.flatten.length) ∧
      ((chunks.foldl (appendBounded limit) {}).truncated = true ↔
        limit < chunks.flatten.length) := by
  have holds : (chunks.foldl (appendBounded limit) {}).Holds limit chunks.flatten :=
    Capture.holds_nil.foldl nonempty
  refine ⟨?_, holds.truncated⟩
  rw [holds.buffer, ← List.take_eq_take_min]

/-- One chunk ends at the limit, and then there is more; without it the flag is not set. -/
theorem capture_of_chunks_at_the_limit :
    (([[1, 2], [3], [4]] : List Bytes).foldl (appendBounded 3) {}).buffer = [1, 2, 3] ∧
      (([[1, 2], [3], [4]] : List Bytes).foldl (appendBounded 3) {}).truncated = true ∧
      (([[1], [2, 3]] : List Bytes).foldl (appendBounded 3) {}).truncated = false := by
  have longer := @capture_of_chunks 3 [[1, 2], [3], [4]] (by decide)
  have whole := @capture_of_chunks 3 [[1], [2, 3]] (by decide)
  refine ⟨longer.1, longer.2.mpr (by decide), ?_⟩
  rw [Bool.eq_false_iff]
  intro truncated
  exact absurd (whole.2.mp truncated) (by decide)

end Chunks

/-- What `read` on a pipe that does not block can answer. -/
inductive ReadAnswer where
  | data (chunk : Bytes) (nonempty : chunk ≠ [])
  | endOfFile
  | interrupted
  | wouldBlock
  | failed

/-- The end of a pipe in the parent, with what has been read from it. -/
structure Pipe where
  isOpen : Bool := true
  capture : Capture := {}
  deriving DecidableEq, Repr

namespace Pipe

/-- The read loop, once `poll` has reported the pipe: until there is nothing more for now. -/
def drain (limit : ℕ) (pipe : Pipe) : List ReadAnswer → Pipe
  | [] => pipe
  | .data chunk _ :: rest =>
      drain limit { pipe with capture := appendBounded limit pipe.capture chunk } rest
  | .interrupted :: rest => drain limit pipe rest
  | .wouldBlock :: _ => pipe
  | .endOfFile :: _ => { pipe with isOpen := false }
  | .failed :: _ => { pipe with isOpen := false }

/-- A closed pipe is not polled any more. -/
def poll (limit : ℕ) (pipe : Pipe) (answers : List ReadAnswer) : Pipe :=
  if pipe.isOpen then pipe.drain limit answers else pipe

/-- The bytes that one run of the read loop takes out of the pipe. -/
def drained : List ReadAnswer → Bytes
  | .data chunk _ :: rest => chunk ++ drained rest
  | .interrupted :: rest => drained rest
  | _ => []

variable {limit : ℕ} {before : Bytes} {pipe : Pipe}

theorem drain_holds (holds : pipe.capture.Holds limit before) (answers : List ReadAnswer) :
    (pipe.drain limit answers).capture.Holds limit (before ++ drained answers) := by
  induction answers generalizing pipe before with
  | nil => simpa [drain, drained] using holds
  | cons answer rest ih =>
      cases answer with
      | data chunk nonempty =>
          let afterwards : Pipe :=
            { pipe with capture := appendBounded limit pipe.capture chunk }
          have read : afterwards.capture.Holds limit (before ++ chunk) :=
            holds.appendBounded nonempty
          have later := ih read
          rw [List.append_assoc] at later
          exact later
      | interrupted => exact ih holds
      | wouldBlock => simpa [drain, drained] using holds
      | endOfFile => simpa [drain, drained] using holds
      | failed => simpa [drain, drained] using holds

theorem poll_holds (holds : pipe.capture.Holds limit before) (answers : List ReadAnswer) :
    (pipe.poll limit answers).capture.Holds limit
      (before ++ if pipe.isOpen then drained answers else []) := by
  rw [poll]
  split
  case isTrue => exact drain_holds holds answers
  case isFalse => simpa using holds

end Pipe

end OnlineJudge.Judge
