import Mathlib.Data.List.Basic

/-!
# Classic BPF

The instructions of a packet filter and what running them means. A jump leads forwards
only, over as many instructions as its eight-bit offset says, so running a program is a
recursion on the instructions that follow.
-/

namespace OnlineJudge.Library.ClassicBpf

structure Instruction where
  code : UInt16
  jt : UInt8
  jf : UInt8
  k : UInt32
  deriving DecidableEq, Repr

/-- `BPF_LD | BPF_W | BPF_ABS`: loads the word at offset `k` into the accumulator. -/
def loadWord : UInt16 := 0x20

/-- `BPF_JMP | BPF_JEQ | BPF_K`: is the accumulator equal to `k`? -/
def jumpEqual : UInt16 := 0x15

/-- `BPF_JMP | BPF_JSET | BPF_K`: does the accumulator share a bit with `k`? -/
def jumpSet : UInt16 := 0x45

/-- `BPF_RET | BPF_K`. -/
def returnValue : UInt16 := 0x06

/-- `BPF_STMT`. -/
def stmt (code : UInt16) (k : UInt32) : Instruction := ⟨code, 0, 0, k⟩

/-- `BPF_JUMP`. -/
def jump (code : UInt16) (k : UInt32) (jt jf : UInt8) : Instruction := ⟨code, jt, jf, k⟩

/-- Runs the instructions behind the first `skip` ones, up to the value that is returned. There
is none if the end is passed or something else than the above is met. -/
def run (load : UInt32 → Option UInt32) :
    List Instruction → (skip : ℕ) → (accumulator : UInt32) → Option UInt32
  | [], _, _ => none
  | _ :: rest, skip + 1, accumulator => run load rest skip accumulator
  | instruction :: rest, 0, accumulator =>
      if instruction.code = loadWord then
        match load instruction.k with
        | none => none
        | some word => run load rest 0 word
      else if instruction.code = jumpEqual then
        run load rest
          (if accumulator = instruction.k then instruction.jt else instruction.jf).toNat accumulator
      else if instruction.code = jumpSet then
        run load rest
          (if accumulator &&& instruction.k ≠ 0 then instruction.jt else instruction.jf).toNat
          accumulator
      else if instruction.code = returnValue then some instruction.k
      else none

/-- The instruction is one of the two jumps. -/
def Instruction.isJump (instruction : Instruction) : Prop :=
  instruction.code = jumpEqual ∨ instruction.code = jumpSet

/-- Wherever the program jumps to, there is an instruction. -/
def JumpsInside (program : List Instruction) : Prop :=
  ∀ before instruction after, program = before ++ instruction :: after → instruction.isJump →
    instruction.jt.toNat < after.length ∧ instruction.jf.toNat < after.length

variable {load : UInt32 → Option UInt32} {rest front back program : List Instruction}
  {instruction : Instruction} {accumulator word k : UInt32} {jt jf : UInt8} {skip : ℕ}

theorem run_load (loaded : load k = some word) :
    run load (stmt loadWord k :: rest) 0 accumulator = run load rest 0 word := by
  simp [run, stmt, loaded]

theorem run_return : run load (stmt returnValue k :: rest) 0 accumulator = some k := by
  simp [run, stmt, loadWord, jumpEqual, jumpSet, returnValue]

theorem run_jumpEqual :
    run load (jump jumpEqual k jt jf :: rest) 0 accumulator =
      run load rest (if accumulator = k then jt else jf).toNat accumulator := rfl

theorem run_jumpSet :
    run load (jump jumpSet k jt jf :: rest) 0 accumulator =
      run load rest (if accumulator &&& k ≠ 0 then jt else jf).toNat accumulator := rfl

/-- Instructions that are jumped over have no effect. -/
theorem run_skip (front back : List Instruction) (accumulator : UInt32) :
    run load (front ++ back) front.length accumulator = run load back 0 accumulator := by
  induction front with
  | nil => rfl
  | cons instruction front ih => exact ih

theorem not_isJump_load (offset : UInt32) : ¬(stmt loadWord offset).isJump := by
  simp [Instruction.isJump, stmt, loadWord, jumpEqual, jumpSet]

theorem not_isJump_return (value : UInt32) : ¬(stmt returnValue value).isJump := by
  simp [Instruction.isJump, stmt, returnValue, jumpEqual, jumpSet]

theorem jumpsInside_nil : JumpsInside [] := by
  intro before instruction after same
  simp at same

theorem jumpsInside_cons (inside : instruction.isJump →
      instruction.jt.toNat < rest.length ∧ instruction.jf.toNat < rest.length)
    (restInside : JumpsInside rest) : JumpsInside (instruction :: rest) := by
  intro before found after same isJump
  cases before with
  | nil =>
      injection same with head_eq tail_eq
      subst head_eq tail_eq
      exact inside isJump
  | cons first before =>
      injection same with _ tail_eq
      exact restInside before found after tail_eq isJump

theorem jumpsInside_cons_stmt (notJump : ¬instruction.isJump) (restInside : JumpsInside rest) :
    JumpsInside (instruction :: rest) :=
  jumpsInside_cons (fun isJump => absurd isJump notJump) restInside

end OnlineJudge.Library.ClassicBpf
