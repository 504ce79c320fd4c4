import Mathlib.Algebra.Group.Nat.Defs
import Mathlib.Data.List.Nodup
import Mathlib.Data.List.Perm.Subperm
import OnlineJudge.Library.ClassicBpf
import OnlineJudge.Text

/-!
# The system call filter

`build_seccomp_program` in `judge/sandbox.cpp` emits a BPF program for a list of rules. The
list itself depends on the phase of the sandbox and on the system calls that the build
knows, so it is a parameter here.
-/

namespace OnlineJudge.Judge

open Library Library.ClassicBpf

/-- A system call to be refused; `add_rule` gets the same `action` for all of them. -/
structure SeccompRule where
  nr : Int32
  action : UInt32
  deriving DecidableEq, Repr

/-- The fields of `struct seccomp_data` that the filter loads. -/
structure SeccompData where
  nr : Int32
  arch : UInt32
  deriving DecidableEq, Repr

/-- The words of `struct seccomp_data` by their offset. -/
def SeccompData.load (data : SeccompData) (offset : UInt32) : Option UInt32 :=
  if offset = 0 then some data.nr.toUInt32 else if offset = 4 then some data.arch else none

def auditArchX86_64 : UInt32 := 0xC000003E

def seccompRetKillProcess : UInt32 := 0x80000000

def seccompRetAllow : UInt32 := 0x7FFF0000

/-- `SECCOMP_RET_ERRNO | EPERM`. -/
def deny : UInt32 := 0x00050001

/-- The bit that marks the system calls of the x32 ABI. -/
def x32Bit : UInt32 := 0x40000000

/-- The loop over the rules; `position` is the place of the next instruction. -/
def emitRules (denyIndex : ℕ) : (position : ℕ) → List SeccompRule →
    Except Bytes (List Instruction)
  | _, [] => .ok []
  | position, rule :: rest => do
      let off := denyIndex - position - 1
      if 255 < off then throw (Bytes.ofString "seccomp 过滤器过大（跳转越界）")
      let more ← emitRules denyIndex (position + 1) rest
      return jump jumpEqual rule.nr.toUInt32 (UInt8.ofNat off) 0 :: more

/-- The part of `build_seccomp_program` behind the table of rules. -/
def buildSeccompProgram (rules : List SeccompRule) : Except Bytes (List Instruction) := do
  let denyIndex := 6 + rules.length
  let checks ← emitRules denyIndex 5 rules
  let instructions :=
    [stmt loadWord 4,
      jump jumpEqual auditArchX86_64 1 0,
      stmt returnValue seccompRetKillProcess,
      stmt loadWord 0,
      jump jumpSet x32Bit (UInt8.ofNat (denyIndex - 4 - 1)) 0] ++
    checks ++ [stmt returnValue seccompRetAllow, stmt returnValue deny]
  if 4096 < instructions.length then
    throw (Bytes.ofString "seccomp 过滤器指令数超过内核上限")
  return instructions

/-- What the table of rules means. -/
def seccompVerdict (rules : List SeccompRule) (data : SeccompData) : UInt32 :=
  if data.arch ≠ auditArchX86_64 then seccompRetKillProcess
  else if data.nr.toUInt32 &&& x32Bit ≠ 0 ∨ ∃ rule ∈ rules, data.nr = rule.nr then deny
  else seccompRetAllow

section Emission

variable {rules : List SeccompRule} {program : List Instruction} {data : SeccompData}

/-- The checks of the rules in front of the two last instructions. -/
def ruleChecks : List SeccompRule → List Instruction
  | [] => []
  | rule :: rest =>
      jump jumpEqual rule.nr.toUInt32 (UInt8.ofNat (rest.length + 1)) 0 :: ruleChecks rest

@[simp]
theorem length_ruleChecks (rules : List SeccompRule) :
    (ruleChecks rules).length = rules.length := by
  induction rules with
  | nil => rfl
  | cons rule rest ih => simp [ruleChecks, ih]

/-- The loop fails for the first rule or not at all. -/
theorem emitRules_eq (rules : List SeccompRule) (position : ℕ) :
    emitRules (position + rules.length + 1) position rules =
      if rules.length ≤ 255 then .ok (ruleChecks rules)
      else .error (Bytes.ofString "seccomp 过滤器过大（跳转越界）") := by
  induction rules generalizing position with
  | nil => rfl
  | cons rule rest ih =>
      have off_eq : position + (rule :: rest).length + 1 - position - 1 = rest.length + 1 := by
        simp only [List.length_cons]
        omega
      have next_eq : position + (rule :: rest).length + 1 = position + 1 + rest.length + 1 := by
        simp only [List.length_cons]
        omega
      by_cases fits : rest.length + 1 ≤ 255
      · have rest_fits : rest.length ≤ 255 := by omega
        have in_range : ¬255 < rest.length + 1 := by omega
        rw [emitRules, off_eq, next_eq, ih, if_pos rest_fits, List.length_cons, if_pos fits]
        simp only [if_neg in_range]
        rfl
      · have too_far : 255 < rest.length + 1 := by omega
        rw [emitRules, off_eq, List.length_cons, if_neg fits]
        simp only [if_pos too_far]
        rfl

/-- The instructions that are emitted as long as the table is not too long. -/
def seccompProgram (rules : List SeccompRule) : List Instruction :=
  [stmt loadWord 4,
    jump jumpEqual auditArchX86_64 1 0,
    stmt returnValue seccompRetKillProcess,
    stmt loadWord 0,
    jump jumpSet x32Bit (UInt8.ofNat (rules.length + 1)) 0] ++
  ruleChecks rules ++ [stmt returnValue seccompRetAllow, stmt returnValue deny]

theorem buildSeccompProgram_eq (rules : List SeccompRule) :
    buildSeccompProgram rules =
      if rules.length ≤ 255 then .ok (seccompProgram rules)
      else .error (Bytes.ofString "seccomp 过滤器过大（跳转越界）") := by
  have index_eq : 6 + rules.length = 5 + rules.length + 1 := by omega
  have off_eq : 5 + rules.length + 1 - 4 - 1 = rules.length + 1 := by omega
  rw [buildSeccompProgram, index_eq, emitRules_eq, off_eq]
  split
  case isTrue fits =>
    have short : ¬4096 < (seccompProgram rules).length := by
      simp [seccompProgram]
      omega
    change (if 4096 < (seccompProgram rules).length then _ else _) = _
    rw [if_neg short]
    rfl
  case isFalse => rfl

theorem toUInt32_injective : Function.Injective Int32.toUInt32 := by
  rintro ⟨first⟩ ⟨second⟩ same
  exact congrArg Int32.ofUInt32 same

/-- The checks end at the last instruction for a number of the table, at the one before it for
any other. -/
theorem run_ruleChecks (fits : rules.length ≤ 255) (nr : Int32) :
    run data.load (ruleChecks rules ++ [stmt returnValue seccompRetAllow, stmt returnValue deny])
        0 nr.toUInt32 =
      some (if ∃ rule ∈ rules, nr = rule.nr then deny else seccompRetAllow) := by
  induction rules with
  | nil => simp [ruleChecks, run_return]
  | cons rule rest ih =>
      have rest_fits : rest.length ≤ 255 := by
        simp only [List.length_cons] at fits
        omega
      rw [ruleChecks, List.cons_append, run_jumpEqual]
      by_cases same : nr = rule.nr
      · have far : (UInt8.ofNat (rest.length + 1)).toNat =
            (ruleChecks rest ++ [stmt returnValue seccompRetAllow]).length := by
          simp only [List.length_cons] at fits
          simp
          omega
        have found : ∃ other ∈ rule :: rest, nr = other.nr := ⟨rule, List.mem_cons_self, same⟩
        rw [same, if_pos rfl, far, List.append_cons, run_skip, run_return, ← same,
          if_pos found]
      · have other_number : nr.toUInt32 ≠ rule.nr.toUInt32 := fun equal =>
          same (toUInt32_injective equal)
        rw [if_neg other_number]
        have same_table : (∃ other ∈ rule :: rest, nr = other.nr) ↔
            ∃ other ∈ rest, nr = other.nr := by
          simp [same]
        simp only [same_table]
        exact ih rest_fits

/-- The program up to the check of the x32 bit. -/
theorem run_seccompProgram (rules : List SeccompRule) (data : SeccompData) :
    run data.load (seccompProgram rules) 0 0 =
      if data.arch ≠ auditArchX86_64 then some seccompRetKillProcess
      else
        run data.load
          (ruleChecks rules ++ [stmt returnValue seccompRetAllow, stmt returnValue deny])
          (if data.nr.toUInt32 &&& x32Bit ≠ 0 then UInt8.ofNat (rules.length + 1) else 0).toNat
          data.nr.toUInt32 := by
  have load_arch : data.load 4 = some data.arch := rfl
  have load_nr : data.load 0 = some data.nr.toUInt32 := rfl
  simp only [seccompProgram, List.cons_append, List.nil_append]
  rw [run_load load_arch, run_jumpEqual]
  by_cases native : data.arch = auditArchX86_64
  · rw [if_pos native, if_neg (not_not.mpr native)]
    change run data.load (stmt loadWord 0 :: _) 0 data.arch = _
    rw [run_load load_nr, run_jumpSet]
  · rw [if_neg native, if_pos native]
    exact run_return

/-- A table that leaves room for the x32 check gets the program that it means. -/
theorem run_seccompProgram_eq_verdict (fits : rules.length ≤ 254) (data : SeccompData) :
    run data.load (seccompProgram rules) 0 0 = some (seccompVerdict rules data) := by
  rw [run_seccompProgram, seccompVerdict]
  by_cases native : data.arch = auditArchX86_64
  · rw [if_neg (not_not.mpr native), if_neg (not_not.mpr native)]
    by_cases x32 : data.nr.toUInt32 &&& x32Bit ≠ 0
    · have far : (UInt8.ofNat (rules.length + 1)).toNat =
          (ruleChecks rules ++ [stmt returnValue seccompRetAllow]).length := by
        simp
        omega
      rw [if_pos x32, if_pos (.inl x32), far, List.append_cons, run_skip, run_return]
    · rw [if_neg x32]
      have in_table : (data.nr.toUInt32 &&& x32Bit ≠ 0 ∨ ∃ rule ∈ rules, data.nr = rule.nr) ↔
          ∃ rule ∈ rules, data.nr = rule.nr := or_iff_right x32
      simp only [in_table]
      exact run_ruleChecks (by omega) data.nr
  · rw [if_pos native, if_pos native]

theorem jumpsInside_ruleChecks (fits : rules.length ≤ 255) :
    JumpsInside
      (ruleChecks rules ++ [stmt returnValue seccompRetAllow, stmt returnValue deny]) := by
  induction rules with
  | nil =>
      exact jumpsInside_cons_stmt (not_isJump_return _)
        (jumpsInside_cons_stmt (not_isJump_return _) jumpsInside_nil)
  | cons rule rest ih =>
      simp only [List.length_cons] at fits
      refine jumpsInside_cons (fun _ => ?_) (ih (by omega))
      simp [jump]
      omega

/-- Every jump of an emitted program stays inside it, also where the offset of the x32 check
does not fit in its eight bits. -/
theorem jumpsInside_seccompProgram (fits : rules.length ≤ 255) :
    JumpsInside (seccompProgram rules) := by
  simp only [seccompProgram, List.cons_append, List.nil_append]
  refine jumpsInside_cons_stmt (not_isJump_load _) (jumpsInside_cons (fun _ => ?_)
    (jumpsInside_cons_stmt (not_isJump_return _) (jumpsInside_cons_stmt (not_isJump_load _)
      (jumpsInside_cons (fun _ => ?_) (jumpsInside_ruleChecks fits)))))
  · simp [jump]
  · simp [jump]
    omega

theorem and_x32Bit_ne_zero {index : ℕ} (small : index < 256) :
    UInt32.ofNat (2 ^ 30 + index) &&& x32Bit ≠ 0 := by
  intro zero
  have bit : (2 ^ 30 + index).testBit 30 = true := by
    rw [Nat.testBit_two_pow_add_eq, Nat.testBit_lt_two_pow (by omega)]
    rfl
  have in_range : (2 ^ 30 + index) % 2 ^ 32 = 2 ^ 30 + index := Nat.mod_eq_of_lt (by omega)
  have nat_zero := congrArg UInt32.toNat zero
  change (UInt32.ofNat (2 ^ 30 + index)).toNat &&& 2 ^ 30 = 0 at nat_zero
  rw [UInt32.toNat_ofNat', in_range] at nat_zero
  have cleared := congrArg (Nat.testBit · 30) nat_zero
  simp only [Nat.testBit_and, bit, Nat.testBit_two_pow_self, Nat.zero_testBit] at cleared
  exact absurd cleared (by decide)

/-- A table of 255 rules cannot name all the numbers of the x32 ABI. -/
theorem exists_x32_not_in_table (full : rules.length = 255) :
    ∃ nr : Int32, nr.toUInt32 &&& x32Bit ≠ 0 ∧ ¬∃ rule ∈ rules, nr = rule.nr := by
  let numbers := (List.range 256).map fun index => Int32.ofUInt32 (UInt32.ofNat (2 ^ 30 + index))
  have distinct : numbers.Nodup := by
    refine List.Nodup.map_on ?_ List.nodup_range
    intro first firstMem second secondMem same
    have bound := List.mem_range.mp firstMem
    have bound' := List.mem_range.mp secondMem
    have same_nat := congrArg (fun nr : Int32 => nr.toUInt32.toNat) same
    simp only [UInt32.toNat_ofNat'] at same_nat
    omega
  by_contra unnamed
  have named : ∀ nr : Int32, nr.toUInt32 &&& x32Bit ≠ 0 → ∃ rule ∈ rules, nr = rule.nr := by
    intro nr x32
    by_contra absent
    exact unnamed ⟨nr, x32, absent⟩
  have inTable : numbers ⊆ rules.map (·.nr) := by
    intro nr mem
    rcases List.mem_map.mp mem with ⟨index, indexMem, rfl⟩
    rcases named _ (and_x32Bit_ne_zero (List.mem_range.mp indexMem)) with ⟨rule, ruleMem, same⟩
    exact List.mem_map.mpr ⟨rule, ruleMem, same.symm⟩
  have bound := (distinct.subperm inTable).length_le
  simp only [numbers, List.length_map, List.length_range] at bound
  omega

/-- With 255 rules the offset of the x32 check is 256, which is 0 in eight bits. -/
theorem run_seccompProgram_of_full (full : rules.length = 255)
    (native : data.arch = auditArchX86_64) :
    run data.load (seccompProgram rules) 0 0 =
      some (if ∃ rule ∈ rules, data.nr = rule.nr then deny else seccompRetAllow) := by
  have wrapped : (UInt8.ofNat (rules.length + 1)).toNat = (0 : UInt8).toNat := by
    rw [full]
    rfl
  rw [run_seccompProgram, if_neg (not_not.mpr native), apply_ite UInt8.toNat, wrapped, ite_self]
  exact run_ruleChecks full.le data.nr

/-- Whenever the builder succeeds, the program means the table and no jump leaves it, unless
the table has 255 rules. -/
theorem seccomp_program_means_table_iff (rules : List SeccompRule) :
    (∀ program, buildSeccompProgram rules = .ok program →
      (∀ data : SeccompData, run data.load program 0 0 = some (seccompVerdict rules data)) ∧
        JumpsInside program) ↔
      rules.length ≠ 255 := by
  rw [buildSeccompProgram_eq]
  constructor
  · intro means full
    rw [if_pos full.le] at means
    obtain ⟨data, native, x32, absent⟩ : ∃ data : SeccompData, data.arch = auditArchX86_64 ∧
        data.nr.toUInt32 &&& x32Bit ≠ 0 ∧ ¬∃ rule ∈ rules, data.nr = rule.nr := by
      rcases exists_x32_not_in_table full with ⟨nr, x32, absent⟩
      exact ⟨⟨nr, auditArchX86_64⟩, rfl, x32, absent⟩
    have verdict := (means _ rfl).1 data
    rw [run_seccompProgram_of_full full native, if_neg absent, seccompVerdict,
      if_neg (not_not.mpr native), if_pos (.inl x32)] at verdict
    exact absurd verdict (by decide)
  · intro notFull program built
    by_cases fits : rules.length ≤ 255
    · rw [if_pos fits] at built
      rcases Except.ok.inj built with rfl
      exact ⟨run_seccompProgram_eq_verdict (by omega), jumpsInside_seccompProgram fits⟩
    · rw [if_neg fits] at built
      cases built

/-- A table of 255 rules lets a system call of the x32 ABI through. -/
theorem x32_call_allowed :
    ¬∀ (rules : List SeccompRule) (program : List Instruction),
      buildSeccompProgram rules = .ok program →
        ∀ data : SeccompData, run data.load program 0 0 = some (seccompVerdict rules data) := by
  intro claim
  have full : (List.replicate 255 (⟨41, deny⟩ : SeccompRule)).length = 255 :=
    List.length_replicate
  have built := buildSeccompProgram_eq (List.replicate 255 ⟨41, deny⟩)
  rw [if_pos full.le] at built
  have verdict := claim _ _ built ⟨Int32.ofUInt32 0x40000027, auditArchX86_64⟩
  have absent : ¬∃ rule ∈ List.replicate 255 (⟨41, deny⟩ : SeccompRule),
      Int32.ofUInt32 0x40000027 = rule.nr := by
    rintro ⟨rule, mem, same⟩
    rw [List.eq_of_mem_replicate mem] at same
    exact absurd same (by decide)
  rw [run_seccompProgram_of_full full rfl, if_neg absent] at verdict
  exact absurd verdict (by decide)

end Emission

end OnlineJudge.Judge
