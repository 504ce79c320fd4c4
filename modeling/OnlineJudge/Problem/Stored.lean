import OnlineJudge.Db.Ledger
import OnlineJudge.Problem.Validation

/-!
# What the tables of problems and test cases hold

Identifiers are unique, and the column `tags` is always the text of a list of tags. This is so
for the built-in problems, and every statement keeps it that writes such texts only.
-/

namespace OnlineJudge

namespace Db

open Problem

/-- Identifiers are unique, and the column `tags` holds texts of tags. -/
structure Written (db : Db) : Prop where
  problemKeys : (db.problems.rows.map (·.id)).Nodup
  problemIds : ∀ row ∈ db.problems.rows, row.id < db.problems.nextId
  tags : ∀ row ∈ db.problems.rows, IsTagText row.tags
  testcaseKeys : (db.testcases.rows.map (·.id)).Nodup
  testcaseIds : ∀ row ∈ db.testcases.rows, row.id < db.testcases.nextId

/-- The statement writes a text of tags, if it writes one. -/
def WritesTagText : Stmt → Prop
  | .problems (.insert columns _) => IsTagText columns.tags
  | .problems (.update _ columns _) => IsTagText columns.tags
  | _ => True

section Execution

variable {stmt : Stmt} {before after : Db} {reply : Reply stmt}

theorem ProblemStmt.run_tags {own : ProblemStmt} {db : Db} {answer : own.Reply}
    {table : ProblemTable} (ran : own.run db = some (answer, table))
    (writes : WritesTagText (.problems own)) (tags : ∀ row ∈ db.problems.rows, IsTagText row.tags) :
    ∀ row ∈ table.rows, IsTagText row.tags := by
  cases own with
  | findById id =>
      rcases Option.some.inj ran with ⟨⟩
      exact tags
  | insert columns now =>
      rcases Option.some.inj ran with ⟨⟩
      intro row mem
      rcases List.mem_append.mp mem with old | new
      · exact tags row old
      · rw [List.mem_singleton.mp new]
        exact writes
  | update id columns now =>
      rcases Option.some.inj ran with ⟨⟩
      intro row mem
      rcases List.mem_map.mp mem with ⟨old, oldMem, rfl⟩
      split
      · exact writes
      · exact tags old oldMem
  | delete id =>
      simp only [ProblemStmt.run, Option.ite_none_left_eq_some, Option.some.injEq,
        Prod.mk.injEq] at ran
      rw [← ran.2.2]
      exact fun row mem => tags row (List.mem_of_mem_filter mem)

theorem TestcaseStmt.run_keys {own : TestcaseStmt} {db : Db} {answer : own.Reply}
    {table : TestcaseTable} (ran : own.run db = some (answer, table))
    (keys : (db.testcases.rows.map (·.id)).Nodup)
    (ids : ∀ row ∈ db.testcases.rows, row.id < db.testcases.nextId) :
    (table.rows.map (·.id)).Nodup ∧ ∀ row ∈ table.rows, row.id < table.nextId := by
  have filtered : ∀ keep : TestcaseRow → Bool,
      ((db.testcases.rows.filter keep).map (·.id)).Nodup ∧
        ∀ row ∈ db.testcases.rows.filter keep, row.id < db.testcases.nextId := by
    intro keep
    exact ⟨keys.sublist (List.filter_sublist.map _),
      fun row mem => ids row (List.mem_of_mem_filter mem)⟩
  cases own with
  | list | maxOrd | findHidden =>
      rcases Option.some.inj ran with ⟨⟩
      exact ⟨keys, ids⟩
  | insert problemId ord input output isSample =>
      simp only [TestcaseStmt.run, Option.ite_none_right_eq_some, Option.some.injEq,
        Prod.mk.injEq] at ran
      rcases ran with ⟨-, -, rfl⟩
      exact Library.keys_append_next keys ids rfl
  | updateHidden problemId id input output ord =>
      rcases Option.some.inj ran with ⟨⟩
      have same : ∀ row : TestcaseRow, (if row.isHidden problemId id then
          { row with input := input, output := output, ord := ord } else row).id = row.id := by
        intro row
        split <;> rfl
      constructor
      · rw [List.map_map]
        exact (List.map_congr_left fun row _ => same row) ▸ keys
      · intro row mem
        rcases List.mem_map.mp mem with ⟨old, oldMem, rfl⟩
        rw [same]
        exact ids old oldMem
  | deleteHidden | deleteSamples | deleteAll =>
      rcases Option.some.inj ran with ⟨⟩
      exact filtered _

theorem Written.execute (written : before.Written) (writes : WritesTagText stmt)
    (executed : Db.execute stmt before = some (reply, after)) : after.Written := by
  have problems : (after.problems.rows.map (·.id)).Nodup ∧
      (∀ row ∈ after.problems.rows, row.id < after.problems.nextId) ∧
        ∀ row ∈ after.problems.rows, IsTagText row.tags := by
    rcases problems_of_execute executed with same | ⟨own, answer, rfl, ran⟩
    · rw [same]
      exact ⟨written.problemKeys, written.problemIds, written.tags⟩
    · exact ⟨ProblemStmt.run_keys ran written.problemKeys written.problemIds,
        (ProblemStmt.run_ids ran written.problemIds).1,
        ProblemStmt.run_tags ran writes written.tags⟩
  have testcases : (after.testcases.rows.map (·.id)).Nodup ∧
      ∀ row ∈ after.testcases.rows, row.id < after.testcases.nextId := by
    rcases testcases_of_execute executed with same | ⟨own, answer, rfl, ran⟩
    · rw [same]
      exact ⟨written.testcaseKeys, written.testcaseIds⟩
    · exact TestcaseStmt.run_keys ran written.testcaseKeys written.testcaseIds
  exact
    { problemKeys := problems.1
      problemIds := problems.2.1
      tags := problems.2.2
      testcaseKeys := testcases.1
      testcaseIds := testcases.2 }

end Execution

section Seeds

structure SeedTestcase where
  input : Bytes
  output : Bytes
  isSample : Bool

/-- A built-in problem. -/
structure SeedProblem where
  seedKey : Bytes
  columns : ProblemColumns
  cases : List SeedTestcase

/-- `seed_exists`. -/
def seedExists (db : Db) (seedKey : Bytes) : Bool :=
  db.problems.rows.any fun row => row.seedKey = some seedKey

/-- The test cases of a built-in problem; `ord` counts from 0. -/
def insertSeedCases (problemId : ℤ) : List SeedTestcase → (ord : ℤ) → TestcaseTable → TestcaseTable
  | [], _, table => table
  | testcase :: rest, ord, table =>
      insertSeedCases problemId rest (ord + 1)
        { rows := table.rows ++
            [{ id := table.nextId
               problemId := problemId
               ord := ord
               input := testcase.input
               output := testcase.output
               isSample := testcase.isSample }]
          nextId := table.nextId + 1 }

/-- `insert_seed`. -/
def insertSeed (db : Db) (seed : SeedProblem) (now : Bytes) : Db :=
  { db with
    problems :=
      { rows := db.problems.rows ++
          [{ seed.columns.row db.problems.nextId now with seedKey := some seed.seedKey }]
        nextId := db.problems.nextId + 1 }
    testcases := insertSeedCases db.problems.nextId seed.cases 0 db.testcases }

/-- `import_seed_problems`: each problem in a transaction of its own, unless it is there. -/
def importSeeds (now : Bytes) : List SeedProblem → Db → Db
  | [], db => db
  | seed :: rest, db =>
      importSeeds now rest (if db.seedExists seed.seedKey then db else db.insertSeed seed now)

/-- The column `tags` of the built-in problems. -/
def builtinTags : List String :=
  ["入门,数学", "动态规划,数学", "字符串", "字符串,双指针", "字符串,双指针,动态规划",
    "字符串,哈希表", "字符串,哈希表,排序", "字符串,哈希表,计数", "字符串,栈", "数学",
    "数学,二分查找", "数学,哈希表", "数学,字符串", "数学,字符串,位运算", "数学,字符串,模拟",
    "数学,数组", "数学,递归", "数组,二分查找", "数组,位运算", "数组,入门", "数组,动态规划",
    "数组,双指针", "数组,双指针,排序", "数组,哈希表", "数组,哈希表,排序", "数组,数学",
    "数组,数学,位运算"]

theorem builtinTags_isTagText : ∀ text ∈ builtinTags, IsTagText (Bytes.ofString text) := by
  decide

theorem insertSeedCases_keys {problemId ord : ℤ} {cases : List SeedTestcase} {table : TestcaseTable}
    (keys : (table.rows.map (·.id)).Nodup) (ids : ∀ row ∈ table.rows, row.id < table.nextId) :
    ((insertSeedCases problemId cases ord table).rows.map (·.id)).Nodup ∧
      ∀ row ∈ (insertSeedCases problemId cases ord table).rows,
        row.id < (insertSeedCases problemId cases ord table).nextId := by
  induction cases generalizing table ord with
  | nil => exact ⟨keys, ids⟩
  | cons testcase rest ih =>
      apply ih
      · exact (Library.keys_append_next keys ids rfl).1
      · exact (Library.keys_append_next keys ids rfl).2

theorem Written.insertSeed {db : Db} {seed : SeedProblem} {now : Bytes} (written : db.Written)
    (isTagText : IsTagText seed.columns.tags) : (db.insertSeed seed now).Written := by
  refine ⟨?_, ?_, ?_, ?_, ?_⟩
  · exact (Library.keys_append_next written.problemKeys written.problemIds rfl).1
  · exact (Library.keys_append_next written.problemKeys written.problemIds rfl).2
  · intro row mem
    rcases List.mem_append.mp mem with old | new
    · exact written.tags row old
    · rw [List.mem_singleton.mp new]
      exact isTagText
  · exact (insertSeedCases_keys written.testcaseKeys written.testcaseIds).1
  · exact (insertSeedCases_keys written.testcaseKeys written.testcaseIds).2

/-- An import of built-in problems writes nothing else, as far as it gets. -/
theorem Written.importSeeds {db : Db} {seeds : List SeedProblem} {now : Bytes}
    (written : db.Written)
    (builtin : ∀ seed ∈ seeds, ∃ text ∈ builtinTags, seed.columns.tags = Bytes.ofString text) :
    (Db.importSeeds now seeds db).Written := by
  induction seeds generalizing db with
  | nil => exact written
  | cons seed rest ih =>
      have later : ∀ seed ∈ rest, ∃ text ∈ builtinTags,
          seed.columns.tags = Bytes.ofString text :=
        fun seed mem => builtin seed (List.mem_cons_of_mem _ mem)
      rw [Db.importSeeds]
      split
      · exact ih written later
      · rcases builtin seed List.mem_cons_self with ⟨text, mem, isText⟩
        exact ih (written.insertSeed (isText ▸ builtinTags_isTagText text mem)) later

end Seeds

end Db

end OnlineJudge
