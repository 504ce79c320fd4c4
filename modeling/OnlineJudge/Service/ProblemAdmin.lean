import OnlineJudge.Service.Program

/-!
# Administration of problems and test cases

`ProblemAdminStore` and `TestcaseAdminStore`. Every operation is one transaction under
the mutex, and every way out of it other than success is a rollback.
-/

namespace OnlineJudge

namespace Service

open Judge Db Library

structure SampleInput where
  input : Bytes
  output : Bytes

structure ProblemData where
  title : Bytes
  description : Bytes
  difficulty : Difficulty
  tags : List Bytes
  timeLimitMs : ℤ
  memoryLimitKb : ℤ
  visible : Bool
  samples : List SampleInput

/-- The fields of a request that changes a problem; an absent field keeps its value. -/
structure ProblemPatch where
  title : Option Bytes := none
  description : Option Bytes := none
  difficulty : Option Difficulty := none
  tags : Option (List Bytes) := none
  timeLimitMs : Option ℤ := none
  memoryLimitKb : Option ℤ := none
  visible : Option Bool := none
  samples : Option (List SampleInput) := none

/-- `insert_samples`: `ord` counts from 0. -/
def insertSamples (problemId : ℤ) (failure next : Program) :
    List SampleInput → (ord : ℤ) → Program
  | [], _ => next
  | sample :: rest, ord =>
      .exec (.testcases (.insert problemId ord sample.input sample.output true)) fun
        | none => failure
        | some _ => insertSamples problemId failure next rest (ord + 1)

/-- `ProblemAdminStore::create`. -/
def createProblem (data : ProblemData) (now : Bytes) : Program :=
  let failure := Event.problemCreated none
  Program.beginWith failure <|
    .exec
      (.problems
        (.insert
          { title := data.title
            description := data.description
            difficulty := data.difficulty
            tags := Bytes.joinTags data.tags
            timeLimitMs := data.timeLimitMs
            memoryLimitKb := data.memoryLimitKb
            visible := data.visible } now)) fun
      | none => Program.rollbackWith failure
      | some problemId =>
          insertSamples problemId (Program.rollbackWith failure)
            (Program.commitWith (.problemCreated (some problemId)) failure) data.samples 0

def ProblemPatch.apply (patch : ProblemPatch) (record : ProblemRecord) : ProblemColumns where
  title := patch.title.getD record.title
  description := patch.description.getD record.description
  difficulty := patch.difficulty.getD record.difficulty
  tags := Bytes.joinTags (patch.tags.getD record.tags)
  timeLimitMs := patch.timeLimitMs.getD record.timeLimitMs
  memoryLimitKb := patch.memoryLimitKb.getD record.memoryLimitKb
  visible := patch.visible.getD record.visible

/-- `ProblemAdminStore::update`; samples are replaced as a whole. -/
def updateProblem (id : ℤ) (patch : ProblemPatch) (now : Bytes) : Program :=
  let failure := Event.problemUpdated .error
  let finish := Program.commitWith (.problemUpdated .updated) failure
  Program.beginWith failure <|
    .exec (.problems (.findById id)) fun
      | none => Program.rollbackWith failure
      | some none => Program.rollbackWith (.problemUpdated .notFound)
      | some (some record) =>
          .exec (.problems (.update id (patch.apply record) now)) fun
            | none => Program.rollbackWith failure
            | some () =>
                match patch.samples with
                | none => finish
                | some samples =>
                    .exec (.testcases (.deleteSamples id)) fun
                      | none => Program.rollbackWith failure
                      | some () =>
                          insertSamples id (Program.rollbackWith failure) finish samples 0

/-- The statements that delete a problem and what refers to it, in their order. -/
def deleteProblemRows (id : ℤ) (failure next : Program) : Program :=
  .exec (.testcases (.deleteAll id)) fun
    | none => failure
    | some () =>
        .exec (.statuses (.deleteForProblem id)) fun
          | none => failure
          | some () =>
              .exec (.inFlight (.deleteForProblem id)) fun
                | none => failure
                | some () =>
                    .exec (.problems (.delete id)) fun
                      | none => failure
                      | some () => next

/-- `ProblemAdminStore::remove`. -/
def removeProblem (id : ℤ) : Program :=
  let failure := Event.problemRemoved .error
  Program.beginWith failure <|
    .exec (.problems (.findById id)) fun
      | none => Program.rollbackWith failure
      | some none => Program.rollbackWith (.problemRemoved .notFound)
      | some (some _) =>
          .exec (.submissions (.countForProblem id)) fun
            | none => Program.rollbackWith failure
            | some submissionCount =>
                if 0 < submissionCount then
                  Program.rollbackWith (.problemRemoved .hasSubmissions)
                else
                  .exec (.inFlight (.countForProblem id)) fun
                    | none => Program.rollbackWith failure
                    | some inFlightCount =>
                        if 0 < inFlightCount then
                          Program.rollbackWith (.problemRemoved .hasSubmissions)
                        else
                          deleteProblemRows id (Program.rollbackWith failure)
                            (Program.commitWith (.problemRemoved .deleted) failure)

structure TestcaseData where
  input : Bytes
  output : Bytes
  ord : Option ℤ := none

structure TestcasePatch where
  input : Option Bytes := none
  output : Option Bytes := none
  ord : Option ℤ := none

def maxTestcaseOrd : ℤ := 1000000

def insertHidden (problemId : ℤ) (data : TestcaseData) (ord : ℤ) : Program :=
  let failure := Event.testcaseCreated .error
  .exec (.testcases (.insert problemId ord data.input data.output false)) fun
    | none => Program.rollbackWith failure
    | some newId => Program.commitWith (.testcaseCreated (.created newId ord)) failure

/-- `TestcaseAdminStore::create`; without an explicit `ord` the case goes to the end. -/
def createTestcase (problemId : ℤ) (data : TestcaseData) : Program :=
  let failure := Event.testcaseCreated .error
  Program.beginWith failure <|
    .exec (.problems (.findById problemId)) fun
      | none => Program.rollbackWith failure
      | some none => Program.rollbackWith (.testcaseCreated .problemNotFound)
      | some (some _) =>
          match data.ord with
          | some ord => insertHidden problemId data ord
          | none =>
              .exec (.testcases (.maxOrd problemId)) fun
                | none => Program.rollbackWith failure
                | some maxOrd =>
                    if maxTestcaseOrd < maxOrd + 1 then
                      Program.rollbackWith (.testcaseCreated .ordExhausted)
                    else insertHidden problemId data (maxOrd + 1)

/-- `TestcaseAdminStore::update`. -/
def updateTestcase (problemId testcaseId : ℤ) (patch : TestcasePatch) : Program :=
  let failure := Event.testcaseUpdated .error 0
  Program.beginWith failure <|
    .exec (.testcases (.findHidden problemId testcaseId)) fun
      | none => Program.rollbackWith failure
      | some none => Program.rollbackWith (.testcaseUpdated .notFound 0)
      | some (some current) =>
          let ord := patch.ord.getD current.ord
          .exec
            (.testcases
              (.updateHidden problemId testcaseId (patch.input.getD current.input)
                (patch.output.getD current.output) ord)) fun
            | none => Program.rollbackWith failure
            | some () => Program.commitWith (.testcaseUpdated .updated ord) failure

/-- `TestcaseAdminStore::remove`. -/
def removeTestcase (problemId testcaseId : ℤ) : Program :=
  let failure := Event.testcaseRemoved .error
  Program.beginWith failure <|
    .exec (.testcases (.findHidden problemId testcaseId)) fun
      | none => Program.rollbackWith failure
      | some none => Program.rollbackWith (.testcaseRemoved .notFound)
      | some (some _) =>
          .exec (.testcases (.deleteHidden problemId testcaseId)) fun
            | none => Program.rollbackWith failure
            | some () => Program.commitWith (.testcaseRemoved .deleted) failure

end Service

end OnlineJudge
