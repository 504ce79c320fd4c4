import OnlineJudge.Service.Submit

/-!
# The rejudge service

`RejudgeService`: judges a stored submission again, replaces its result and recomputes
the status of its user from the table of submissions. The submission is first read
without the mutex.
-/

namespace OnlineJudge

namespace Service

open Judge Db Library

/-- `UserProblemStatusStore::recompute`, followed by `next`. -/
def recomputeStatus (userId problemId : ℤ) (failure next : Program) : Program :=
  .exec (.statuses (.findSubmitCount userId problemId)) fun
    | none => failure
    | some (some submitCount) => finishRecompute submitCount
    | some none =>
        .exec (.submissions (.countFor userId problemId)) fun
          | none => failure
          | some count => finishRecompute count
where
  finishRecompute (submitCount : ℤ) : Program :=
    .exec (.submissions (.minAcceptedAt userId problemId)) fun
      | none => failure
      | some firstAcAt =>
          .exec
            (.statuses
              (.upsert
                { userId := userId
                  problemId := problemId
                  accepted := firstAcAt.isSome
                  firstAcAt := firstAcAt.map Bytes.columnText
                  submitCount := submitCount })) fun
            | none => failure
            | some () => next

def submissionMissing : Event :=
  .settled { kind := .problemNotFound, error := Bytes.ofString "提交记录不存在" }

/-- The transaction of a rejudge. -/
def storeRejudge (updated : SubmissionRecord) (result : JudgeResult) : Program :=
  Program.beginWith internalError <|
    .exec (.submissions (.findById updated.id)) fun
      | none => Program.rollbackWith internalError
      | some none => Program.rollbackWith submissionMissing
      | some (some _) =>
          .exec (.submissions (.update updated)) fun
            | none => Program.rollbackWith internalError
            | some () =>
                recomputeStatus updated.userId updated.problemId
                  (Program.rollbackWith internalError)
                  (Program.commitWith
                    (.settled { kind := .ok, submission := some updated, judge := result })
                    internalError)

/-- The submission with the result of its new judging. -/
def rejudgedRecord (original : SubmissionRecord) (result : JudgeResult) (perCase : Bytes) :
    SubmissionRecord :=
  { original with
    status := result.status
    perCase := perCase
    compileMsg := result.compileOutput
    runtimeMs := totalRuntimeMs result
    memoryKb := peakMemoryKb result }

/-- `RejudgeService::rejudge`. A `SYSERR` counts as a failure to rejudge. -/
def rejudge (dump : Dump) (judge : JudgeTask → JudgeResult) (submissionId : ℤ) : Program :=
  .exec (.submissions (.findById submissionId)) fun
    | none => Program.finish internalError
    | some none => Program.finish submissionMissing
    | some (some original) =>
        .exec (.problems (.findById original.problemId)) fun
          | none => Program.finish internalError
          | some none =>
              Program.finish
                (.settled { kind := .problemNotFound, error := Bytes.ofString "题目不存在" })
          | some (some problem) =>
              .exec (.testcases (.list original.problemId)) fun
                | none => Program.finish internalError
                | some records =>
                    let judgeTask :=
                      toJudgeTask original.language original.sourceCode problem records
                    let result := judge judgeTask
                    .emit (.judging original.problemId records) <|
                      if result.status = .SYSERR then
                        Program.finish
                          (.settled
                            { kind := .internalError
                              judge := result
                              error := Bytes.ofString "重判未能完成：" ++ result.message })
                      else
                        match dump (buildPerCaseJson judgeTask result) with
                        | none => Program.finish .threw
                        | some perCase =>
                            storeRejudge (rejudgedRecord original result perCase) result

end Service

end OnlineJudge
