import OnlineJudge.Db.Ranking

/-!
# The history of a user

`SubmissionStore::list_by_user` and `UserProblemStatusStore::list_by_user`: what a user has
submitted, newest first and page by page, and the problems that have a status. Where the
identifiers are unique, the pages make up one list, which has each submission once.
-/

namespace OnlineJudge

namespace Db

open Judge Library

structure SubmissionSummary where
  id : ℤ
  problemId : ℤ
  problemTitle : Bytes
  language : Bytes
  status : JudgeStatus
  runtimeMs : ℤ
  memoryKb : ℤ
  createdAt : Bytes
  deriving DecidableEq, Repr

section Queries

/-- The `WHERE` clause of both reads; a filter that is not positive is none. -/
def SubmissionRow.listedFor (row : SubmissionRow) (userId problemFilter : ℤ) : Bool :=
  row.userId = userId ∧ (problemFilter ≤ 0 ∨ row.problemId = problemFilter)

def SubmissionTable.historyOf (table : SubmissionTable) (userId problemFilter : ℤ) :
    List SubmissionRow :=
  table.rows.filter (·.listedFor userId problemFilter)

/-- `COALESCE(p.title, '')` for the rows that `LEFT JOIN problems p` has for a submission. -/
def titlesOf (db : Db) (problemId : ℤ) : List Bytes :=
  match (db.problems.rows.filter (·.id = problemId)).map (·.title) with
  | [] => [[]]
  | titles => titles

def SubmissionRow.summary (row : SubmissionRow) (problemTitle : Bytes) : SubmissionSummary where
  id := row.id
  problemId := row.problemId
  problemTitle := problemTitle
  language := row.language
  status := row.status
  runtimeMs := row.runtimeMs
  memoryKb := row.memoryKb
  createdAt := row.createdAt

/-- `ORDER BY s.created_at DESC, s.id DESC`. -/
def SubmissionSummary.Before (first second : SubmissionSummary) : Prop :=
  thenBy (second.createdAt < first.createdAt) (first.createdAt = second.createdAt) <|
    second.id ≤ first.id

instance : DecidableRel SubmissionSummary.Before := fun _ _ =>
  inferInstanceAs (Decidable (thenBy _ _ _))

def SubmissionSummary.load (summary : SubmissionSummary) : SubmissionSummary :=
  { summary with
    problemTitle := Bytes.columnText summary.problemTitle
    language := Bytes.columnText summary.language
    createdAt := Bytes.columnText summary.createdAt }

/-- The rows of the second read before they are cut into pages. -/
def history (db : Db) (userId problemFilter : ℤ) : List SubmissionSummary :=
  (((db.submissions.historyOf userId problemFilter).flatMap fun row =>
    (db.titlesOf row.problemId).map row.summary).insertionSort SubmissionSummary.Before).map
      SubmissionSummary.load

/-- The first read of `list_by_user`: the total. -/
def countHistory (db : Db) (userId problemFilter : ℤ) : ℕ :=
  (db.submissions.historyOf userId problemFilter).length

/-- The second read of `list_by_user`: one page. -/
def listHistory (db : Db) (userId problemFilter page pageSize : ℤ) : List SubmissionSummary :=
  pageOf (max 1 page) (max 1 pageSize) (db.history userId problemFilter)

structure StatusItem where
  problemId : ℤ
  accepted : Bool
  firstAcAt : Option Bytes
  submitCount : ℤ
  deriving DecidableEq, Repr

/-- `UserProblemStatusStore::list_by_user`. -/
def listStatuses (db : Db) (userId problemFilter : ℤ) : List StatusItem :=
  ((db.statuses.filter fun row =>
    row.userId = userId ∧ (problemFilter ≤ 0 ∨ row.problemId = problemFilter)).insertionSort
      fun first second => first.problemId ≤ second.problemId).map fun row =>
    { problemId := row.problemId
      accepted := row.accepted
      firstAcAt := row.firstAcAt.map Bytes.columnText
      submitCount := row.submitCount }

end Queries

section Order

theorem SubmissionSummary.before_eq : SubmissionSummary.Before =
    OrderedBy (fun first second => second < first) (·.createdAt)
      fun first second => second.id ≤ first.id := rfl

instance : Std.Total SubmissionSummary.Before where
  total := by
    rw [SubmissionSummary.before_eq]
    apply OrderedBy.total
    · intro first second
      exact Bytes.trichotomous second first |>.imp_right (Or.imp_left Eq.symm)
    · intro first second
      omega

instance : IsTrans SubmissionSummary SubmissionSummary.Before where
  trans := by
    rw [SubmissionSummary.before_eq]
    intro first second third
    apply OrderedBy.trans
    · intro first second third later earlier
      exact List.lt_trans earlier later
    · omega

end Order

section Pages

variable {db : Db} {userId problemFilter : ℤ}

/-- The columns `id` of the submissions and of the problems are keys. -/
structure HistoryKeys (db : Db) : Prop where
  submissions : (db.submissions.rows.map (·.id)).Nodup
  problems : (db.problems.rows.map (·.id)).Nodup

/-- The title that is shown with a submission, empty when its problem is missing. -/
def titleOf (db : Db) (problemId : ℤ) : Bytes := (db.titlesOf problemId).headD []

/-- What a page shows of a submission. -/
def entryFor (db : Db) (row : SubmissionRow) : SubmissionSummary :=
  (row.summary (db.titleOf row.problemId)).load

/-- The `ORDER BY` looks at no title. -/
def SubmissionRow.Before (first second : SubmissionRow) : Prop :=
  (first.summary []).Before (second.summary [])

instance : DecidableRel SubmissionRow.Before := fun first second =>
  inferInstanceAs (Decidable ((first.summary []).Before (second.summary [])))

instance : Std.Total SubmissionRow.Before where
  total first second := Std.Total.total (first.summary []) (second.summary [])

instance : IsTrans SubmissionRow SubmissionRow.Before where
  trans first second third :=
    IsTrans.trans (first.summary []) (second.summary []) (third.summary [])

/-- Submitted later, or at the same time and inserted later. -/
def SubmissionRow.Newer (first second : SubmissionRow) : Prop :=
  second.createdAt < first.createdAt ∨
    first.createdAt = second.createdAt ∧ second.id < first.id

/-- The join has one row for each submission. -/
theorem titlesOf_eq (keys : (db.problems.rows.map (·.id)).Nodup) (problemId : ℤ) :
    db.titlesOf problemId = [db.titleOf problemId] := by
  rw [titleOf]
  unfold titlesOf
  by_cases found : ∃ row ∈ db.problems.rows, row.id = problemId
  · rcases found with ⟨row, mem, rfl⟩
    rw [filter_key keys mem]
    rfl
  · have missing : db.problems.rows.filter (·.id = problemId) = [] := by
      rw [List.filter_eq_nil_iff]
      intro row mem isProblem
      exact found ⟨row, mem, by simpa using isProblem⟩
    rw [missing]
    rfl

/-- The whole history, newest first. -/
theorem history_eq (keys : db.HistoryKeys) (userId problemFilter : ℤ) :
    ∃ rows : List SubmissionRow, rows.Perm (db.submissions.historyOf userId problemFilter) ∧
      rows.Pairwise SubmissionRow.Newer ∧
        db.history userId problemFilter = rows.map db.entryFor := by
  refine ⟨(db.submissions.historyOf userId problemFilter).insertionSort SubmissionRow.Before,
    List.perm_insertionSort _ _, ?_, ?_⟩
  · have distinct : ((db.submissions.historyOf userId problemFilter).insertionSort
        SubmissionRow.Before).Pairwise fun first second => first.id ≠ second.id := by
      refine List.pairwise_map.mp (((List.perm_insertionSort _ _).map _).nodup_iff.mpr ?_)
      exact keys.submissions.sublist (List.filter_sublist.map _)
    have sorted := List.pairwise_insertionSort SubmissionRow.Before
      (db.submissions.historyOf userId problemFilter)
    refine (sorted.and distinct).imp ?_
    rintro first second ⟨later | ⟨same, below⟩, differs⟩
    · exact .inl later
    · exact .inr ⟨same, lt_of_le_of_ne below (Ne.symm differs)⟩
  · have joined : ((db.submissions.historyOf userId problemFilter).flatMap fun row =>
        (db.titlesOf row.problemId).map row.summary) =
        (db.submissions.historyOf userId problemFilter).map fun row =>
          row.summary (db.titleOf row.problemId) := by
      rw [List.map_eq_flatMap]
      apply List.flatMap_congr
      intro row _
      rw [titlesOf_eq keys.problems, List.map_singleton]
    rw [history, joined, ← List.map_insertionSort (r := SubmissionRow.Before), List.map_map]
    · rfl
    · intro first _ second _
      exact Iff.rfl

/-- The pages one after the other are the whole history. -/
theorem flatMap_listHistory {pageSize pages : ℕ} (sizes : 1 ≤ pageSize)
    (enough : (db.history userId problemFilter).length ≤ pages * pageSize) :
    ((List.range pages).flatMap fun index : ℕ =>
        db.listHistory userId problemFilter (index + 1) pageSize) =
      db.history userId problemFilter := by
  have slices : ∀ index : ℕ, db.listHistory userId problemFilter (index + 1) pageSize =
      ((db.history userId problemFilter).drop (index * pageSize)).take pageSize := by
    intro index
    have first : max 1 ((index : ℤ) + 1) = index + 1 := by omega
    have size : max 1 (pageSize : ℤ) = pageSize := by omega
    have start : (((index : ℤ) + 1 - 1) * pageSize).toNat = index * pageSize := by
      rw [add_sub_cancel_right]
      exact_mod_cast Int.toNat_natCast (index * pageSize)
    rw [listHistory, first, size, pageOf, start, Int.toNat_natCast]
  simp only [slices]
  rw [flatMap_pages, List.take_of_length_le enough]

end Pages

end Db

end OnlineJudge
