import OnlineJudge.Db.Problems
import OnlineJudge.Db.Submissions
import OnlineJudge.Problem.ListQuery

/-!
# Reading problems

The public reads of `ProblemStore`: the filtered list with its page and its total, the
set of tags, a problem with its samples, and whether a user has solved it.
-/

namespace OnlineJudge

namespace Db

section Like

inductive LikeToken where
  | anything
  | character
  | byte (byte : UInt8)
  deriving DecidableEq, Repr

/-- `%` and `_` are wild cards. -/
def LikeToken.ofByte (byte : UInt8) : LikeToken :=
  if byte = 37 then .anything else if byte = 95 then .character else .byte byte

/-- The elements of a pattern with `ESCAPE '\'`; an escape at the end is malformed. -/
def likeTokens : Bytes → Option (List LikeToken)
  | [] => some []
  | [byte] => if byte = 92 then none else some [.ofByte byte]
  | byte :: next :: rest =>
      if byte = 92 then (likeTokens rest).map (.byte next :: ·)
      else (likeTokens (next :: rest)).map (.ofByte byte :: ·)

/-- The text after its first character, which is a byte with the continuation bytes of UTF-8. -/
def skipCharacter : Bytes → Option Bytes
  | [] => none
  | byte :: rest =>
      some (if 192 ≤ byte then rest.dropWhile fun next => 128 ≤ next && next < 192 else rest)

/-- The whole text has the form of the pattern, up to the case of ASCII letters. -/
def likeMatches : List LikeToken → Bytes → Bool
  | [], text => text = []
  | .anything :: tokens, text => text.tails.any fun suffix => likeMatches tokens suffix
  | .character :: tokens, text =>
      match skipCharacter text with
      | none => false
      | some rest => likeMatches tokens rest
  | .byte byte :: tokens, text =>
      match text with
      | [] => false
      | first :: rest => Bytes.toLower first = Bytes.toLower byte && likeMatches tokens rest

/-- `text LIKE pattern ESCAPE '\'`, byte by byte: SQLite compares characters, ends both texts at a
zero byte and limits the length of a pattern, so this is its answer for short well-formed texts
without such a byte. -/
def like (pattern text : Bytes) : Bool :=
  match likeTokens pattern with
  | none => false
  | some tokens => likeMatches tokens text

end Like

def Difficulty.text : Difficulty → Bytes
  | .easy => Bytes.ofString "easy"
  | .medium => Bytes.ofString "medium"
  | .hard => Bytes.ofString "hard"

inductive ProblemVisibility where
  | visibleOnly
  | all
  | hiddenOnly
  deriving DecidableEq, Repr

structure ProblemListQuery where
  visibility : ProblemVisibility
  keyword : Bytes
  difficulty : Bytes
  tag : Bytes
  /-- `0` for a guest. -/
  viewerUserId : ℤ
  page : ℤ
  pageSize : ℤ
  deriving DecidableEq, Repr

/-- A condition that is there only when its parameter is. -/
def conditionFor (parameter : Bytes) (condition : ProblemRow → Bool) :
    List (ProblemRow → Bool) :=
  if parameter ≠ [] then [condition] else []

/-- `build_where`: the conditions, which are joined by `AND`. -/
def buildWhere (query : ProblemListQuery) : List (ProblemRow → Bool) :=
  let visibility : List (ProblemRow → Bool) :=
    match query.visibility with
    | .visibleOnly => [fun row => row.visible]
    | .all => []
    | .hiddenOnly => [fun row => !row.visible]
  visibility ++
    conditionFor query.keyword (fun row => like (titleLikePattern query.keyword) row.title) ++
    conditionFor query.difficulty (fun row => row.difficulty.text = query.difficulty) ++
    -- `instr(',' || p.tags || ',', ?) > 0`
    conditionFor query.tag (fun row => tagMatchNeedle query.tag <:+: [44] ++ row.tags ++ [44])

/-- The row satisfies the `WHERE` clause. -/
def ProblemListQuery.selects (query : ProblemListQuery) (row : ProblemRow) : Bool :=
  (buildWhere query).all fun condition => condition row

structure ProblemSummary where
  id : ℤ
  title : Bytes
  difficulty : Difficulty
  tags : List Bytes
  visible : Bool
  passCount : ℕ
  solved : Bool
  deriving DecidableEq, Repr

/-- How many users have solved a problem: `COUNT(DISTINCT s.user_id)`. -/
def passCount (db : Db) (problemId : ℤ) : ℕ :=
  ((db.statuses.filter fun row => row.problemId = problemId ∧ row.accepted).map
    (·.userId)).dedup.length

/-- The user has a status for the problem, and it is `accepted`. -/
def solvedBy (db : Db) (userId problemId : ℤ) : Bool :=
  (db.statusOf userId problemId).any (·.accepted)

/-- `load_summary_with_stats`. -/
def summaryFor (db : Db) (viewerUserId : ℤ) (row : ProblemRow) : ProblemSummary where
  id := row.id
  title := Bytes.columnText row.title
  difficulty := row.difficulty
  tags := Bytes.splitTags (Bytes.columnText row.tags)
  visible := row.visible
  passCount := passCount db row.id
  solved := solvedBy db viewerUserId row.id

structure ProblemListResult where
  items : List ProblemSummary
  total : ℕ
  deriving DecidableEq, Repr

/-- A page of the rows: `LIMIT pageSize OFFSET (page - 1) * pageSize`. -/
def pageOf {α : Type} (page pageSize : ℤ) (rows : List α) : List α :=
  (rows.drop ((page - 1) * pageSize).toNat).take pageSize.toNat

/-- `ProblemStore::query`: the total and one page, `ORDER BY p.id`. -/
def queryProblems (db : Db) (query : ProblemListQuery) : Option ProblemListResult :=
  if query.page < 1 ∨ query.pageSize < 1 then none
  else
    let selected := db.problems.rows.filter query.selects
    some
      { items :=
          (pageOf query.page query.pageSize
            (selected.insertionSort fun first second => first.id ≤ second.id)).map
              (summaryFor db query.viewerUserId)
        total := selected.length }

/-- `ProblemStore::list_tags`: every tag once, in the order of its bytes. -/
def listTags (db : Db) (includeHidden : Bool) : List Bytes :=
  let rows := db.problems.rows.filter fun row => includeHidden || row.visible
  (rows.flatMap fun row => Bytes.splitTags (Bytes.columnText row.tags)).dedup.insertionSort
    fun first second => first < second ∨ first = second

/-- `ProblemStore::find_by_id`. -/
def findProblem (db : Db) (id : ℤ) : Option ProblemRecord :=
  (db.problems.rows.find? (·.id = id)).map ProblemRow.load

structure SampleCase where
  input : Bytes
  output : Bytes
  deriving DecidableEq, Repr

def listSamples (db : Db) (problemId : ℤ) : List SampleCase :=
  ((db.testcases.rows.filter fun row => row.problemId = problemId ∧ row.isSample).insertionSort
    TestcaseRow.Before).map fun row =>
      { input := Bytes.columnText row.input, output := Bytes.columnText row.output }

end Db

end OnlineJudge
