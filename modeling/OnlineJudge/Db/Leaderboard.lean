import Mathlib.Algebra.Ring.Int.Defs
import OnlineJudge.Db.ProblemList

/-!
# The leaderboard

`LeaderboardStore::query`: one row of statistics for each user who has a status on a
visible problem, joined with the table of users and ranked.
-/

namespace OnlineJudge

namespace Db

structure UserStats where
  userId : ℤ
  acCount : ℕ
  submitCount : ℤ
  firstAcAt : Option Bytes
  deriving DecidableEq, Repr

/-- `user_problem_status ups JOIN problems p ON p.id = ups.problem_id AND p.visible = 1`. -/
def joinVisible (db : Db) : List StatusRow :=
  db.statuses.flatMap fun row =>
    (db.problems.rows.filter fun problem => problem.id = row.problemId ∧ problem.visible).map
      fun _ => row

/-- The aggregates over the rows of one user. -/
def UserStats.ofRows (userId : ℤ) (rows : List StatusRow) : UserStats where
  userId := userId
  acCount := (rows.filter (·.accepted)).length
  submitCount := (rows.map (·.submitCount)).sum
  firstAcAt := earliest ((rows.filter (·.accepted)).filterMap (·.firstAcAt))

/-- `kUserStatsSelect`: `GROUP BY ups.user_id`. -/
def userStats (db : Db) : List UserStats :=
  ((joinVisible db).map (·.userId)).dedup.map fun userId =>
    .ofRows userId ((joinVisible db).filter (·.userId = userId))

structure LeaderboardEntry where
  userId : ℤ
  nickname : Bytes
  acCount : ℕ
  submitCount : ℤ
  firstAcAt : Option Bytes
  createdAt : Bytes
  deriving DecidableEq, Repr

/-- A sort key that is compared only when the ones before it are equal. -/
def thenBy (smaller same rest : Prop) : Prop := smaller ∨ same ∧ rest

instance {smaller same rest : Prop} [Decidable smaller] [Decidable same] [Decidable rest] :
    Decidable (thenBy smaller same rest) :=
  inferInstanceAs (Decidable (_ ∨ _))

/-- A time that is `NULL` comes after the others; two of them are equal. -/
def earlierTime : Option Bytes → Option Bytes → Bool
  | some first, some second => first < second
  | some _, none => true
  | none, _ => false

/-- The `ORDER BY` of the leaderboard. -/
def LeaderboardEntry.Before (first second : LeaderboardEntry) : Prop :=
  thenBy (second.acCount < first.acCount) (first.acCount = second.acCount) <|
    thenBy (first.submitCount < second.submitCount) (first.submitCount = second.submitCount) <|
      thenBy (earlierTime first.firstAcAt second.firstAcAt) (first.firstAcAt = second.firstAcAt) <|
        thenBy (first.createdAt < second.createdAt) (first.createdAt = second.createdAt) <|
          first.userId ≤ second.userId

instance : DecidableRel LeaderboardEntry.Before := fun _ _ =>
  inferInstanceAs (Decidable (thenBy _ _ (thenBy _ _ (thenBy _ _ (thenBy _ _ _)))))

def LeaderboardEntry.load (entry : LeaderboardEntry) : LeaderboardEntry :=
  { entry with
    nickname := Bytes.columnText entry.nickname
    firstAcAt := entry.firstAcAt.map Bytes.columnText
    createdAt := Bytes.columnText entry.createdAt }

/-- `stats JOIN users u ON u.id = stats.user_id`, in the order of the ranking. -/
def ranking (db : Db) : List LeaderboardEntry :=
  (((userStats db).filter (0 < ·.submitCount)).flatMap fun stats =>
    (db.users.rows.filter (·.id = stats.userId)).map fun user =>
      { userId := user.id
        nickname := user.nickname
        acCount := stats.acCount
        submitCount := stats.submitCount
        firstAcAt := stats.firstAcAt
        createdAt := user.createdAt }).insertionSort LeaderboardEntry.Before

structure LeaderboardResult where
  items : List LeaderboardEntry
  total : ℕ
  deriving DecidableEq, Repr

/-- `LeaderboardStore::query`; both of its reads are in one transaction. -/
def queryLeaderboard (db : Db) (page pageSize : ℤ) : Option LeaderboardResult :=
  if page < 1 ∨ pageSize < 1 then none
  else
    some
      { items := (pageOf page pageSize (ranking db)).map LeaderboardEntry.load
        total := ((userStats db).filter (0 < ·.submitCount)).length }

end Db

end OnlineJudge
