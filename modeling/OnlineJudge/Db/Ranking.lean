import Mathlib.Algebra.Order.BigOperators.Group.List
import Mathlib.Algebra.Order.Group.Int
import OnlineJudge.Db.Leaderboard
import OnlineJudge.Db.ProblemStatus
import OnlineJudge.Library.Relational

/-!
# The ranking is faithful

What the leaderboard shows in terms of the tables: who is listed, with which numbers, and in
which order. The two queries of `LeaderboardStore::query` aggregate the same rows, and keys
and references of the tables see to it that a join takes no row twice and loses none.
-/

namespace OnlineJudge

namespace Db

open Library

/-- The problem is there and visible. -/
def problemVisible (db : Db) (id : ℤ) : Bool :=
  db.problems.rows.any fun problem => problem.id = id ∧ problem.visible

/-- The statuses of a user on visible problems. -/
def rankedStatuses (db : Db) (userId : ℤ) : List StatusRow :=
  (db.statuses.filter fun row => db.problemVisible row.problemId).filter (·.userId = userId)

/-- The user has a settled submission on a visible problem. -/
def HasSettled (db : Db) (userId : ℤ) : Prop :=
  ∃ submission ∈ db.submissions.rows, submission.userId = userId ∧
    db.problemVisible submission.problemId = true

/-- The smallest of the times, if there are any. -/
def IsFirstTime (times : List Bytes) (first : Option Bytes) : Prop :=
  (first = none ↔ times = []) ∧
    ∀ time ∈ first, time ∈ times ∧ ∀ other ∈ times, ¬other < time

/-- Strictly higher in the ranking: by the number of solved problems, downwards; by the number of
submissions, upwards; those who have solved none last; by the time of the first solution, the time
of the registration and the identifier, upwards. -/
def LeaderboardEntry.Above (first second : LeaderboardEntry) : Prop :=
  thenBy (second.acCount < first.acCount) (first.acCount = second.acCount) <|
    thenBy (first.submitCount < second.submitCount) (first.submitCount = second.submitCount) <|
      thenBy (first.firstAcAt ≠ none ∧ second.firstAcAt = none)
          (first.firstAcAt = none ↔ second.firstAcAt = none) <|
        thenBy (∃ time ∈ first.firstAcAt, ∃ later ∈ second.firstAcAt, time < later)
            (first.firstAcAt = second.firstAcAt) <|
          thenBy (first.createdAt < second.createdAt) (first.createdAt = second.createdAt) <|
            first.userId < second.userId

/-- The entry shows the user with what the statuses on visible problems amount to. -/
structure EntryOf (db : Db) (user : UserRecord) (entry : LeaderboardEntry) : Prop where
  userId : entry.userId = user.id
  nickname : entry.nickname = Bytes.columnText user.nickname
  createdAt : entry.createdAt = user.createdAt
  acCount : entry.acCount = ((db.rankedStatuses user.id).filter (·.accepted)).length
  submitCount : entry.submitCount = ((db.rankedStatuses user.id).map (·.submitCount)).sum
  firstAcAt : IsFirstTime
    (((db.rankedStatuses user.id).filter (·.accepted)).filterMap (·.firstAcAt)) entry.firstAcAt
  /-- Without a solution there is no time, and with one there is. -/
  noAc : entry.firstAcAt = none ↔ entry.acCount = 0

structure FaithfulRanking (db : Db) (ranked : List LeaderboardEntry) : Prop where
  listed : ∀ user ∈ db.users.rows,
    (∃ entry ∈ ranked, entry.userId = user.id) ↔ db.HasSettled user.id
  once : (ranked.map (·.userId)).Nodup
  entries : ∀ entry ∈ ranked, ∃ user ∈ db.users.rows, db.EntryOf user entry
  ordered : ranked.Pairwise LeaderboardEntry.Above

/-- A status as the program stores it: it is accepted exactly when it has a time. -/
structure StatusRow.Timed (row : StatusRow) : Prop where
  accepted : row.accepted = row.firstAcAt.isSome
  timestamp : ∀ time ∈ row.firstAcAt, IsTimestamp time

/-- What the tables have to be like for the ranking to be faithful. -/
structure Rankable (db : Db) : Prop where
  users : (db.users.rows.map (·.id)).Nodup
  problems : (db.problems.rows.map (·.id)).Nodup
  owners : ∀ row ∈ db.statuses, db.hasUser row.userId = true
  timed : ∀ row ∈ db.statuses, row.Timed
  created : ∀ user ∈ db.users.rows, 0 ∉ user.createdAt
  counted : ∀ row ∈ db.statuses,
    row.submitCount = (db.submissions.ofUser row.userId row.problemId).length
  /-- Every settled submission has its status. -/
  settled : ∀ submission ∈ db.submissions.rows, ∃ row ∈ db.statuses,
    row.userId = submission.userId ∧ row.problemId = submission.problemId

variable {db : Db}

section Statistics

theorem joinVisible_eq (problems : (db.problems.rows.map (·.id)).Nodup) :
    joinVisible db = db.statuses.filter fun row => db.problemVisible row.problemId :=
  join_eq_filter problems db.statuses (·.problemId) (·.visible)

theorem mem_userStats (problems : (db.problems.rows.map (·.id)).Nodup) {stats : UserStats} :
    stats ∈ userStats db ↔ ∃ userId, db.rankedStatuses userId ≠ [] ∧
      stats = .ofRows userId (db.rankedStatuses userId) := by
  have rows_eq : ∀ userId : ℤ, (joinVisible db).filter (·.userId = userId) =
      db.rankedStatuses userId := by
    intro userId
    rw [joinVisible_eq problems, rankedStatuses]
  simp only [userStats, List.mem_map, List.mem_dedup, rows_eq]
  constructor
  · rintro ⟨userId, ⟨row, mem, rfl⟩, rfl⟩
    refine ⟨row.userId, ?_, rfl⟩
    rw [← rows_eq]
    exact List.ne_nil_of_mem (List.mem_filter.mpr ⟨mem, by simp⟩)
  · rintro ⟨userId, nonempty, rfl⟩
    rcases List.exists_mem_of_ne_nil _ nonempty with ⟨row, mem⟩
    rw [← rows_eq] at mem
    have isUser : row.userId = userId := by simpa using (List.mem_filter.mp mem).2
    exact ⟨userId, ⟨row, (List.mem_filter.mp mem).1, isUser⟩, rfl⟩

theorem userStats_nodup : ((userStats db).map (·.userId)).Nodup := by
  have ids : (userStats db).map (·.userId) = ((joinVisible db).map (·.userId)).dedup := by
    rw [userStats, List.map_map]
    exact List.map_id _
  exact ids ▸ List.nodup_dedup _

theorem earliest_isFirstTime (times : List Bytes) : IsFirstTime times (earliest times) :=
  ⟨(earliest_spec times).1, fun time isFirst => (earliest_spec times).2 time isFirst⟩

/-- A user has settled something on a visible problem exactly when the counts add up to something.
-/
theorem Rankable.hasSettled_iff (rankable : db.Rankable) {userId : ℤ} :
    db.HasSettled userId ↔ 0 < ((db.rankedStatuses userId).map (·.submitCount)).sum := by
  have counted : ∀ row ∈ db.rankedStatuses userId, row ∈ db.statuses ∧ row.userId = userId ∧
      db.problemVisible row.problemId = true := by
    intro row mem
    simpa [rankedStatuses, and_assoc, and_comm, and_left_comm] using mem
  have nonneg : ∀ count ∈ (db.rankedStatuses userId).map (·.submitCount), 0 ≤ count := by
    intro count mem
    rcases List.mem_map.mp mem with ⟨row, rowMem, rfl⟩
    rw [rankable.counted row (counted row rowMem).1]
    simp
  constructor
  · rintro ⟨submission, mem, rfl, shown⟩
    rcases rankable.settled submission mem with ⟨row, rowMem, isUser, isProblem⟩
    have ranked : row ∈ db.rankedStatuses submission.userId := by
      simp [rankedStatuses, rowMem, isUser, isProblem, shown]
    have stored : submission ∈ db.submissions.ofUser row.userId row.problemId := by
      simp [SubmissionTable.ofUser, mem, isUser, isProblem]
    have positive : 0 < row.submitCount := by
      rw [rankable.counted row rowMem]
      exact_mod_cast List.length_pos_of_mem stored
    have below := List.single_le_sum nonneg _ (List.mem_map_of_mem ranked)
    omega
  · intro positive
    by_contra unsettled
    have zero : ∀ count ∈ (db.rankedStatuses userId).map (·.submitCount), count = 0 := by
      intro count mem
      rcases List.mem_map.mp mem with ⟨row, rowMem, rfl⟩
      rcases counted row rowMem with ⟨stored, rfl, shown⟩
      rw [rankable.counted row stored]
      by_contra nonzero
      have some_stored : db.submissions.ofUser row.userId row.problemId ≠ [] := by
        intro empty
        simp [empty] at nonzero
      rcases List.exists_mem_of_ne_nil _ some_stored with ⟨submission, mem⟩
      simp only [SubmissionTable.ofUser, List.mem_filter, decide_eq_true_eq] at mem
      exact unsettled ⟨submission, mem.1, mem.2.1, mem.2.2 ▸ shown⟩
    rw [List.sum_eq_zero zero] at positive
    exact lt_irrefl 0 positive

/-- Someone who is ranked is a user. -/
theorem Rankable.user_of_stats (rankable : db.Rankable) {stats : UserStats}
    (mem : stats ∈ userStats db) : ∃ user ∈ db.users.rows, user.id = stats.userId := by
  rcases (mem_userStats rankable.problems).mp mem with ⟨userId, nonempty, rfl⟩
  rcases List.exists_mem_of_ne_nil _ nonempty with ⟨row, rowMem⟩
  simp only [rankedStatuses, List.mem_filter, decide_eq_true_eq] at rowMem
  have owner := rankable.owners row rowMem.1.1
  rw [rowMem.2] at owner
  simpa [hasUser, UserStats.ofRows] using owner

end Statistics

section Order

theorem Bytes.trichotomous (first second : Bytes) :
    first < second ∨ first = second ∨ second < first := by
  by_cases below : first < second
  · exact .inl below
  by_cases above : second < first
  · exact .inr (.inr above)
  · exact .inr (.inl (List.le_antisymm above below))

theorem earlierTime_trans {first second third : Option Bytes}
    (earlier : earlierTime first second = true) (later : earlierTime second third = true) :
    earlierTime first third = true := by
  cases first with
  | none => simp [earlierTime] at earlier
  | some first =>
      cases second with
      | none => simp [earlierTime] at later
      | some second =>
          cases third with
          | none => rfl
          | some third =>
              simp only [earlierTime, decide_eq_true_eq] at earlier later ⊢
              exact List.lt_trans earlier later

theorem earlierTime_trichotomous (first second : Option Bytes) :
    earlierTime first second = true ∨ first = second ∨ earlierTime second first = true := by
  cases first with
  | none => cases second <;> simp [earlierTime]
  | some first =>
      cases second with
      | none => simp [earlierTime]
      | some second => simpa [earlierTime] using Bytes.trichotomous first second

/-- The `ORDER BY`, one key after the other. -/
theorem LeaderboardEntry.before_eq : LeaderboardEntry.Before =
    OrderedBy (fun first second => second < first) (·.acCount)
      (OrderedBy (fun first second => first < second) (·.submitCount)
        (OrderedBy (fun first second => earlierTime first second = true) (·.firstAcAt)
          (OrderedBy (fun first second => first < second) (·.createdAt)
            fun first second => first.userId ≤ second.userId))) := rfl

instance : Std.Total LeaderboardEntry.Before where
  total := by
    rw [LeaderboardEntry.before_eq]
    apply OrderedBy.total (by omega)
    apply OrderedBy.total (by omega)
    apply OrderedBy.total earlierTime_trichotomous
    apply OrderedBy.total Bytes.trichotomous
    intro first second
    omega

instance : IsTrans LeaderboardEntry LeaderboardEntry.Before where
  trans := by
    rw [LeaderboardEntry.before_eq]
    intro first second third
    apply OrderedBy.trans (by omega)
    apply OrderedBy.trans (by omega)
    apply OrderedBy.trans
    · exact earlierTime_trans
    apply OrderedBy.trans
    · exact List.lt_trans
    omega

end Order

section Ranked

variable {entry : LeaderboardEntry}

/-- The whole list, as the pages of `LeaderboardStore::query` show it. -/
def ranked (db : Db) : List LeaderboardEntry := (ranking db).map LeaderboardEntry.load

/-- The row that the join of `stats` and `users` has for the two. -/
def UserStats.entryFor (stats : UserStats) (user : UserRecord) : LeaderboardEntry where
  userId := user.id
  nickname := user.nickname
  acCount := stats.acCount
  submitCount := stats.submitCount
  firstAcAt := stats.firstAcAt
  createdAt := user.createdAt

theorem mem_ranking : entry ∈ ranking db ↔ ∃ stats ∈ userStats db, 0 < stats.submitCount ∧
    ∃ user ∈ db.users.rows, user.id = stats.userId ∧ stats.entryFor user = entry := by
  simp [ranking, UserStats.entryFor, and_assoc]

/-- The join takes everybody with a statistics once. -/
theorem Rankable.ranking_ids (rankable : db.Rankable) :
    ((ranking db).map (·.userId)).Perm
      (((userStats db).filter (0 < ·.submitCount)).map (·.userId)) := by
  refine ((List.perm_insertionSort _ _).map _).trans (.of_eq ?_)
  rw [List.map_flatMap, List.map_eq_flatMap]
  apply List.flatMap_congr
  intro stats mem
  rcases rankable.user_of_stats (List.mem_of_mem_filter mem) with ⟨user, userMem, isUser⟩
  rw [← isUser, filter_key rankable.users userMem]
  rfl

theorem Rankable.ranked_ids (rankable : db.Rankable) :
    ((ranked db).map (·.userId)).Perm
      (((userStats db).filter (0 < ·.submitCount)).map (·.userId)) := by
  have same : (ranked db).map (·.userId) = (ranking db).map (·.userId) := by
    simp [ranked, Function.comp_def, LeaderboardEntry.load]
  exact same ▸ rankable.ranking_ids

theorem Rankable.ranked_nodup (rankable : db.Rankable) :
    ((ranked db).map (·.userId)).Nodup :=
  rankable.ranked_ids.nodup_iff.mpr (userStats_nodup.sublist (List.filter_sublist.map _))

/-- The first query counts the rows of the second one. -/
theorem Rankable.total_eq (rankable : db.Rankable) :
    ((userStats db).filter (0 < ·.submitCount)).length = (ranked db).length := by
  simpa using rankable.ranked_ids.length_eq.symm

/-- A text that is stored as the program stores it is shown as it is. -/
theorem Rankable.load_eq (rankable : db.Rankable) (mem : entry ∈ ranking db) :
    entry.load = { entry with nickname := Bytes.columnText entry.nickname } := by
  rcases mem_ranking.mp mem with ⟨stats, statsMem, -, user, userMem, -, rfl⟩
  rcases (mem_userStats rankable.problems).mp statsMem with ⟨userId, -, rfl⟩
  have created := Bytes.columnText_eq_self (rankable.created user userMem)
  have first : ((UserStats.ofRows userId (db.rankedStatuses userId)).entryFor user).firstAcAt.map
      Bytes.columnText = (UserStats.ofRows userId (db.rankedStatuses userId)).firstAcAt := by
    cases found : (UserStats.ofRows userId (db.rankedStatuses userId)).firstAcAt with
    | none => simp [UserStats.entryFor, found]
    | some time =>
        obtain ⟨row, rowMem, isTime⟩ :=
          List.mem_filterMap.mp ((earliest_spec _).2 time found).1
        have stored : row ∈ db.statuses :=
          List.mem_of_mem_filter (List.mem_of_mem_filter (List.mem_of_mem_filter rowMem))
        have clean := ((rankable.timed row stored).timestamp time isTime).2
        simp [UserStats.entryFor, found, Bytes.columnText_eq_self clean]
  simp only [LeaderboardEntry.load, first]
  simp [UserStats.entryFor, created]

theorem Rankable.entryOf (rankable : db.Rankable) {stats : UserStats} {user : UserRecord}
    (statsMem : stats ∈ userStats db)
    (isUser : user.id = stats.userId) (mem : stats.entryFor user ∈ ranking db) :
    db.EntryOf user (stats.entryFor user).load := by
  rw [rankable.load_eq mem]
  rcases (mem_userStats rankable.problems).mp statsMem with ⟨userId, -, rfl⟩
  obtain rfl : user.id = userId := isUser
  have first := earliest_isFirstTime
    (((db.rankedStatuses user.id).filter (·.accepted)).filterMap (·.firstAcAt))
  refine ⟨rfl, rfl, rfl, rfl, rfl, first, first.1.trans ?_⟩
  have solved : ∀ row ∈ (db.rankedStatuses user.id).filter (·.accepted), row.firstAcAt ≠ none := by
    intro row rowMem missing
    rcases List.mem_filter.mp rowMem with ⟨rowMem, accepted⟩
    have timed := rankable.timed row (List.mem_of_mem_filter (List.mem_of_mem_filter rowMem))
    rw [timed.accepted, missing] at accepted
    cases accepted
  change _ ↔ ((db.rankedStatuses user.id).filter (·.accepted)).length = 0
  rw [List.filterMap_eq_nil_iff, List.length_eq_zero_iff, List.eq_nil_iff_forall_not_mem]
  refine forall₂_congr fun row rowMem => ⟨fun missing => ?_, fun never => never.elim⟩
  exact solved row rowMem missing

/-- Different users are not level. -/
theorem LeaderboardEntry.Before.above {first second : LeaderboardEntry}
    (before : first.Before second) (differs : first.userId ≠ second.userId) :
    first.Above second := by
  rcases before with more | ⟨sameSolved, fewer | ⟨sameCount, earlier | ⟨sameTime, rest⟩⟩⟩
  · exact .inl more
  · exact .inr ⟨sameSolved, .inl fewer⟩
  · refine .inr ⟨sameSolved, .inr ⟨sameCount, ?_⟩⟩
    cases firstTime : first.firstAcAt with
    | none => simp [firstTime, earlierTime] at earlier
    | some time =>
        cases secondTime : second.firstAcAt with
        | none => exact .inl (by simp)
        | some later =>
            rw [firstTime, secondTime] at earlier
            exact .inr ⟨by simp, .inl ⟨time, rfl, later, rfl, of_decide_eq_true earlier⟩⟩
  · refine .inr ⟨sameSolved, .inr ⟨sameCount, .inr ⟨by rw [sameTime], .inr ⟨sameTime, ?_⟩⟩⟩⟩
    rcases rest with registered | ⟨sameRegistered, below⟩
    · exact .inl registered
    · exact .inr ⟨sameRegistered, lt_of_le_of_ne below differs⟩

theorem Rankable.ranked_ordered (rankable : db.Rankable) :
    (ranked db).Pairwise LeaderboardEntry.Above := by
  have sorted : (ranking db).Pairwise LeaderboardEntry.Before :=
    List.pairwise_insertionSort _ _
  have distinct : (ranking db).Pairwise fun first second => first.userId ≠ second.userId :=
    List.pairwise_map.mp (rankable.ranking_ids.nodup_iff.mpr
      (userStats_nodup.sublist (List.filter_sublist.map _)))
  rw [ranked, List.pairwise_map]
  refine (sorted.and distinct).imp_of_mem ?_
  rintro first second firstMem secondMem ⟨before, differs⟩
  rw [rankable.load_eq firstMem, rankable.load_eq secondMem]
  exact before.above differs

/-- Sound tables are ranked faithfully. -/
theorem Rankable.faithful (rankable : db.Rankable) : db.FaithfulRanking (ranked db) where
  listed := by
    intro user userMem
    rw [rankable.hasSettled_iff]
    constructor
    · rintro ⟨entry, mem, isUser⟩
      rcases List.mem_map.mp mem with ⟨row, rowMem, rfl⟩
      rcases mem_ranking.mp rowMem with ⟨stats, statsMem, positive, other, otherMem, isOther, rfl⟩
      rcases (mem_userStats rankable.problems).mp statsMem with ⟨userId, -, rfl⟩
      obtain rfl : user.id = userId := isUser.symm.trans isOther
      exact positive
    · intro positive
      have nonempty : db.rankedStatuses user.id ≠ [] := by
        intro empty
        simp [empty] at positive
      have statsMem := (mem_userStats rankable.problems).mpr ⟨user.id, nonempty, rfl⟩
      exact ⟨_, List.mem_map_of_mem
        (mem_ranking.mpr ⟨_, statsMem, positive, user, userMem, rfl, rfl⟩), rfl⟩
  once := rankable.ranked_nodup
  entries := by
    intro entry mem
    rcases List.mem_map.mp mem with ⟨row, rowMem, rfl⟩
    rcases mem_ranking.mp rowMem with ⟨stats, statsMem, -, user, userMem, isUser, rfl⟩
    exact ⟨user, userMem, rankable.entryOf statsMem isUser rowMem⟩
  ordered := rankable.ranked_ordered

/-- A page is its part of the whole list. -/
theorem Rankable.queryLeaderboard_eq (rankable : db.Rankable) {page pageSize : ℤ}
    (pages : 1 ≤ page) (sizes : 1 ≤ pageSize) :
    queryLeaderboard db page pageSize =
      some { items := pageOf page pageSize (ranked db), total := (ranked db).length } := by
  rw [queryLeaderboard, if_neg (by omega), rankable.total_eq]
  simp [pageOf, ranked, List.map_take, List.map_drop]

/-- The pages one after the other are the whole list, and each tells how long that is. -/
theorem Rankable.pages (rankable : db.Rankable) {pageSize : ℤ} (sizes : 1 ≤ pageSize) {pages : ℕ}
    (enough : (ranked db).length ≤ pages * pageSize) :
    ∃ results : List LeaderboardResult,
      (List.range pages).map (fun index : ℕ => queryLeaderboard db (index + 1) pageSize) =
          results.map some ∧
        (∀ result ∈ results, result.total = (ranked db).length) ∧
          results.flatMap (·.items) = ranked db := by
  refine ⟨(List.range pages).map fun index : ℕ =>
    { items := pageOf (index + 1) pageSize (ranked db), total := (ranked db).length }, ?_, ?_, ?_⟩
  · rw [List.map_map]
    apply List.map_congr_left
    intro index _
    exact rankable.queryLeaderboard_eq (by omega) sizes
  · intro result mem
    rcases List.mem_map.mp mem with ⟨index, -, rfl⟩
    rfl
  · lift pageSize to ℕ using by omega with size
    have slices : ∀ index : ℕ, pageOf (index + 1) (size : ℤ) (ranked db) =
        ((ranked db).drop (index * size)).take size := by
      intro index
      have start : (((index : ℤ) + 1 - 1) * size).toNat = index * size := by
        rw [add_sub_cancel_right]
        exact_mod_cast Int.toNat_natCast (index * size)
      rw [pageOf, start, Int.toNat_natCast]
    rw [List.flatMap_map]
    simp only [slices]
    rw [flatMap_pages, List.take_of_length_le (by exact_mod_cast enough)]

end Ranked

end Db

end OnlineJudge
