import OnlineJudge.Http.Pages
import OnlineJudge.Http.Problems
import OnlineJudge.Service.StatusCounts
import OnlineJudge.Service.Statuses

/-!
# The leaderboard shows the ranking

The pages of the leaderboard are the parts of one list, which ranks those who have a
settled submission on a visible problem, and the rank that a page shows is the place in
that list. This is so after any run of the server.
-/

namespace OnlineJudge

namespace Http

open Db Service Library Library.SharedConnection

/-- The leaderboard is the ranking of the tables, page by page. -/
structure LeaderboardFaithful (backend : Backend) (db : Db) : Prop where
  faithful : db.FaithfulRanking db.ranked
  /-- The pages from the first one on make up the list, and each tells how long that is. -/
  pages : ∀ (pageSize : ℤ) (pages : ℕ), 1 ≤ pageSize → db.ranked.length ≤ pages * pageSize →
    ∃ results : List LeaderboardResult,
      (List.range pages).map (fun index : ℕ => queryLeaderboard db (index + 1) pageSize) =
          results.map some ∧
        (∀ result ∈ results, result.total = db.ranked.length) ∧
          results.flatMap (·.items) = db.ranked
  /-- A page shows its part of the list, numbered as in the list. -/
  shown : ∀ (request : Request) (page : ℤ),
    UserAdmin.parsePage (request.param "page") = .ok page →
      backend.fails .queryLeaderboard = false →
        handleLeaderboard backend db request =
          { status := 200
            body := jsonObject
              [("leaderboard", .array (pageOf page UserAdmin.userPageSize
                  (db.ranked.mapIdx fun index entry => leaderboardEntryJson (index + 1) entry))),
                ("page", .integer page), ("page_size", .integer UserAdmin.userPageSize),
                ("total", .integer db.ranked.length),
                ("total_pages",
                  .integer (totalPages db.ranked.length UserAdmin.userPageSize))] }

theorem one_le_of_parsePage {text : Bytes} {page : ℤ}
    (parsed : UserAdmin.parsePage text = .ok page) : 1 ≤ page := by
  have isPage : IsPage UserAdmin.maxUserPage text page :=
    (parsePageUpTo_eq_ok_iff (by decide)).mp parsed
  exact isPage.one_le

theorem leaderboardFaithful {backend : Backend} {db : Db} (rankable : db.Rankable) :
    LeaderboardFaithful backend db where
  faithful := rankable.faithful
  pages := fun _ _ sizes enough => rankable.pages sizes enough
  shown := by
    intro request page parsed succeeds
    have first := one_le_of_parsePage parsed
    have size : (1 : ℤ) ≤ UserAdmin.userPageSize := by decide
    have start : (((page - 1) * UserAdmin.userPageSize).toNat : ℤ) =
        (page - 1) * UserAdmin.userPageSize := by
      rw [Int.toNat_of_nonneg]
      simp only [UserAdmin.userPageSize]
      omega
    have numbered : pageOf page UserAdmin.userPageSize
        (db.ranked.mapIdx fun index entry => leaderboardEntryJson (index + 1) entry) =
          (pageOf page UserAdmin.userPageSize db.ranked).mapIdx fun index entry =>
            leaderboardEntryJson ((page - 1) * UserAdmin.userPageSize + index + 1) entry := by
      rw [pageOf, mapIdx_page]
      simp only [Nat.cast_add, start]
      rfl
    simp only [handleLeaderboard, parsed, Backend.read, succeeds, Bool.false_eq_true, if_false,
      Option.join_some, rankable.queryLeaderboard_eq first size, numbered]

/-- After any run the leaderboard is the ranking of the committed tables. -/
theorem leaderboard_is_the_ranking {dump : Dump} {start : Db} {state : State} {backend : Backend}
    (ready : RankingStart start)
    (reaches : (server dump).system.Reaches
      (fun _ label => Timestamped label ∧ PlainClock label) (.initial start) state) :
    LeaderboardFaithful backend state.committed :=
  leaderboardFaithful (rankable_of_reaches ready reaches)

section Runs

theorem twoUsers_ready : RankingStart twoUsers where
  basic :=
    { statuses :=
        { submissionIds := List.nodup_nil
          submissionNext := fun _ mem => absurd mem List.not_mem_nil
          times := fun _ mem => absurd mem List.not_mem_nil
          statusKeys := List.nodup_nil }
      users := ⟨by decide, by decide⟩
      problemKeys := by decide
      problemIds := by decide
      owners := fun _ mem => absurd mem List.not_mem_nil
      timed := fun _ mem => absurd mem List.not_mem_nil }
  exact := fun _ _ => rfl
  plain := by unfold PlainTimes; decide

def anonymousBackend : Backend where
  verify := fun _ => none
  parse := fun _ => none
  fails := fun _ => false

/-- One of two users has a submission, which is rejudged to an accepted one. -/
theorem leaderboard_is_the_ranking_rejudged :
    ∃ state : State,
      (server fun _ => some []).system.run (.initial twoUsers) rejudgedSchedule = some state ∧
        state.committed.ranked.map (·.userId) = [1] ∧
          LeaderboardFaithful anonymousBackend state.committed := by
  have execution : ∃ state : State,
      (server fun _ => some []).system.run (.initial twoUsers) rejudgedSchedule = some state ∧
        state.committed.ranked.map (·.userId) = [1] := ⟨_, rfl, by decide⟩
  rcases execution with ⟨state, execution, listed⟩
  have admits : (server fun _ => some []).system.Admits
      (fun _ label => Timestamped label ∧ PlainClock label) (.initial twoUsers)
      rejudgedSchedule := by decide
  exact ⟨state, execution, listed, leaderboard_is_the_ranking twoUsers_ready
    (TransitionSystem.reaches_of_run admits execution)⟩

end Runs

end Http

end OnlineJudge
