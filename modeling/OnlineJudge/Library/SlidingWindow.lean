import Mathlib.Algebra.Order.Group.Defs
import Mathlib.Data.List.TakeWhile
import Mathlib.Order.Defs.LinearOrder

/-!
# Sliding windows over a growing log of times

A log of times is only ever looked at through a window that ends now. A store that
drops what has left the window, whenever it likes, answers the same questions as the
whole log: `Tracks` relates the two, and is kept by the passing of time, by dropping
what has expired, and by logging the present.
-/

namespace OnlineJudge.Library

namespace SlidingWindow

variable {Time : Type} [AddCommGroup Time] [LinearOrder Time]

/-- The times that lie at most `window` before `now`. -/
def within (window now : Time) (times : List Time) : List Time :=
  times.filter fun time => now - time ≤ window

/-- Drops expired times from the front. -/
def expire (window now : Time) (times : List Time) : List Time :=
  times.dropWhile fun time => window < now - time

theorem within_append (window now : Time) (first second : List Time) :
    within window now (first ++ second) =
      within window now first ++ within window now second := List.filter_append ..

/-- The stored times answer for the log: both are in order, none lies in the future, and through
every window that ends from now on they look the same. -/
structure Tracks (window now : Time) (stored log : List Time) : Prop where
  sorted : stored.Pairwise (· ≤ ·)
  past : ∀ time ∈ stored, time ≤ now
  agrees : ∀ later, now ≤ later → within window later stored = within window later log

variable {window now later : Time} {stored log : List Time}

theorem within_cons_of_expired {time : Time} (rest : List Time) (expired : window < now - time) :
    within window now (time :: rest) = within window now rest :=
  List.filter_cons_of_neg (by simpa only [decide_eq_true_eq, not_le] using expired)

theorem Tracks.nil : Tracks window now [] [] :=
  ⟨List.Pairwise.nil, by simp, fun _ _ => rfl⟩

theorem Tracks.advance (tracks : Tracks window now stored log) (order : now ≤ later) :
    Tracks window later stored log where
  sorted := tracks.sorted
  past := fun time mem => (tracks.past time mem).trans order
  agrees := fun last after => tracks.agrees last (order.trans after)

theorem Tracks.push (tracks : Tracks window now stored log) :
    Tracks window now (stored ++ [now]) (log ++ [now]) where
  sorted := by
    refine List.pairwise_append.mpr ⟨tracks.sorted, List.pairwise_singleton _ _, ?_⟩
    intro time mem last isLast
    rw [List.mem_singleton.mp isLast]
    exact tracks.past time mem
  past := by
    intro time mem
    rcases List.mem_append.mp mem with mem | mem
    · exact tracks.past time mem
    · rw [List.mem_singleton.mp mem]
  agrees := fun later order => by
    rw [within_append, within_append, tracks.agrees later order]

variable [IsOrderedAddMonoid Time]

/-- What lies within the window later lies within it now. -/
theorem within_within (order : now ≤ later) (times : List Time) :
    within window later (within window now times) = within window later times := by
  simp only [within, List.filter_filter]
  refine List.filter_congr fun time _ => ?_
  rw [Bool.and_eq_left_iff_imp]
  simp only [decide_eq_true_eq]
  exact (sub_le_sub_right order time).trans

/-- In a log in order, what has expired is at the front. -/
theorem expire_eq_within {times : List Time} (sorted : times.Pairwise (· ≤ ·))
    (window now : Time) : expire window now times = within window now times := by
  induction times with
  | nil => rfl
  | cons time rest ih =>
      rcases List.pairwise_cons.mp sorted with ⟨first, sorted⟩
      by_cases expired : window < now - time
      · rw [expire, List.dropWhile_cons_of_pos (by simpa using expired), ← expire, ih sorted,
          within_cons_of_expired rest expired]
      · have all : within window now (time :: rest) = time :: rest := by
          refine List.filter_eq_self.mpr fun other mem => ?_
          have recent := not_lt.mp expired
          rcases List.mem_cons.mp mem with rfl | mem
          · exact decide_eq_true recent
          · exact decide_eq_true ((sub_le_sub_left (first other mem) now).trans recent)
        rw [expire, List.dropWhile_cons_of_neg (by simpa using expired), all]

theorem Tracks.expire_eq (tracks : Tracks window now stored log) :
    expire window now stored = within window now log := by
  rw [expire_eq_within tracks.sorted, tracks.agrees now le_rfl]

theorem Tracks.expire (tracks : Tracks window now stored log) :
    Tracks window now (expire window now stored) log where
  sorted := tracks.sorted.sublist (List.dropWhile_sublist _)
  past := fun time mem => tracks.past time ((List.dropWhile_sublist _).subset mem)
  agrees := fun later order => by
    rw [tracks.expire_eq, within_within order]

/-- Once the oldest time of a window has left it, the window holds fewer times. -/
theorem within_length_lt {oldest : Time} {rest : List Time} (order : now ≤ later)
    (front : within window now log = oldest :: rest) (expired : window < later - oldest) :
    (within window later log).length < (within window now log).length := by
  rw [← within_within order log, front, within_cons_of_expired rest expired, List.length_cons]
  exact Nat.lt_succ_of_le (List.length_filter_le _ _)

theorem within_length_le (order : now ≤ later) (log : List Time) :
    (within window later log).length ≤ (within window now log).length := by
  rw [← within_within order log]
  exact List.length_filter_le _ _

end SlidingWindow

end OnlineJudge.Library
