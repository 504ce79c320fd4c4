import Mathlib.Data.List.Nodup
import Mathlib.Data.List.Sort

/-!
# Queries on lists of rows

A table is a list of rows. Where its keys are unique, a key selects one row, and a join
with the table takes each row of the other side once at most; new rows keep them unique
that have a new key or take theirs from a counter. An order by several keys is
total and transitive when the order by each key is. The pages of a list make up the list.
-/

namespace OnlineJudge.Library

universe u v

section Keys

variable {Row : Type u} {Key : Type v} [DecidableEq Key] {key : Row → Key} {rows : List Row}

/-- A unique key selects its row. -/
theorem filter_key (keys : (rows.map key).Nodup) {row : Row} (mem : row ∈ rows) :
    (rows.filter fun other => key other = key row) = [row] := by
  induction rows with
  | nil => cases mem
  | cons head tail ih =>
      rcases List.nodup_cons.mp keys with ⟨fresh, keys⟩
      rcases List.mem_cons.mp mem with rfl | inTail
      · have none_left : (tail.filter fun other => key other = key row) = [] := by
          rw [List.filter_eq_nil_iff]
          intro other otherMem same
          exact fresh (List.mem_map.mpr ⟨other, otherMem, by simpa using same⟩)
        rw [List.filter_cons_of_pos (by simp), none_left]
      · have differs : key head ≠ key row := by
          intro same
          exact fresh (same ▸ List.mem_map_of_mem inTail)
        rw [List.filter_cons_of_neg (by simpa using differs), ih keys inTail]

/-- Of the rows with a unique key one at most satisfies a condition, too. -/
theorem filter_key_and (keys : (rows.map key).Nodup) (wanted : Key) (property : Row → Bool) :
    (rows.filter fun row => key row = wanted ∧ property row) = [] ∨
      ∃ row ∈ rows, key row = wanted ∧ property row = true ∧
        (rows.filter fun row => key row = wanted ∧ property row) = [row] := by
  by_cases found : ∃ row ∈ rows, key row = wanted ∧ property row = true
  · rcases found with ⟨row, mem, rfl, holds⟩
    refine .inr ⟨row, mem, rfl, holds, ?_⟩
    have split_filter : (rows.filter fun other => key other = key row ∧ property other) =
        (rows.filter fun other => key other = key row).filter property := by
      rw [List.filter_filter]
      exact List.filter_congr fun other _ => by simp [Bool.and_comm]
    rw [split_filter, filter_key keys mem, List.filter_cons_of_pos holds, List.filter_nil]
  · refine .inl (List.filter_eq_nil_iff.mpr ?_)
    intro row mem selected
    exact found ⟨row, mem, by simpa using selected⟩

/-- With unique keys, a row is missing among those with a property only if it lacks it. -/
theorem find?_filter_key (keys : (rows.map key).Nodup) (wanted : Key) (property : Row → Bool) :
    (rows.filter property).find? (fun row => key row = wanted) =
      (rows.find? fun row => key row = wanted).filter property := by
  induction rows with
  | nil => rfl
  | cons row rest ih =>
      rcases List.nodup_cons.mp keys with ⟨fresh, keys⟩
      have others : key row = wanted → rest.find? (fun row => key row = wanted) = none := by
        rintro rfl
        rw [List.find?_eq_none]
        intro other mem same
        exact fresh (List.mem_map.mpr ⟨other, mem, by simpa using same⟩)
      by_cases same : key row = wanted
      · cases holds : property row with
        | true => simp [holds, same, Option.filter]
        | false =>
            rw [List.filter_cons_of_neg (by simp [holds]), ih keys, others same]
            simp [holds, same, Option.filter]
      · cases holds : property row with
        | true =>
            rw [List.filter_cons_of_pos holds, List.find?_cons_of_neg (by simpa using same),
              List.find?_cons_of_neg (by simpa using same), ih keys]
        | false =>
            rw [List.filter_cons_of_neg (by simp [holds]),
              List.find?_cons_of_neg (by simpa using same), ih keys]

/-- A join with a table of unique keys keeps the rows that have a partner. -/
theorem join_eq_filter {Other : Type u} (keys : (rows.map key).Nodup) (others : List Other)
    (reference : Other → Key) (property : Row → Bool) :
    (others.flatMap fun other =>
        (rows.filter fun row => key row = reference other ∧ property row).map fun _ => other) =
      others.filter fun other =>
        rows.any fun row => key row = reference other ∧ property row := by
  induction others with
  | nil => rfl
  | cons other others ih =>
      rw [List.flatMap_cons, ih]
      rcases filter_key_and keys (reference other) property with none_found | one_found
      · have no_partner : (rows.any fun row => key row = reference other ∧ property row) =
            false := by
          rw [List.any_eq_false]
          exact List.filter_eq_nil_iff.mp none_found
        rw [none_found, List.filter_cons, no_partner]
        rfl
      · rcases one_found with ⟨row, mem, isKey, holds, one_found⟩
        have partner : (rows.any fun row => key row = reference other ∧ property row) = true :=
          List.any_eq_true.mpr ⟨row, mem, by simp [isKey, holds]⟩
        rw [one_found, List.filter_cons, partner]
        rfl

/-- A row with a new key leaves the keys unique. -/
theorem keys_append {Key : Type v} {key : Row → Key} (keys : (rows.map key).Nodup) {row : Row}
    (new : ∀ other ∈ rows, key other ≠ key row) : ((rows ++ [row]).map key).Nodup := by
  rw [List.map_append, List.map_singleton, List.nodup_append]
  refine ⟨keys, List.nodup_singleton _, ?_⟩
  intro old oldMem added addedMem
  rcases List.mem_map.mp oldMem with ⟨other, mem, rfl⟩
  rw [List.mem_singleton.mp addedMem]
  exact new other mem

/-- So does a row whose key is taken from a counter, and the counter stays ahead. -/
theorem keys_append_next {key : Row → ℤ} {next : ℤ} (keys : (rows.map key).Nodup)
    (bounded : ∀ row ∈ rows, key row < next) {row : Row} (isNext : key row = next) :
    ((rows ++ [row]).map key).Nodup ∧ ∀ other ∈ rows ++ [row], key other < next + 1 := by
  constructor
  · apply keys_append keys
    intro other mem
    have below := bounded other mem
    omega
  · intro other mem
    rcases List.mem_append.mp mem with old | added
    · have below := bounded other old
      omega
    · rw [List.mem_singleton.mp added]
      omega

end Keys

section Order

variable {Row : Type u} {Key : Type v} {key : Row → Key} {smaller : Key → Key → Prop}
  {rest : Row → Row → Prop}

/-- Rows are ordered by a key, and by what follows only where the keys are the same. -/
def OrderedBy (smaller : Key → Key → Prop) (key : Row → Key) (rest : Row → Row → Prop)
    (first second : Row) : Prop :=
  smaller (key first) (key second) ∨ key first = key second ∧ rest first second

theorem OrderedBy.trans
    (smaller_trans : ∀ {first second third}, smaller first second → smaller second third →
      smaller first third)
    (rest_trans : ∀ {first second third}, rest first second → rest second third →
      rest first third) {first second third : Row}
    (earlier : OrderedBy smaller key rest first second)
    (later : OrderedBy smaller key rest second third) :
    OrderedBy smaller key rest first third := by
  rcases earlier with below | ⟨same, after⟩
  · rcases later with below' | ⟨same', -⟩
    · exact .inl (smaller_trans below below')
    · exact .inl (same' ▸ below)
  · rcases later with below' | ⟨same', after'⟩
    · exact .inl (same ▸ below')
    · exact .inr ⟨same.trans same', rest_trans after after'⟩

theorem OrderedBy.total
    (trichotomous : ∀ first second, smaller first second ∨ first = second ∨ smaller second first)
    (rest_total : ∀ first second, rest first second ∨ rest second first) (first second : Row) :
    OrderedBy smaller key rest first second ∨ OrderedBy smaller key rest second first := by
  rcases trichotomous (key first) (key second) with below | same | above
  · exact .inl (.inl below)
  · rcases rest_total first second with before | after
    · exact .inl (.inr ⟨same, before⟩)
    · exact .inr (.inr ⟨same.symm, after⟩)
  · exact .inr (.inl above)

end Order

/-- The first pages of a list, one after the other. -/
theorem flatMap_pages {Row : Type u} (rows : List Row) (size pages : ℕ) :
    ((List.range pages).flatMap fun page => (rows.drop (page * size)).take size) =
      rows.take (pages * size) := by
  induction pages with
  | zero => simp
  | succ pages ih =>
      rw [List.range_succ, List.flatMap_append, ih, List.flatMap_singleton, Nat.succ_mul,
        List.take_add]

/-- A page of numbered rows has the numbers of the whole list. -/
theorem mapIdx_page {Row : Type u} {Shown : Type v} (number : ℕ → Row → Shown) (rows : List Row)
    (start size : ℕ) :
    ((rows.mapIdx number).drop start).take size =
      ((rows.drop start).take size).mapIdx fun index row => number (start + index) row := by
  apply List.ext_getElem?
  intro index
  simp only [List.getElem?_take, List.getElem?_drop, List.getElem?_mapIdx]
  split <;> rfl

end OnlineJudge.Library
