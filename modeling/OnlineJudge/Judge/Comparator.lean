import Mathlib.Data.List.DropRight
import OnlineJudge.Library.Delimited
import OnlineJudge.Text

/-!
# Comparing outputs

`judge/comparator.cpp`: two outputs match when they agree line by line, up to white
space at the end of a line and empty lines at the end of the text.
-/

namespace OnlineJudge.Judge

/-- Space, tab, carriage return, vertical tab and form feed. -/
def isTrailingWhitespace (byte : UInt8) : Bool :=
  byte = 32 || byte = 9 || byte = 13 || byte = 11 || byte = 12

def normalizeOutput (text : Bytes) : Bytes :=
  let lines := (text.splitOn 10).map fun line => line.rdropWhile isTrailingWhitespace
  List.intercalate [10] (lines.rdropWhile fun line => line = [])

def outputsMatch (expected actual : Bytes) : Bool :=
  normalizeOutput expected = normalizeOutput actual

/-- The lines of a text, each without the white space at its end. -/
def strippedLines (text : Bytes) : List Bytes :=
  (text.splitOn 10).map fun line => line.rdropWhile isTrailingWhitespace

variable {text line : Bytes}

theorem normalizeOutput_eq (text : Bytes) :
    normalizeOutput text = [10].intercalate ((strippedLines text).rdropWhile (· = [])) := rfl

theorem not_mem_of_mem_strippedLines (mem : line ∈ strippedLines text) : 10 ∉ line := by
  rcases List.mem_map.mp mem with ⟨full, fullMem, rfl⟩
  intro inside
  exact Library.not_mem_of_mem_splitOn fullMem ((List.rdropWhile_prefix _ _).subset inside)

theorem stripped_of_mem_strippedLines (mem : line ∈ strippedLines text) (nonempty : line ≠ []) :
    ¬isTrailingWhitespace (line.getLast nonempty) := by
  rcases List.mem_map.mp mem with ⟨full, -, rfl⟩
  exact List.rdropWhile_last_not _ _ nonempty

theorem mem_strippedLines_of_kept (mem : line ∈ (strippedLines text).rdropWhile (· = [])) :
    line ∈ strippedLines text :=
  (List.rdropWhile_prefix _ _).subset mem

/-- The normalised text has the stripped lines of the original, at the same places. -/
theorem getD_splitOn_normalizeOutput (text : Bytes) (index : ℕ) :
    ((normalizeOutput text).splitOn 10).getD index [] = (strippedLines text).getD index [] := by
  rw [normalizeOutput_eq, Library.getD_splitOn_intercalate, Library.getD_rdropWhile]
  intro line mem
  exact not_mem_of_mem_strippedLines (mem_strippedLines_of_kept mem)

theorem mem_strippedLines_of_normalized (mem : line ∈ (normalizeOutput text).splitOn 10) :
    line = [] ∨ line ∈ strippedLines text := by
  rcases List.getElem_of_mem mem with ⟨index, bound, rfl⟩
  have same := getD_splitOn_normalizeOutput text index
  rw [List.getD_eq_getElem _ _ bound] at same
  rw [same]
  by_cases inside : index < (strippedLines text).length
  · rw [List.getD_eq_getElem _ _ inside]
    exact .inr (List.getElem_mem inside)
  · exact .inl (List.getD_eq_default _ _ (Nat.le_of_not_lt inside))

/-- A normalised text has nothing left to strip. -/
theorem strippedLines_normalizeOutput (text : Bytes) :
    strippedLines (normalizeOutput text) = (normalizeOutput text).splitOn 10 := by
  conv_rhs => rw [← List.map_id ((normalizeOutput text).splitOn 10)]
  apply List.map_congr_left
  intro line mem
  apply List.rdropWhile_eq_self_iff.mpr
  intro nonempty
  rcases mem_strippedLines_of_normalized mem with rfl | stripped
  · exact absurd rfl nonempty
  · exact stripped_of_mem_strippedLines stripped nonempty

theorem outputsMatch_iff (expected actual : Bytes) :
    outputsMatch expected actual ↔
      ∀ index, (strippedLines expected).getD index [] = (strippedLines actual).getD index [] := by
  rw [outputsMatch, decide_eq_true_iff]
  constructor
  · intro same index
    rw [← getD_splitOn_normalizeOutput, same, getD_splitOn_normalizeOutput]
  · intro agree
    rw [normalizeOutput_eq, normalizeOutput_eq,
      (Library.rdropWhile_eq_iff_getD [] _ _).mpr agree]

theorem normalizeOutput_idempotent (text : Bytes) :
    normalizeOutput (normalizeOutput text) = normalizeOutput text := by
  have agree : outputsMatch (normalizeOutput text) text := by
    rw [outputsMatch_iff]
    intro index
    rw [strippedLines_normalizeOutput, getD_splitOn_normalizeOutput]
  simpa [outputsMatch] using agree

theorem getLast?_normalizeOutput (text : Bytes) :
    (normalizeOutput text).getLast? ≠ some 10 := by
  intro endsInNewline
  rcases List.getLast?_eq_some_iff.mp endsInNewline with ⟨front, eq_front⟩
  rw [normalizeOutput_eq] at eq_front
  by_cases empty : (strippedLines text).rdropWhile (· = []) = []
  · rw [empty] at eq_front
    simp [List.intercalate] at eq_front
  · have lines_eq : (strippedLines text).rdropWhile (· = []) = front.splitOn 10 ++ [[]] := by
      rw [← List.splitOn_intercalate 10 _ empty, eq_front, List.splitOn_append_cons_self,
        List.splitOn_nil]
      intro line mem
      exact not_mem_of_mem_strippedLines (mem_strippedLines_of_kept mem)
    apply Library.getLast_rdropWhile_ne empty
    simp only [lines_eq, List.getLast_concat]

/-- Outputs match when they agree line by line up to white space at the end of a line, the
shorter one continued with empty lines. The normalised text is the canonical one of these. -/
theorem comparison_is_linewise :
    (∀ expected actual, outputsMatch expected actual ↔
      ∀ index, (strippedLines expected).getD index [] = (strippedLines actual).getD index []) ∧
    ∀ text, normalizeOutput (normalizeOutput text) = normalizeOutput text ∧
      (∀ line ∈ (normalizeOutput text).splitOn 10, ∀ byte ∈ line.getLast?,
        ¬isTrailingWhitespace byte) ∧
      (normalizeOutput text).getLast? ≠ some 10 ∧
      ∀ index, ((normalizeOutput text).splitOn 10).getD index [] =
        ((text.splitOn 10).getD index []).rdropWhile isTrailingWhitespace := by
  refine ⟨outputsMatch_iff, fun text => ⟨normalizeOutput_idempotent text, ?_,
    getLast?_normalizeOutput text, ?_⟩⟩
  · intro line mem byte isLast
    rw [← strippedLines_normalizeOutput] at mem
    rcases List.mem_getLast?_eq_getLast isLast with ⟨nonempty, rfl⟩
    exact stripped_of_mem_strippedLines mem nonempty
  · intro index
    rw [getD_splitOn_normalizeOutput, strippedLines]
    exact List.getD_map _ [] (List.rdropWhile isTrailingWhitespace)

example : outputsMatch (Bytes.ofString "1 \r\n\n 2") (Bytes.ofString "1\n\n 2\n\n") := by decide

end OnlineJudge.Judge
