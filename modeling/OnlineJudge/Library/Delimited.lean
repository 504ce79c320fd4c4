import Mathlib.Data.List.DropRight
import Mathlib.Data.List.GetD
import Mathlib.Data.List.Infix

/-!
# Delimited text and padded lists

Two facts about lists that programs writing text rely on. A list read with a default
past its end (a text whose missing lines count as empty) is determined by what is left
after the trailing defaults are dropped. A text made by joining parts with a delimiter
can be taken apart again, as long as no part holds the delimiter.
-/

namespace OnlineJudge.Library

section Padded

variable {α : Type*} {blank : α} {list left right : List α}

theorem length_le_of_getD_eq (agree : ∀ index, left.getD index blank = right.getD index blank)
    (trimmed : ∀ nonempty : right ≠ [], right.getLast nonempty ≠ blank) :
    right.length ≤ left.length := by
  by_contra shorter
  have nonempty : right ≠ [] := by
    rintro rfl
    simp at shorter
  have at_last := agree (right.length - 1)
  rw [List.getD_eq_default _ _ (by omega),
    List.getD_eq_getElem _ _ (by omega), ← List.getLast_eq_getElem nonempty] at at_last
  exact trimmed nonempty at_last.symm

/-- Two lists that end in no default and read alike everywhere are equal. -/
theorem eq_of_getD_eq (agree : ∀ index, left.getD index blank = right.getD index blank)
    (trimmedLeft : ∀ nonempty : left ≠ [], left.getLast nonempty ≠ blank)
    (trimmedRight : ∀ nonempty : right ≠ [], right.getLast nonempty ≠ blank) :
    left = right := by
  have lengths : left.length = right.length :=
    Nat.le_antisymm (length_le_of_getD_eq (fun index => (agree index).symm) trimmedLeft)
      (length_le_of_getD_eq agree trimmedRight)
  apply List.ext_getElem lengths
  intro index inLeft inRight
  have here := agree index
  rwa [List.getD_eq_getElem _ _ inLeft, List.getD_eq_getElem _ _ inRight] at here

variable [DecidableEq α]

/-- What is dropped from the end reads as the default anyway. -/
@[simp]
theorem getD_rdropWhile (blank : α) (list : List α) (index : ℕ) :
    (list.rdropWhile (· = blank)).getD index blank = list.getD index blank := by
  induction list using List.reverseRecOn with
  | nil => simp
  | append_singleton front last ih =>
      by_cases is_blank : last = blank
      · rw [List.rdropWhile_concat_pos _ _ _ (by simpa using is_blank), ih, is_blank]
        rcases Nat.lt_trichotomy index front.length with inside | rfl | past
        · rw [List.getD_append _ _ _ _ inside]
        · rw [List.getD_append_right _ _ _ _ le_rfl]
          simp
        · rw [List.getD_eq_default _ _ past.le, List.getD_eq_default]
          simp only [List.length_append, List.length_singleton]
          omega
      · rw [List.rdropWhile_concat_neg _ _ _ (by simpa using is_blank)]

theorem getLast_rdropWhile_ne (nonempty : list.rdropWhile (· = blank) ≠ []) :
    (list.rdropWhile (· = blank)).getLast nonempty ≠ blank := by
  simpa using List.rdropWhile_last_not _ _ nonempty

/-- The list without its trailing defaults is the canonical form of a padded list. -/
theorem rdropWhile_eq_iff_getD (blank : α) (left right : List α) :
    left.rdropWhile (· = blank) = right.rdropWhile (· = blank) ↔
      ∀ index, left.getD index blank = right.getD index blank := by
  constructor
  · intro same index
    rw [← getD_rdropWhile blank left, same, getD_rdropWhile]
  · intro agree
    refine eq_of_getD_eq ?_ getLast_rdropWhile_ne getLast_rdropWhile_ne
    intro index
    rw [getD_rdropWhile, getD_rdropWhile, agree]

end Padded

section Delimited

variable {α : Type*} {delimiter : α} {parts inner outer : List (List α)}

theorem intercalate_cons_cons (delimiter : α) (first second : List α) (rest : List (List α)) :
    [delimiter].intercalate (first :: second :: rest) =
      first ++ delimiter :: [delimiter].intercalate (second :: rest) := by
  simp [List.intercalate]

theorem mem_of_mem_intercalate {letter : α} (mem : letter ∈ [delimiter].intercalate parts) :
    letter = delimiter ∨ ∃ part ∈ parts, letter ∈ part := by
  induction parts with
  | nil => simp [List.intercalate] at mem
  | cons first rest ih =>
      cases rest with
      | nil => exact .inr ⟨first, List.mem_cons_self, by simpa [List.intercalate] using mem⟩
      | cons second rest =>
          rw [intercalate_cons_cons, List.mem_append, List.mem_cons] at mem
          rcases mem with inFirst | isDelimiter | inRest
          · exact .inr ⟨first, List.mem_cons_self, inFirst⟩
          · exact .inl isDelimiter
          · rcases ih inRest with isDelimiter | ⟨part, partMem, inside⟩
            · exact .inl isDelimiter
            · exact .inr ⟨part, List.mem_cons_of_mem _ partMem, inside⟩

theorem mem_intercalate_of_mem {letter : α} {part : List α} (partMem : part ∈ parts)
    (mem : letter ∈ part) : letter ∈ [delimiter].intercalate parts := by
  induction parts with
  | nil => cases partMem
  | cons first rest ih =>
      cases rest with
      | nil =>
          rw [List.mem_singleton.mp partMem] at mem
          simpa [List.intercalate] using mem
      | cons second rest =>
          rw [intercalate_cons_cons, List.mem_append, List.mem_cons]
          rcases List.mem_cons.mp partMem with rfl | inRest
          · exact .inl mem
          · exact .inr (.inr (ih inRest))

/-- The parts with a delimiter in front of, between and behind them. -/
def enclose (delimiter : α) (parts : List (List α)) : List α :=
  delimiter :: parts.flatMap (· ++ [delimiter])

@[simp]
theorem enclose_cons (delimiter : α) (first : List α) (rest : List (List α)) :
    enclose delimiter (first :: rest) = delimiter :: (first ++ enclose delimiter rest) := by
  simp [enclose]

theorem enclose_eq_intercalate (delimiter : α) (nonempty : parts ≠ []) :
    enclose delimiter parts = delimiter :: [delimiter].intercalate parts ++ [delimiter] := by
  induction parts with
  | nil => exact absurd rfl nonempty
  | cons first rest ih =>
      cases rest with
      | nil => simp [enclose, List.intercalate]
      | cons second rest =>
          rw [enclose_cons, ih (List.cons_ne_nil _ _), intercalate_cons_cons]
          simp

/-- A delimiter ends a part that holds none, whatever follows. -/
theorem append_delimiter_inj {left right restLeft restRight : List α}
    (cleanLeft : delimiter ∉ left) (cleanRight : delimiter ∉ right) :
    left ++ delimiter :: restLeft = right ++ delimiter :: restRight ↔
      left = right ∧ restLeft = restRight := by
  constructor
  · intro same
    induction left generalizing right with
    | nil =>
        cases right with
        | nil => simpa using same
        | cons first rest =>
            injection same with isFirst
            exact absurd (isFirst ▸ List.mem_cons_self) cleanRight
    | cons first rest ih =>
        cases right with
        | nil =>
            injection same with isFirst
            exact absurd (isFirst ▸ List.mem_cons_self) cleanLeft
        | cons first' rest' =>
            injection same with head_eq tail_eq
            have tails := ih (fun mem => cleanLeft (List.mem_cons_of_mem _ mem))
              (fun mem => cleanRight (List.mem_cons_of_mem _ mem)) tail_eq
            exact ⟨by rw [head_eq, tails.1], tails.2⟩
  · rintro ⟨rfl, rfl⟩
    rfl

theorem enclose_prefix_iff (cleanInner : ∀ part ∈ inner, delimiter ∉ part)
    (cleanOuter : ∀ part ∈ outer, delimiter ∉ part) :
    enclose delimiter inner <+: enclose delimiter outer ↔ inner <+: outer := by
  induction inner generalizing outer with
  | nil => simp [enclose]
  | cons part inner ih =>
      cases outer with
      | nil => simp [enclose]
      | cons part' outer =>
          rw [enclose_cons, enclose_cons, List.cons_prefix_cons, List.cons_prefix_cons,
            ← ih (fun p mem => cleanInner p (List.mem_cons_of_mem _ mem))
              (fun p mem => cleanOuter p (List.mem_cons_of_mem _ mem))]
          have clean := cleanInner part List.mem_cons_self
          have clean' := cleanOuter part' List.mem_cons_self
          constructor
          · rintro ⟨-, rest, same⟩
            rw [List.append_assoc, enclose, enclose, List.cons_append] at same
            have parts_eq := (append_delimiter_inj clean clean').mp same
            exact ⟨parts_eq.1, rest, by rw [enclose, enclose, List.cons_append, parts_eq.2]⟩
          · rintro ⟨rfl, rest, same⟩
            exact ⟨rfl, rest, by rw [List.append_assoc, same]⟩

/-- What begins with a delimiter does not begin inside a part without one. -/
theorem infix_append_iff_of_not_mem {front text needle : List α} (clean : delimiter ∉ front) :
    delimiter :: needle <:+: front ++ text ↔ delimiter :: needle <:+: text := by
  induction front with
  | nil => simp
  | cons first rest ih =>
      rw [List.cons_append, List.infix_cons_iff,
        ih (fun mem => clean (List.mem_cons_of_mem _ mem)), List.cons_prefix_cons]
      constructor
      · rintro (⟨isFirst, -⟩ | inside)
        · exact absurd (isFirst ▸ List.mem_cons_self) clean
        · exact inside
      · exact Or.inr

/-- Parts between delimiters are found as text exactly where they stand as parts. -/
theorem enclose_infix_iff (nonempty : inner ≠ []) (cleanInner : ∀ part ∈ inner, delimiter ∉ part)
    (cleanOuter : ∀ part ∈ outer, delimiter ∉ part) :
    enclose delimiter inner <:+: enclose delimiter outer ↔ inner <:+: outer := by
  induction outer with
  | nil =>
      constructor
      · intro found
        have bound := found.length_le
        cases inner with
        | nil => exact absurd rfl nonempty
        | cons part inner => simp [enclose] at bound
      · intro found
        exact absurd (List.infix_nil.mp found) nonempty
  | cons part outer ih =>
      have clean := cleanOuter part List.mem_cons_self
      rw [List.infix_cons_iff, ← enclose_prefix_iff cleanInner cleanOuter,
        ← ih (fun p mem => cleanOuter p (List.mem_cons_of_mem _ mem)), enclose_cons,
        List.infix_cons_iff]
      exact or_congr_right (infix_append_iff_of_not_mem clean)

variable [DecidableEq α]

/-- Taking a joined text apart gives the parts back; no part at all reads as an empty one. -/
theorem getD_splitOn_intercalate (clean : ∀ part ∈ parts, delimiter ∉ part) (index : ℕ) :
    (([delimiter].intercalate parts).splitOn delimiter).getD index [] = parts.getD index [] := by
  by_cases empty : parts = []
  · subst empty
    cases index with
    | zero => simp [List.intercalate]
    | succ index => simp [List.intercalate]
  · rw [List.splitOn_intercalate delimiter clean empty]

theorem not_mem_of_mem_splitOn {text part : List α} (mem : part ∈ text.splitOn delimiter) :
    delimiter ∉ part := by
  induction text generalizing part with
  | nil =>
      rw [List.splitOn_nil, List.mem_singleton] at mem
      simp [mem]
  | cons first rest ih =>
      rw [List.splitOn_cons_eq_if_modifyHead] at mem
      split at mem
      · rcases List.mem_cons.mp mem with rfl | inRest
        · exact List.not_mem_nil
        · exact ih inRest
      · rename_i differs
        rcases split_eq : rest.splitOn delimiter with - | ⟨head, tail⟩
        · exact absurd split_eq (List.splitOn_ne_nil _ _)
        · rw [split_eq, List.modifyHead_cons] at mem
          rcases List.mem_cons.mp mem with rfl | inTail
          · have inHead : delimiter ∉ head := ih (by rw [split_eq]; exact List.mem_cons_self)
            intro inside
            rcases List.mem_cons.mp inside with isFirst | inside
            · simp [isFirst] at differs
            · exact inHead inside
          · exact ih (by rw [split_eq]; exact List.mem_cons_of_mem _ inTail)

theorem mem_of_mem_splitOn {text part : List α} {letter : α}
    (partMem : part ∈ text.splitOn delimiter) (mem : letter ∈ part) : letter ∈ text := by
  have inWhole : letter ∈ [delimiter].intercalate (text.splitOn delimiter) :=
    mem_intercalate_of_mem partMem mem
  rwa [List.intercalate_splitOn] at inWhole

theorem enclose_splitOn (delimiter : α) (text : List α) :
    enclose delimiter (text.splitOn delimiter) = delimiter :: text ++ [delimiter] := by
  rw [enclose_eq_intercalate _ (List.splitOn_ne_nil _ _), List.intercalate_splitOn]

end Delimited

end OnlineJudge.Library
