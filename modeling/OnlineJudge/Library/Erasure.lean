import Mathlib.Data.List.Infix

/-!
# Erasing occurrences

A pass over a text erases the occurrences of a needle from left to right and never looks
back across a cut. What is left of a needle after its own pass, or after a later one, was
joined at a cut: a beginning of it stood right before what was erased. A text in which no
beginning of a needle stands right before a needle stays so under every pass, and after
one pass for each needle none is left.
-/

namespace OnlineJudge.Library.Erasure

variable {α : Type*}

/-- Nowhere in the text does a needle follow a proper beginning of a needle. -/
def Undisturbed (needles : List (List α)) (text : List α) : Prop :=
  ∀ needle ∈ needles, ∀ follower ∈ needles, ∀ front, front ≠ [] → front <+: needle →
    front ≠ needle → ¬front ++ follower <:+: text

variable [DecidableEq α] {needle passed text found : List α} {needles todo : List (List α)}
  {skipped : ℕ}

/-- Erases the occurrences of the needle, the leftmost first; of the present one, `skipped`
letters are still to be dropped. -/
def pass (needle : List α) : (skipped : ℕ) → List α → List α
  | _, [] => []
  | skipped + 1, _ :: text => pass needle skipped text
  | 0, letter :: text =>
      if needle <+: letter :: text then pass needle (needle.length - 1) text
      else letter :: pass needle 0 text

/-- One pass for each needle. -/
def passes (needles : List (List α)) (text : List α) : List α :=
  needles.foldl (fun text needle => pass needle 0 text) text

@[simp]
theorem passes_nil (text : List α) : passes [] text = text := rfl

@[simp]
theorem passes_cons (needle : List α) (needles : List (List α)) (text : List α) :
    passes (needle :: needles) text = passes needles (pass needle 0 text) := rfl

theorem pass_eq_self (absent : ¬needle <:+: text) : pass needle 0 text = text := by
  induction text with
  | nil => rfl
  | cons letter text ih =>
      rw [List.infix_cons_iff, not_or] at absent
      rw [pass, if_neg absent.1, ih absent.2]

/-- Where no needle is left, more passes change nothing. -/
theorem passes_eq_self (absent : ∀ needle ∈ needles, ¬needle <:+: text) :
    passes needles text = text := by
  induction needles with
  | nil => rfl
  | cons needle needles ih =>
      rw [passes_cons, pass_eq_self (absent needle List.mem_cons_self)]
      exact ih fun other mem => absent other (List.mem_cons_of_mem _ mem)

/-- What one pass leaves at the beginning was there, or a beginning of it stood before a needle. -/
theorem prefix_of_left (left : found <+: pass needle 0 text) :
    found <+: text ∨ ∃ front, front <+: found ∧ front ≠ found ∧ front ++ needle <+: text := by
  induction text generalizing found with
  | nil => exact .inl left
  | cons letter text ih =>
      cases found with
      | nil => exact .inl List.nil_prefix
      | cons first found =>
          rw [pass] at left
          split at left
          case isTrue here => exact .inr ⟨[], List.nil_prefix, by simp, here⟩
          case isFalse =>
            rw [List.cons_prefix_cons] at left
            rcases left with ⟨rfl, left⟩
            rcases ih left with was_there | ⟨front, isFront, proper, followed⟩
            · exact .inl (List.cons_prefix_cons.mpr ⟨rfl, was_there⟩)
            · exact .inr ⟨first :: front, List.cons_prefix_cons.mpr ⟨rfl, isFront⟩,
                by simpa using proper, List.cons_prefix_cons.mpr ⟨rfl, followed⟩⟩

/-- What one pass leaves was there and is not the needle, or a beginning of it stood before a
needle. -/
theorem infix_of_left (nonempty : found ≠ []) (left : found <:+: pass needle skipped text) :
    found ≠ needle ∧ found <:+: text ∨
      ∃ front, front ≠ [] ∧ front <+: found ∧ front ≠ found ∧ front ++ needle <:+: text := by
  induction text generalizing skipped with
  | nil =>
      rw [pass] at left
      exact absurd (List.infix_nil.mp left) nonempty
  | cons letter text ih =>
      -- An occurrence farther back in the text is one of the whole text.
      have farther : ∀ skipped, found <:+: pass needle skipped text →
          found ≠ needle ∧ found <:+: letter :: text ∨
            ∃ front, front ≠ [] ∧ front <+: found ∧ front ≠ found ∧
              front ++ needle <:+: letter :: text := by
        intro skipped left
        rcases ih left with ⟨other, was_there⟩ | ⟨front, some_front, isFront, proper, followed⟩
        · exact .inl ⟨other, List.infix_cons was_there⟩
        · exact .inr ⟨front, some_front, isFront, proper, List.infix_cons followed⟩
      cases skipped with
      | succ skipped => exact farther skipped left
      | zero =>
          rw [pass] at left
          split at left
          case isTrue => exact farther _ left
          case isFalse not_here =>
            rcases List.infix_cons_iff.mp left with at_front | behind
            · have kept : found <+: pass needle 0 (letter :: text) := by
                rwa [pass, if_neg not_here]
              rcases prefix_of_left kept with was_there | ⟨front, isFront, proper, followed⟩
              · refine .inl ⟨?_, was_there.isInfix⟩
                rintro rfl
                exact not_here was_there
              · refine .inr ⟨front, ?_, isFront, proper, followed.isInfix⟩
                rintro rfl
                exact not_here followed
            · exact farther 0 behind

namespace Undisturbed

instance (needles : List (List α)) (text : List α) : Decidable (Undisturbed needles text) :=
  decidable_of_iff (∀ needle ∈ needles, ∀ follower ∈ needles, ∀ front ∈ needle.inits,
      front ≠ [] → front ≠ needle → ¬front ++ follower <:+: text) <| by
    simp only [Undisturbed, List.mem_inits]
    constructor
    · intro checked needle mem follower followerMem front some_front isFront
      exact checked needle mem follower followerMem front isFront some_front
    · intro undisturbed needle mem follower followerMem front isFront some_front
      exact undisturbed needle mem follower followerMem front some_front isFront

/-- In an undisturbed text a pass joins nothing to a needle. -/
theorem absent (undisturbed : Undisturbed needles text) (mem : needle ∈ needles)
    (nonempty : needle ≠ []) (passedMem : passed ∈ needles)
    (absent : needle = passed ∨ ¬needle <:+: text) : ¬needle <:+: Erasure.pass passed 0 text := by
  intro left
  rcases infix_of_left nonempty left with
    ⟨other, was_there⟩ | ⟨front, some_front, isFront, proper, followed⟩
  · exact absent.elim other fun absent => absent was_there
  · exact undisturbed needle mem passed passedMem front some_front isFront proper followed

/-- A pass leaves an undisturbed text undisturbed. -/
theorem pass (undisturbed : Undisturbed needles text) (passedMem : passed ∈ needles) :
    Undisturbed needles (Erasure.pass passed 0 text) := by
  intro needle mem follower followerMem front some_front isFront proper left
  have nonempty : front ++ follower ≠ [] := by simp [some_front]
  rcases infix_of_left nonempty left with
    ⟨-, was_there⟩ | ⟨begin, some_begin, isBegin, begin_proper, followed⟩
  · exact undisturbed needle mem follower followerMem front some_front isFront proper was_there
  · rcases List.prefix_or_prefix_of_prefix isBegin (List.prefix_append front follower) with
      short | long
    · -- The cut is in the beginning of the needle, or right behind it.
      refine undisturbed needle mem passed passedMem begin some_begin (short.trans isFront) ?_
        followed
      rintro rfl
      exact proper (isFront.eq_of_length_le short.length_le)
    · rcases long with ⟨rest, rfl⟩
      rw [List.prefix_append_right_inj] at isBegin
      by_cases empty : rest = []
      · subst empty
        rw [List.append_nil] at followed
        exact undisturbed needle mem passed passedMem front some_front isFront proper followed
      · -- The cut is in the follower.
        refine undisturbed follower followerMem passed passedMem rest empty isBegin ?_ ?_
        · rintro rfl
          exact begin_proper rfl
        · rw [List.append_assoc] at followed
          exact (List.suffix_append front _).isInfix.trans followed

/-- Each needle is gone after its own pass, and no later pass brings it back. -/
theorem absent_of_passes (undisturbed : Undisturbed needles text)
    (nonempty : ∀ needle ∈ needles, needle ≠ []) (within : todo ⊆ needles)
    (mem : needle ∈ needles) (absent : needle ∈ todo ∨ ¬needle <:+: text) :
    ¬needle <:+: passes todo text := by
  induction todo generalizing text with
  | nil => simpa using absent
  | cons passed todo ih =>
      rw [List.cons_subset] at within
      refine ih (undisturbed.pass within.1) within.2 ?_
      rw [List.mem_cons, or_assoc, or_left_comm] at absent
      rcases absent with later | gone
      · exact .inl later
      · exact .inr (undisturbed.absent mem (nonempty needle mem) within.1 gone)

end Undisturbed

end OnlineJudge.Library.Erasure
