import Mathlib.Logic.Relation
import Mathlib.Data.Fintype.BigOperators

/-!
# Labelled transition systems

A system is a step function that says which labels are enabled in a state. A
schedule is a list of labels; `run` executes it. Properties of every run are
proved through `Reaches.invariant`, where each step may carry a side condition
on the state before it and on its label, so that the same induction serves
unconditional runs and runs that avoid a given kind of step.

An interleaving system keeps one component for each thread. `countWhere` counts
the components in a given phase, and `countWhere_update` is what one thread's
step does to that count.
-/

namespace OnlineJudge.Library

universe u v w

/-- A system given by its step function; `none` means that the label is not enabled. -/
structure TransitionSystem (State : Type u) (Label : Type v) where
  step : State → Label → Option State

namespace TransitionSystem

variable {State : Type u} {Label : Type v} (system : TransitionSystem State Label)

/-- Executes a schedule; `none` when some label of it is not enabled in its turn. -/
def run : State → List Label → Option State
  | state, [] => some state
  | state, label :: rest => (system.step state label).bind fun next => run next rest

/-- One step whose label is allowed in the state before it. -/
def Steps (allowed : State → Label → Prop) (state next : State) : Prop :=
  ∃ label, allowed state label ∧ system.step state label = some next

/-- The states reached by any number of allowed steps. -/
def Reaches (allowed : State → Label → Prop) : State → State → Prop :=
  Relation.ReflTransGen (system.Steps allowed)

/-- No side condition: every enabled step is allowed. -/
def Unrestricted : State → Label → Prop := fun _ _ => True

variable {system} {allowed : State → Label → Prop}

/-- What holds initially and is kept by every allowed step out of a reached state holds in every
state reached. -/
theorem Reaches.invariant {inv : State → Prop} {start finish : State}
    (reaches : system.Reaches allowed start finish) (initially : inv start)
    (preserved : ∀ state label next, system.Reaches allowed start state → inv state →
      allowed state label → system.step state label = some next → inv next) : inv finish := by
  induction reaches with
  | refl => exact initially
  | tail before edge ih =>
      rcases edge with ⟨label, labelAllowed, step⟩
      exact preserved _ label _ before ih labelAllowed step

theorem Reaches.trans {start middle finish : State}
    (first : system.Reaches allowed start middle)
    (second : system.Reaches allowed middle finish) : system.Reaches allowed start finish :=
  Relation.ReflTransGen.trans first second

/-- A weaker side condition allows the same steps and more. -/
theorem Reaches.weaken {weaker : State → Label → Prop} {start finish : State}
    (reaches : system.Reaches allowed start finish)
    (weaken : ∀ state label, allowed state label → weaker state label) :
    system.Reaches weaker start finish := by
  refine Relation.ReflTransGen.mono ?_ _ _ reaches
  rintro before after ⟨label, isAllowed, step⟩
  exact ⟨label, weaken before label isAllowed, step⟩

theorem run_cons_eq_some {state finish : State} {label : Label} {rest : List Label} :
    system.run state (label :: rest) = some finish ↔
      ∃ next, system.step state label = some next ∧ system.run next rest = some finish := by
  simp [run, Option.bind_eq_some_iff]

/-- Every label of the schedule is allowed in the state in which its turn comes. -/
def Admits (system : TransitionSystem State Label) (allowed : State → Label → Prop) :
    State → List Label → Prop
  | _, [] => True
  | state, label :: rest =>
      allowed state label ∧
        ∀ next, system.step state label = some next → Admits system allowed next rest

instance Admits.decidable [∀ state label, Decidable (allowed state label)] :
    (state : State) → (schedule : List Label) → Decidable (Admits system allowed state schedule)
  | _, [] => isTrue trivial
  | state, label :: rest =>
      match step : system.step state label with
      | some next =>
          have := Admits.decidable next rest
          decidable_of_iff (allowed state label ∧ Admits system allowed next rest) <| by
            simp [Admits, step]
      | none => decidable_of_iff (allowed state label) <| by simp [Admits, step]

/-- The final state of an executed schedule is reached, with the side condition of its labels. -/
theorem reaches_of_run {schedule : List Label} {start finish : State}
    (admits : Admits system allowed start schedule)
    (execution : system.run start schedule = some finish) :
    system.Reaches allowed start finish := by
  induction schedule generalizing start with
  | nil =>
      simp only [run, Option.some.injEq] at execution
      subst finish
      exact Relation.ReflTransGen.refl
  | cons label rest ih =>
      rcases run_cons_eq_some.mp execution with ⟨next, step, execution⟩
      exact Relation.ReflTransGen.head ⟨label, admits.1, step⟩
        (ih (admits.2 next step) execution)

theorem exists_run_of_reaches {start finish : State}
    (reaches : system.Reaches allowed start finish) :
    ∃ schedule, system.run start schedule = some finish := by
  induction reaches using Relation.ReflTransGen.head_induction_on with
  | refl => exact ⟨[], rfl⟩
  | head edge _ ih =>
      rcases edge with ⟨label, _, step⟩
      rcases ih with ⟨rest, execution⟩
      exact ⟨label :: rest, run_cons_eq_some.mpr ⟨_, step, execution⟩⟩

/-- The same with what has been executed so far. -/
theorem invariant_of_run (inv : List Label → State → Prop) {start finish : State}
    {done schedule : List Label} (initially : inv done start)
    (preserved : ∀ done state label next, inv done state → system.step state label = some next →
      inv (done ++ [label]) next)
    (execution : system.run start schedule = some finish) : inv (done ++ schedule) finish := by
  induction schedule generalizing start done with
  | nil =>
      simp only [run, Option.some.injEq] at execution
      subst finish
      simpa using initially
  | cons label rest ih =>
      rcases run_cons_eq_some.mp execution with ⟨next, step, execution⟩
      have rest_kept := ih (preserved done start label next initially step) execution
      rwa [List.append_assoc, List.singleton_append] at rest_kept

theorem admits_unrestricted (schedule : List Label) (state : State) :
    Admits system Unrestricted state schedule := by
  induction schedule generalizing state with
  | nil => trivial
  | cons label rest ih => exact ⟨trivial, fun next _ => ih next⟩

/-- Two side conditions that agree wherever an invariant holds allow the same schedules. -/
theorem admits_congr {allowed' : State → Label → Prop} {inv : State → Prop}
    (preserved : ∀ state label next, inv state → system.step state label = some next → inv next)
    (same : ∀ state label, inv state → (allowed state label ↔ allowed' state label))
    {start : State} (initially : inv start) (schedule : List Label) :
    Admits system allowed start schedule ↔ Admits system allowed' start schedule := by
  induction schedule generalizing start with
  | nil => exact Iff.rfl
  | cons label rest ih =>
      refine and_congr (same start label initially) (forall_congr' fun next => ?_)
      exact imp_congr_right fun step => ih (preserved start label next initially step)

theorem admits_of_forall_mem {allowedLabel : Label → Prop} {schedule : List Label}
    (allowed : ∀ label ∈ schedule, allowedLabel label) (state : State) :
    Admits system (fun _ label => allowedLabel label) state schedule := by
  induction schedule generalizing state with
  | nil => trivial
  | cons label rest ih =>
      refine ⟨allowed label List.mem_cons_self, fun next _ => ih (fun other mem => ?_) next⟩
      exact allowed other (List.mem_cons_of_mem _ mem)

/-- A measure that every allowed step lowers bounds the length of the allowed schedules. -/
theorem length_add_measure_le {measure : State → ℕ}
    (lowers : ∀ state label next, allowed state label →
      system.step state label = some next → measure next < measure state)
    {schedule : List Label} {start finish : State}
    (admits : Admits system allowed start schedule)
    (execution : system.run start schedule = some finish) :
    schedule.length + measure finish ≤ measure start := by
  induction schedule generalizing start with
  | nil =>
      simp only [run, Option.some.injEq] at execution
      subst finish
      simp
  | cons label rest ih =>
      rcases run_cons_eq_some.mp execution with ⟨next, step, execution⟩
      have shorter := ih (admits.2 next step) execution
      have lower := lowers start label next admits.1 step
      simp only [List.length_cons]
      omega

end TransitionSystem

section Components

variable {Index : Type u} {Component : Type v} [Fintype Index] [DecidableEq Index]

def total (weight : Component → ℕ) (components : Index → Component) : ℕ :=
  ∑ index, weight (components index)

/-- Replacing one component takes its weight out of the sum and puts the new one in. -/
theorem total_update (weight : Component → ℕ) (components : Index → Component) (index : Index)
    (component : Component) :
    total weight (Function.update components index component) + weight (components index) =
      total weight components + weight component := by
  have others : ∀ other ∈ Finset.univ.erase index,
      weight (Function.update components index component other) = weight (components other) := by
    intro other other_mem
    rw [Function.update_of_ne (Finset.ne_of_mem_erase other_mem)]
  simp only [total]
  rw [← Finset.add_sum_erase _ _ (Finset.mem_univ index),
    ← Finset.add_sum_erase _ (fun other => weight (components other)) (Finset.mem_univ index),
    Finset.sum_congr rfl others, Function.update_self]
  omega

def countWhere (property : Component → Prop) [DecidablePred property]
    (components : Index → Component) : ℕ :=
  total (fun component => if property component then 1 else 0) components

theorem countWhere_update (property : Component → Prop) [DecidablePred property]
    (components : Index → Component) (index : Index)
    (component : Component) :
    countWhere property (Function.update components index component) +
        (if property (components index) then 1 else 0) =
      countWhere property components + (if property component then 1 else 0) :=
  total_update _ _ _ _

omit [DecidableEq Index] in
theorem countWhere_eq_card (property : Component → Prop) [DecidablePred property]
    (components : Index → Component) :
    countWhere property components =
      (Finset.univ.filter fun index => property (components index)).card := by
  rw [Finset.card_filter]
  rfl

omit [DecidableEq Index] in
theorem countWhere_eq_zero_iff {property : Component → Prop} [DecidablePred property]
    {components : Index → Component} :
    countWhere property components = 0 ↔ ∀ index, ¬property (components index) := by
  simp [countWhere, total]

end Components

end OnlineJudge.Library
