import Mathlib.Logic.Basic
import Mathlib.Data.List.Basic

/-!
# Runs of a transition function

A machine is a transition function `step : State → Op → State`.  A run is a
list of operations, and a guard says which operations the environment may
take in which state.  The rules below are the only inductions over whole runs:
everything else is stated about one step.
-/

namespace Sponge.Lib

universe u v w

variable {State : Type u} {Op : Type v} {Abstract : Type w}

/-- Take the operations one after another. -/
def run (step : State → Op → State) : State → List Op → State
  | state, [] => state
  | state, op :: rest => run step (step state op) rest

/-- Every operation meets `guard` in the state in which it is taken. -/
def Guarded (step : State → Op → State) (guard : State → Op → Prop) :
    State → List Op → Prop
  | _, [] => True
  | state, op :: rest => guard state op ∧ Guarded step guard (step state op) rest

instance Guarded.decidable (step : State → Op → State) (guard : State → Op → Prop)
    [∀ state op, Decidable (guard state op)] :
    ∀ state ops, Decidable (Guarded step guard state ops)
  | _, [] => .isTrue trivial
  | state, op :: rest =>
      have := Guarded.decidable step guard (step state op) rest
      inferInstanceAs (Decidable (guard state op ∧ Guarded step guard (step state op) rest))

variable {step : State → Op → State} {guard : State → Op → Prop}

@[simp]
theorem run_nil (state : State) : run step state [] = state := rfl

@[simp]
theorem run_cons (state : State) (op : Op) (rest : List Op) :
    run step state (op :: rest) = run step (step state op) rest := rfl

theorem run_append (state : State) (first second : List Op) :
    run step state (first ++ second) = run step (run step state first) second := by
  induction first generalizing state with
  | nil => rfl
  | cons op rest inductionHypothesis => exact inductionHypothesis (step state op)

@[simp]
theorem guarded_nil (state : State) : Guarded step guard state [] := trivial

@[simp]
theorem guarded_cons (state : State) (op : Op) (rest : List Op) :
    Guarded step guard state (op :: rest) ↔
      guard state op ∧ Guarded step guard (step state op) rest := Iff.rfl

theorem guarded_append (state : State) (first second : List Op) :
    Guarded step guard state (first ++ second) ↔
      Guarded step guard state first ∧ Guarded step guard (run step state first) second := by
  induction first generalizing state with
  | nil => simp
  | cons op rest inductionHypothesis =>
      simp only [List.cons_append, guarded_cons, run_cons, inductionHypothesis, and_assoc]

theorem guarded_concat (state : State) (ops : List Op) (op : Op) :
    Guarded step guard state (ops ++ [op]) ↔
      Guarded step guard state ops ∧ guard (run step state ops) op := by
  simp [guarded_append]

theorem Guarded.and {other : State → Op → Prop} {state : State} {ops : List Op}
    (guarded : Guarded step guard state ops) (both : Guarded step other state ops) :
    Guarded step (fun state op => guard state op ∧ other state op) state ops := by
  induction ops generalizing state with
  | nil => trivial
  | cons op rest inductionHypothesis =>
      exact ⟨⟨guarded.1, both.1⟩, inductionHypothesis guarded.2 both.2⟩

theorem guarded_of_forall (state : State) {ops : List Op}
    (always : ∀ op ∈ ops, ∀ state, guard state op) : Guarded step guard state ops := by
  induction ops generalizing state with
  | nil => trivial
  | cons op rest inductionHypothesis =>
      refine ⟨always op List.mem_cons_self state, inductionHypothesis _ ?_⟩
      intro later membership
      exact always later (List.mem_cons_of_mem op membership)

/-- A guard that does not look at the state is a condition on the operations. -/
theorem guarded_iff_forall_mem (permits : Op → Prop) (state : State) (ops : List Op) :
    Guarded step (fun _ op => permits op) state ops ↔ ∀ op ∈ ops, permits op := by
  induction ops generalizing state with
  | nil => simp
  | cons op rest inductionHypothesis =>
      rw [guarded_cons, inductionHypothesis, List.forall_mem_cons]

/-- Every operation of a run is met after the operations in front of it. -/
theorem guarded_iff_forall_initial (state : State) (ops : List Op) :
    Guarded step guard state ops ↔
      ∀ first op, first ++ [op] <+: ops → guard (run step state first) op := by
  constructor
  · rintro guarded first op ⟨rest, rfl⟩
    exact ((guarded_concat state first op).mp ((guarded_append state _ rest).mp guarded).1).2
  · intro always
    induction ops generalizing state with
    | nil => trivial
    | cons op rest inductionHypothesis =>
        refine ⟨always [] op (List.prefix_append [op] rest), inductionHypothesis _ ?_⟩
        intro first later initial
        exact always (op :: first) later (List.cons_prefix_cons.mpr ⟨rfl, initial⟩)

/-- A guard that tells exactly which of the permitted steps are safe tells
exactly which permitted runs are safe throughout. -/
theorem safe_throughout_iff (inv safe : State → Prop) {permitted : State → Op → Prop}
    {ops : List Op}
    (tells : ∀ state op, inv state → safe state → permitted state op →
      (safe (step state op) ↔ guard state op))
    (preserved : ∀ state op, inv state → permitted state op → inv (step state op)) {state : State}
    (initially : inv state) (safely : safe state) (all : Guarded step permitted state ops) :
    (∀ first, first <+: ops → safe (run step state first)) ↔ Guarded step guard state ops := by
  induction ops generalizing state with
  | nil =>
      simp only [List.prefix_nil, forall_eq, run_nil, guarded_nil, iff_true]
      exact safely
  | cons op rest inductionHypothesis =>
      have step_iff := tells state op initially safely all.1
      have rest_iff (next : safe (step state op)) :=
        inductionHypothesis (preserved state op initially all.1) next all.2
      rw [guarded_cons, ← step_iff]
      constructor
      · intro throughout
        have next : safe (step state op) :=
          throughout [op] ((List.prefix_append [op] rest))
        refine ⟨next, (rest_iff next).mp ?_⟩
        intro first initial
        exact throughout (op :: first) (List.cons_prefix_cons.mpr ⟨rfl, initial⟩)
      · rintro ⟨next, guarded⟩ first initial
        cases first with
        | nil => exact safely
        | cons head tail =>
            obtain ⟨same, tailInitial⟩ := List.cons_prefix_cons.mp initial
            rw [same]
            exact (rest_iff next).mpr guarded tail tailInitial

/-- The invariant rule: what every permitted step preserves holds after every
permitted run. -/
theorem Guarded.invariant (inv : State → Prop) {state : State} {ops : List Op}
    (guarded : Guarded step guard state ops) (initially : inv state)
    (preserved : ∀ state op, inv state → guard state op → inv (step state op)) :
    inv (run step state ops) := by
  induction ops generalizing state with
  | nil => exact initially
  | cons op rest inductionHypothesis =>
      exact inductionHypothesis guarded.2 (preserved state op initially guarded.1)

/-- Under an invariant one guard gives another. -/
theorem Guarded.ensures (inv : State → Prop) {other : State → Op → Prop} {state : State}
    {ops : List Op} (guarded : Guarded step guard state ops) (initially : inv state)
    (preserved : ∀ state op, inv state → guard state op → other state op ∧ inv (step state op)) :
    Guarded step other state ops := by
  induction ops generalizing state with
  | nil => trivial
  | cons op rest inductionHypothesis =>
      obtain ⟨ensured, next⟩ := preserved state op initially guarded.1
      exact ⟨ensured, inductionHypothesis guarded.2 next⟩

/-- The invariant rule for runs without a guard. -/
theorem run_invariant (inv : State → Prop) {state : State} (ops : List Op)
    (initially : inv state) (preserved : ∀ state op, inv state → inv (step state op)) :
    inv (run step state ops) := by
  induction ops generalizing state with
  | nil => exact initially
  | cons op rest inductionHypothesis =>
      exact inductionHypothesis (preserved state op initially)

section Simulation

variable {step' : Abstract → Op → Abstract} {view : State → Abstract}

/-- A view of the state that steps by itself runs by itself. -/
theorem run_view (commutes : ∀ state op, view (step state op) = step' (view state) op)
    (state : State) (ops : List Op) : view (run step state ops) = run step' (view state) ops := by
  induction ops generalizing state with
  | nil => rfl
  | cons op rest inductionHypothesis =>
      rw [run_cons, run_cons, inductionHypothesis, commutes]

theorem guarded_view (commutes : ∀ state op, view (step state op) = step' (view state) op)
    {guard' : Abstract → Op → Prop} (state : State) (ops : List Op) :
    Guarded step (fun state op => guard' (view state) op) state ops ↔
      Guarded step' guard' (view state) ops := by
  induction ops generalizing state with
  | nil => rfl
  | cons op rest inductionHypothesis =>
      rw [guarded_cons, guarded_cons, inductionHypothesis, commutes]

/-- The simulation rule: a relation between two machines that every permitted
step of the first preserves holds after every permitted run. -/
theorem Guarded.simulation (related : State → Abstract → Prop) {state : State}
    {abstract : Abstract} {ops : List Op} (guarded : Guarded step guard state ops)
    (initially : related state abstract)
    (preserved : ∀ state abstract op, related state abstract → guard state op →
      related (step state op) (step' abstract op)) :
    related (run step state ops) (run step' abstract ops) := by
  induction ops generalizing state abstract with
  | nil => exact initially
  | cons op rest inductionHypothesis =>
      exact inductionHypothesis guarded.2 (preserved state abstract op initially guarded.1)

end Simulation

end Sponge.Lib
