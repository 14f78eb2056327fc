import AsyncFrame.Lib.Runs
import Mathlib.Order.Basic
import Mathlib.Data.Nat.Init

/-!
# Progress and costs of runs

What a machine can still do, and how much of something a run can cost.  The
ranking rule turns "some run lowers the measure" into "some run reaches the
goal".  The accounting rule turns what each step pays into what every run
pays.
-/

namespace AsyncFrame.Lib

universe u v

variable {State : Type u} {Action : Type v}
variable {step : State → Action → Option State}
variable {condition : State → Action → Prop}

/-! ## What can be reached -/

/-- Some run whose steps meet the condition leads from one state to the
other. -/
def CanReach (step : State → Action → Option State)
    (condition : State → Action → Prop) (start final : State) : Prop :=
  ∃ actions, Meets step condition start actions ∧
    runFrom step start actions = some final

theorem runFrom_append (step : State → Action → Option State)
    (start : State) (first second : List Action) :
    runFrom step start (first ++ second) =
      (runFrom step start first).bind fun middle =>
        runFrom step middle second := by
  induction first generalizing start with
  | nil => rfl
  | cons action rest inductionHypothesis =>
      simp only [List.cons_append, runFrom]
      cases step start action with
      | none => rfl
      | some next => exact inductionHypothesis next

theorem Meets.append {start middle : State} {first second : List Action}
    (meets : Meets step condition start first)
    (run : runFrom step start first = some middle)
    (later : Meets step condition middle second) :
    Meets step condition start (first ++ second) := by
  induction first generalizing start with
  | nil =>
      cases run
      exact later
  | cons action rest inductionHypothesis =>
      obtain ⟨next, taken, run⟩ := runFrom_cons_eq_some run
      refine ⟨meets.1, ?_⟩
      rw [taken]
      exact inductionHypothesis (meets_cons_tail meets taken) run

namespace CanReach

theorem refl (start : State) : CanReach step condition start start :=
  ⟨[], trivial, rfl⟩

theorem single {start next : State} {action : Action}
    (allowed : condition start action)
    (taken : step start action = some next) :
    CanReach step condition start next := by
  refine ⟨[action], ⟨allowed, ?_⟩, ?_⟩
  · rw [taken]
    trivial
  · simp only [runFrom, taken]

theorem trans {start middle final : State}
    (first : CanReach step condition start middle)
    (second : CanReach step condition middle final) :
    CanReach step condition start final := by
  obtain ⟨before, meets, run⟩ := first
  obtain ⟨after, later, rest⟩ := second
  refine ⟨before ++ after, meets.append run later, ?_⟩
  rw [runFrom_append, run]
  exact rest

end CanReach

variable (step condition) in
/-- The ranking rule: when from every state of the invariant that is not at
the goal some run leads to one of a smaller measure, the goal can be
reached. -/
theorem canReach_of_measure (invariant goal : State → Prop)
    (measure : State → Nat)
    (lowers : ∀ state, invariant state → ¬goal state →
      ∃ next, CanReach step condition state next ∧ invariant next ∧
        measure next < measure state) :
    ∀ state, invariant state →
      ∃ final, CanReach step condition state final ∧ invariant final ∧
        goal final := by
  intro state holds
  induction bound : measure state using Nat.strong_induction_on
    generalizing state with
  | h size inductionHypothesis =>
      by_cases done : goal state
      · exact ⟨state, CanReach.refl state, holds, done⟩
      · obtain ⟨next, path, holdsNext, smaller⟩ := lowers state holds done
        obtain ⟨final, rest, holdsFinal, reached⟩ :=
          inductionHypothesis (measure next) (bound ▸ smaller) next holdsNext
            rfl
        exact ⟨final, path.trans rest, holdsFinal, reached⟩

/-! ## What a run costs -/

/-- The sum of a cost over the steps of a run. -/
def total (step : State → Action → Option State)
    (cost : State → Action → Nat) : State → List Action → Nat
  | _, [] => 0
  | state, action :: rest =>
      cost state action +
        match step state action with
        | some next => total step cost next rest
        | none => 0

theorem total_cons {cost : State → Action → Nat} {start next : State}
    {action : Action} (rest : List Action)
    (taken : step start action = some next) :
    total step cost start (action :: rest) =
      cost start action + total step cost next rest := by
  rw [total, taken]

theorem total_zero :
    ∀ (actions : List Action) (start : State),
      total step (fun _ _ => 0) start actions = 0
  | [], _ => rfl
  | action :: rest, start => by
      rw [total, Nat.zero_add]
      split
      · exact total_zero rest _
      · rfl

/-- The number of actions of one kind is such a sum. -/
theorem total_eq_countP (kind : Action → Bool) :
    ∀ {actions : List Action} {start final : State},
      runFrom step start actions = some final →
        total step (fun _ action => if kind action then 1 else 0) start
          actions = actions.countP kind
  | [], _, _, _ => rfl
  | action :: rest, start, final, run => by
      obtain ⟨next, taken, later⟩ := runFrom_cons_eq_some run
      rw [total_cons rest taken, total_eq_countP kind later,
        List.countP_cons, Nat.add_comm]

variable (step) in
/-- The accounting rule: when each step pays its cost out of what is reserved,
what it earns and what it is credited, so does every run. -/
theorem total_le_of_run (invariant : State → Prop)
    (cost credit : State → Action → Nat) (reserved earned : State → Nat)
    (preserved : ∀ {state action next},
      invariant state → condition state action →
        step state action = some next → invariant next)
    (paid : ∀ {state action next},
      invariant state → condition state action →
        step state action = some next →
          cost state action + reserved next + earned state ≤
            reserved state + earned next + credit state action) :
    ∀ {actions : List Action} {start final : State},
      invariant start →
        Meets step condition start actions →
          runFrom step start actions = some final →
            total step cost start actions + reserved final + earned start ≤
              reserved start + earned final +
                total step credit start actions
  | [], start, final, _, _, run => by
      cases run
      simp only [total]
      omega
  | action :: rest, start, final, holds, meets, run => by
      obtain ⟨next, taken, later⟩ := runFrom_cons_eq_some run
      have here := paid holds meets.1 taken
      have tail := total_le_of_run invariant cost credit reserved earned
        preserved paid (preserved holds meets.1 taken)
        (meets_cons_tail meets taken) later
      rw [total_cons rest taken, total_cons rest taken]
      omega

end AsyncFrame.Lib
