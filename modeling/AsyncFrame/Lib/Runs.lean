import Mathlib.Logic.Basic

/-!
# Runs of a deterministic machine under an environment

A machine is a partial step function: the environment picks the action, and
`none` says that the action is not enabled.  A run is the list of its actions.
The induction rules below are the inductions over runs which the development
needs: an invariant of every step whose action meets a side condition, and two
rules for a law whose first violation is exactly an action that misses the side
condition, one for a law that is lost for good and one for all states of the
run.
-/

namespace AsyncFrame.Lib

universe u v w x

variable {State : Type u} {Action : Type v}

/-- Follow a list of actions. -/
def runFrom (step : State → Action → Option State) :
    State → List Action → Option State
  | state, [] => some state
  | state, action :: rest =>
      match step state action with
      | some next => runFrom step next rest
      | none => none

/-- Every action of the run is taken in a state that meets `condition`. -/
def Meets (step : State → Action → Option State)
    (condition : State → Action → Prop) :
    State → List Action → Prop
  | _, [] => True
  | state, action :: rest =>
      condition state action ∧
        match step state action with
        | some next => Meets step condition next rest
        | none => True

instance Meets.decidable
    (step : State → Action → Option State)
    (condition : State → Action → Prop)
    [decision : ∀ state action, Decidable (condition state action)] :
    ∀ (state : State) (actions : List Action),
      Decidable (Meets step condition state actions)
  | _, [] => isTrue trivial
  | state, action :: rest =>
      match tested : step state action with
      | some next =>
          match decision state action,
              Meets.decidable step condition next rest with
          | isTrue here, isTrue later =>
              isTrue ⟨here, by rw [tested]; exact later⟩
          | isFalse here, _ => isFalse fun meets => here meets.1
          | _, isFalse later =>
              isFalse fun meets => later <| by
                have tail := meets.2
                rw [tested] at tail
                exact tail
      | none =>
          match decision state action with
          | isTrue here => isTrue ⟨here, by rw [tested]; trivial⟩
          | isFalse here => isFalse fun meets => here meets.1

variable {step : State → Action → Option State}
variable {condition : State → Action → Prop}

theorem runFrom_cons_eq_some
    {start final : State} {action : Action} {rest : List Action}
    (run : runFrom step start (action :: rest) = some final) :
    ∃ next, step start action = some next ∧
      runFrom step next rest = some final := by
  unfold runFrom at run
  cases taken : step start action with
  | none =>
      rw [taken] at run
      cases run
  | some next =>
      rw [taken] at run
      exact ⟨next, rfl, run⟩

theorem meets_cons_tail
    {start next : State} {action : Action} {rest : List Action}
    (meets : Meets step condition start (action :: rest))
    (taken : step start action = some next) :
    Meets step condition next rest := by
  have tail := meets.2
  rw [taken] at tail
  exact tail

theorem Meets.mono
    {weaker : State → Action → Prop}
    (implies : ∀ state action,
      condition state action → weaker state action) :
    ∀ {actions : List Action} {start : State},
      Meets step condition start actions →
        Meets step weaker start actions
  | [], _, _ => trivial
  | action :: rest, start, meets => by
      refine ⟨implies start action meets.1, ?_⟩
      cases taken : step start action with
      | none => trivial
      | some next =>
          exact Meets.mono implies (meets_cons_tail meets taken)

theorem Meets.and {other : State → Action → Prop} :
    ∀ {actions : List Action} {start : State},
      Meets step condition start actions →
        Meets step other start actions →
          Meets step
            (fun state action => condition state action ∧ other state action)
            start actions
  | [], _, _, _ => trivial
  | action :: rest, start, first, second => by
      refine ⟨⟨first.1, second.1⟩, ?_⟩
      cases taken : step start action with
      | none => trivial
      | some next =>
          exact Meets.and (meets_cons_tail first taken)
            (meets_cons_tail second taken)

theorem meets_of_forall_mem :
    ∀ {actions : List Action} {start : State},
      (∀ action ∈ actions, ∀ state, condition state action) →
        Meets step condition start actions
  | [], _, _ => trivial
  | action :: rest, start, all => by
      refine ⟨all action List.mem_cons_self start, ?_⟩
      cases step start action with
      | none => trivial
      | some next =>
          exact meets_of_forall_mem fun later member =>
            all later (List.mem_cons_of_mem action member)

/-- The invariant rule: what every step under the side condition preserves
holds at the end of every run whose steps meet it. -/
theorem invariant_of_run
    (invariant : State → Prop)
    (preserved : ∀ {state action next},
      invariant state → condition state action →
        step state action = some next → invariant next) :
    ∀ {actions : List Action} {start final : State},
      invariant start →
        Meets step condition start actions →
          runFrom step start actions = some final →
            invariant final
  | [], start, final, holds, _, run => by
      cases run
      exact holds
  | action :: rest, start, final, holds, meets, run => by
      obtain ⟨next, taken, later⟩ := runFrom_cons_eq_some run
      exact invariant_of_run invariant preserved
        (preserved holds meets.1 taken)
        (meets_cons_tail meets taken) later

/-- The exact-condition rule: when a step keeps the law exactly if its action
meets `sharp`, the law holds at the end of a run exactly if every action of
the run met it.  The steps themselves may be restricted by `condition`, which
`invariant` needs. -/
theorem law_iff_meets_of_run
    (invariant law : State → Prop) (sharp : State → Action → Prop)
    (preserved : ∀ {state action next},
      invariant state → condition state action →
        step state action = some next → invariant next)
    (decided : ∀ {state action next},
      invariant state → condition state action →
        step state action = some next →
          (law next ↔ law state ∧ sharp state action)) :
    ∀ {actions : List Action} {start final : State},
      invariant start → law start →
        Meets step condition start actions →
          runFrom step start actions = some final →
            (law final ↔ Meets step sharp start actions)
  | [], start, final, _, lawful, _, run => by
      cases run
      exact iff_of_true lawful trivial
  | action :: rest, start, final, holds, lawful, meets, run => by
      obtain ⟨next, taken, later⟩ := runFrom_cons_eq_some run
      have here := decided holds meets.1 taken
      have invariantNext := preserved holds meets.1 taken
      have meetsNext := meets_cons_tail meets taken
      by_cases kept : sharp start action
      · have tail :=
          law_iff_meets_of_run invariant law sharp preserved decided
            invariantNext
            (here.mpr ⟨lawful, kept⟩) meetsNext later
        rw [tail]
        constructor
        · intro sharpTail
          refine ⟨kept, ?_⟩
          rw [taken]
          exact sharpTail
        · intro sharpAll
          exact meets_cons_tail sharpAll taken
      · -- the law is lost here, and no later step restores it
        have lost : ¬ law next := fun lawNext =>
          kept (here.mp lawNext).2
        have staysLost : ¬ law final :=
          (invariant_of_run
            (fun state => invariant state ∧ ¬ law state)
            (fun both allowed moved =>
              ⟨preserved both.1 allowed moved, fun regained =>
                both.2 ((decided both.1 allowed moved).mp regained).1⟩)
            ⟨invariantNext, lost⟩ meetsNext later).2
        exact iff_of_false staysLost fun sharpAll => kept sharpAll.1

/-- The law holds in every state that the run goes through. -/
def Throughout (step : State → Action → Option State)
    (law : State → Prop) (start : State) (actions : List Action) : Prop :=
  ∀ done, done <+: actions → ∀ state,
    runFrom step start done = some state → law state

theorem throughout_cons {law : State → Prop} {start next : State}
    {action : Action} {rest : List Action}
    (taken : step start action = some next) :
    Throughout step law start (action :: rest) ↔
      law start ∧ Throughout step law next rest := by
  constructor
  · intro all
    refine ⟨all [] List.nil_prefix start rfl, ?_⟩
    intro done inside state run
    refine all (action :: done) ?_ state ?_
    · exact List.cons_prefix_cons.mpr ⟨rfl, inside⟩
    · rw [runFrom, taken]
      exact run
  · rintro ⟨first, later⟩ done inside state run
    cases done with
    | nil =>
        cases run
        exact first
    | cons other done =>
        obtain ⟨rfl, below⟩ := List.cons_prefix_cons.mp inside
        rw [runFrom, taken] at run
        exact later done below state run

/-- The every-state rule: when a step from a lawful state keeps the law exactly
if its action meets `sharp`, all states of a run are lawful exactly if every
action of the run met it. -/
theorem throughout_iff_meets_of_run
    (invariant law : State → Prop) (sharp : State → Action → Prop)
    (preserved : ∀ {state action next},
      invariant state → condition state action →
        step state action = some next → invariant next)
    (decided : ∀ {state action next},
      invariant state → condition state action →
        step state action = some next → law state →
          (law next ↔ sharp state action)) :
    ∀ {actions : List Action} {start final : State},
      invariant start → law start →
        Meets step condition start actions →
          runFrom step start actions = some final →
            (Throughout step law start actions ↔
              Meets step sharp start actions)
  | [], start, final, _, lawful, _, _ => by
      refine iff_of_true ?_ trivial
      intro done inside state run
      rw [List.prefix_nil.mp inside] at run
      cases run
      exact lawful
  | action :: rest, start, final, holds, lawful, meets, run => by
      obtain ⟨next, taken, later⟩ := runFrom_cons_eq_some run
      have here := decided holds meets.1 taken lawful
      have meetsNext := meets_cons_tail meets taken
      have tail : law next → (Throughout step law next rest ↔
          Meets step sharp next rest) := fun lawfulNext =>
        throughout_iff_meets_of_run invariant law sharp preserved decided
          (preserved holds meets.1 taken) lawfulNext meetsNext later
      rw [throughout_cons taken]
      constructor
      · rintro ⟨_, all⟩
        have lawfulNext := all [] List.nil_prefix next rfl
        refine ⟨here.mp lawfulNext, ?_⟩
        rw [taken]
        exact (tail lawfulNext).mp all
      · intro sharpAll
        have lawfulNext := here.mpr sharpAll.1
        exact ⟨lawful, (tail lawfulNext).mpr
          (meets_cons_tail sharpAll taken)⟩

/-- What a step cannot bring about held all along, if it holds at the end. -/
theorem meets_of_final
    (invariant law : State → Prop)
    (preserved : ∀ {state action next},
      invariant state → condition state action →
        step state action = some next → invariant next)
    (held : ∀ {state action next},
      invariant state → condition state action →
        step state action = some next → law next → law state) :
    ∀ {actions : List Action} {start final : State},
      invariant start →
        Meets step condition start actions →
          runFrom step start actions = some final → law final →
            law start ∧ Meets step (fun state _ => law state) start actions
  | [], start, final, _, _, run, lawful => by
      cases run
      exact ⟨lawful, trivial⟩
  | action :: rest, start, final, holds, meets, run, lawful => by
      obtain ⟨next, taken, later⟩ := runFrom_cons_eq_some run
      obtain ⟨lawNext, tail⟩ :=
        meets_of_final invariant law preserved held
          (preserved holds meets.1 taken) (meets_cons_tail meets taken) later
          lawful
      have here := held holds meets.1 taken lawNext
      refine ⟨here, here, ?_⟩
      rw [taken]
      exact tail

section Halting

variable {bounds : State → Action → Prop} {start next reached : State}
variable {action : Action} {rest : List Action}

/-- The last action of the run is the first one that is out of bounds, taken
in the state that the run has reached. -/
def StopsAt (step : State → Action → Option State)
    (bounds : State → Action → Prop) (start : State)
    (actions : List Action) (reached : State) : Prop :=
  ∃ before action, actions = before ++ [action] ∧
    runFrom step start before = some reached ∧
    Meets step bounds start before ∧
    (step reached action).isSome ∧ ¬bounds reached action

theorem stopsAt_cons_of_within (taken : step start action = some next)
    (within : bounds start action) :
    StopsAt step bounds start (action :: rest) reached ↔
      StopsAt step bounds next rest reached := by
  constructor
  · rintro ⟨before, last, split, run, meets, enabled, out⟩
    cases before with
    | nil =>
        cases split
        cases run
        exact absurd within out
    | cons first before =>
        cases split
        rw [runFrom, taken] at run
        exact ⟨before, last, rfl, run, meets_cons_tail meets taken, enabled,
          out⟩
  · rintro ⟨before, last, rfl, run, meets, enabled, out⟩
    refine ⟨action :: before, last, rfl, ?_, ⟨within, ?_⟩, enabled, out⟩
    · rw [runFrom, taken]
      exact run
    · rw [taken]
      exact meets

theorem stopsAt_cons_of_out (enabled : (step start action).isSome)
    (out : ¬bounds start action) :
    StopsAt step bounds start (action :: rest) reached ↔
      rest = [] ∧ reached = start := by
  constructor
  · rintro ⟨before, last, split, run, meets, _, _⟩
    cases before with
    | nil =>
        cases split
        cases run
        exact ⟨rfl, rfl⟩
    | cons first before =>
        cases split
        exact absurd meets.1 out
  · rintro ⟨rfl, rfl⟩
    exact ⟨[], action, rfl, rfl, trivial, enabled, out⟩

/-- The halting rule: when a machine takes the steps of another one whose
actions are within bounds, and halts at an action that is not, its runs are
those of the other one within bounds, and those that stop at the first action
out of bounds. -/
theorem run_iff_of_halting {narrow : State → Action → Option State}
    (invariant : State → Prop) (halt : State → State)
    (preserved : ∀ {state action next},
      invariant state → condition state action →
        step state action = some next → bounds state action →
          invariant next)
    (same : ∀ {state action next},
      invariant state → condition state action →
        step state action = some next → bounds state action →
          narrow state action = some next)
    (halts : ∀ {state action next},
      invariant state → condition state action →
        step state action = some next → ¬bounds state action →
          narrow state action = some (halt state))
    (disabled : ∀ {state action}, step state action = none →
      narrow state action = none)
    (halted : ∀ state action, narrow (halt state) action = none) :
    ∀ {actions : List Action} {start final : State},
      invariant start →
        Meets step condition start actions →
          (runFrom narrow start actions = some final ↔
            (runFrom step start actions = some final ∧
              Meets step bounds start actions) ∨
            ∃ reached, StopsAt step bounds start actions reached ∧
              final = halt reached)
  | [], start, final, _, _ => by
      constructor
      · intro run
        exact Or.inl ⟨run, trivial⟩
      · rintro (⟨run, _⟩ | ⟨_, ⟨before, _, split, _⟩, _⟩)
        · exact run
        · simp at split
  | action :: rest, start, final, holds, meets => by
      cases taken : step start action with
      | none =>
          constructor
          · intro run
            rw [runFrom, disabled taken] at run
            cases run
          · rintro (⟨run, _⟩ | ⟨_, ⟨before, _, split, run, _, enabled, _⟩, _⟩)
            · rw [runFrom, taken] at run
              cases run
            · cases before with
              | nil =>
                  cases split
                  cases run
                  rw [taken] at enabled
                  cases enabled
              | cons first before =>
                  cases split
                  rw [runFrom, taken] at run
                  cases run
      | some next =>
          by_cases within : bounds start action
          · have later := @run_iff_of_halting narrow invariant halt preserved
              same halts disabled halted rest next final
              (preserved holds meets.1 taken within)
              (meets_cons_tail meets taken)
            rw [runFrom, same holds meets.1 taken within, runFrom, taken]
            simp only [stopsAt_cons_of_within taken within]
            rw [later, Meets, taken]
            simp only [within, true_and]
          · have enabled : (step start action).isSome = true := by
              rw [taken]
              rfl
            rw [runFrom, halts holds meets.1 taken within]
            simp only [stopsAt_cons_of_out enabled within]
            constructor
            · intro run
              right
              cases rest with
              | nil =>
                  cases run
                  exact ⟨start, ⟨rfl, rfl⟩, rfl⟩
              | cons other rest =>
                  simp only [runFrom, halted] at run
                  cases run
            · rintro (⟨_, all⟩ | ⟨_, ⟨rfl, rfl⟩, rfl⟩)
              · exact absurd all.1 within
              · rfl

end Halting

section Simulation

variable {Abstract : Type w} {Label : Type x}

/-- A run of a machine given by a step relation. -/
inductive Path (move : Abstract → Label → Abstract → Prop) :
    Abstract → List Label → Abstract → Prop
  | nil (start : Abstract) : Path move start [] start
  | cons {start next final : Abstract} {label : Label}
      {rest : List Label} :
      move start label next →
      Path move next rest final →
      Path move start (label :: rest) final

/-- The invariant rule for such a machine. -/
theorem invariant_of_path {move : Abstract → Label → Abstract → Prop}
    {allowed : Label → Prop} (invariant : Abstract → Prop)
    (preserved : ∀ {abstract label target},
      invariant abstract → allowed label → move abstract label target →
        invariant target)
    {start final : Abstract} {labels : List Label}
    (path : Path move start labels final)
    (all : ∀ label ∈ labels, allowed label) (holds : invariant start) :
    invariant final := by
  induction path with
  | nil => exact holds
  | cons moved rest inductionHypothesis =>
      exact inductionHypothesis
        (fun label member => all label (List.mem_cons_of_mem _ member))
        (preserved holds (all _ List.mem_cons_self) moved)

/-- The simulation rule: when each step is matched by an abstract move of the
same label, each run is matched by an abstract run. -/
theorem simulation_of_run
    (related : State → Abstract → Prop)
    (move : Abstract → Label → Abstract → Prop) (label : Action → Label)
    (matched : ∀ {state action next abstract},
      related state abstract → step state action = some next →
        ∃ target, move abstract (label action) target ∧
          related next target) :
    ∀ {actions : List Action} {start final : State} {abstract : Abstract},
      related start abstract →
        runFrom step start actions = some final →
          ∃ target, Path move abstract (actions.map label) target ∧
            related final target
  | [], start, final, abstract, relates, run => by
      cases run
      exact ⟨abstract, Path.nil abstract, relates⟩
  | action :: rest, start, final, abstract, relates, run => by
      obtain ⟨next, taken, later⟩ := runFrom_cons_eq_some run
      obtain ⟨middle, moved, relatesNext⟩ := matched relates taken
      obtain ⟨target, path, relatesFinal⟩ :=
        simulation_of_run related move label matched relatesNext later
      exact ⟨target, Path.cons moved path, relatesFinal⟩

/-- A run of one machine read as a run of another. -/
theorem Path.map {Target : Type*} {move : Abstract → Label → Abstract → Prop}
    {other : Target → Label → Target → Prop} (view : Abstract → Target)
    (viewed : ∀ {abstract label target}, move abstract label target →
      other (view abstract) label (view target))
    {start final : Abstract} {labels : List Label}
    (path : Path move start labels final) :
    Path other (view start) labels (view final) := by
  induction path with
  | nil start => exact Path.nil _
  | cons moved _ inductionHypothesis =>
      exact Path.cons (viewed moved) inductionHypothesis

/-- The step that refines an abstract move. -/
def Refines (step : State → Action → Option State)
    (abstraction : State → Abstract)
    (move : Abstract → Action → Abstract → Prop) (state : State)
    (action : Action) (next : State) : Prop :=
  step state action = some next ∧
    move (abstraction state) action (abstraction next)

/-- The refinement rule: when an abstraction takes each step that meets the
side condition to an abstract move, every step of a run refines its move. -/
theorem refinement_of_run {condition : State → Action → Prop}
    (invariant : State → Prop) (abstraction : State → Abstract)
    (move : Abstract → Action → Abstract → Prop)
    (preserved : ∀ {state action next},
      invariant state → condition state action →
        step state action = some next → invariant next)
    (matched : ∀ {state action next},
      invariant state → condition state action →
        step state action = some next →
          move (abstraction state) action (abstraction next)) :
    ∀ {actions : List Action} {start final : State},
      invariant start →
        Meets step condition start actions →
          runFrom step start actions = some final →
            Path (Refines step abstraction move) start actions final
  | [], start, final, _, _, run => by
      cases run
      exact Path.nil _
  | action :: rest, start, final, holds, meets, run => by
      obtain ⟨next, taken, later⟩ := runFrom_cons_eq_some run
      exact Path.cons ⟨taken, matched holds meets.1 taken⟩
        (refinement_of_run invariant abstraction move preserved matched
          (preserved holds meets.1 taken) (meets_cons_tail meets taken)
          later)

/-- What a run shows of itself, when each step shows one label at most. -/
def observed (step : State → Action → Option State)
    (label : State → Action → Option Label) :
    State → List Action → List Label
  | _, [] => []
  | state, action :: rest =>
      (label state action).toList ++
        match step state action with
        | some next => observed step label next rest
        | none => []

theorem observed_cons {label : State → Action → Option Label}
    {start next : State} {action : Action} (rest : List Action)
    (taken : step start action = some next) :
    observed step label start (action :: rest) =
      (label start action).toList ++ observed step label next rest := by
  rw [observed, taken]

/-- The simulation rule for what is shown: when each step is matched by a step
of the abstract machine that shows the same, each run is matched by a run that
shows the same. -/
theorem showing_of_run {AbstractAction : Type*}
    {condition : State → Action → Prop}
    {abstractStep : Abstract → AbstractAction → Option Abstract}
    {shows : State → Action → Option Label}
    {abstractShows : Abstract → AbstractAction → Option Label}
    (related : State → Abstract → Prop)
    (matched : ∀ {state action next abstract},
      related state abstract → condition state action →
        step state action = some next →
          ∃ taken target, abstractStep abstract taken = some target ∧
            abstractShows abstract taken = shows state action ∧
            related next target) :
    ∀ {actions : List Action} {start final : State} {abstract : Abstract},
      related start abstract →
        Meets step condition start actions →
          runFrom step start actions = some final →
            ∃ taken target,
              runFrom abstractStep abstract taken = some target ∧
              observed abstractStep abstractShows abstract taken =
                observed step shows start actions ∧
              related final target
  | [], start, final, abstract, relates, _, run => by
      cases run
      exact ⟨[], abstract, rfl, rfl, relates⟩
  | action :: rest, start, final, abstract, relates, meets, run => by
      obtain ⟨next, moved, later⟩ := runFrom_cons_eq_some run
      obtain ⟨first, middle, abstractMoved, same, relatesNext⟩ :=
        matched relates meets.1 moved
      obtain ⟨others, target, abstractRun, seen, relatesFinal⟩ :=
        showing_of_run related matched relatesNext
          (meets_cons_tail meets moved) later
      refine ⟨first :: others, target, ?_, ?_, relatesFinal⟩
      · rw [runFrom, abstractMoved]
        exact abstractRun
      · rw [observed_cons rest moved, observed_cons others abstractMoved,
          same, seen]

/-- When every action shows something of its own, a run shows it for each. -/
theorem observed_eq_map (label : Action → Label) :
    ∀ {actions : List Action} {start final : State},
      runFrom step start actions = some final →
        observed step (fun _ action => some (label action)) start actions =
          actions.map label
  | [], _, _, _ => rfl
  | action :: rest, start, final, run => by
      obtain ⟨next, taken, later⟩ := runFrom_cons_eq_some run
      rw [observed_cons rest taken, observed_eq_map label later]
      rfl

/-- The refinement rule with stuttering: a step that shows nothing is none of
the abstract machine. -/
theorem stuttering_of_run {condition : State → Action → Prop}
    {label : State → Action → Option Label}
    (invariant : State → Prop) (abstraction : State → Abstract)
    (move : Abstract → Label → Abstract → Prop)
    (preserved : ∀ {state action next},
      invariant state → condition state action →
        step state action = some next → invariant next)
    (matched : ∀ {state action next shown},
      invariant state → condition state action →
        step state action = some next → label state action = some shown →
          move (abstraction state) shown (abstraction next))
    (silent : ∀ {state action next},
      invariant state → condition state action →
        step state action = some next → label state action = none →
          abstraction next = abstraction state) :
    ∀ {actions : List Action} {start final : State},
      invariant start →
        Meets step condition start actions →
          runFrom step start actions = some final →
            Path move (abstraction start) (observed step label start actions)
              (abstraction final)
  | [], start, final, _, _, run => by
      cases run
      exact Path.nil _
  | action :: rest, start, final, holds, meets, run => by
      obtain ⟨next, taken, later⟩ := runFrom_cons_eq_some run
      have path := stuttering_of_run invariant abstraction move preserved
        matched silent (preserved holds meets.1 taken)
        (meets_cons_tail meets taken) later
      rw [observed_cons rest taken]
      cases shown : label start action with
      | some one =>
          exact Path.cons (matched holds meets.1 taken shown) path
      | none =>
          rw [silent holds meets.1 taken shown] at path
          exact path

/-- The machine under a monitor, which sees each action before it is taken and
may refuse it. -/
def monitored (step : State → Action → Option State)
    (monitor : Abstract → State → Action → Option Abstract)
    (pair : Abstract × State) (action : Action) :
    Option (Abstract × State) :=
  (monitor pair.1 pair.2 action).bind fun mark =>
    (step pair.2 action).map fun next => (mark, next)

theorem monitored_eq_some
    {monitor : Abstract → State → Action → Option Abstract}
    {mark : Abstract} {state : State} {action : Action}
    {pair : Abstract × State} :
    monitored step monitor (mark, state) action = some pair ↔
      monitor mark state action = some pair.1 ∧
        step state action = some pair.2 := by
  obtain ⟨changed, next⟩ := pair
  simp only [monitored, Option.bind_eq_some_iff, Option.map_eq_some_iff]
  constructor
  · rintro ⟨_, accepted, _, taken, same⟩
    cases same
    exact ⟨accepted, taken⟩
  · intro both
    exact ⟨changed, both.1, next, both.2, rfl⟩

/-- The monitor rule: a monitor that accepts every step from under the
invariant leaves the machine all its runs. -/
theorem monitored_run_iff {condition : State → Action → Prop}
    {monitor : Abstract → State → Action → Option Abstract}
    (invariant : Abstract → State → Prop)
    (accepts : ∀ {mark state action next},
      invariant mark state → condition state action →
        step state action = some next →
          ∃ changed, monitor mark state action = some changed ∧
            invariant changed next) :
    ∀ {actions : List Action} {mark : Abstract} {start final : State},
      invariant mark start →
        Meets step condition start actions →
          ((∃ changed, runFrom (monitored step monitor) (mark, start)
              actions = some (changed, final)) ↔
            runFrom step start actions = some final)
  | [], mark, start, final, _, _ => by
      constructor
      · rintro ⟨changed, run⟩
        cases run
        rfl
      · intro run
        cases run
        exact ⟨mark, rfl⟩
  | action :: rest, mark, start, final, holds, meets => by
      constructor
      · rintro ⟨changed, run⟩
        obtain ⟨⟨marked, next⟩, moved, later⟩ := runFrom_cons_eq_some run
        obtain ⟨accepted, taken⟩ := monitored_eq_some.mp moved
        obtain ⟨_, same, kept⟩ := accepts holds meets.1 taken
        rw [accepted] at same
        cases same
        rw [runFrom, taken]
        exact (monitored_run_iff invariant accepts kept
          (meets_cons_tail meets taken)).mp ⟨changed, later⟩
      · intro run
        obtain ⟨next, taken, later⟩ := runFrom_cons_eq_some run
        obtain ⟨marked, accepted, kept⟩ := accepts holds meets.1 taken
        have moved : monitored step monitor (mark, start) action =
            some (marked, next) :=
          monitored_eq_some.mpr ⟨accepted, taken⟩
        rw [runFrom, moved]
        exact (monitored_run_iff invariant accepts kept
          (meets_cons_tail meets taken)).mpr later

end Simulation

end AsyncFrame.Lib
