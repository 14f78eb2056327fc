import AsyncFrame.Lib.Runs
import AsyncFrame.TimerSettled

/-!
# Lazy cancellation refines eager removal

Runs of `TimerEvent` under the three things its users do: set a timer for a
pointer that is not active, cancel a pointer and refresh, and advance past the
current task.  Every run is matched by a run of the queue that removes a
cancelled timer at once.
-/

namespace AsyncFrame

open Lib

/-- A step of a user of `TimerEvent`; `now` is the reading of the steady clock
inside `set_timer`. -/
inductive TimerAction where
  | set (now : Int) (fd : Fd) (read : OpPtr) (delay : Int)
  | cancel (read : OpPtr)
  | advance
  deriving DecidableEq, Repr

namespace TimerAction

def label : TimerAction → QueueLabel OpPtr Int
  | .set now _ read delay => .set read (TimerEvent.toTimePoint now delay)
  | .cancel read => .cancel read
  | .advance => .advance

end TimerAction

namespace TimerEvent

variable {queues : TimerQueue}

/-- One step.  A pointer is set only while it is not active, and the computed
deadline is not the zero time point. -/
def userStep (timer : TimerEvent queues) :
    TimerAction → Option (TimerEvent queues)
  | .set now fd read delay =>
      if timer.activeTimerIds.lookup read = none ∧
          toTimePoint now delay ≠ 0 then
        some (timer.setTimer now { fd := fd, read := some read } delay)
      else
        none
  | .cancel read => some (timer.cancel read).refreshCurrentTimer
  | .advance => some timer.advance

variable {timer : TimerEvent queues} {deadlines : OpPtr → Option Int}

theorem mem_liveTasks {task : TimerTask} :
    task ∈ timer.liveTasks ↔
      task ∈ timer.tasks ∧ task.id ∉ timer.cancelledTimerIds := by
  simp [liveTasks]

/-- One step keeps the timer settled and is a step of the eager queue. -/
theorem settled_userStep {action : TimerAction}
    {next : TimerEvent queues} (settled : Settled timer deadlines)
    (taken : timer.userStep action = some next) :
    ∃ target, EagerStep deadlines action.label target ∧
      Settled next target := by
  cases action with
  | set now fd read delay =>
      simp only [userStep] at taken
      split at taken
      · rename_i allowed
        cases taken
        have inactive : deadlines read = none :=
          (settled.represents.inactive_iff
            settled.wellFormed.booked.ledger read).mp allowed.1
        exact ⟨_, EagerStep.set _ inactive,
          (setTimer_spec settled rfl allowed.2 inactive).1⟩
      · cases taken
  | cancel read =>
      cases taken
      exact ⟨_, EagerStep.cancel read, (cancelRefresh_spec settled read).1⟩
  | advance =>
      cases taken
      cases empty : timer.currentEmpty with
      | true =>
          exact ⟨deadlines,
            EagerStep.advanceIdle (settled.deadlines_of_empty empty),
            advance_of_idle settled empty⟩
      | false =>
          obtain ⟨read, named, present⟩ := settled.current_present empty
          exact ⟨_,
            EagerStep.advance present
              (fun _ _ later => settled.current_least empty later),
            (advance_spec settled.wellFormed settled.represents named).1⟩

/-- No two live tasks have the same pointer. -/
theorem WellFormed.live_reads_nodup (wellFormed : WellFormed timer) :
    (timer.liveTasks.map fun task => task.state.read).Nodup :=
  wellFormed.booked.ledger.handles_nodup
    fun task member => (wellFormed.booked.timed task member).2

/-- A tombstone belongs to a queued task. -/
theorem WellFormed.tombstone_queued (wellFormed : WellFormed timer)
    {id : Nat} (dead : id ∈ timer.cancelledTimerIds) :
    ∃ task ∈ queues.elems timer.waitingQueue, task.id = id := by
  obtain ⟨task, member, same⟩ := Multiset.mem_map.mp
    (wellFormed.booked.ledger.buriedPresent id dead)
  refine ⟨task, ?_, same⟩
  cases empty : timer.currentEmpty with
  | true =>
      rw [tasks_of_empty empty] at member
      exact member
  | false =>
      rw [tasks_of_nonempty empty] at member
      rcases Multiset.mem_cons.mp member with rfl | queued
      · have curStamp : timer.cur.id = id := same
        exact absurd (curStamp ▸ dead) (wellFormed.live empty)
      · exact queued

/-- The current task is empty exactly when nothing is live. -/
theorem Settled.empty_iff (settled : Settled timer deadlines) :
    timer.currentEmpty = true ↔ timer.liveTasks = 0 := by
  constructor
  · intro empty
    rw [liveTasks, tasks_of_empty empty,
      (settled.wellFormed.idle empty).2]
    rfl
  · intro nothing
    cases empty : timer.currentEmpty with
    | true => rfl
    | false =>
        have member : timer.cur ∈ timer.liveTasks :=
          mem_liveTasks.mpr
            ⟨by
              rw [tasks_of_nonempty empty]
              exact Multiset.mem_cons_self _ _,
            settled.wellFormed.live empty⟩
        rw [nothing] at member
        simp at member

/-- After any steps from the initial `TimerEvent`: the live tasks are those of
a run of the eager queue with the same steps; `cur` is empty exactly when
nothing is live, and else live and least; `active_timer_ids` maps exactly the
live pointers to their ids; ids and live pointers are distinct; and every
tombstone belongs to a queued task. -/
theorem lazyCancellation_refines_eagerRemoval
    {fd : Fd} {actions : List TimerAction}
    (run : runFrom userStep (initial queues fd) actions = some timer) :
    ∃ eager : OpPtr → Option Int,
      Path EagerStep (fun _ => none) (actions.map TimerAction.label) eager ∧
      (∀ read deadline, eager read = some deadline ↔
        ∃ task ∈ timer.liveTasks, task.state.read = some read ∧
          task.timePoint = deadline) ∧
      (timer.currentEmpty = true ↔ timer.liveTasks = 0) ∧
      (timer.currentEmpty = false →
        timer.cur ∈ timer.liveTasks ∧
          ∀ task ∈ timer.liveTasks,
            timer.cur.timePoint ≤ task.timePoint) ∧
      (∀ read id, timer.activeTimerIds.lookup read = some id ↔
        ∃ task ∈ timer.liveTasks, task.state.read = some read ∧
          task.id = id) ∧
      (timer.tasks.map TimerTask.id).Nodup ∧
      (timer.liveTasks.map fun task => task.state.read).Nodup ∧
      ∀ id ∈ timer.cancelledTimerIds,
        ∃ task ∈ queues.elems timer.waitingQueue, task.id = id := by
  obtain ⟨eager, path, settled⟩ :=
    simulation_of_run Settled EagerStep TimerAction.label
      (fun settled taken => settled_userStep settled taken)
      (settled_initial fd) run
  have wellFormed := settled.wellFormed
  refine ⟨eager, path, ?_, settled.empty_iff, ?_, ?_,
    wellFormed.booked.ledger.stampsNodup, wellFormed.live_reads_nodup,
    fun id dead => wellFormed.tombstone_queued dead⟩
  · intro read deadline
    rw [settled.represents read deadline]
    constructor
    · rintro ⟨task, member, live, rest⟩
      exact ⟨task, mem_liveTasks.mpr ⟨member, live⟩, rest⟩
    · rintro ⟨task, member, rest⟩
      have parts := mem_liveTasks.mp member
      exact ⟨task, parts.1, parts.2, rest⟩
  · intro nonempty
    refine ⟨mem_liveTasks.mpr ⟨?_, wellFormed.live nonempty⟩, ?_⟩
    · rw [tasks_of_nonempty nonempty]
      exact Multiset.mem_cons_self _ _
    · intro task member
      obtain ⟨scheduled, live⟩ := mem_liveTasks.mp member
      obtain ⟨read, named⟩ := (wellFormed.booked.timed task scheduled).2
      exact settled.current_least nonempty
        ((settled.represents read _).mpr
          ⟨task, scheduled, live, named, rfl⟩)
  · intro read id
    rw [wellFormed.booked.ledger.activeExact read id]
    constructor
    · rintro ⟨task, member, live, rest⟩
      exact ⟨task, mem_liveTasks.mpr ⟨member, live⟩, rest⟩
    · rintro ⟨task, member, rest⟩
      have parts := mem_liveTasks.mp member
      exact ⟨task, parts.1, parts.2, rest⟩

/-- A pointer is cancelled while it is current, with another task of the same
deadline queued, and set again: its new task is the current one. -/
theorem lazyCancellation_refines_eagerRemoval_sample :
    ∃ timer : TimerEvent TimerQueue.sorted,
      runFrom userStep (initial TimerQueue.sorted 3)
        [.set 100 3 ⟨10, .timer⟩ 50, .set 100 3 ⟨20, .timer⟩ 50,
          .cancel ⟨10, .timer⟩, .set 110 3 ⟨10, .timer⟩ 20] = some timer ∧
      timer.cur.state.read = some ⟨10, .timer⟩ ∧
      timer.cur ∈ timer.liveTasks ∧
      ∀ task ∈ timer.liveTasks, timer.cur.timePoint ≤ task.timePoint := by
  have ends : (runFrom userStep (initial TimerQueue.sorted 3)
      [.set 100 3 ⟨10, .timer⟩ 50, .set 100 3 ⟨20, .timer⟩ 50,
        .cancel ⟨10, .timer⟩, .set 110 3 ⟨10, .timer⟩ 20]).any
          (fun timer => timer.currentEmpty = false ∧
            timer.cur.state.read = some ⟨10, .timer⟩) = true := by
    decide +kernel
  obtain ⟨timer, run, passed⟩ := (Option.any_eq_true _ _).mp ends
  obtain ⟨nonempty, named⟩ := of_decide_eq_true passed
  obtain ⟨_, _, _, _, current, _⟩ := lazyCancellation_refines_eagerRemoval run
  exact ⟨timer, run, named, current nonempty⟩

end TimerEvent

end AsyncFrame
