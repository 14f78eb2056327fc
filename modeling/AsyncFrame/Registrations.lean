import AsyncFrame.Moves

/-!
# Registrations over whole runs

What the table, the timer and the fetched pointers of the dispatch loop refer
to, in every state of every run in which no `Task` is destroyed while an
operation is suspended inside its frame.
-/

namespace AsyncFrame

open Lib

namespace System

variable {queues : TimerQueue} {s : System queues}
variable {timerFd : Fd} {uptime : Nat} {buffers : BufferRef → Buffer}
variable {actions : List Action}

/-- The actions lead from `s` to `final`, and each one meets the condition. -/
def Leads (condition : System queues → Action → Prop) (s : System queues)
    (actions : List Action) (final : System queues) : Prop :=
  Meets step condition s actions ∧ runFrom step s actions = some final

/-- The program gets to `s`, and every action on the way meets the
condition. -/
def Reaches (condition : System queues → Action → Prop) (timerFd : Fd)
    (uptime : Nat) (buffers : BufferRef → Buffer) (actions : List Action)
    (s : System queues) : Prop :=
  Leads condition (initial queues timerFd uptime buffers) actions s

theorem Reaches.good {condition : System queues → Action → Prop}
    (reached : Reaches condition timerFd uptime buffers actions s)
    (keeps : ∀ s action, condition s action → KeepsPending s action) :
    Good s :=
  good_of_run (reached.1.mono keeps) reached.2

/-- A run that can be computed, with a test of the state it gets to. -/
theorem exists_reaches {condition : System queues → Action → Prop}
    (test : System queues → Bool)
    (meets :
      Meets step condition (initial queues timerFd uptime buffers) actions)
    (passes : (runFrom step (initial queues timerFd uptime buffers)
      actions).any test = true) :
    ∃ s, Reaches condition timerFd uptime buffers actions s ∧
      test s = true := by
  obtain ⟨s, run, passed⟩ := (Option.any_eq_true _ _).mp passes
  exact ⟨s, ⟨meets, run⟩, passed⟩

/-! ## The timerfd's entry -/

/-- The current task belongs to a suspended operation of least deadline. -/
theorem Good.current (good : Good s)
    (nonempty : s.rt.timer.currentEmpty = false) :
    ∃ frame op, s.rt.timer.cur.state.read = some ⟨frame, .timer⟩ ∧
      s.pending frame = some op ∧
      op.deadline = some s.rt.timer.cur.timePoint ∧
      ∀ other later deadline, s.pending other = some later →
        later.deadline = some deadline →
          s.rt.timer.cur.timePoint ≤ deadline := by
  have settled := good.sound.inOrder.settled
  obtain ⟨⟨frame, member⟩, named, present⟩ := settled.current_present nonempty
  obtain ⟨timer, op, waits, set⟩ := deadlines_eq_some present
  cases timer
  refine ⟨frame, op, named, waits, set, ?_⟩
  intro other later deadline otherWaits otherSet
  have queued : deadlines s.pending ⟨other, .timer⟩ = some deadline := by
    rw [deadlines_timer, otherWaits]
    exact otherSet
  exact settled.current_least nonempty queued

/-- A timed operation is suspended exactly while there is a current task. -/
theorem Good.timed_iff (good : Good s) :
    s.rt.timer.currentEmpty = false ↔
      ∃ frame op, s.pending frame = some op ∧ op.operation.delay?.isSome := by
  constructor
  · intro nonempty
    obtain ⟨frame, op, _, waits, set, _⟩ := good.current nonempty
    obtain ⟨now, _, dated, _⟩ := good.sound.dated frame op waits
    refine ⟨frame, op, waits, ?_⟩
    rw [set, Operation.deadlineAt] at dated
    obtain ⟨delay, here, _⟩ := Option.map_eq_some_iff.mp dated.symm
    rw [here]
    rfl
  · rintro ⟨frame, op, waits, timed⟩
    obtain ⟨now, _, dated, _⟩ := good.sound.dated frame op waits
    obtain ⟨delay, here⟩ := Option.isSome_iff_exists.mp timed
    cases empty : s.rt.timer.currentEmpty with
    | false => rfl
    | true =>
        have gone := good.sound.inOrder.settled.deadlines_of_empty empty
          ⟨frame, .timer⟩
        rw [deadlines_timer, waits, Option.bind_some, dated,
          Operation.deadlineAt, here] at gone
        cases gone

/-- The timerfd has an entry exactly while its slot is filled, with the
current task's pointer. -/
theorem Good.timer_entry (good : Good s) :
    (s.rt.scheduler.fdToOp.lookup s.rt.timer.fd).isSome = true ↔
      s.rt.timer.currentEmpty = false := by
  have inOrder := good.sound.inOrder
  constructor
  · intro entry
    obtain ⟨state, found⟩ := Option.isSome_iff_exists.mp entry
    have sound := inOrder.agrees.sound _ state found
    have reads := (Scheduler.registry_of_lookup found .read).symm.trans
      inOrder.slot
    rcases sound.used with read | write
    · obtain ⟨pointer, here⟩ := Option.isSome_iff_exists.mp read
      have named : s.rt.timer.cur.state.read = some pointer :=
        reads.symm.trans here
      exact inOrder.settled.wellFormed.nonempty_of_read named
    · rw [sound.timerReads rfl] at write
      cases write
  · intro nonempty
    obtain ⟨frame, op, named, _⟩ := good.current nonempty
    have slot := inOrder.slot.trans named
    cases found : s.rt.scheduler.fdToOp.lookup s.rt.timer.fd with
    | some state => rfl
    | none =>
        simp [Scheduler.registry, found] at slot

/-- In every reachable state the timerfd has an entry exactly while a timed
operation is suspended.  The entry's read slot is the current task's pointer;
it belongs to a suspended operation whose deadline is least, the timerfd is
set to exactly that deadline, and the current task has no tombstone.  An event
of the timerfd therefore resumes an operation of least deadline. -/
theorem timerRegistration_agreement
    (reached : Reaches KeepsPending timerFd uptime buffers actions s) :
    ((s.rt.scheduler.fdToOp.lookup s.rt.timer.fd).isSome = true ↔
      ∃ frame op, s.pending frame = some op ∧
        op.operation.delay?.isSome = true) ∧
    (∀ state, s.rt.scheduler.fdToOp.lookup s.rt.timer.fd = some state →
      state.read = s.rt.timer.cur.state.read ∧
      s.rt.timer.cur.id ∉ s.rt.timer.cancelledTimerIds ∧
      ∃ frame op deadline, state.read = some ⟨frame, .timer⟩ ∧
        s.pending frame = some op ∧ op.deadline = some deadline ∧
        s.rt.timer.timerFd.setting = some deadline ∧
        ∀ other later set, s.pending other = some later →
          later.deadline = some set → deadline ≤ set) ∧
    ∀ event op, s.timerWakes event = some op →
      ∃ deadline, op.deadline = some deadline ∧
        ∀ other later set, s.pending other = some later →
          later.deadline = some set → deadline ≤ set := by
  have good := reached.good fun _ _ keeps => keeps
  have inOrder := good.sound.inOrder
  refine ⟨good.timer_entry.trans good.timed_iff, ?_, ?_⟩
  · intro state found
    have nonempty := good.timer_entry.mp (by rw [found]; rfl)
    obtain ⟨frame, op, named, waits, set, least⟩ := good.current nonempty
    have reads : state.read = s.rt.timer.cur.state.read :=
      (Scheduler.registry_of_lookup found .read).symm.trans inOrder.slot
    exact ⟨reads, inOrder.settled.wellFormed.live nonempty, frame, op, _,
      reads.trans named, waits, set,
      inOrder.settled.setting_of_current named, least⟩
  · intro event op wakes
    unfold timerWakes at wakes
    split at wakes
    · rename_i timer
      obtain ⟨pointer, found, waits⟩ := Option.bind_eq_some_iff.mp wakes
      rw [timer.1, inOrder.slot] at found
      obtain ⟨frame, other, named, otherWaits, set, least⟩ :=
        good.current (inOrder.settled.wellFormed.nonempty_of_read found)
      rw [found] at named
      cases named
      rw [waits] at otherWaits
      cases otherWaits
      exact ⟨_, set, least⟩
    · cases wakes

theorem timerRegistration_agreement_sample :
    ∃ s : System TimerQueue.sorted,
      Reaches KeepsPending 3 100 (fun _ => ⟨[0, 0], 0⟩)
        [.openFd 5 .socket, .spawn 1, .await 10 (.waitFor 80) {}, .spawn 2,
          .await 20 (.asyncReadTimeout ⟨5, 0, none⟩ 50) {}] s ∧
      ∃ frame op deadline, s.pending frame = some op ∧
        op.deadline = some deadline ∧
        s.rt.timer.timerFd.setting = some deadline := by
  refine (exists_reaches (fun s =>
    (s.rt.scheduler.fdToOp.lookup s.rt.timer.fd).isSome) ?_ ?_).imp
      fun s ⟨reached, entry⟩ => ⟨reached, ?_⟩
  · decide +kernel
  · decide +kernel
  · obtain ⟨state, found⟩ := Option.isSome_iff_exists.mp entry
    obtain ⟨_, registered, _⟩ := timerRegistration_agreement reached
    obtain ⟨_, _, frame, op, deadline, _, waits, set, armed, _⟩ :=
      registered state found
    exact ⟨frame, op, deadline, waits, set, armed⟩

/-! ## No stale registration -/

private theorem Move.retires {next : System queues} {action : Action}
    (move : Move action s next) :
    s.rt.timer.Retires next.rt.timer := by
  cases move with
  | calm _ _ _ _ timer =>
      rw [timer]
      exact TimerEvent.Retires.refl _
  | suspends _ _ _ _ _ _ _ _ _ leaves => exact leaves.retires
  | passes _ _ _ _ _ _ _ _ _ _ leaves =>
      rcases leaves with ⟨_, same⟩ | ⟨_, _, leaves⟩
      · rw [same]
        exact TimerEvent.Retires.refl _
      · exact leaves.retires
  | ends _ _ _ _ _ _ leaves => exact leaves.retires
  | rounds _ _ _ _ _ _ _ _ _ _ _ left leaves =>
      exact left.retires.trans leaves.retires

/-- Ids stay retired over the rest of a run. -/
theorem Good.retires_of_run (good : Good s) {final : System queues}
    (leads : Leads KeepsPending s actions final) :
    Good final ∧ s.rt.timer.Retires final.rt.timer :=
  invariant_of_run
    (fun state => Good state ∧ s.rt.timer.Retires state.rt.timer)
    (fun holds kept taken =>
      have stepped := step_move holds.1 kept taken
      ⟨stepped.2, holds.2.trans stepped.1.retires⟩)
    ⟨good, TimerEvent.Retires.refl _⟩ leads.1 leads.2

/-- A current task is active under its id, and the empty one has id zero. -/
theorem Good.cur_id (good : Good s) :
    s.rt.timer.cur.id = 0 ∨ ∃ read,
      s.rt.timer.activeTimerIds.lookup read = some s.rt.timer.cur.id := by
  have settled := good.sound.inOrder.settled
  cases empty : s.rt.timer.currentEmpty with
  | true =>
      left
      rw [(settled.wellFormed.idle empty).1]
  | false =>
      right
      obtain ⟨read, named, _⟩ := settled.current_present empty
      exact ⟨read, settled.wellFormed.active_cur empty named⟩

/-- A tombstoned task never becomes the current one. -/
theorem Good.buried_never_current (good : Good s) {task : TimerTask}
    (queued : task ∈ queues.elems s.rt.timer.waitingQueue)
    (dead : task.id ∈ s.rt.timer.cancelledTimerIds) {final : System queues}
    (leads : Leads KeepsPending s actions final) :
    final.rt.timer.cur.id ≠ task.id := by
  have wellFormed := good.sound.inOrder.settled.wellFormed
  have scheduled : task ∈ s.rt.timer.tasks := by
    unfold TimerEvent.tasks
    split
    · exact queued
    · exact Multiset.mem_cons_of_mem queued
  obtain ⟨positive, below⟩ :=
    wellFormed.booked.ledger.stampsRange task scheduled
  obtain ⟨finalGood, _, retires⟩ := good.retires_of_run leads
  intro same
  rcases finalGood.cur_id with zero | ⟨read, active⟩
  · have stamp : 0 < task.id := positive
    omega
  · rw [same] at active
    rcases retires read task.id active with older | fresh
    · exact wellFormed.booked.stale_of_buried dead read older
    · have stamp : task.id < s.rt.timer.nextTimerId := below
      omega

/-- In every reachable state each registered pointer, the current task's
pointer and each active pointer is a member of an operation that is suspended
and waits with it.  A queued task that is not such an operation's own timer is
tombstoned and never becomes the current one. -/
theorem noStaleRegistration
    (reached : Reaches KeepsPending timerFd uptime buffers actions s) :
    (∀ fd state direction pointer,
      s.rt.scheduler.fdToOp.lookup fd = some state →
      state.pointer direction = some pointer →
      ∃ op, s.pending pointer.frame = some op ∧
        (op.Holds pointer.member fd direction ∨
          pointer.member = .timer ∧ fd = s.rt.timer.fd ∧
            op.deadline = some s.rt.timer.cur.timePoint)) ∧
    (∀ pointer, s.rt.timer.cur.state.read = some pointer →
      ∃ op, s.pending pointer.frame = some op ∧
        op.deadline = some s.rt.timer.cur.timePoint) ∧
    (∀ pointer id, s.rt.timer.activeTimerIds.lookup pointer = some id →
      pointer.member = .timer ∧
        ∃ op, s.pending pointer.frame = some op ∧
          op.operation.delay?.isSome = true) ∧
    ∀ task ∈ queues.elems s.rt.timer.waitingQueue,
      (∃ pointer op, task.state.read = some pointer ∧
        s.rt.timer.activeTimerIds.lookup pointer = some task.id ∧
        s.pending pointer.frame = some op ∧
        op.deadline = some task.timePoint) ∨
      task.id ∈ s.rt.timer.cancelledTimerIds ∧
        ∀ more final, Leads KeepsPending s more final →
          final.rt.timer.cur.id ≠ task.id := by
  have good := reached.good fun _ _ keeps => keeps
  have inOrder := good.sound.inOrder
  have current : ∀ pointer, s.rt.timer.cur.state.read = some pointer →
      pointer.member = .timer ∧ ∃ op, s.pending pointer.frame = some op ∧
        op.deadline = some s.rt.timer.cur.timePoint := by
    intro pointer named
    obtain ⟨frame, op, same, waits, set, _⟩ :=
      good.current (inOrder.settled.wellFormed.nonempty_of_read named)
    rw [named] at same
    cases same
    exact ⟨rfl, op, waits, set⟩
  refine ⟨?_, fun pointer named => (current pointer named).2, ?_, ?_⟩
  · intro fd state direction pointer found here
    have registered :=
      (Scheduler.registry_of_lookup found direction).trans here
    rcases good.sound.held fd direction pointer registered with
      ⟨rfl, rfl⟩ | ⟨op, waits, holds⟩
    · obtain ⟨timer, op, waits, set⟩ :=
        current pointer (inOrder.slot.symm.trans registered)
      exact ⟨op, waits, Or.inr ⟨timer, rfl, set⟩⟩
    · exact ⟨op, waits, Or.inl holds⟩
  · intro pointer id active
    cases present : deadlines s.pending pointer with
    | none =>
        have inactive := (inOrder.settled.represents.inactive_iff
          inOrder.settled.wellFormed.booked.ledger pointer).mpr present
        rw [active] at inactive
        cases inactive
    | some deadline =>
        obtain ⟨timer, op, waits, set⟩ := deadlines_eq_some present
        obtain ⟨now, _, dated, _⟩ := good.sound.dated _ op waits
        rw [set, Operation.deadlineAt] at dated
        obtain ⟨delay, here, _⟩ := Option.map_eq_some_iff.mp dated.symm
        exact ⟨timer, op, waits, by rw [here]; rfl⟩
  · intro task queued
    by_cases dead : task.id ∈ s.rt.timer.cancelledTimerIds
    · exact Or.inr ⟨dead, fun more final leads =>
        good.buried_never_current queued dead leads⟩
    · left
      have scheduled : task ∈ s.rt.timer.tasks := by
        unfold TimerEvent.tasks
        split
        · exact queued
        · exact Multiset.mem_cons_of_mem queued
      have booked := inOrder.settled.wellFormed.booked
      obtain ⟨pointer, named⟩ := (booked.timed task scheduled).2
      have present :=
        (inOrder.settled.represents pointer task.timePoint).mpr
          ⟨task, scheduled, dead, named, rfl⟩
      obtain ⟨_, op, waits, set⟩ := deadlines_eq_some present
      exact ⟨pointer, op, named,
        booked.ledger.active_of_live scheduled dead named, waits, set⟩

theorem noStaleRegistration_sample :
    ∃ s : System TimerQueue.sorted,
      Reaches KeepsPending 3 100 (fun _ => ⟨[0, 0], 0⟩)
        [.openFd 5 .socket, .openFd 6 (.eventFd false 0), .spawn 1,
          .await 10 (.asyncReadTimeout ⟨5, 0, some 6⟩ 50) {}, .run,
          .epollWait [⟨EPOLLIN, 5⟩], .dispatch { recv := .received [7] }]
        s ∧
      ∃ op, s.pending 10 = some op ∧ op.Holds .cancel 6 .read := by
  refine (exists_reaches (fun s => (s.rt.scheduler.fdToOp.lookup 6).any
    fun state => state.read = some ⟨10, .cancel⟩) ?_ ?_).imp
      fun s ⟨reached, entry⟩ => ⟨reached, ?_⟩
  · decide +kernel
  · decide +kernel
  · obtain ⟨state, found, named⟩ := (Option.any_eq_true _ _).mp entry
    obtain ⟨registered, _⟩ := noStaleRegistration reached
    obtain ⟨op, waits, holds | ⟨timer, _⟩⟩ :=
      registered 6 state .read ⟨10, .cancel⟩ found (of_decide_eq_true named)
    · exact ⟨op, waits, holds⟩
    · cases timer

end System

end AsyncFrame
