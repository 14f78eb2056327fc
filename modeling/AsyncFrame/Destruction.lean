import AsyncFrame.Ledger

/-!
# Destroying a Task

`Task::~Task` destroys the frame and tells nobody.  As long as no operation is
suspended inside a destroyed frame, no pointer that the loop can follow
dangles; a single destruction that misses this leaves one, provided that every
suspended operation was registered.
-/

namespace AsyncFrame

open Lib

namespace System

variable {queues : TimerQueue} {s next : System queues}
variable {timerFd : Fd} {uptime : Nat} {buffers : BufferRef → Buffer}
variable {actions : List Action}

/-- Every pointer in the table, in the current task, in the live queue
entries, and the one fetched for the event being dispatched, points into the
frame of a suspended operation. -/
structure NothingDangles (s : System queues) : Prop where
  table : ∀ fd direction pointer,
    s.rt.scheduler.registry fd direction = some pointer →
      (s.pending pointer.frame).isSome = true
  timers : ∀ task ∈ s.rt.timer.liveTasks, ∀ pointer,
    task.state.read = some pointer → (s.pending pointer.frame).isSome = true
  fetched : ∀ writeOp evs fetched, s.control = .half writeOp evs fetched →
    (s.pending writeOp.frame).isSome = true

private theorem Good.nothingDangles (good : Good s) : NothingDangles s where
  table fd direction pointer found := by
    obtain ⟨op, waits, _⟩ := good.sound.waits_of_registered found
    rw [waits]
    rfl
  timers task live pointer named := by
    obtain ⟨scheduled, alive⟩ := Multiset.mem_filter.mp live
    have present :=
      (good.sound.inOrder.settled.represents pointer task.timePoint).mpr
        ⟨task, scheduled, alive, named, rfl⟩
    obtain ⟨_, op, waits, _⟩ := deadlines_eq_some present
    rw [waits]
    rfl
  fetched writeOp evs fetched half := by
    obtain ⟨op, _, waits, _⟩ := good.fetched writeOp evs fetched half
    rw [waits]
    rfl

/-! ## Returning from running -/

/-- `running` goes on from here to its return, with no more batches. -/
def RunsOut (s : System queues) : Prop :=
  ∃ more final,
    (∀ action ∈ more, action = .dispatch {} ∨ action = .batchEnd ∨
      action = .exit) ∧
    runFrom step s more = some final ∧ final.control = .outside

private theorem RunsOut.after {action : Action}
    (plain : action = .dispatch {} ∨ action = .batchEnd ∨ action = .exit)
    (taken : s.step action = some next) (rest : RunsOut next) :
    RunsOut s := by
  obtain ⟨more, final, later, run, outside⟩ := rest
  refine ⟨action :: more, final, ?_, ?_, outside⟩
  · intro other member
    rcases List.mem_cons.mp member with rfl | member
    · exact plain
    · exact later other member
  · simp only [runFrom, taken, run]

private theorem runsOut_of_head (healthy : s.rt.fault = none)
    (idle : s.stack = [])
    (empty : s.rt.scheduler.fdToOp = ∅) (head : s.control = .head) :
    RunsOut s := by
  have taken : s.step .exit = some (s.perform .exit) := by
    refine if_pos ⟨healthy, ?_⟩
    simp only [enabled, System.idle, idle, head, empty, decide_true,
      Bool.and_self]
  exact RunsOut.after (Or.inr (Or.inr rfl)) taken
    ⟨[], _, fun _ member => absurd member List.not_mem_nil, rfl, rfl⟩

/-- With an empty table the rest of a batch completes nothing. -/
theorem runsOut_of_batch (evs : List EpollEvent) :
    ∀ {s : System queues} {fetched : Nat}, s.rt.fault = none →
      s.stack = [] → s.rt.scheduler.fdToOp = ∅ →
      s.control = .batch evs fetched → RunsOut s := by
  induction evs with
  | nil =>
      intro s fetched healthy idle empty batch
      have taken : s.step .batchEnd = some (s.perform .batchEnd) := by
        refine if_pos ⟨healthy, ?_⟩
        simp only [enabled, System.idle, idle, batch, decide_true,
          Bool.and_self]
      exact RunsOut.after (Or.inr (Or.inl rfl)) taken
        (runsOut_of_head healthy idle empty rfl)
  | cons event evs inductionRest =>
      intro s fetched healthy idle empty batch
      have unused : ∀ direction,
          s.rt.scheduler.registry event.fd direction = none := by
        intro direction
        simp [Scheduler.registry, empty]
      obtain ⟨control, left, performed⟩ := dispatch_cases {} batch
      have asleep : s.completes (.dispatch {}) = none := by
        simp only [completes, batch, unused, ite_self]
      simp only [asleep] at performed
      have batched : control = .batch evs fetched := by
        rcases left with same | ⟨writeOp, _, registered⟩
        · exact same
        · rw [unused] at registered
          cases registered
      have taken : s.step (.dispatch {}) =
          some (s.withMarks control (s.marks (.dispatch {}))) := by
        rw [← performed]
        refine if_pos ⟨healthy, ?_⟩
        simp only [enabled, System.idle, idle, batch, decide_true,
          Bool.and_self]
      exact RunsOut.after (Or.inl rfl) taken
        (inductionRest healthy idle empty batched)

/-- Once nothing is suspended `running` returns, with no more batches. -/
theorem Good.running_returns (good : Good s)
    (quiet : ∀ frame, s.pending frame = none) (idle : s.stack = [])
    (inside : s.control ≠ .outside) : RunsOut s := by
  have healthy := good.sound.healthy
  have empty : s.rt.scheduler.fdToOp = ∅ := by
    refine (Scheduler.fdToOp_eq_empty_iff good.sound.inOrder.agrees).mpr ?_
    intro fd direction
    cases found : s.rt.scheduler.registry fd direction with
    | none => rfl
    | some pointer =>
        obtain ⟨op, waits, _⟩ := good.sound.waits_of_registered found
        rw [quiet] at waits
        cases waits
  cases control : s.control with
  | outside => exact absurd control inside
  | head =>
      exact runsOut_of_head healthy idle empty control
  | batch evs fetched =>
      exact runsOut_of_batch evs healthy idle empty control
  | half writeOp evs fetched =>
      obtain ⟨op, _, waits, _⟩ := good.fetched writeOp evs fetched control
      rw [quiet] at waits
      cases waits

/-! ## Destroying a frame -/

private theorem pending_of_destroy {frame other : Addr}
    (inside : other ∈ s.owned frame) :
    (s.perform (.destroy frame)).pending other = none := by
  simp only [pending, perform, pendingIn, lookup_erase_frames, inside,
    if_true]
  rfl

/-- A suspended operation that is destroyed leaves a pointer behind. -/
theorem dangles_of_destroy (good : Good s) (filed : Filed .socket s)
    {frame : Addr} (drops : s.keepsPending (.destroy frame) = false) :
    ¬NothingDangles (s.perform (.destroy frame)) := by
  intro safe
  obtain ⟨gone, inside, waiting⟩ : ∃ gone ∈ s.owned frame,
      ¬s.pending gone = none := by
    simpa [keepsPending] using drops
  obtain ⟨op, waits⟩ := Option.ne_none_iff_exists'.mp waiting
  have dropped := pending_of_destroy inside
  cases socket : op.operation.socket? with
  | some key =>
      have registered := filed gone op key.1 key.2 waits socket
      have left := safe.table key.1 key.2 _ registered
      rw [dropped] at left
      cases left
  | none =>
      obtain ⟨now, _, dated, _⟩ := good.sound.dated gone op waits
      obtain ⟨delay, operation⟩ :=
        Operation.waitFor_of_no_socket socket
      have present : deadlines s.pending ⟨gone, .timer⟩ =
          some (TimerEvent.toTimePoint now delay) := by
        rw [deadlines_timer, waits, Option.bind_some, dated, operation]
        rfl
      obtain ⟨task, scheduled, alive, named, _⟩ :=
        (good.sound.inOrder.settled.represents _ _).mp present
      have left := safe.timers task
        (Multiset.mem_filter.mpr ⟨scheduled, alive⟩) _ named
      rw [dropped] at left
      cases left

/-- In every run in which a `Task` is destroyed only while no operation is
suspended inside it, no pointer dangles in any state, nothing has gone wrong,
and `running` returns once nothing is suspended.  The first destruction that
misses the condition leaves a dangling pointer, when every operation was
registered. -/
theorem destruction_safe_iff
    (reached : Reaches KeepsPending timerFd uptime buffers actions s) :
    NothingDangles s ∧ s.rt.fault = none ∧
    ((∀ frame, s.pending frame = none) → s.stack = [] →
      s.control ≠ .outside → RunsOut s) ∧
    ∀ frame next, Filed .socket s → s.step (.destroy frame) = some next →
      (NothingDangles next ↔ KeepsPending s (.destroy frame)) := by
  have good := reached.good fun _ _ keeps => keeps
  refine ⟨good.nothingDangles, good.sound.healthy, good.running_returns, ?_⟩
  intro frame next filed taken
  constructor
  · intro safe
    by_contra drops
    obtain ⟨_, rfl⟩ := step_eq_some taken
    exact dangles_of_destroy good filed (Bool.eq_false_of_not_eq_true drops)
      safe
  · intro keeps
    exact (step_move good keeps taken).2.nothingDangles

theorem destruction_safe_iff_sample :
    ∃ s : System TimerQueue.sorted,
      Reaches KeepsPending 3 100 (fun _ => ⟨[0, 0], 0⟩)
        [.openFd 5 .socket, .spawn 1, .spawn 2,
          .await 10 (.asyncRead ⟨5, 0, none⟩) {}, .finish, .destroy 1, .run,
          .epollWait [⟨EPOLLIN, 5⟩], .dispatch {}, .finish] s ∧
      NothingDangles s ∧ RunsOut s := by
  refine (exists_reaches (fun s => s.stack = [] ∧ s.control ≠ .outside ∧
    s.anyPending (fun _ => true) = false) ?_ ?_).imp
      fun s ⟨reached, passed⟩ => ⟨reached, ?_⟩
  · decide +kernel
  · decide +kernel
  · obtain ⟨idle, inside, quiet⟩ := of_decide_eq_true passed
    obtain ⟨safe, _, returns, _⟩ := destruction_safe_iff reached
    have none_pending : ∀ frame, s.pending frame = none := by
      intro frame
      cases waits : s.pending frame with
      | none => rfl
      | some op => cases anyPending_eq_false quiet waits
    exact ⟨safe, returns none_pending idle inside⟩

/-- A `Task` destroyed between two dispatches, while its read is suspended:
the table still has the read, and its next event completes it. -/
theorem destruction_counterexample :
    ∃ s next : System TimerQueue.sorted,
      runFrom step (initial _ 3 100 (fun _ => ⟨[0, 0], 0⟩))
        [.openFd 5 .socket, .spawn 1,
          .await 10 (.asyncRead ⟨5, 0, none⟩) {}, .destroy 1, .run,
          .epollWait [⟨EPOLLIN, 5⟩]] = some s ∧
      s.rt.scheduler.registry 5 .read = some ⟨10, .socket⟩ ∧
      s.pending 10 = none ∧ s.step (.dispatch {}) = some next ∧
      next.rt.fault = some .danglingPointer := by
  have computed : (runFrom step
      (initial TimerQueue.sorted 3 100 (fun _ => ⟨[0, 0], 0⟩))
      [.openFd 5 .socket, .spawn 1,
        .await 10 (.asyncRead ⟨5, 0, none⟩) {}, .destroy 1, .run,
        .epollWait [⟨EPOLLIN, 5⟩]]).any (fun s =>
      s.rt.scheduler.registry 5 .read = some ⟨10, .socket⟩ ∧
        s.pending 10 = none ∧ (s.step (.dispatch {})).any fun next =>
          next.rt.fault = some .danglingPointer) = true := by
    decide +kernel
  obtain ⟨s, run, passed⟩ := (Option.any_eq_true _ _).mp computed
  obtain ⟨registered, dropped, completes⟩ := of_decide_eq_true passed
  obtain ⟨next, taken, fault⟩ := (Option.any_eq_true _ _).mp completes
  exact ⟨s, next, run, registered, dropped, taken, of_decide_eq_true fault⟩

end System

end AsyncFrame
