import AsyncFrame.Connections
import AsyncFrame.CountedStretches

/-!
# Programs in 64 bits

A whole program over the 64-bit `TimerEvent`.  The functions are those of the
program over unbounded time points, with the awaiters exchanged; the exception
leaves `set_timer`, which is `noexcept`, and ends the process.  What may be
started is as there: nothing with a deadline that is not positive.
-/

namespace AsyncFrame

open Lib

variable {queues : TimerQueue}

namespace Counted.Program

/-- `read_op::complete` and `write_op::complete`. -/
def complete (s : System queues) (pointer : OpPtr) (io : Io) :
    Except RuntimeError (System queues) :=
  match s.pending pointer.frame with
  | none =>
      return { s with rt := { s.rt with fault := some .danglingPointer } }
  | some op => do
      let stretch ← wake pointer.frame io op.total s.rt op.operation
      let s : System queues := { s with rt := stretch.rt }
      return if stretch.rt.fault.isSome then s
        else
          match stretch.returned with
          | some result => s.resumeOuter pointer.frame op result
          | none =>
              let op :=
                { op with
                  total := stretch.total
                  deadline := op.operation.deadlineAt stretch.rt.clock }
              { s with frames := s.frames.insert pointer.frame (.op op) }

/-- `co_await` of an operation by the running coroutine. -/
def await (s : System queues) (frame : Addr) (operation : Operation)
    (io : Io) : Except RuntimeError (System queues) := do
  let number := s.nextNumber
  let stretch ← start frame io s.rt operation
  let s : System queues := { s with rt := stretch.rt }
  return match stretch.returned, s.stack with
    | none, caller :: below =>
        let op : OpFrame :=
          { operation := operation
            outer := caller
            total := stretch.total
            number := number
            deadline := operation.deadlineAt stretch.rt.clock }
        { s with
          frames := (s.frames.insert frame (.op op)).insert caller
            (.user (some frame))
          stack := below
          nextNumber := number + 1
          trace := .started number operation :: s.trace }
    | some result, _ =>
        { s with
          nextNumber := number + 1
          trace := .wentOn number result :: .finished number result ::
            .started number operation :: s.trace }
    | none, [] => s

/-- `co_await with_timeout(op, delay)` by the running coroutine. -/
def awaitWithTimeout (s : System queues) (impl frame : Addr)
    (wrapped : Operation) (delay : Int) (io : Io) :
    Except RuntimeError (System queues) :=
  match wrapped.withTimeout delay, s.stack with
  | some operation, caller :: below => do
      let number := s.nextNumber
      let stretch ← start frame io s.rt operation
      let s : System queues :=
        { s with
          rt := stretch.rt
          stack := below
          nextNumber := number + 2
          trace := .started (number + 1) operation ::
            .startedWithTimeout number wrapped delay :: s.trace }
      return match stretch.returned with
        | none =>
            let op : OpFrame :=
              { operation := operation
                outer := impl
                total := stretch.total
                number := number + 1
                deadline := operation.deadlineAt stretch.rt.clock }
            { s with
              frames :=
                ((s.frames.insert frame (.op op)).insert impl
                  (.withTimeoutImpl number (some frame) none)).insert caller
                    (.user (some impl)) }
        | some result =>
            { s with
              frames :=
                (s.frames.insert impl
                  (.withTimeoutImpl number none (some result))).insert caller
                    (.user (some impl))
              trace := .wentOn (number + 1) result ::
                .finished (number + 1) result :: s.trace }
  | _, _ => return s

/-- The body of the `for` loop of `running`, up to its write half. -/
def dispatchEvent (s : System queues) (event : EpollEvent)
    (evs : List EpollEvent) (fetched : Nat) (io : Io) :
    Except RuntimeError (System queues) :=
  let s := s.record event
  match s.rt.scheduler.fdToOp.lookup event.fd with
  | none => return { s with control := .batch evs fetched }
  | some state =>
      let s : System queues :=
        { s with
          control := System.writeHalf event state.write evs fetched }
      match state.read with
      | some readOp =>
          if readReady event.events then complete s readOp io else return s
      | none => return s

/-- The other actions do not come to the timer. -/
def perform (s : System queues) : Action → Except RuntimeError (System queues)
  | .await frame operation io => await s frame operation io
  | .awaitWithTimeout impl frame wrapped delay io =>
      awaitWithTimeout s impl frame wrapped delay io
  | .dispatch io =>
      match s.control with
      | .batch (event :: evs) fetched =>
          dispatchEvent s event evs fetched io
      | _ => return s
  | .dispatchWrite io =>
      match s.control with
      | .half writeOp evs fetched =>
          complete { s with control := .batch evs fetched } writeOp io
      | _ => return s
  | action => return s.perform action

/-- The process has ended with an exception. -/
def terminated (thrown : RuntimeError) (s : System queues) : System queues :=
  { s with rt := { s.rt with fault := some (.terminated thrown) } }

/-- One step.  After a fault there is none. -/
def step (s : System queues) (action : Action) : Option (System queues) :=
  if s.rt.fault = none ∧ s.enabled action = true then
    match perform s action with
    | .ok next => some next
    | .error thrown => some (terminated thrown s)
  else
    none

end Counted.Program

namespace System

/-- The deadline that an action passes to `set_timer`. -/
def sets (s : System queues) (action : Action) : Option Int :=
  match action.starts?, s.completes action with
  | some operation, _ => operation.startSets s.rt
  | none, some pointer => do
      let op ← s.pending pointer.frame
      let io ← action.io?
      op.operation.wakeSets pointer.frame io s.rt
  | none, none => none

/-- The deadline is a 64-bit count. -/
def fitting (s : System queues) (action : Action) : Bool :=
  (s.sets action).all fun deadline => deadline < 2 ^ 63

def Fitting (s : System queues) (action : Action) : Prop :=
  s.fitting action = true

/-- The reading of the clock and the delay are, as their types say. -/
def clocked (s : System queues) (action : Action) : Bool :=
  s.keepsPending action && s.rt.clock < 2 ^ 63 &&
    action.starts?.all fun operation =>
      operation.delay?.all fun delay => -2 ^ 63 ≤ delay && delay < 2 ^ 63

def Clocked (s : System queues) (action : Action) : Prop :=
  s.clocked action = true

instance : DecidableRel (@Fitting queues) :=
  fun s action => inferInstanceAs (Decidable (s.fitting action = true))

instance : DecidableRel (@Clocked queues) :=
  fun s action => inferInstanceAs (Decidable (s.clocked action = true))

/-- What holds in every state of a run whose deadlines fit. -/
structure Counting (s : System queues) : Prop where
  good : Good s
  timely : Counted.Timely s.rt.timer
  delays : ∀ frame op delay, s.pending frame = some op →
    op.operation.delay? = some delay → -2 ^ 63 ≤ delay ∧ delay < 2 ^ 63

variable {s next : System queues} {action : Action}

private theorem clocked_iff : s.Clocked action ↔
    s.KeepsPending action ∧ s.rt.clock < 2 ^ 63 ∧
      ∀ operation delay, action.starts? = some operation →
        operation.delay? = some delay →
          -2 ^ 63 ≤ delay ∧ delay < 2 ^ 63 := by
  simp only [Clocked, clocked, Bool.and_eq_true, decide_eq_true_eq,
    Option.all_eq_true, KeepsPending, and_assoc]
  constructor
  · rintro ⟨keeps, clock, delays⟩
    exact ⟨keeps, clock, fun operation delay starting timed =>
      delays operation starting delay timed⟩
  · rintro ⟨keeps, clock, delays⟩
    exact ⟨keeps, clock, fun operation starting delay timed =>
      delays operation delay starting timed⟩

private theorem fitting_iff : s.Fitting action ↔
    ∀ deadline, s.sets action = some deadline → deadline < 2 ^ 63 := by
  simp only [Fitting, fitting, Option.all_eq_true, decide_eq_true_eq]

private theorem sets_of_starts {operation : Operation}
    (starting : action.starts? = some operation) :
    s.sets action = operation.startSets s.rt := by
  simp only [sets, starting]

private theorem sets_of_completes {pointer : OpPtr} {op : OpFrame} {io : Io}
    (nothing : action.starts? = none)
    (woken : s.completes action = some pointer)
    (waits : s.pending pointer.frame = some op)
    (answers : action.io? = some io) :
    s.sets action = op.operation.wakeSets pointer.frame io s.rt := by
  simp [sets, nothing, woken, waits, answers]

namespace Counting

private theorem ranged (counting : Counting s) : Counted.Ranged s.rt where
  timely := counting.timely
  running := counting.good.sound.clock
  setting deadline set := by
    rw [counting.good.sound.inOrder.settled.armed.setting] at set
    split at set
    · cases set
    · cases set
      rcases counting.timely.cur with zero | inRange
      · rw [zero]
        decide
      · exact inRange.2

/-- A deadline that is set anew is positive, as the first one was. -/
theorem counts_of_pending (counting : Counting s)
    (clocked : s.Clocked action) {frame : Addr} {op : OpFrame}
    (waits : s.pending frame = some op) :
    Counted.Counts op.operation s.rt := by
  intro delay timed
  obtain ⟨_, clock, _⟩ := clocked_iff.mp clocked
  obtain ⟨low, high⟩ := counting.delays frame op delay waits timed
  obtain ⟨now, past, set, positive⟩ :=
    counting.good.sound.dated frame op waits
  rw [Operation.deadlineAt, timed, Option.map_some] at set
  have first := positive _ set
  refine ⟨counting.good.sound.clock, clock, low, high, ?_⟩
  simp only [TimerEvent.toTimePoint] at first ⊢
  omega

private theorem counts_of_admits (counting : Counting s)
    (clocked : s.Clocked action) {operation : Operation}
    (starting : action.starts? = some operation)
    (admitted : s.admits operation = true) :
    Counted.Counts operation s.rt := by
  intro delay timed
  obtain ⟨_, clock, delays⟩ := clocked_iff.mp clocked
  obtain ⟨low, high⟩ := delays operation delay starting timed
  refine ⟨counting.good.sound.clock, clock, low, high, ?_⟩
  apply (admits_iff.mp admitted).2
  rw [Operation.deadlineAt, timed]
  rfl

end Counting

end System

namespace Counted.Program

variable {s : System queues} {action : Action}

private theorem complete_eq {pointer : OpPtr} {op : OpFrame} {io : Io}
    (waits : s.pending pointer.frame = some op) (ranged : Ranged s.rt)
    (counts : Counts op.operation s.rt)
    (kept : FilesKept s.rt
      (op.operation.resumeOnce pointer.frame io op.total s.rt).rt) :
    complete s pointer io =
      checked (op.operation.wakeSets pointer.frame io s.rt)
        (s.complete pointer io) := by
  simp only [complete, System.complete, waits]
  rw [(wake_spec ranged counts kept).1]
  exact checked_bind fun _ => rfl

private theorem await_eq {frame : Addr} {operation : Operation} {io : Io}
    (ranged : Ranged s.rt) (counts : Counts operation s.rt) :
    await s frame operation io =
      checked (operation.startSets s.rt) (s.await frame operation io) := by
  rw [await, (start_spec ranged counts).1]
  exact checked_bind fun _ => rfl

private theorem awaitWithTimeout_eq {impl frame caller : Addr}
    {below : List Addr} {wrapped operation : Operation} {delay : Int} {io : Io}
    (timeout : wrapped.withTimeout delay = some operation)
    (stack : s.stack = caller :: below) (ranged : Ranged s.rt)
    (counts : Counts operation s.rt) :
    awaitWithTimeout s impl frame wrapped delay io =
      checked (operation.startSets s.rt)
        (s.awaitWithTimeout impl frame wrapped delay io) := by
  simp only [awaitWithTimeout, System.awaitWithTimeout, timeout, stack]
  rw [(start_spec ranged counts).1]
  exact checked_bind fun _ => rfl

/-- The operation that an action completes counts nothing that is out of
range, up to the deadline that it sets. -/
theorem complete_of_woken {pointer : OpPtr} {io : Io}
    (counting : s.Counting) (clocked : s.Clocked action)
    (woken : s.completes action = some pointer)
    (answers : action.io? = some io) (nothing : action.starts? = none)
    (control : Control) (marks : List Obs) :
    complete (s.withMarks control marks) pointer io =
      checked (s.sets action)
        ((s.withMarks control marks).complete pointer io) := by
  obtain ⟨op, waits⟩ := counting.good.waits_of_completes woken
  have kept := (counting.good.resumeOnce_leaves io woken waits).files
  have marked : (s.withMarks control marks).pending pointer.frame =
      some op := waits
  rw [System.sets_of_completes nothing woken waits answers]
  exact complete_eq marked counting.ranged
    (counting.counts_of_pending clocked waits) kept

/-- One event of a batch. -/
theorem dispatch_eq {event : EpollEvent} {evs : List EpollEvent}
    {fetched : Nat} {io : Io} (counting : s.Counting)
    (clocked : s.Clocked (.dispatch io))
    (batch : s.control = .batch (event :: evs) fetched) :
    perform s (.dispatch io) =
      checked (s.sets (.dispatch io)) (s.perform (.dispatch io)) := by
  have quiet : s.completes (.dispatch io) = none →
      s.sets (.dispatch io) = none := by
    intro asleep
    simp only [System.sets, Action.starts?, asleep]
  simp only [perform, System.perform, batch, dispatchEvent,
    System.dispatchEvent]
  cases found : s.rt.scheduler.fdToOp.lookup event.fd with
  | none =>
      have absent : s.rt.scheduler.registry event.fd .read = none := by
        simp [Scheduler.registry, found]
      rw [quiet (by simp only [System.completes, batch, absent, ite_self])]
      simp only [System.record, found]
      rfl
  | some state =>
      have registered := Scheduler.registry_of_lookup found
      have reads : s.rt.scheduler.registry event.fd .read = state.read :=
        registered .read
      simp only [System.record, found]
      cases read : state.read with
      | none =>
          rw [quiet (by
            simp only [System.completes, batch, reads, read, ite_self])]
          rfl
      | some readOp =>
          cases ready : readReady event.events with
          | false =>
              rw [quiet (by simp [System.completes, batch, ready])]
              rfl
          | true =>
              have woken : s.completes (.dispatch io) = some readOp := by
                simp [System.completes, batch, ready, reads, read]
              exact complete_of_woken counting clocked woken rfl rfl _ _

/-- An action does what it does over unbounded time points, or the deadline
that it sets does not fit. -/
theorem perform_eq (counting : s.Counting) (clocked : s.Clocked action)
    (allowed : s.enabled action = true) :
    perform s action = checked (s.sets action) (s.perform action) := by
  cases action with
  | await frame operation io =>
      obtain ⟨_, _, admitted⟩ := System.enabled_await allowed
      exact await_eq counting.ranged
        (counting.counts_of_admits clocked rfl admitted)
  | awaitWithTimeout impl frame wrapped delay io =>
      obtain ⟨⟨caller, below, stack, _⟩, _, _, _, operation, timeout,
        admitted⟩ := System.enabled_awaitWithTimeout allowed
      have starting : (Action.awaitWithTimeout impl frame wrapped delay
          io).starts? = some operation := timeout
      rw [System.sets_of_starts starting]
      exact awaitWithTimeout_eq timeout stack counting.ranged
        (counting.counts_of_admits clocked starting admitted)
  | dispatch io =>
      obtain ⟨_, event, evs, fetched, batch⟩ :=
        System.enabled_dispatch allowed
      exact dispatch_eq counting clocked batch
  | dispatchWrite io =>
      obtain ⟨_, writeOp, evs, fetched, half⟩ :=
        System.enabled_dispatchWrite allowed
      have woken : s.completes (.dispatchWrite io) = some writeOp := by
        simp only [System.completes, half]
      rw [System.dispatchWrite_eq io half]
      simp only [perform, half]
      exact complete_of_woken counting clocked woken rfl rfl _ []
  | _ => rfl

end Counted.Program

namespace System

variable {s next : System queues} {action : Action}

private theorem admits_of_starts {operation : Operation}
    (starting : action.starts? = some operation)
    (taken : s.step action = some next) : s.admits operation = true := by
  obtain ⟨allowed, _⟩ := step_eq_some taken
  cases action with
  | await frame started io =>
      cases starting
      exact (enabled_await allowed).2.2
  | awaitWithTimeout impl frame wrapped delay io =>
      obtain ⟨_, _, _, _, started, timeout, admitted⟩ :=
        enabled_awaitWithTimeout allowed
      cases timeout.symm.trans starting
      exact admitted
  | _ => cases starting

namespace Counting

private theorem timely_step (counting : Counting s) (clocked : s.Clocked action)
    (fits : s.Fitting action) (taken : s.step action = some next) :
    Counted.Timely next.rt.timer := by
  obtain ⟨keeps, _, _⟩ := clocked_iff.mp clocked
  have deadlines := fitting_iff.mp fits
  cases counting.good.effect keeps taken with
  | calm nothing asleep =>
      cases (step_move counting.good keeps taken).1 with
      | calm _ _ _ _ timer =>
          rw [timer]
          exact counting.timely
      | suspends _ _ _ started => cases nothing.symm.trans started
      | passes _ _ _ _ _ started => cases nothing.symm.trans started
      | ends _ _ _ woken => cases asleep.symm.trans woken
      | rounds _ _ _ _ woken => cases asleep.symm.trans woken
  | starts frame op io starting _ rt =>
      have admitted := admits_of_starts starting taken
      rw [sets_of_starts starting] at deadlines
      rw [rt]
      exact (Counted.start_spec counting.ranged
        (counting.counts_of_admits clocked starting admitted)).2 deadlines
  | wakes pointer op io woken waits answers rt =>
      have nothing : action.starts? = none := by
        cases starting : action.starts? with
        | none => rfl
        | some operation =>
            cases woken.symm.trans (completes_of_starts starting)
      have kept := (counting.good.resumeOnce_leaves io woken waits).files
      rw [sets_of_completes nothing woken waits answers] at deadlines
      rw [rt]
      exact (Counted.wake_spec counting.ranged
        (counting.counts_of_pending clocked waits) kept).2 deadlines

/-- A step whose deadline fits keeps the time points in range. -/
theorem step (counting : Counting s) (clocked : s.Clocked action)
    (fits : s.Fitting action) (taken : s.step action = some next) :
    Counting next := by
  obtain ⟨keeps, _, starting⟩ := clocked_iff.mp clocked
  obtain ⟨move, good⟩ := step_move counting.good keeps taken
  refine ⟨good, counting.timely_step clocked fits taken, ?_⟩
  intro frame op delay waits timed
  cases move with
  | calm _ _ pending =>
      rw [pending] at waits
      exact counting.delays frame op delay waits timed
  | suspends other started _ begun _ _ _ _ pending =>
      rw [pending] at waits
      by_cases same : frame = other
      · subst same
        rw [Function.update_self] at waits
        cases waits
        exact starting _ delay begun timed
      · rw [Function.update_of_ne same] at waits
        exact counting.delays frame op delay waits timed
  | passes _ _ _ _ _ _ _ _ _ pending =>
      rw [pending] at waits
      exact counting.delays frame op delay waits timed
  | ends pointer _ _ _ _ pending =>
      rw [pending] at waits
      by_cases same : frame = pointer.frame
      · rw [same, Function.update_self] at waits
        cases waits
      · rw [Function.update_of_ne same] at waits
        exact counting.delays frame op delay waits timed
  | rounds pointer before again _ _ waited operation _ _ _ pending =>
      rw [pending] at waits
      by_cases same : frame = pointer.frame
      · rw [same, Function.update_self] at waits
        cases waits
        rw [operation] at timed
        exact counting.delays pointer.frame before delay waited timed
      · rw [Function.update_of_ne same] at waits
        exact counting.delays frame op delay waits timed

private theorem initial {timerFd : Fd} {uptime : Nat}
    {buffers : BufferRef → Buffer} :
    Counting (System.initial queues timerFd uptime buffers) where
  good := good_initial queues timerFd uptime buffers
  timely := Counted.timely_initial timerFd
  delays frame op delay waits := by
    cases waits

end Counting

end System

namespace Counted.Program

variable {s next : System queues} {action : Action}
variable {timerFd : Fd} {uptime : Nat} {buffers : BufferRef → Buffer}
variable {actions : List Action}

/-! ## Steps and runs -/

private theorem step_of_taken (taken : s.step action = some next) :
    step s action =
      match perform s action with
      | .ok next => some next
      | .error thrown => some (terminated thrown s) := by
  unfold System.step at taken
  split at taken
  · rename_i allowed
    exact if_pos allowed
  · cases taken

private theorem step_of_fitting (counting : s.Counting)
    (clocked : s.Clocked action)
    (taken : s.step action = some next) (fits : s.Fitting action) :
    step s action = some next := by
  obtain ⟨allowed, rfl⟩ := System.step_eq_some taken
  rw [step_of_taken taken, perform_eq counting clocked allowed,
    checked_of_fits _ (System.fitting_iff.mp fits)]

/-- A deadline out of range ends the process inside `set_timer`. -/
theorem step_of_not_fitting (counting : s.Counting)
    (clocked : s.Clocked action) (taken : s.step action = some next)
    (overflows : ¬s.Fitting action) :
    step s action = some (terminated ⟨"update_timer", EINVAL⟩ s) := by
  obtain ⟨allowed, rfl⟩ := System.step_eq_some taken
  rw [System.fitting_iff] at overflows
  push Not at overflows
  obtain ⟨deadline, set, above⟩ := overflows
  rw [step_of_taken taken, perform_eq counting clocked allowed, set,
    checked_of_overflow _ above.not_gt]

private theorem step_of_disabled (refused : s.step action = none) :
    step s action = none := by
  unfold System.step at refused
  split at refused
  · cases refused
  · rename_i disabled
    exact if_neg disabled

/-- The runs of a program with 64-bit time points are those of the program
with unbounded ones, up to the first deadline past `INT64_MAX`: there
`update_timer` throws out of `set_timer`. -/
theorem run_iff
    (clocked : Meets System.step System.Clocked
      (System.initial queues timerFd uptime buffers) actions) :
    runFrom step (System.initial queues timerFd uptime buffers) actions =
        some s ↔
      (runFrom System.step (System.initial queues timerFd uptime buffers)
          actions = some s ∧
        Meets System.step System.Fitting
          (System.initial queues timerFd uptime buffers) actions) ∨
      ∃ reached,
        StopsAt System.step System.Fitting
          (System.initial queues timerFd uptime buffers) actions reached ∧
        s = terminated ⟨"update_timer", EINVAL⟩ reached :=
  run_iff_of_halting System.Counting (terminated ⟨"update_timer", EINVAL⟩)
    (fun counting clocked taken fits => counting.step clocked fits taken)
    step_of_fitting step_of_not_fitting step_of_disabled
    (fun _ _ => if_neg fun allowed => by cases allowed.1)
    System.Counting.initial clocked

/-- Once a `wait_for` is over the next one overflows, by a delay of nearly
`nanoseconds::max()`. -/
theorem run_iff_sample :
    ∃ s : System TimerQueue.sorted,
      runFrom step (System.initial .sorted 3 100 fun _ => ⟨[0, 0], 0⟩)
        [.spawn 1, .await 10 (.waitFor 80) {}, .run, .tick 100,
          .epollWait [⟨EPOLLIN, 3⟩], .dispatch {},
          .await 20 (.waitFor (2 ^ 63 - 100)) {}] = some s ∧
      s.rt.fault = some (.terminated ⟨"update_timer", EINVAL⟩) ∧
      s.trace = [.resumed 0 (.waited 0), .finished 0 (.waited 0),
        .timerEvent 0 (some 181) 201, .started 0 (.waitFor 80)] := by
  have reaches : (runFrom System.step
      (System.initial TimerQueue.sorted 3 100 fun _ => ⟨[0, 0], 0⟩)
      [.spawn 1, .await 10 (.waitFor 80) {}, .run, .tick 100,
        .epollWait [⟨EPOLLIN, 3⟩], .dispatch {}]).any (fun reached =>
          (reached.step (.await 20 (.waitFor (2 ^ 63 - 100)) {})).isSome &&
          !reached.fitting (.await 20 (.waitFor (2 ^ 63 - 100)) {}) &&
          reached.trace = [.resumed 0 (.waited 0), .finished 0 (.waited 0),
            .timerEvent 0 (some 181) 201, .started 0 (.waitFor 80)]) =
        true := by
    decide +kernel
  obtain ⟨reached, run, passed⟩ := (Option.any_eq_true _ _).mp reaches
  simp only [Bool.and_eq_true, Bool.not_eq_true', decide_eq_true_eq]
    at passed
  obtain ⟨⟨enabled, overflows⟩, trace⟩ := passed
  refine ⟨terminated ⟨"update_timer", EINVAL⟩ reached, ?_, rfl, trace⟩
  apply (run_iff (by decide +kernel)).mpr
  right
  refine ⟨reached, ⟨_, _, rfl, run, by decide +kernel, enabled, ?_⟩, rfl⟩
  rw [System.Fitting, overflows]
  exact Bool.false_ne_true

end Counted.Program

end AsyncFrame
