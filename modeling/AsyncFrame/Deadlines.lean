import AsyncFrame.Outcomes
import AsyncFrame.TimerRefinement

/-!
# How long a timeout waits

The deadline of `async_read_timeout` and `async_write_timeout` is set inside
the awaiter, while the loop that makes the operation is outside of it: each
chunk that leaves the operation unfinished sets it anew.
-/

namespace AsyncFrame

open Lib

variable {queues : TimerQueue} {rt : Runtime queues}
variable {operation : Operation} {base : Base} {self : Addr} {io : Io}
variable {total : Nat}

/-! ## Chunks that leave an operation unfinished -/

/-- Bytes have come, and the buffer has room for more. -/
def RecvOutcome.leavesRoom (buffer : Buffer) : RecvOutcome → Bool
  | .received bytes =>
      bytes.length ≠ 0 &&
        !((buffer.storeAtSeek bytes).addOffset bytes.length).done
  | .failed _ => false

/-- The peer would not take more yet, or took a part of the bytes. -/
def SendOutcome.leavesRest (buffer : Buffer) : SendOutcome → Bool
  | .sent count => count ≠ 0 && !(buffer.addOffset count).done
  | .failed errno => errno = EWOULDBLOCK || errno = EAGAIN

private theorem readBody_isNone (buffer : Buffer) (outcome : RecvOutcome) :
    (readBody (tryRead buffer outcome).2
      (tryRead buffer outcome).1).isNone = outcome.leavesRoom buffer := by
  cases outcome with
  | failed errno =>
      simp only [tryRead, RecvOutcome.leavesRoom]
      split
      · rfl
      · simp only [readBody]
        split <;> rfl
  | received bytes =>
      by_cases nothing : bytes.length = 0
      · simp [tryRead, RecvOutcome.leavesRoom, readBody, nothing]
      · simp only [tryRead, RecvOutcome.leavesRoom, nothing, if_false,
          readBody, not_true_eq_false, ne_eq, decide_not, decide_false,
          Bool.not_false, Bool.true_and]
        cases ((buffer.storeAtSeek bytes).addOffset bytes.length).done <;>
          rfl

private theorem writeBody_isNone (buffer : Buffer) (total : Nat)
    (outcome : SendOutcome) :
    (writeBody total (tryWrite buffer outcome).1).2.isNone =
      outcome.leavesRest buffer := by
  cases outcome with
  | failed errno =>
      by_cases blocks : errno = EWOULDBLOCK ∨ errno = EAGAIN
      · simp [tryWrite, SendOutcome.leavesRest, writeBody, blocks]
      · simp [tryWrite, SendOutcome.leavesRest, writeBody,
          not_or.mp blocks]
  | sent count =>
      by_cases nothing : count = 0
      · simp [tryWrite, SendOutcome.leavesRest, writeBody, nothing]
      · cases left : (buffer.addOffset count).done <;>
          simp [tryWrite, SendOutcome.leavesRest, writeBody, nothing, left]

/-! ## The clock over one stretch -/

namespace Runtime

@[simp]
theorem clock_settle (rt : Runtime queues) (outcome : Scheduler.Outcome) :
    (rt.settle outcome).clock = rt.clock := by
  obtain ⟨scheduler, thrown⟩ := outcome
  cases thrown <;> rfl

@[simp]
theorem clock_refresh (rt : Runtime queues) :
    rt.refreshTimerRegistration.clock = rt.clock := by
  simp only [refreshTimerRegistration]
  split <;> exact clock_settle _ _

@[simp]
theorem clock_removeToken (rt : Runtime queues) (token : Option Fd) :
    (CancelSlot.remove token rt).clock = rt.clock := by
  cases token with
  | none => rfl
  | some fd => exact clock_settle _ _

@[simp]
theorem clock_submitToken (rt : Runtime queues) (self : Addr)
    (token : Option Fd) :
    (CancelSlot.submit self token rt).clock = rt.clock := by
  unfold CancelSlot.submit
  split
  · rfl
  · cases token with
    | none => rfl
    | some fd => exact clock_settle _ _

end Runtime

namespace Operation

/-- Suspending takes no time. -/
theorem awaitSuspend_clock (operation : Operation) (self : Addr)
    (rt : Runtime queues) :
    (operation.awaitSuspend self rt).1.clock = rt.clock := by
  cases operation with
  | asyncRead base =>
      simp only [awaitSuspend, InnerRecvAwaiter.awaitSuspend]
      split
      · rfl
      · simp [Runtime.submitRead]
  | asyncReadTimeout base delay =>
      simp only [awaitSuspend, InnerRecvTimeoutAwaiter.awaitSuspend]
      split
      · rfl
      · simp [Runtime.submitRead, Runtime.setTimer]
  | asyncWrite base =>
      simp only [awaitSuspend, InnerSendAwaiter.awaitSuspend]
      split
      · rfl
      · simp [Runtime.submitWrite]
  | asyncWriteTimeout base delay =>
      simp only [awaitSuspend, InnerSendTimeoutAwaiter.awaitSuspend]
      split
      · rfl
      · simp [Runtime.submitWrite, Runtime.setTimer]
  | asyncReadSome conn buf => exact Runtime.clock_settle _ _
  | asyncAccept conn => exact Runtime.clock_settle _ _
  | asyncConnect conn => exact Runtime.clock_settle _ _
  | waitFor delay => exact Runtime.clock_settle _ _

/-- The operation is resumed for a chunk that leaves it unfinished: it is
neither cancelled nor timed out, and goes round its loop. -/
def goesRound (self : Addr) (io : Io) (rt : Runtime queues)
    (operation : Operation) : Bool :=
  match operation.reads?, operation.writes? with
  | some base, _ =>
      operation.receives self rt &&
        io.recv.leavesRoom (rt.buffers base.buf)
  | none, some base =>
      operation.sends self rt && io.send.leavesRest (rt.buffers base.buf)
  | none, none => false

private theorem resumeOnce_isNone_of_reads
    (reads : operation.reads? = some base) :
    (operation.resumeOnce self io total rt).returned.isNone =
      operation.goesRound self io rt := by
  simp only [goesRound, reads]
  cases received : operation.receives self rt with
  | true =>
      rw [(resumeOnce_receives self io total reads received).2,
        Option.isNone_map, readBody_isNone, Bool.true_and]
  | false =>
      rw [(resumeOnce_misses self io total reads received).2]
      rfl

private theorem resumeOnce_isNone_of_writes
    (writes : operation.writes? = some base) :
    (operation.resumeOnce self io total rt).returned.isNone =
      operation.goesRound self io rt := by
  have noRead : operation.reads? = none := by
    rcases writes_cases writes with rfl | ⟨delay, rfl⟩ <;> rfl
  simp only [goesRound, writes, noRead]
  cases sent : operation.sends self rt with
  | true =>
      rw [(resumeOnce_sends self io total writes sent).2.2,
        Option.isNone_map, writeBody_isNone, Bool.true_and]
  | false =>
      rw [(resumeOnce_skips self io total writes sent).2]
      rfl

/-- Only a chunk that leaves the operation unfinished keeps `await_resume`
from ending it. -/
theorem resumeOnce_isNone (operation : Operation) (self : Addr) (io : Io)
    (total : Nat) (rt : Runtime queues) :
    (operation.resumeOnce self io total rt).returned.isNone =
      operation.goesRound self io rt := by
  cases operation with
  | asyncRead base => exact resumeOnce_isNone_of_reads rfl
  | asyncReadTimeout base delay => exact resumeOnce_isNone_of_reads rfl
  | asyncWrite base => exact resumeOnce_isNone_of_writes rfl
  | asyncWriteTimeout base delay => exact resumeOnce_isNone_of_writes rfl
  | asyncReadSome conn buf => rfl
  | asyncAccept conn => rfl
  | asyncConnect conn => rfl
  | waitFor delay => rfl

/-- Such a chunk takes no time. -/
theorem resumeOnce_clock (goesRound : operation.goesRound self io rt = true) :
    (operation.resumeOnce self io total rt).rt.clock = rt.clock := by
  unfold Operation.goesRound at goesRound
  split at goesRound
  · rename_i base reads
    have received := (Bool.and_eq_true_iff.mp goesRound).1
    rcases reads_cases reads with rfl | ⟨delay, rfl⟩
    · have quiet : rt.cancelRequested base.cancelToken = false := by
        simpa [receives] using received
      simp [resumeOnce, InnerRecvAwaiter.awaitResume,
        CancelSlot.isCancelEvent, quiet, Runtime.tryRead, Runtime.removeRead]
    · have quiet : rt.cancelRequested base.cancelToken = false ∧
          timedOut self rt = false := by
        simpa [receives] using received
      simp [resumeOnce, InnerRecvTimeoutAwaiter.awaitResume,
        CancelSlot.isCancelEvent, quiet, timedOut_remove, Runtime.tryRead,
        Runtime.removeRead, Runtime.cancelTimer]
  · rename_i base _ writes
    have sent := (Bool.and_eq_true_iff.mp goesRound).1
    rcases writes_cases writes with rfl | ⟨delay, rfl⟩
    · have quiet : rt.cancelRequested base.cancelToken = false := by
        simpa [sends] using sent
      simp [resumeOnce, InnerSendAwaiter.awaitResume,
        CancelSlot.isCancelEvent, quiet, Runtime.tryWrite,
        Runtime.removeWrite]
    · have quiet : rt.cancelRequested base.cancelToken = false ∧
          timedOut self rt = false := by
        simpa [sends] using sent
      simp [resumeOnce, InnerSendTimeoutAwaiter.awaitResume,
        CancelSlot.isCancelEvent, quiet, timedOut_remove, Runtime.tryWrite,
        Runtime.removeWrite, Runtime.cancelTimer]
  · cases goesRound

/-- A wake-up leaves the operation suspended exactly for such a chunk. -/
theorem wake_isNone
    (kept : FilesKept rt (operation.resumeOnce self io total rt).rt) :
    (operation.wake self io total rt).returned.isNone =
      operation.goesRound self io rt := by
  rw [← operation.resumeOnce_isNone self io total rt]
  cases ended : (operation.wake self io total rt).returned with
  | some result => rw [resumeOnce_of_wake kept ended]
  | none =>
      cases here : (operation.resumeOnce self io total rt).returned with
      | none => rfl
      | some result =>
          simp only [wake, here] at ended
          cases ended

private theorem wake_clock
    (kept : FilesKept rt (operation.resumeOnce self io total rt).rt)
    (goesRound : operation.goesRound self io rt = true) :
    (operation.wake self io total rt).rt.clock = rt.clock := by
  have waits : (operation.resumeOnce self io total rt).returned = none := by
    rw [← Option.isNone_iff_eq_none, resumeOnce_isNone, goesRound]
  have quiet : rt.cancelRequested operation.token? = false := by
    cases cancelled : rt.cancelRequested operation.token? with
    | false => rfl
    | true =>
        obtain ⟨result, ended, _⟩ :=
          returned_of_cancelled self io total cancelled
        rw [waits] at ended
        cases ended
  simp only [wake, waits]
  rw [loop_succ, kept.cancelRequested, quiet, if_neg Bool.false_ne_true,
    awaitSuspend_clock, resumeOnce_clock goesRound]

private theorem start_clock
    (waits : (operation.start self io rt).returned = none) :
    (operation.start self io rt).rt.clock = rt.clock := by
  have entered : (loop self operation 1 0 rt).returned = none →
      (loop self operation 1 0 rt).rt.clock = rt.clock := by
    rw [loop_succ]
    split
    · rename_i cancelled
      intro pending
      obtain ⟨result, ended, _⟩ :=
        returned_of_cancelled self {} 0 cancelled
      rw [pending] at ended
      cases ended
    · exact fun _ => awaitSuspend_clock operation self rt
  cases operation with
  | asyncConnect conn =>
      simp only [start] at waits ⊢
      split at waits
      · cases waits
      · cases waits
      · exact entered waits
  | _ => exact entered waits

/-- Resumed while its own timer is the expired one, a read or a write with a
timeout ends, whatever its socket has to give. -/
theorem wake_of_timedOut (timed : operation.timedTransfer = true)
    (expired : timedOut self rt = true) :
    (operation.wake self io total rt).returned.map OpResult.ec =
      some (operation.refusal rt) := by
  cases operation with
  | asyncReadTimeout base delay =>
      have missed : (Operation.asyncReadTimeout base delay).receives self
          rt = false := by
        simp [receives, expired]
      rw [(wake_misses self io total rfl missed).2]
      rfl
  | asyncWriteTimeout base delay =>
      have skipped : (Operation.asyncWriteTimeout base delay).sends self
          rt = false := by
        simp [sends, expired]
      rw [(wake_skips self io total rfl skipped).2]
      rfl
  | _ => cases timed

theorem delay_of_timedTransfer (timed : operation.timedTransfer = true) :
    ∃ delay, operation.delay? = some delay := by
  cases operation with
  | asyncReadTimeout base delay => exact ⟨delay, rfl⟩
  | asyncWriteTimeout base delay => exact ⟨delay, rfl⟩
  | _ => cases timed

end Operation

namespace System

variable {s next final : System queues} {action : Action}
variable {timerFd : Fd} {uptime : Nat} {buffers : BufferRef → Buffer}
variable {before actions : List Action} {number : Nat}

/-! ## What a step leaves of the operation it completes -/

theorem step_completes {pointer : OpPtr} (taken : s.step action = some next)
    (woken : s.completes action = some pointer) :
    ∃ control io, action.io? = some io ∧
      next = (s.withMarks control (s.marks action)).complete pointer io := by
  obtain ⟨allowed, rfl⟩ := step_eq_some taken
  cases action with
  | dispatch io =>
      obtain ⟨_, event, evs, fetched, batch⟩ := enabled_dispatch allowed
      obtain ⟨control, _, performed⟩ := dispatch_cases io batch
      simp only [woken] at performed
      exact ⟨control, io, rfl, performed⟩
  | dispatchWrite io =>
      obtain ⟨_, writeOp, evs, fetched, half⟩ := enabled_dispatchWrite allowed
      simp only [completes, half] at woken
      cases woken
      exact ⟨_, io, rfl, dispatchWrite_eq io half⟩
  | _ => cases woken

/-- A completed operation is over, or suspended again with the deadline of
this chunk. -/
theorem Good.completed (good : Good s) {pointer : OpPtr} {op : OpFrame}
    (taken : s.step action = some next)
    (woken : s.completes action = some pointer)
    (waits : s.pending pointer.frame = some op) :
    ∃ io, action.io? = some io ∧
      if op.operation.goesRound pointer.frame io s.rt then
        ∃ total, next.pending =
          Function.update s.pending pointer.frame (some { op with
            total := total
            deadline := op.operation.deadlineAt s.rt.clock })
      else
        next.pending = Function.update s.pending pointer.frame none := by
  obtain ⟨control, io, answers, rfl⟩ := step_completes taken woken
  refine ⟨io, answers, ?_⟩
  have found := pendingIn_eq_some.mp waits
  have kept := (good.resumeOnce_leaves io woken waits).files
  have here : (s.withMarks control (s.marks action)).pending pointer.frame =
      some op := waits
  have healthy :
      (op.operation.wake pointer.frame io op.total s.rt).rt.fault = none := by
    rcases wake_cases good io waits
      (good.current_of_completes woken waits) with
      ⟨_, returns⟩ | ⟨_, left, suspends, _⟩
    · exact returns.leaves.fault.trans good.sound.healthy
    · exact suspends.leaves.fault.trans
        (left.fault.trans good.sound.healthy)
  rw [← Operation.wake_isNone kept]
  unfold complete
  rw [here]
  simp only [withMarks, healthy, Option.isSome_none, Bool.false_eq_true,
    if_false]
  cases returned :
      (op.operation.wake pointer.frame io op.total s.rt).returned with
  | none =>
      have goesRound : op.operation.goesRound pointer.frame io s.rt =
          true := by
        rw [← Operation.wake_isNone kept, returned]
        rfl
      rw [Operation.wake_clock kept goesRound]
      exact ⟨_, pendingIn_insert _ _⟩
  | some result =>
      simp only [Option.isNone_some, Bool.false_eq_true, if_false]
      rcases good.linked.outer _ _ found with outer | ⟨number, outer⟩
      · simp only [resumeOuter, outer]
        exact pendingIn_resume rfl (pendingIn_of_user outer)
      · simp only [resumeOuter, outer]
        exact pendingIn_resume rfl (pendingIn_of_impl outer)

/-! ## The bound -/

/-- While the operation is suspended, the timer holds no time point for it past
the limit; from the limit on the timerfd is readable, and the operation ends
when it is resumed with its timer current. -/
structure Bounded (number : Nat) (limit : Int) (s : System queues) :
    Prop where
  armed : ∀ frame op, s.pending frame = some op → op.number = number →
    ∀ task ∈ s.rt.timer.liveTasks,
      task.state.read = some ⟨frame, .timer⟩ → task.timePoint ≤ limit
  expires : ∀ frame op, s.pending frame = some op → op.number = number →
    limit ≤ s.rt.clock → s.rt.timer.timerFd.isReadable s.rt.clock = true
  ends : ∀ frame op, s.pending frame = some op → op.number = number →
    limit ≤ s.rt.clock → s.rt.timer.isCurrent ⟨frame, .timer⟩ = true →
      ∀ io, (op.operation.wake frame io op.total s.rt).returned.map
        OpResult.ec = some (op.operation.refusal s.rt)

/-- If the step resumes the operation for a chunk that leaves it unfinished,
the clock still shows `limit`. -/
def roundsBy (number : Nat) (limit : Int) (s : System queues)
    (action : Action) : Bool :=
  match s.completes action, action.io? with
  | some pointer, some io =>
      (s.pending pointer.frame).all fun op =>
        op.number ≠ number || !op.operation.goesRound pointer.frame io s.rt
          || s.rt.clock ≤ limit
  | _, _ => true

def RoundsBy (number : Nat) (limit : Int) (s : System queues)
    (action : Action) : Prop :=
  s.roundsBy number limit action = true

instance (number : Nat) (limit : Int) :
    DecidableRel (@RoundsBy queues number limit) :=
  fun s action =>
    inferInstanceAs (Decidable (s.roundsBy number limit action = true))

/-- The law is about the deadlines that were passed to `set_timer`. -/
theorem Good.bounded_iff (good : Good s) {limit : Int}
    (timed : ∀ frame op, s.pending frame = some op → op.number = number →
      op.operation.timedTransfer = true) :
    Bounded number limit s ↔
      ∀ frame op deadline, s.pending frame = some op → op.number = number →
        op.deadline = some deadline → deadline ≤ limit := by
  have settled := good.sound.inOrder.settled
  have queued : ∀ frame op deadline, s.pending frame = some op →
      (op.deadline = some deadline ↔
        ∃ task ∈ s.rt.timer.tasks,
          task.id ∉ s.rt.timer.cancelledTimerIds ∧
            task.state.read = some ⟨frame, .timer⟩ ∧
              task.timePoint = deadline) := by
    intro frame op deadline waits
    have here := settled.represents ⟨frame, .timer⟩ deadline
    rw [deadlines_timer, waits, Option.bind_some] at here
    exact here
  constructor
  · intro law frame op deadline waits named set
    obtain ⟨task, member, live, read, rfl⟩ :=
      (queued frame op deadline waits).mp set
    exact law.armed frame op waits named task
      (TimerEvent.mem_liveTasks.mpr ⟨member, live⟩) read
  · intro law
    have reached : ∀ frame op, s.pending frame = some op →
        op.number = number → limit ≤ s.rt.clock →
          ∃ deadline, op.deadline = some deadline ∧
            deadline ≤ s.rt.clock := by
      intro frame op waits named late
      obtain ⟨delay, delayed⟩ :=
        Operation.delay_of_timedTransfer (timed frame op waits named)
      obtain ⟨now, _, dated, _⟩ := good.sound.dated frame op waits
      rw [Operation.deadlineAt, delayed] at dated
      exact ⟨_, dated, (law frame op _ waits named dated).trans late⟩
    refine ⟨?_, ?_, ?_⟩
    · intro frame op waits named task member read
      obtain ⟨inside, live⟩ := TimerEvent.mem_liveTasks.mp member
      exact law frame op task.timePoint waits named
        ((queued frame op _ waits).mpr ⟨task, inside, live, read, rfl⟩)
    · intro frame op waits named late
      obtain ⟨deadline, set, passed⟩ := reached frame op waits named late
      obtain ⟨delay, delayed⟩ :=
        Operation.delay_of_timedTransfer (timed frame op waits named)
      have nonempty := good.timed_iff.mpr
        ⟨frame, op, waits, by rw [delayed]; rfl⟩
      obtain ⟨current, _, read, _, _, least⟩ := good.current nonempty
      exact isReadable_of_reached settled read
        ((least frame op deadline waits set).trans passed)
    · intro frame op waits named late current io
      obtain ⟨deadline, set, passed⟩ := reached frame op waits named late
      have read : s.rt.timer.cur.state.read = some ⟨frame, .timer⟩ :=
        of_decide_eq_true current
      obtain ⟨other, otherOp, same, otherWaits, otherSet, _⟩ :=
        good.current (settled.wellFormed.nonempty_of_read read)
      rw [read] at same
      cases same
      rw [waits] at otherWaits
      cases otherWaits
      rw [set] at otherSet
      cases otherSet
      exact Operation.wake_of_timedOut (timed frame op waits named)
        ((timedOut_iff settled frame).mpr ⟨read, passed⟩)

/-! ## One step and whole runs -/

/-- What is known of a started operation in every later state. -/
structure Underway (number : Nat) (operation : Operation)
    (s : System queues) : Prop where
  good : Good s
  ledger : Ledger s
  given : number < s.nextNumber
  same : ∀ frame op, s.pending frame = some op → op.number = number →
    op.operation = operation

theorem Opening.number_lt {given after : Nat} {prelude : List Obs}
    (opening : Opening s given prelude after) : given < after := by
  cases opening with
  | plain => exact Nat.lt_succ_self _
  | wrapped operation delay => exact Nat.lt_succ_self _

theorem Underway.move {operation : Operation}
    (underway : Underway number operation s) (keeps : KeepsPending s action)
    (taken : s.step action = some next) :
    Underway number operation next := by
  obtain ⟨move, goodNext⟩ := step_move underway.good keeps taken
  have ledgerNext := underway.ledger.move move
  have given := underway.given
  cases move with
  | calm _ _ pending _ _ _ _ _ _ _ counted =>
      refine ⟨goodNext, ledgerNext, counted ▸ given, ?_⟩
      rw [pending]
      exact underway.same
  | suspends frame op prelude _ opening _ _ _ pending =>
      have above := opening.number_le
      have below := opening.number_lt
      refine ⟨goodNext, ledgerNext, by omega, ?_⟩
      intro other otherOp waits named
      rw [pending] at waits
      by_cases here : other = frame
      · rw [here, Function.update_self] at waits
        cases waits
        omega
      · rw [Function.update_of_ne here] at waits
        exact underway.same other otherOp waits named
  | passes _ _ _ _ _ _ opening _ _ pending =>
      have above := opening.number_le
      have below := opening.number_lt
      refine ⟨goodNext, ledgerNext, by omega, ?_⟩
      rw [pending]
      exact underway.same
  | ends pointer op _ _ _ pending _ _ _ counted =>
      refine ⟨goodNext, ledgerNext, counted ▸ given, ?_⟩
      intro other otherOp waits named
      rw [pending] at waits
      by_cases here : other = pointer.frame
      · rw [here, Function.update_self] at waits
        cases waits
      · rw [Function.update_of_ne here] at waits
        exact underway.same other otherOp waits named
  | rounds pointer op again _ _ waited operation _ same _ pending _ _ _
      counted =>
      refine ⟨goodNext, ledgerNext, counted ▸ given, ?_⟩
      intro other otherOp waits named
      rw [pending] at waits
      by_cases here : other = pointer.frame
      · rw [here, Function.update_self] at waits
        cases waits
        rw [operation]
        exact underway.same pointer.frame op waited (same.symm.trans named)
      · rw [Function.update_of_ne here] at waits
        exact underway.same other otherOp waits named

/-- What is completed is a suspended operation. -/
theorem Good.waits_of_completes (good : Good s) {pointer : OpPtr}
    (woken : s.completes action = some pointer) :
    ∃ op, s.pending pointer.frame = some op := by
  unfold completes at woken
  split at woken
  · split at woken
    · split at woken
      · obtain ⟨op, waits, _⟩ := good.sound.waits_of_registered woken
        exact ⟨op, waits⟩
      · cases woken
    · cases woken
  · split at woken
    · rename_i writeOp evs fetched half
      cases woken
      obtain ⟨op, _, waits, _⟩ := good.fetched _ _ _ half
      exact ⟨op, waits⟩
    · cases woken
  · cases woken

/-- A step that completes nothing sets no deadline for an operation under
way. -/
theorem Underway.waited {operation : Operation}
    (underway : Underway number operation s) (keeps : KeepsPending s action)
    (taken : s.step action = some next) (asleep : s.completes action = none)
    {frame : Addr} {op : OpFrame} (waits : next.pending frame = some op)
    (named : op.number = number) : s.pending frame = some op := by
  cases (step_move underway.good keeps taken).1 with
  | calm _ _ pending => rw [← pending, waits]
  | suspends fresh started _ _ opening _ _ _ pending =>
      have above := opening.number_le
      have given := underway.given
      rw [pending] at waits
      by_cases here : frame = fresh
      · rw [here, Function.update_self] at waits
        cases waits
        omega
      · rw [Function.update_of_ne here] at waits
        exact waits
  | passes _ _ _ _ _ _ _ _ _ pending => rw [← pending, waits]
  | ends _ _ _ woken =>
      rw [asleep] at woken
      cases woken
  | rounds _ _ _ _ woken =>
      rw [asleep] at woken
      cases woken

/-- One step from a lawful state keeps the law exactly if it does not go round
late. -/
theorem Underway.bounded_step {operation : Operation} {delay start : Int}
    (underway : Underway number operation s)
    (timed : operation.timedTransfer = true)
    (delayed : operation.delay? = some delay)
    (keeps : KeepsPending s action) (taken : s.step action = some next)
    (law : Bounded number (start + delay) s) :
    Bounded number (start + delay) next ↔
      RoundsBy number start s action := by
  have underwayNext := underway.move keeps taken
  have set := (underway.good.bounded_iff fun frame op waits named => by
    rw [underway.same frame op waits named, timed]).mp law
  rw [underwayNext.good.bounded_iff fun frame op waits named => by
    rw [underwayNext.same frame op waits named, timed]]
  cases woken : s.completes action with
  | none =>
      refine iff_of_true ?_ ?_
      · intro frame op deadline waits named
        exact set frame op deadline
          (underway.waited keeps taken woken waits named) named
      · simp [RoundsBy, roundsBy, woken]
  | some pointer =>
      obtain ⟨op, waits⟩ := underway.good.waits_of_completes woken
      obtain ⟨io, answers, left⟩ := underway.good.completed taken woken waits
      have test : RoundsBy number start s action ↔
          (op.number = number →
            op.operation.goesRound pointer.frame io s.rt = true →
              s.rt.clock ≤ start) := by
        simp only [RoundsBy, roundsBy, woken, answers, waits,
          Option.all_some, Bool.or_eq_true, Bool.not_eq_true',
          decide_eq_true_eq, ne_eq]
        cases op.operation.goesRound pointer.frame io s.rt with
        | true => simp [imp_iff_not_or]
        | false => simp
      rw [test]
      have elsewhere : ∀ {changed : Option OpFrame},
          next.pending = Function.update s.pending pointer.frame changed →
          ∀ frame other deadline, frame ≠ pointer.frame →
            next.pending frame = some other → other.number = number →
              other.deadline = some deadline →
                deadline ≤ start + delay := by
        intro changed pending frame other deadline different here
        rw [pending, Function.update_of_ne different] at here
        exact set frame other deadline here
      cases goes : op.operation.goesRound pointer.frame io s.rt with
      | false =>
          rw [goes, if_neg Bool.false_ne_true] at left
          refine iff_of_true ?_ (fun _ late => by cases late)
          intro frame other deadline here
          by_cases same : frame = pointer.frame
          · rw [same, left, Function.update_self] at here
            cases here
          · exact elsewhere left frame other deadline same here
      | true =>
          rw [goes, if_pos rfl] at left
          obtain ⟨total, pending⟩ := left
          have again : next.pending pointer.frame = some { op with
              total := total
              deadline := op.operation.deadlineAt s.rt.clock } := by
            rw [pending, Function.update_self]
          have rearmed : op.number = number →
              op.operation.deadlineAt s.rt.clock =
                some (delay + s.rt.clock) := by
            intro named
            rw [underway.same pointer.frame op waits named,
              Operation.deadlineAt, delayed]
            rfl
          constructor
          · intro bound named _
            have within := bound pointer.frame _ _ again named
              (rearmed named)
            omega
          · intro prompt frame other deadline here named given
            by_cases same : frame = pointer.frame
            · rw [same, again] at here
              cases here
              have late := prompt named rfl
              have armed := (rearmed named).symm.trans given
              cases armed
              omega
            · exact elsewhere pending frame other deadline same here named
                given

/-- Where a new operation is found among the changed frames. -/
theorem pendingIn_of_suspended {frames : Finmap fun _ : Addr => Frame}
    {fresh frame : Addr} {new op : OpFrame}
    (free : pendingIn frames frame = none)
    (waits : pendingIn (frames.insert fresh (.op new)) frame = some op) :
    op = new := by
  rw [pendingIn_insert] at waits
  by_cases here : frame = fresh
  · rw [here, Function.update_self] at waits
    exact (Option.some.inj waits).symm
  · rw [Function.update_of_ne here, free] at waits
    cases waits

private theorem pendingIn_of_awaiting {frames : Finmap fun _ : Addr => Frame}
    {outer frame : Addr} {new : Frame} {op : OpFrame}
    (silent : new.op? = none)
    (waits : pendingIn (frames.insert outer new) frame = some op) :
    pendingIn frames frame = some op := by
  rw [pendingIn_insert, silent] at waits
  by_cases here : frame = outer
  · rw [here, Function.update_self] at waits
    cases waits
  · rw [Function.update_of_ne here] at waits
    exact waits

/-- An operation that a step suspends is the one it starts, with the deadline
of that moment. -/
theorem step_suspends {operation : Operation}
    (starts : action.starts? = some operation)
    (taken : s.step action = some next) {frame : Addr} {op : OpFrame}
    (free : s.pending frame = none)
    (waits : next.pending frame = some op) :
    op.operation = operation ∧
      op.deadline = operation.deadlineAt s.rt.clock := by
  obtain ⟨_, rfl⟩ := step_eq_some taken
  have absurdly : pendingIn s.frames frame ≠ some op := by
    intro here
    rw [pending, here] at free
    cases free
  cases action with
  | await fresh other io =>
      cases starts
      simp only [perform, await] at waits
      split at waits
      · rename_i returned _
        have new := pendingIn_of_suspended free
          (pendingIn_of_awaiting rfl waits)
        rw [new, Operation.start_clock returned]
        exact ⟨rfl, rfl⟩
      · exact absurd waits absurdly
      · exact absurd waits absurdly
  | awaitWithTimeout impl fresh wrapped delay io =>
      have timeout : wrapped.withTimeout delay = some operation := starts
      simp only [perform, awaitWithTimeout, timeout] at waits
      split at waits
      · rename_i other caller below same _
        cases same
        split at waits
        · rename_i returned
          have new := pendingIn_of_suspended free
            (pendingIn_of_awaiting rfl (pendingIn_of_awaiting rfl waits))
          rw [new, Operation.start_clock returned]
          exact ⟨rfl, rfl⟩
        · exact absurd (pendingIn_of_awaiting rfl
            (pendingIn_of_awaiting rfl waits)) absurdly
      · exact absurd waits absurdly
  | _ => cases starts

/-- For a read or a write with a timeout that is started at `s.rt.clock`: in
every state of every run after its start the timer holds no time point for it
past that time plus the delay, and it ends when it is resumed from then on with
its timer current, exactly if every chunk that leaves it unfinished comes
before the clock moves on. -/
theorem timeout_bounds_iff {operation : Operation} {delay : Int}
    (reached : Reaches KeepsPending timerFd uptime buffers before s)
    (starts : action.starts? = some operation)
    (timed : operation.timedTransfer = true)
    (delayed : operation.delay? = some delay)
    (taken : s.step action = some next) {frame : Addr} {op : OpFrame}
    (free : s.pending frame = none) (waits : next.pending frame = some op)
    (run : Leads KeepsPending next actions final) :
    Throughout step (Bounded op.number (s.rt.clock + delay)) next actions ↔
      Meets step (RoundsBy op.number s.rt.clock) next actions := by
  have keeps : KeepsPending s action := by
    cases action <;> first | rfl | cases starts
  have good := reached.good fun _ _ here => here
  obtain ⟨move, goodNext⟩ := step_move good keeps taken
  have ledgerNext := (ledger_of_run reached).move move
  obtain ⟨same, armed⟩ := step_suspends starts taken free waits
  have underway : Underway op.number operation next := by
    refine ⟨goodNext, ledgerNext, ledgerNext.number_lt waits, ?_⟩
    intro other otherOp otherWaits named
    have here := ledgerNext.distinct other frame otherOp op otherWaits waits
      named
    rw [here, waits] at otherWaits
    cases otherWaits
    exact same
  refine throughout_iff_meets_of_run (Underway op.number operation) _ _
    (fun holds allowed moved => holds.move allowed moved)
    (fun holds allowed moved law =>
      holds.bounded_step timed delayed allowed moved law)
    underway ?_ run.1 run.2
  rw [goodNext.bounded_iff fun other otherOp otherWaits named => by
    rw [underway.same other otherOp otherWaits named, timed]]
  intro other otherOp deadline otherWaits named set
  have here := ledgerNext.distinct other frame otherOp op otherWaits waits
    named
  rw [here, waits] at otherWaits
  cases otherWaits
  rw [armed, Operation.deadlineAt, delayed] at set
  cases set
  simp only [TimerEvent.toTimePoint]
  omega

theorem timeout_bounds_iff_sample :
    ∃ s : System TimerQueue.sorted,
      Reaches KeepsPending 3 100 (fun _ => ⟨[0, 0], 0⟩)
        [.openFd 5 .socket, .spawn 1] s ∧
      ∃ next,
        s.step (.await 10 (.asyncReadTimeout ⟨5, 0, none⟩ 50) {}) =
          some next ∧
        Throughout step (Bounded 0 (s.rt.clock + 50)) next
          [.run, .epollWait [⟨EPOLLIN, 5⟩],
            .dispatch { recv := .received [7] }, .batchEnd, .tick 50,
            .epollWait [⟨EPOLLIN, 3⟩], .dispatch {}] := by
  refine (exists_reaches (fun s =>
    (s.pending 10).isNone &&
    (s.step (.await 10 (.asyncReadTimeout ⟨5, 0, none⟩ 50) {})).any
      fun next =>
        (next.pending 10).any (fun op => op.number = 0) &&
        Meets step KeepsPending next
          [.run, .epollWait [⟨EPOLLIN, 5⟩],
            .dispatch { recv := .received [7] }, .batchEnd, .tick 50,
            .epollWait [⟨EPOLLIN, 3⟩], .dispatch {}] &&
        (runFrom step next
          [.run, .epollWait [⟨EPOLLIN, 5⟩],
            .dispatch { recv := .received [7] }, .batchEnd, .tick 50,
            .epollWait [⟨EPOLLIN, 3⟩], .dispatch {}]).isSome &&
        Meets step (RoundsBy 0 s.rt.clock) next
          [.run, .epollWait [⟨EPOLLIN, 5⟩],
            .dispatch { recv := .received [7] }, .batchEnd, .tick 50,
            .epollWait [⟨EPOLLIN, 3⟩], .dispatch {}]) ?_ ?_).imp
    fun s ⟨reached, passed⟩ => ⟨reached, ?_⟩
  · decide +kernel
  · decide +kernel
  · obtain ⟨free, started⟩ := Bool.and_eq_true_iff.mp passed
    obtain ⟨next, taken, passed⟩ := (Option.any_eq_true _ _).mp started
    simp only [Bool.and_eq_true, decide_eq_true_eq] at passed
    obtain ⟨⟨⟨held, keeps⟩, runs⟩, prompt⟩ := passed
    obtain ⟨op, waits, named⟩ := (Option.any_eq_true _ _).mp held
    obtain ⟨final, run⟩ := Option.isSome_iff_exists.mp runs
    have bound := (timeout_bounds_iff reached rfl rfl rfl taken
      (Option.isNone_iff_eq_none.mp free) waits ⟨keeps, run⟩).mpr
    rw [of_decide_eq_true named] at bound
    exact ⟨next, taken, bound prompt⟩

/-- A read with a timeout of fifty nanoseconds is started at time 101.  One
byte after forty of them sets its deadline to 191: at 181 it is still
suspended, and the timerfd has not expired. -/
theorem timeout_bounds_counterexample :
    ∃ s : System TimerQueue.sorted,
      runFrom step (initial _ 3 100 (fun _ => ⟨[0, 0], 0⟩))
        [.openFd 5 .socket, .spawn 1,
          .await 10 (.asyncReadTimeout ⟨5, 0, none⟩ 50) {}, .run, .tick 40,
          .epollWait [⟨EPOLLIN, 5⟩], .dispatch { recv := .received [7] },
          .batchEnd, .tick 40] = some s ∧
      s.rt.clock = 181 ∧
      (∃ op, s.pending 10 = some op ∧ op.number = 0 ∧
        op.deadline = some 191) ∧
      ¬ Bounded 0 (101 + 50) s := by
  have computed : ((runFrom step
      (initial TimerQueue.sorted 3 100 (fun _ => ⟨[0, 0], 0⟩))
      [.openFd 5 .socket, .spawn 1,
        .await 10 (.asyncReadTimeout ⟨5, 0, none⟩ 50) {}, .run, .tick 40,
        .epollWait [⟨EPOLLIN, 5⟩], .dispatch { recv := .received [7] },
        .batchEnd, .tick 40]).any fun s =>
      s.rt.clock = 181 &&
        (s.pending 10).any (fun op =>
          op.number = 0 ∧ op.deadline = some 191) &&
        !s.rt.timer.timerFd.isReadable s.rt.clock) = true := by
    decide +kernel
  obtain ⟨s, run, passed⟩ := (Option.any_eq_true _ _).mp computed
  simp only [Bool.and_eq_true, Bool.not_eq_true', decide_eq_true_eq]
    at passed
  obtain ⟨⟨clock, held⟩, silent⟩ := passed
  obtain ⟨op, waits, same⟩ := (Option.any_eq_true _ _).mp held
  obtain ⟨named, set⟩ := of_decide_eq_true same
  refine ⟨s, run, clock, ⟨op, waits, named, set⟩, fun law => ?_⟩
  have late : (101 : Int) + 50 ≤ s.rt.clock := by
    rw [clock]
    decide
  rw [law.expires 10 op waits named late] at silent
  cases silent

end System

end AsyncFrame
