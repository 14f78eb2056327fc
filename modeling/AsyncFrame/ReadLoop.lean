import AsyncFrame.Lib.Runs
import AsyncFrame.Stretches
import AsyncFrame.System

/-!
# What the end of a read tells its caller

A run of `async_read` or `async_read_timeout` is its start and its wake-ups,
each with what `recv` would give then; between two of them the rest of the
program may do anything to the runtime.  The pair that `try_read` returns is
the same for a `recv` that would block and for the end of the stream.
-/

namespace AsyncFrame

open Lib

variable {queues : TimerQueue} {rt next : Runtime queues}
variable {operation : Operation} {base : Base} {self : Addr} {io : Io}
variable {total : Nat}

/-! ## Single transfers -/

def RecvOutcome.wouldBlock : RecvOutcome → Bool
  | .received _ => false
  | .failed errno => errno = EWOULDBLOCK || errno = EAGAIN

/-- What `recv` can give when it is asked for `remain` bytes. -/
def RecvOutcome.possible (remain : Nat) : RecvOutcome → Bool
  | .received bytes => bytes.length ≤ remain
  | .failed errno => errno ≠ 0

private theorem tryRead_of_wouldBlock (buffer : Buffer) {outcome : RecvOutcome}
    (blocks : outcome.wouldBlock = true) :
    tryRead buffer outcome = ((0, 0), buffer) := by
  cases outcome with
  | received bytes => cases blocks
  | failed errno =>
      have test : errno = EWOULDBLOCK ∨ errno = EAGAIN := by
        simpa [RecvOutcome.wouldBlock] using blocks
      simp [tryRead, test]

/-- Apart from a `recv` that would block, the empty error code comes with no
bytes only at the end of the stream. -/
theorem tryRead_zero {buffer : Buffer} {outcome : RecvOutcome}
    (possible : outcome.possible buffer.remain = true)
    (flows : outcome.wouldBlock = false)
    (read : (tryRead buffer outcome).1 = (0, 0)) :
    outcome = .received [] := by
  cases outcome with
  | received bytes =>
      cases bytes with
      | nil => rfl
      | cons head tail => simp [tryRead] at read
  | failed errno =>
      have test : ¬ (errno = EWOULDBLOCK ∨ errno = EAGAIN) := by
        simpa [RecvOutcome.wouldBlock] using flows
      have present : errno ≠ 0 := of_decide_eq_true possible
      simp [tryRead, test, present] at read

/-- A `recv` that would block ends `async_read`. -/
theorem readBody_of_wouldBlock (buffer : Buffer) {outcome : RecvOutcome}
    (blocks : outcome.wouldBlock = true) :
    readBody (tryRead buffer outcome).2 (tryRead buffer outcome).1 =
      some (0, buffer.readCount) := by
  rw [tryRead_of_wouldBlock buffer blocks]
  simp [readBody]

private theorem readBody_ends {buffer : Buffer} {outcome : RecvOutcome}
    (possible : outcome.possible buffer.remain = true)
    (flows : outcome.wouldBlock = false) {returned : ReadRet}
    (ends : readBody (tryRead buffer outcome).2 (tryRead buffer outcome).1 =
      some returned)
    (empty : returned.1 = 0) :
    (tryRead buffer outcome).2.done = true ∨ outcome = .received [] := by
  unfold readBody at ends
  split at ends
  · rename_i error
    cases ends
    exact absurd empty error
  · rename_i noError
    split at ends
    · rename_i nothing
      exact Or.inr (tryRead_zero possible flows
        (Prod.ext (not_not.mp noError) nothing))
    · split at ends
      · rename_i full
        exact Or.inl full
      · cases ends

/-! ## Calls that transfer nothing -/

/-- No transfer was made. -/
structure Runtime.Silent (rt next : Runtime queues) : Prop where
  buffers : next.buffers = rt.buffers
  calls : next.calls = rt.calls

/-- One `recv` was made. -/
structure Runtime.Receives (rt next : Runtime queues) (conn : Fd)
    (buf : BufferRef) (outcome : RecvOutcome) : Prop where
  buffer : next.buffers buf =
    (AsyncFrame.tryRead (rt.buffers buf) outcome).2
  calls : next.calls =
    .recv conn (rt.buffers buf).offset (rt.buffers buf).remain outcome ::
      rt.calls

namespace Runtime

namespace Silent

theorem refl (rt : Runtime queues) : rt.Silent rt :=
  ⟨rfl, rfl⟩

theorem settle (silent : rt.Silent next) (outcome : Scheduler.Outcome) :
    rt.Silent (next.settle outcome) := by
  obtain ⟨scheduler, thrown⟩ := outcome
  cases thrown with
  | none => exact ⟨silent.buffers, silent.calls⟩
  | some error => exact ⟨silent.buffers, silent.calls⟩

theorem retimed (silent : rt.Silent next) (timer : TimerEvent queues) :
    rt.Silent { next with timer := timer } :=
  ⟨silent.buffers, silent.calls⟩

theorem cancelTimer (silent : rt.Silent next) (read : OpPtr) :
    rt.Silent (next.cancelTimer read) :=
  silent.retimed _

theorem consumeToken (silent : rt.Silent next) (token : Option Fd) :
    rt.Silent (CancelSlot.consume token next) := by
  cases token with
  | none => exact silent
  | some fd =>
      simp only [CancelSlot.consume, Runtime.consumeToken]
      split
      · exact ⟨silent.buffers, silent.calls⟩
      · exact silent

theorem removeToken (silent : rt.Silent next) (token : Option Fd) :
    rt.Silent (CancelSlot.remove token next) := by
  cases token with
  | none => exact silent
  | some fd => exact silent.settle _

private theorem submitToken (silent : rt.Silent next) (self : Addr)
    (token : Option Fd) :
    rt.Silent (CancelSlot.submit self token next) := by
  unfold CancelSlot.submit
  split
  · exact silent
  · cases token with
    | none => exact silent
    | some fd => exact silent.settle _

theorem consumeTimer (silent : rt.Silent next) :
    rt.Silent next.consumeTimer := by
  simp only [Runtime.consumeTimer]
  split
  · exact ⟨silent.buffers, silent.calls⟩
  · split
    · exact ⟨silent.buffers, silent.calls⟩
    · exact ⟨silent.buffers, silent.calls⟩

theorem refresh (silent : rt.Silent next) :
    rt.Silent next.refreshTimerRegistration := by
  have refreshed := silent.retimed next.timer.refreshCurrentTimer
  simp only [refreshTimerRegistration]
  split
  · exact refreshed.settle _
  · exact refreshed.settle _

end Silent

theorem Silent.receives {middle after : Runtime queues} {conn : Fd}
    {buf : BufferRef} {outcome : RecvOutcome} (silent : rt.Silent middle)
    (received : middle.Receives after conn buf outcome)
    (later : after.Silent next) : rt.Receives next conn buf outcome := by
  refine ⟨?_, ?_⟩
  · rw [later.buffers, received.buffer, silent.buffers]
  · rw [later.calls, received.calls, silent.calls, silent.buffers]

theorem receives_tryRead (rt : Runtime queues) (conn : Fd)
    (buf : BufferRef) (outcome : RecvOutcome) :
    rt.Receives (rt.tryRead conn buf outcome).1 conn buf outcome :=
  ⟨Function.update_self buf _ _, rfl⟩

end Runtime

/-! ## Resuming a read -/

namespace Operation

/-- The arguments of `async_read` and of `async_read_timeout`. -/
def reads? : Operation → Option Base
  | .asyncRead base => some base
  | .asyncReadTimeout base _ => some base
  | _ => none

/-- `await_resume` gets to its `recv`: the operation is neither cancelled nor
timed out. -/
def receives (self : Addr) (rt : Runtime queues) : Operation → Bool
  | .asyncRead base => !rt.cancelRequested base.cancelToken
  | .asyncReadTimeout base _ =>
      !rt.cancelRequested base.cancelToken && !timedOut self rt
  | _ => false

/-- The error that an operation reports when its `await_resume` makes no
transfer. -/
def refusal (rt : Runtime queues) (operation : Operation) : ErrorCode :=
  if rt.cancelRequested operation.token? then operationCancelledError
  else timeoutError

theorem refusal_ne_zero (rt : Runtime queues) (operation : Operation) :
    operation.refusal rt ≠ 0 := by
  unfold refusal
  split <;> decide

/-- A loop that is gone round returns only if it is cancelled. -/
theorem ec_of_goneRound {cancelled : Bool} {count : Nat} {result : OpResult}
    (ended : (if cancelled = true then
      some (OpResult.transfer operationCancelledError count) else none) =
        some result) : result.ec = operationCancelledError := by
  split at ended
  · cases ended
    rfl
  · cases ended

theorem reads_cases (reads : operation.reads? = some base) :
    operation = .asyncRead base ∨
      ∃ delay, operation = .asyncReadTimeout base delay := by
  cases operation with
  | asyncRead args =>
      cases reads
      exact Or.inl rfl
  | asyncReadTimeout args delay =>
      cases reads
      exact Or.inr ⟨delay, rfl⟩
  | _ => cases reads

theorem timedOut_remove (self : Addr) (token : Option Fd)
    (rt : Runtime queues) :
    timedOut self (CancelSlot.remove token rt) = timedOut self rt := by
  have settled : ∀ outcome : Scheduler.Outcome,
      timedOut self (rt.settle outcome) = timedOut self rt := by
    rintro ⟨scheduler, thrown⟩
    cases thrown with
    | none => rfl
    | some error => rfl
  cases token with
  | none => rfl
  | some fd => exact settled _

/-- The tail of `await_resume`: `try_read` after calls that transfer nothing,
and `remove_read`. -/
theorem tryRead_removeRead {middle : Runtime queues}
    (silent : rt.Silent middle) (conn : Fd) (buf : BufferRef)
    (outcome : RecvOutcome) :
    rt.Receives ((middle.tryRead conn buf outcome).1.removeRead conn) conn
        buf outcome ∧
      (middle.tryRead conn buf outcome).2 =
        (tryRead (rt.buffers buf) outcome).1 := by
  refine ⟨silent.receives (middle.receives_tryRead conn buf outcome)
    ((Runtime.Silent.refl _).settle _), ?_⟩
  rw [← silent.buffers]
  rfl

theorem resumeOnce_receives (self : Addr) (io : Io) (total : Nat)
    (reads : operation.reads? = some base)
    (received : operation.receives self rt = true) :
    rt.Receives (operation.resumeOnce self io total rt).rt base.conn base.buf
        io.recv ∧
      (operation.resumeOnce self io total rt).returned =
        (readBody (tryRead (rt.buffers base.buf) io.recv).2
          (tryRead (rt.buffers base.buf) io.recv).1).map
            OpResult.ofPair := by
  rcases reads_cases reads with rfl | ⟨delay, rfl⟩
  · have quiet : rt.cancelRequested base.cancelToken = false := by
      simpa [receives] using received
    obtain ⟨made, awaited⟩ := tryRead_removeRead
      ((Runtime.Silent.refl rt).removeToken base.cancelToken) base.conn
      base.buf io.recv
    simp only [resumeOnce, InnerRecvAwaiter.awaitResume,
      CancelSlot.isCancelEvent, quiet, Bool.false_eq_true, if_false]
    refine ⟨made, ?_⟩
    rw [made.buffer, awaited]
  · have quiet : rt.cancelRequested base.cancelToken = false ∧
        timedOut self rt = false := by
      simpa [receives] using received
    have silent := (((Runtime.Silent.refl rt).removeToken
      base.cancelToken).cancelTimer ⟨self, .timer⟩).refresh
    obtain ⟨made, awaited⟩ :=
      tryRead_removeRead silent base.conn base.buf io.recv
    simp only [resumeOnce, InnerRecvTimeoutAwaiter.awaitResume,
      CancelSlot.isCancelEvent, quiet.1, timedOut_remove, quiet.2,
      Bool.false_eq_true, if_false]
    refine ⟨made, ?_⟩
    rw [made.buffer, awaited]

/-- Cancelled or timed out, a read ends with that error and the count of the
buffer. -/
theorem resumeOnce_misses (self : Addr) (io : Io) (total : Nat)
    (reads : operation.reads? = some base)
    (missed : operation.receives self rt = false) :
    rt.Silent (operation.resumeOnce self io total rt).rt ∧
      (operation.resumeOnce self io total rt).returned =
        some (.transfer (operation.refusal rt)
          (rt.buffers base.buf).readCount) := by
  have cancelledError : operationCancelledError ≠ 0 := by decide
  have expiredError : timeoutError ≠ 0 := by decide
  have entered := Runtime.Silent.refl rt
  rcases reads_cases reads with rfl | ⟨delay, rfl⟩
  · have cancelled : rt.cancelRequested base.cancelToken = true := by
      simpa [receives] using missed
    have silent : rt.Silent (CancelSlot.remove base.cancelToken
        ((CancelSlot.consume base.cancelToken rt).removeRead base.conn)) :=
      ((entered.consumeToken _).settle _).removeToken _
    simp only [resumeOnce, InnerRecvAwaiter.awaitResume,
      CancelSlot.isCancelEvent, refusal, token?, cancelled, if_true]
    refine ⟨silent, ?_⟩
    rw [readBody_of_error cancelledError, silent.buffers]
    rfl
  · cases cancelled : rt.cancelRequested base.cancelToken with
    | true =>
        have silent : rt.Silent (CancelSlot.remove base.cancelToken
            (((CancelSlot.consume base.cancelToken rt).cancelTimer
              ⟨self, .timer⟩).removeRead
                base.conn)).refreshTimerRegistration :=
          ((((entered.consumeToken _).cancelTimer _).settle
            _).removeToken _).refresh
        simp only [resumeOnce, InnerRecvTimeoutAwaiter.awaitResume,
          CancelSlot.isCancelEvent, refusal, token?, cancelled, if_true]
        refine ⟨silent, ?_⟩
        rw [readBody_of_error cancelledError, silent.buffers]
        rfl
    | false =>
        have expired : timedOut self rt = true := by
          simpa [receives, cancelled] using missed
        have silent : rt.Silent
            ((((CancelSlot.remove base.cancelToken
              rt).consumeTimer).cancelTimer ⟨self, .timer⟩).removeRead
                base.conn).refreshTimerRegistration :=
          ((((entered.removeToken _).consumeTimer).cancelTimer
            _).settle _).refresh
        simp only [resumeOnce, InnerRecvTimeoutAwaiter.awaitResume,
          CancelSlot.isCancelEvent, refusal, token?, cancelled,
          Bool.false_eq_true, if_false, timedOut_remove, expired, if_true]
        refine ⟨silent, ?_⟩
        rw [readBody_of_error expiredError, silent.buffers]
        rfl

theorem awaitSuspend_silent (operation : Operation) (self : Addr)
    (rt : Runtime queues) : rt.Silent (operation.awaitSuspend self rt).1 := by
  have entered := Runtime.Silent.refl rt
  cases operation with
  | asyncRead base =>
      simp only [awaitSuspend, InnerRecvAwaiter.awaitSuspend]
      split
      · exact entered
      · exact (entered.settle _).submitToken self _
  | asyncReadTimeout base delay =>
      simp only [awaitSuspend, InnerRecvTimeoutAwaiter.awaitSuspend]
      split
      · exact entered
      · exact (((entered.settle _).retimed _).refresh).submitToken self _
  | asyncWrite base =>
      simp only [awaitSuspend, InnerSendAwaiter.awaitSuspend]
      split
      · exact entered
      · exact (entered.settle _).submitToken self _
  | asyncWriteTimeout base delay =>
      simp only [awaitSuspend, InnerSendTimeoutAwaiter.awaitSuspend]
      split
      · exact entered
      · exact (((entered.settle _).retimed _).refresh).submitToken self _
  | asyncReadSome conn buf => exact entered.settle _
  | asyncAccept conn => exact entered.settle _
  | asyncConnect conn => exact entered.settle _
  | waitFor delay => exact (entered.retimed _).settle _

theorem receives_of_cancelled (self : Addr)
    (reads : operation.reads? = some base)
    (cancelled : rt.cancelRequested operation.token? = true) :
    operation.receives self rt = false := by
  rcases reads_cases reads with rfl | ⟨delay, rfl⟩
  · simpa [receives, token?] using cancelled
  · have requested : rt.cancelRequested base.cancelToken = true := cancelled
    simp [receives, requested]

/-- Going round the loop makes no transfer, and ends the read only if it is
cancelled. -/
theorem loop_silent (self : Addr) (turns total : Nat)
    (rt : Runtime queues) (reads : operation.reads? = some base) :
    rt.Silent (loop self operation (turns + 1) total rt).rt ∧
      (loop self operation (turns + 1) total rt).returned =
        if rt.cancelRequested operation.token? then
          some (.transfer operationCancelledError
            (rt.buffers base.buf).readCount)
        else none := by
  rw [loop_succ]
  cases cancelled : rt.cancelRequested operation.token? with
  | true =>
      obtain ⟨silent, returned⟩ := resumeOnce_misses self {}
        total reads (receives_of_cancelled self reads cancelled)
      refine ⟨silent, ?_⟩
      rw [if_pos rfl, if_pos rfl, returned, refusal, if_pos cancelled]
  | false => exact ⟨awaitSuspend_silent operation self rt, rfl⟩

/-- A wake-up that gets to its `recv` makes one.  It ends the read as the body
of the loop says; otherwise the read goes on, unless its token was cancelled
meanwhile. -/
theorem wake_receives (self : Addr) (io : Io) (total : Nat)
    (reads : operation.reads? = some base)
    (received : operation.receives self rt = true) :
    rt.Receives (operation.wake self io total rt).rt base.conn base.buf
        io.recv ∧
      match readBody (tryRead (rt.buffers base.buf) io.recv).2
          (tryRead (rt.buffers base.buf) io.recv).1 with
      | some returned =>
          (operation.wake self io total rt).returned =
            some (OpResult.ofPair returned)
      | none =>
          (operation.wake self io total rt).returned =
            if (operation.resumeOnce self io total rt).rt.cancelRequested
                operation.token? then
              some (.transfer operationCancelledError
                (tryRead (rt.buffers base.buf) io.recv).2.readCount)
            else none := by
  obtain ⟨made, returned⟩ := resumeOnce_receives self io total reads received
  cases body : readBody (tryRead (rt.buffers base.buf) io.recv).2
      (tryRead (rt.buffers base.buf) io.recv).1 with
  | some pair =>
      rw [body, Option.map_some] at returned
      simp only [wake, returned]
      exact ⟨made, trivial⟩
  | none =>
      rw [body, Option.map_none] at returned
      simp only [wake, returned]
      obtain ⟨silent, again⟩ := loop_silent self 0
        (operation.resumeOnce self io total rt).total
        (operation.resumeOnce self io total rt).rt reads
      refine ⟨(Runtime.Silent.refl rt).receives made silent, ?_⟩
      rw [again, made.buffer]

theorem wake_misses (self : Addr) (io : Io) (total : Nat)
    (reads : operation.reads? = some base)
    (missed : operation.receives self rt = false) :
    rt.Silent (operation.wake self io total rt).rt ∧
      (operation.wake self io total rt).returned =
        some (.transfer (operation.refusal rt)
          (rt.buffers base.buf).readCount) := by
  obtain ⟨silent, returned⟩ :=
    resumeOnce_misses self io total reads missed
  simp only [wake, returned]
  exact ⟨silent, trivial⟩

theorem start_of_reads (self : Addr) (io : Io)
    (reads : operation.reads? = some base) :
    operation.start self io rt = loop self operation 1 0 rt := by
  rcases reads_cases reads with rfl | ⟨delay, rfl⟩
  · rfl
  · rfl

/-- `async_read_some` makes one `recv` and returns its pair. -/
theorem wake_readSome (self : Addr) (conn : Fd) (buf : BufferRef) (io : Io)
    (total : Nat) (rt : Runtime queues) :
    rt.Receives ((asyncReadSome conn buf).wake self io total rt).rt conn buf
        io.recv ∧
      ((asyncReadSome conn buf).wake self io total rt).returned =
        some (OpResult.ofPair (tryRead (rt.buffers buf) io.recv).1) := by
  have silent := (Runtime.Silent.refl rt).settle
    (rt.scheduler.removeRead none conn)
  refine ⟨silent.receives (Runtime.receives_tryRead _ conn buf io.recv)
    (Runtime.Silent.refl _), ?_⟩
  rw [← silent.buffers]
  rfl

end Operation

/-! ## Runs of a read -/

/-- A wake-up of the operation: what the rest of the program has done to the
runtime since the last one, and what the system calls give now. -/
structure WakeUp (queues : TimerQueue) where
  meanwhile : Runtime queues → Runtime queues
  io : Io

/-- A read so far: what its coroutine left, and what its last `recv` gave. -/
structure Reading (queues : TimerQueue) where
  stretch : Stretch queues
  lastRecv : Option RecvOutcome

namespace Reading

def start (self : Addr) (operation : Operation) (io : Io)
    (rt : Runtime queues) : Reading queues :=
  ⟨operation.start self io rt, none⟩

/-- The runtime in which a wake-up finds the operation. -/
def found (reading : Reading queues) (wakeUp : WakeUp queues) :
    Runtime queues :=
  wakeUp.meanwhile reading.stretch.rt

def step (self : Addr) (operation : Operation) (base : Base)
    (reading : Reading queues) (wakeUp : WakeUp queues) :
    Option (Reading queues) :=
  let rt := reading.found wakeUp
  if reading.stretch.returned = none ∧
      wakeUp.io.recv.possible (rt.buffers base.buf).remain = true then
    some
      { stretch := operation.wake self wakeUp.io reading.stretch.total rt
        lastRecv :=
          if operation.receives self rt then some wakeUp.io.recv
          else reading.lastRecv }
  else
    none

/-- The empty error code means a full buffer or the end of the stream, and a
`recv` that would block has not ended the read. -/
def Truthful (base : Base) (reading : Reading queues) : Prop :=
  (∀ result, reading.stretch.returned = some result → result.ec = 0 →
    (reading.stretch.rt.buffers base.buf).done = true ∨
      reading.lastRecv = some (.received [])) ∧
  ∀ outcome, reading.lastRecv = some outcome →
    outcome.wouldBlock = true → reading.stretch.returned = none

/-- The wake-up's `recv`, if it gets that far, does not block. -/
def Flows (self : Addr) (operation : Operation) (reading : Reading queues)
    (wakeUp : WakeUp queues) : Prop :=
  operation.receives self (reading.found wakeUp) = true →
    wakeUp.io.recv.wouldBlock = false

instance (self : Addr) (operation : Operation) (reading : Reading queues)
    (wakeUp : WakeUp queues) :
    Decidable (Flows self operation reading wakeUp) :=
  inferInstanceAs (Decidable (_ → _))

/-- A read that is still pending has not seen a `recv` that would block. -/
def Unblocked (reading : Reading queues) : Prop :=
  reading.stretch.returned = none →
    ∀ outcome, reading.lastRecv = some outcome → outcome.wouldBlock = false

variable {reading after : Reading queues} {wakeUp : WakeUp queues}

private theorem step_pending
    (taken : reading.step self operation base wakeUp = some after) :
    reading.stretch.returned = none := by
  simp only [step] at taken
  split at taken
  · rename_i enabled
    exact enabled.1
  · cases taken

/-- A wake-up leaves a truthful read exactly if its `recv` does not block. -/
theorem step_spec (reads : operation.reads? = some base)
    (unblocked : reading.Unblocked)
    (taken : reading.step self operation base wakeUp = some after) :
    after.Unblocked ∧
      (after.Truthful base ↔ reading.Flows self operation wakeUp) := by
  simp only [step] at taken
  split at taken
  · rename_i enabled
    obtain ⟨pending, possible⟩ := enabled
    cases taken
    cases received : operation.receives self (reading.found wakeUp) with
    | false =>
        obtain ⟨_, returned⟩ := Operation.wake_misses self
          wakeUp.io reading.stretch.total reads received
        have error := operation.refusal_ne_zero (reading.found wakeUp)
        have flows : reading.Flows self operation wakeUp := by
          intro makes
          rw [received] at makes
          cases makes
        refine ⟨fun goes => ?_, iff_of_true ⟨fun other here empty => ?_,
          fun outcome last blocks => ?_⟩ flows⟩
        · rw [returned] at goes
          cases goes
        · have same := Option.some.inj (returned.symm.trans here)
          rw [← same] at empty
          exact absurd empty error
        · simp only [Bool.false_eq_true, if_false] at last
          have flowed := unblocked pending outcome last
          rw [blocks] at flowed
          cases flowed
    | true =>
        obtain ⟨made, returned⟩ := Operation.wake_receives self
          wakeUp.io reading.stretch.total reads received
        cases blocks : wakeUp.io.recv.wouldBlock with
        | true =>
            rw [readBody_of_wouldBlock _ blocks] at returned
            refine ⟨fun goes => ?_, iff_of_false (fun truthful => ?_)
              (fun flows => ?_)⟩
            · rw [returned] at goes
              cases goes
            · have waits := truthful.2 wakeUp.io.recv (by simp) blocks
              rw [returned] at waits
              cases waits
            · have flowed := flows received
              rw [blocks] at flowed
              cases flowed
        | false =>
            have flowed : ∀ outcome,
                some wakeUp.io.recv = some outcome →
                  outcome.wouldBlock = false := by
              rintro outcome ⟨⟩
              exact blocks
            refine ⟨fun _ outcome last => flowed outcome last, iff_of_true
              ⟨fun result here empty => ?_, fun outcome last again => ?_⟩
              (fun _ => blocks)⟩
            · split at returned
              · rename_i pair ends
                rw [returned] at here
                cases here
                rw [made.buffer]
                refine (readBody_ends possible blocks ends empty).imp id
                  fun closed => ?_
                exact congrArg some closed
              · rw [returned] at here
                rw [Operation.ec_of_goneRound here] at empty
                exact absurd empty (by decide)
            · rw [flowed outcome last] at again
              cases again
  · cases taken

/-- For every run of `async_read` and `async_read_timeout`: the read is
truthful exactly if none of its `recv`s would have blocked.  `async_read_some`
reports no error and no bytes, with room left in the buffer, only at the end
of the stream, unless its `recv` would have blocked. -/
theorem truthful_iff_flows (self : Addr) :
    (∀ (operation : Operation) (base : Base) (io : Io)
        (rt : Runtime queues) (wakeUps : List (WakeUp queues))
        (final : Reading queues),
      operation.reads? = some base →
      runFrom (step self operation base) (start self operation io rt)
        wakeUps = some final →
      (final.Truthful base ↔
        Meets (step self operation base) (Flows self operation)
          (start self operation io rt) wakeUps)) ∧
    ∀ (conn : Fd) (buf : BufferRef) (io : Io) (total : Nat)
        (rt : Runtime queues),
      io.recv.possible (rt.buffers buf).remain = true →
      ((((Operation.asyncReadSome conn buf).wake self io total rt).returned =
          some (.transfer 0 0) →
        (((Operation.asyncReadSome conn buf).wake self io total
          rt).rt.buffers buf).done = false →
          io.recv = .received []) ↔
        (io.recv.wouldBlock = true → (rt.buffers buf).done = true)) := by
  constructor
  · intro operation base io rt wakeUps final reads run
    refine law_iff_meets_of_run Unblocked (Truthful base)
      (Flows self operation)
      (fun unblocked _ taken => (step_spec reads unblocked taken).1)
      (fun unblocked _ taken => ?_) ?_ ⟨?_, ?_⟩
      (meets_of_forall_mem fun _ _ _ => trivial) run
    · have pending := step_pending taken
      rw [(step_spec reads unblocked taken).2, and_iff_right]
      refine ⟨fun result here => ?_, fun _ _ _ => pending⟩
      rw [pending] at here
      cases here
    · intro _ outcome last
      cases last
    · intro result returned empty
      simp only [start, Operation.start_of_reads self io reads,
        (Operation.loop_silent self 0 0 rt reads).2] at returned
      rw [Operation.ec_of_goneRound returned] at empty
      exact absurd empty (by decide)
    · intro outcome last
      cases last
  · intro conn buf io total rt possible
    obtain ⟨made, returned⟩ :=
      Operation.wake_readSome self conn buf io total rt
    rw [returned, made.buffer]
    constructor
    · intro truthful blocks
      by_contra room
      rw [tryRead_of_wouldBlock _ blocks] at truthful
      have closed := truthful rfl (Bool.eq_false_iff.mpr room)
      rw [closed] at blocks
      cases blocks
    · intro full here room
      cases blocks : io.recv.wouldBlock with
      | true =>
          rw [tryRead_of_wouldBlock _ blocks, full blocks] at room
          cases room
      | false =>
          refine tryRead_zero possible blocks ?_
          cases read : (tryRead (rt.buffers buf) io.recv).1 with
          | mk ec count =>
              rw [read] at here
              cases here
              rfl

/-- Two reads of one byte fill a buffer of two. -/
theorem truthful_iff_flows_sample :
    ∃ final : Reading TimerQueue.sorted,
      runFrom (step 10 (.asyncRead ⟨5, 0, none⟩) ⟨5, 0, none⟩)
        (start 10 (.asyncRead ⟨5, 0, none⟩) {}
          (System.initial TimerQueue.sorted 3 100 fun _ => ⟨[0, 0], 0⟩).rt)
        [⟨id, { recv := .received [7] }⟩, ⟨id, { recv := .received [8] }⟩] =
          some final ∧
      final.stretch.returned = some (.transfer 0 2) ∧
      final.Truthful ⟨5, 0, none⟩ := by
  have ends : (runFrom (step 10 (.asyncRead ⟨5, 0, none⟩) ⟨5, 0, none⟩)
      (start 10 (.asyncRead ⟨5, 0, none⟩) {}
        (System.initial TimerQueue.sorted 3 100 fun _ => ⟨[0, 0], 0⟩).rt)
      [⟨id, { recv := .received [7] }⟩,
        ⟨id, { recv := .received [8] }⟩]).any
          (fun final => final.stretch.returned = some (.transfer 0 2)) =
            true := by
    decide +kernel
  obtain ⟨final, run, returned⟩ := (Option.any_eq_true _ _).mp ends
  refine ⟨final, run, of_decide_eq_true returned, ?_⟩
  refine ((truthful_iff_flows 10).1 _ _ _ _ _ _ rfl run).mpr ?_
  decide +kernel

/-- A wake-up without data ends the read with the empty error code, one byte
read and room for another. -/
theorem truthful_counterexample :
    ∃ final : Reading TimerQueue.sorted,
      runFrom (step 10 (.asyncRead ⟨5, 0, none⟩) ⟨5, 0, none⟩)
        (start 10 (.asyncRead ⟨5, 0, none⟩) {}
          (System.initial TimerQueue.sorted 3 100 fun _ => ⟨[0, 0], 0⟩).rt)
        [⟨id, { recv := .received [7] }⟩, ⟨id, { recv := .failed EAGAIN }⟩] =
          some final ∧
      final.stretch.returned = some (.transfer 0 1) ∧
      (final.stretch.rt.buffers 0).done = false ∧
      final.lastRecv = some (.failed EAGAIN) ∧
      ¬ final.Truthful ⟨5, 0, none⟩ := by
  have ends : (runFrom (step 10 (.asyncRead ⟨5, 0, none⟩) ⟨5, 0, none⟩)
      (start 10 (.asyncRead ⟨5, 0, none⟩) {}
        (System.initial TimerQueue.sorted 3 100 fun _ => ⟨[0, 0], 0⟩).rt)
      [⟨id, { recv := .received [7] }⟩,
        ⟨id, { recv := .failed EAGAIN }⟩]).any
          (fun final =>
            final.stretch.returned = some (.transfer 0 1) ∧
              (final.stretch.rt.buffers 0).done = false ∧
                final.lastRecv = some (.failed EAGAIN)) = true := by
    decide +kernel
  obtain ⟨final, run, passed⟩ := (Option.any_eq_true _ _).mp ends
  obtain ⟨returned, room, last⟩ := of_decide_eq_true passed
  refine ⟨final, run, returned, room, last, fun truthful => ?_⟩
  rcases truthful.1 _ returned rfl with full | closed
  · rw [room] at full
    cases full
  · rw [last] at closed
    cases closed

end Reading

end AsyncFrame
