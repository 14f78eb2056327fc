import AsyncFrame.ReadLoop

/-!
# Wake-ups of a write

The counterpart of the read's wake-ups: a wake-up of `async_write` or
`async_write_timeout` makes one `send`, unless the operation is cancelled or
timed out, and then none.
-/

namespace AsyncFrame

open Lib

variable {queues : TimerQueue} {rt next : Runtime queues}
variable {operation : Operation} {base : Base} {self : Addr} {io : Io}
variable {total : Nat}

/-- What `send` can give when it is passed `remain` bytes. -/
def SendOutcome.possible (remain : Nat) : SendOutcome → Bool
  | .sent count => count ≤ remain && (count = 0 → remain = 0)
  | .failed errno => errno ≠ 0

/-- One `send` was made. -/
structure Runtime.Sends (rt next : Runtime queues) (conn : Fd)
    (buf : BufferRef) (outcome : SendOutcome) : Prop where
  buffer : next.buffers buf =
    (AsyncFrame.tryWrite (rt.buffers buf) outcome).2
  calls : next.calls =
    .send conn (rt.buffers buf).offset (rt.buffers buf).remain outcome ::
      rt.calls

namespace Runtime

private theorem Silent.sends {middle after : Runtime queues} {conn : Fd}
    {buf : BufferRef} {outcome : SendOutcome} (silent : rt.Silent middle)
    (sent : middle.Sends after conn buf outcome)
    (later : after.Silent next) : rt.Sends next conn buf outcome := by
  refine ⟨?_, ?_⟩
  · rw [later.buffers, sent.buffer, silent.buffers]
  · rw [later.calls, sent.calls, silent.calls, silent.buffers]

private theorem sends_tryWrite (rt : Runtime queues) (conn : Fd)
    (buf : BufferRef) (outcome : SendOutcome) :
    rt.Sends (rt.tryWrite conn buf outcome).1 conn buf outcome :=
  ⟨Function.update_self buf _ _, rfl⟩

end Runtime

namespace Operation

/-- The arguments of `async_write` and of `async_write_timeout`. -/
def writes? : Operation → Option Base
  | .asyncWrite base => some base
  | .asyncWriteTimeout base _ => some base
  | _ => none

/-- `await_resume` gets to its `send`: the operation is neither cancelled nor
timed out. -/
def sends (self : Addr) (rt : Runtime queues) : Operation → Bool
  | .asyncWrite base => !rt.cancelRequested base.cancelToken
  | .asyncWriteTimeout base _ =>
      !rt.cancelRequested base.cancelToken && !timedOut self rt
  | _ => false

theorem writes_cases (writes : operation.writes? = some base) :
    operation = .asyncWrite base ∨
      ∃ delay, operation = .asyncWriteTimeout base delay := by
  cases operation with
  | asyncWrite args =>
      cases writes
      exact Or.inl rfl
  | asyncWriteTimeout args delay =>
      cases writes
      exact Or.inr ⟨delay, rfl⟩
  | _ => cases writes

private theorem tryWrite_of_silent {middle : Runtime queues}
    (silent : rt.Silent middle) (conn : Fd) (buf : BufferRef)
    (outcome : SendOutcome) :
    rt.Sends (middle.tryWrite conn buf outcome).1 conn buf outcome ∧
      (middle.tryWrite conn buf outcome).2 =
        (AsyncFrame.tryWrite (rt.buffers buf) outcome).1 := by
  refine ⟨silent.sends (middle.sends_tryWrite conn buf outcome)
    (Runtime.Silent.refl _), ?_⟩
  rw [← silent.buffers]
  rfl

/-- A wake-up that gets to its `send` makes one, and the body of the loop has
the last word. -/
theorem resumeOnce_sends (self : Addr) (io : Io) (total : Nat)
    (writes : operation.writes? = some base)
    (sent : operation.sends self rt = true) :
    rt.Sends (operation.resumeOnce self io total rt).rt base.conn base.buf
        io.send ∧
      (operation.resumeOnce self io total rt).total =
        (writeBody total (tryWrite (rt.buffers base.buf) io.send).1).1 ∧
      (operation.resumeOnce self io total rt).returned =
        (writeBody total (tryWrite (rt.buffers base.buf) io.send).1).2.map
          OpResult.ofPair := by
  rcases writes_cases writes with rfl | ⟨delay, rfl⟩
  · have quiet : rt.cancelRequested base.cancelToken = false := by
      simpa [sends] using sent
    have silent := ((Runtime.Silent.refl rt).removeToken
      base.cancelToken).settle ((CancelSlot.remove base.cancelToken
        rt).scheduler.removeWrite none base.conn)
    obtain ⟨made, awaited⟩ :=
      tryWrite_of_silent silent base.conn base.buf io.send
    simp only [resumeOnce, InnerSendAwaiter.awaitResume,
      CancelSlot.isCancelEvent, quiet, Bool.false_eq_true, if_false]
    rw [← awaited]
    exact ⟨made, rfl, rfl⟩
  · have quiet : rt.cancelRequested base.cancelToken = false ∧
        timedOut self rt = false := by
      simpa [sends] using sent
    have silent := (((Runtime.Silent.refl rt).removeToken
      base.cancelToken).cancelTimer ⟨self, .timer⟩).refresh
    obtain ⟨made, awaited⟩ :=
      tryWrite_of_silent silent base.conn base.buf io.send
    simp only [resumeOnce, InnerSendTimeoutAwaiter.awaitResume,
      CancelSlot.isCancelEvent, quiet.1, timedOut_remove, quiet.2,
      Bool.false_eq_true, if_false]
    rw [← awaited]
    exact ⟨(Runtime.Silent.refl rt).sends made
      ((Runtime.Silent.refl _).settle _), rfl, rfl⟩

/-- Cancelled or timed out, a write ends with that error and what it has sent
before. -/
theorem resumeOnce_skips (self : Addr) (io : Io) (total : Nat)
    (writes : operation.writes? = some base)
    (skipped : operation.sends self rt = false) :
    rt.Silent (operation.resumeOnce self io total rt).rt ∧
      (operation.resumeOnce self io total rt).returned =
        some (.transfer (operation.refusal rt) total) := by
  have entered := Runtime.Silent.refl rt
  rcases writes_cases writes with rfl | ⟨delay, rfl⟩
  · have cancelled : rt.cancelRequested base.cancelToken = true := by
      simpa [sends] using skipped
    simp only [resumeOnce, InnerSendAwaiter.awaitResume,
      CancelSlot.isCancelEvent, refusal, token?, cancelled, if_true]
    exact ⟨((entered.consumeToken _).settle _).removeToken _, rfl⟩
  · cases cancelled : rt.cancelRequested base.cancelToken with
    | true =>
        simp only [resumeOnce, InnerSendTimeoutAwaiter.awaitResume,
          CancelSlot.isCancelEvent, refusal, token?, cancelled, if_true]
        exact ⟨((((entered.consumeToken _).cancelTimer _).settle
          _).removeToken _).refresh, rfl⟩
    | false =>
        have expired : timedOut self rt = true := by
          simpa [sends, cancelled] using skipped
        simp only [resumeOnce, InnerSendTimeoutAwaiter.awaitResume,
          CancelSlot.isCancelEvent, refusal, token?, cancelled,
          Bool.false_eq_true, if_false, timedOut_remove, expired, if_true]
        exact ⟨((((entered.removeToken _).consumeTimer).cancelTimer
          _).settle _).refresh, rfl⟩

theorem sends_of_cancelled (self : Addr)
    (writes : operation.writes? = some base)
    (cancelled : rt.cancelRequested operation.token? = true) :
    operation.sends self rt = false := by
  rcases writes_cases writes with rfl | ⟨delay, rfl⟩
  · simpa [sends, token?] using cancelled
  · have requested : rt.cancelRequested base.cancelToken = true := cancelled
    simp [sends, requested]

/-- Going round the loop makes no transfer, and ends the write only if it is
cancelled. -/
theorem loop_silent_write (self : Addr) (turns total : Nat)
    (rt : Runtime queues) (writes : operation.writes? = some base) :
    rt.Silent (loop self operation (turns + 1) total rt).rt ∧
      (loop self operation (turns + 1) total rt).returned =
        (if rt.cancelRequested operation.token? then
          some (.transfer operationCancelledError total)
        else none) ∧
      (rt.cancelRequested operation.token? = false →
        (loop self operation (turns + 1) total rt).total = total) := by
  rw [loop_succ]
  cases cancelled : rt.cancelRequested operation.token? with
  | true =>
      obtain ⟨silent, returned⟩ := resumeOnce_skips self {}
        total writes (sends_of_cancelled self writes cancelled)
      refine ⟨silent, ?_, fun quiet => by cases quiet⟩
      rw [if_pos rfl, if_pos rfl, returned, refusal, if_pos cancelled]
  | false =>
      exact ⟨awaitSuspend_silent operation self rt, rfl, fun _ => rfl⟩

/-- A wake-up that gets to its `send` makes one.  It ends the write as the
body of the loop says; otherwise the write goes on, unless its token was
cancelled meanwhile. -/
theorem wake_sends (self : Addr) (io : Io) (total : Nat)
    (writes : operation.writes? = some base)
    (sent : operation.sends self rt = true) :
    rt.Sends (operation.wake self io total rt).rt base.conn base.buf
        io.send ∧
      match writeBody total (tryWrite (rt.buffers base.buf) io.send).1 with
      | (_, some returned) =>
          (operation.wake self io total rt).returned =
            some (OpResult.ofPair returned)
      | (added, none) =>
          ((operation.wake self io total rt).returned =
            if (operation.resumeOnce self io total rt).rt.cancelRequested
                operation.token? then
              some (.transfer operationCancelledError added)
            else none) ∧
          ((operation.wake self io total rt).returned = none →
            (operation.wake self io total rt).total = added) := by
  obtain ⟨made, counted, returned⟩ :=
    resumeOnce_sends self io total writes sent
  rcases body : writeBody total (tryWrite (rt.buffers base.buf) io.send).1
    with ⟨added, ended⟩
  rw [body] at counted returned
  cases ended with
  | some pair =>
      simp only [Option.map_some] at returned
      simp only [wake, returned]
      exact ⟨made, trivial⟩
  | none =>
      simp only [Option.map_none] at returned
      simp only [wake, returned]
      obtain ⟨silent, again, kept⟩ := loop_silent_write self 0
        (operation.resumeOnce self io total rt).total
        (operation.resumeOnce self io total rt).rt writes
      rw [counted] at silent again kept
      rw [counted]
      refine ⟨(Runtime.Silent.refl rt).sends made silent, again, ?_⟩
      intro pending
      apply kept
      cases cancelled : (operation.resumeOnce self io total
          rt).rt.cancelRequested operation.token? with
      | false => rfl
      | true =>
          rw [again, cancelled] at pending
          cases pending

theorem wake_skips (self : Addr) (io : Io) (total : Nat)
    (writes : operation.writes? = some base)
    (skipped : operation.sends self rt = false) :
    rt.Silent (operation.wake self io total rt).rt ∧
      (operation.wake self io total rt).returned =
        some (.transfer (operation.refusal rt) total) := by
  obtain ⟨silent, returned⟩ :=
    resumeOnce_skips self io total writes skipped
  simp only [wake, returned]
  exact ⟨silent, trivial⟩

theorem start_of_writes (self : Addr) (io : Io)
    (writes : operation.writes? = some base) :
    operation.start self io rt = loop self operation 1 0 rt := by
  rcases writes_cases writes with rfl | ⟨delay, rfl⟩
  · rfl
  · rfl

end Operation

end AsyncFrame
