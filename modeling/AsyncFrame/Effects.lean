import AsyncFrame.Batches

/-!
# What a wake-up leaves to the others

A wake-up transfers on its own socket and buffer only, takes no time unless it
waits for the timerfd, and leaves the current timer to the operation that has
it.  Its class is that of the transfer, unless the operation is cancelled or
timed out.
-/

namespace AsyncFrame

open Lib

variable {queues : TimerQueue} {rt next : Runtime queues}
variable {operation : Operation} {self : Addr} {io : Io} {total : Nat}

/-! ## Buffers and transfers -/

/-- Between the two at most one transfer was made, on the operation's own
socket and buffer. -/
structure Confined (operation : Operation) (io : Io)
    (rt next : Runtime queues) : Prop where
  others : ∀ buf, operation.buf? ≠ some buf →
    next.buffers buf = rt.buffers buf
  own : ∀ buf, operation.buf? = some buf →
    next.buffers buf = rt.buffers buf ∨
      next.buffers buf = (tryRead (rt.buffers buf) io.recv).2 ∨
      next.buffers buf = (tryWrite (rt.buffers buf) io.send).2
  calls : next.calls = rt.calls ∨
    ∃ call direction, operation.socket? = some (call.fd, direction) ∧
      next.calls = call :: rt.calls

namespace Confined

private theorem of_silent (silent : rt.Silent next) :
    Confined operation io rt next where
  others _ _ := congrFun silent.buffers _
  own _ _ := Or.inl (congrFun silent.buffers _)
  calls := Or.inl silent.calls

private theorem then_silent {after : Runtime queues}
    (confined : Confined operation io rt next) (silent : next.Silent after) :
    Confined operation io rt after where
  others buf other := by
    rw [silent.buffers]
    exact confined.others buf other
  own buf here := by
    rw [silent.buffers]
    exact confined.own buf here
  calls := by
    rw [silent.calls]
    exact confined.calls

private theorem recv {middle : Runtime queues} (silent : rt.Silent middle)
    {conn : Fd} {buf : BufferRef} {direction : Direction}
    (socket : operation.socket? = some (conn, direction))
    (buffer : operation.buf? = some buf) :
    Confined operation io rt (middle.tryRead conn buf io.recv).1 where
  others other different := by
    have elsewhere : other ≠ buf := by
      rintro rfl
      exact different buffer
    rw [← silent.buffers]
    exact Function.update_of_ne elsewhere _ _
  own other here := by
    rw [buffer] at here
    cases here
    right; left
    rw [← silent.buffers]
    exact Function.update_self _ _ _
  calls := by
    right
    refine ⟨_, direction, ?_, congrArg (List.cons _) silent.calls⟩
    exact socket

private theorem send {middle : Runtime queues} (silent : rt.Silent middle)
    {conn : Fd} {buf : BufferRef} {direction : Direction}
    (socket : operation.socket? = some (conn, direction))
    (buffer : operation.buf? = some buf) :
    Confined operation io rt (middle.tryWrite conn buf io.send).1 where
  others other different := by
    have elsewhere : other ≠ buf := by
      rintro rfl
      exact different buffer
    rw [← silent.buffers]
    exact Function.update_of_ne elsewhere _ _
  own other here := by
    rw [buffer] at here
    cases here
    right; right
    rw [← silent.buffers]
    exact Function.update_self _ _ _
  calls := by
    right
    refine ⟨_, direction, ?_, congrArg (List.cons _) silent.calls⟩
    exact socket

/-- The transfers on the sockets of others are the same. -/
theorem transfers (confined : Confined operation io rt next) {fd : Fd}
    (other : ∀ direction, operation.socket? ≠ some (fd, direction)) :
    next.transfers fd = rt.transfers fd := by
  unfold Runtime.transfers
  rcases confined.calls with same | ⟨call, direction, socket, calls⟩
  · rw [same]
  · have elsewhere : call.fd ≠ fd := by
      rintro rfl
      exact other direction socket
    rw [calls, List.countP_cons_of_neg]
    simpa using elsewhere

/-- A failed transfer leaves every buffer as it was. -/
theorem buffers_of_failed (confined : Confined operation io rt next)
    {recvErrno sendErrno : Errno} (recv : io.recv = .failed recvErrno)
    (send : io.send = .failed sendErrno) : next.buffers = rt.buffers := by
  funext buf
  by_cases own : operation.buf? = some buf
  · have reads : (tryRead (rt.buffers buf) io.recv).2 = rt.buffers buf := by
      rw [recv, tryRead]
      split <;> rfl
    have writes : (tryWrite (rt.buffers buf) io.send).2 =
        rt.buffers buf := by
      rw [send, tryWrite]
      split <;> rfl
    rcases confined.own buf own with same | same | same
    · exact same
    · exact same.trans reads
    · exact same.trans writes
  · exact confined.others buf own

/-- A transfer of no bytes leaves every buffer as it was. -/
theorem buffer_of_full (confined : Confined operation io rt next)
    {buf : BufferRef} (recv : io.recv.possible 0 = true)
    (send : io.send.possible 0 = true) :
    next.buffers buf = rt.buffers buf := by
  by_cases own : operation.buf? = some buf
  · have reads : (tryRead (rt.buffers buf) io.recv).2 = rt.buffers buf := by
      cases outcome : io.recv with
      | received bytes =>
          rw [outcome] at recv
          have none : bytes.length = 0 :=
            Nat.le_zero.mp (of_decide_eq_true recv)
          rw [tryRead, if_pos none]
      | failed errno =>
          rw [tryRead]
          split <;> rfl
    have writes : (tryWrite (rt.buffers buf) io.send).2 =
        rt.buffers buf := by
      cases outcome : io.send with
      | sent count =>
          rw [outcome, SendOutcome.possible, Bool.and_eq_true] at send
          have none : count = 0 := Nat.le_zero.mp (of_decide_eq_true send.1)
          rw [tryWrite, if_pos none]
      | failed errno =>
          rw [tryWrite]
          split <;> rfl
    rcases confined.own buf own with same | same | same
    · exact same
    · exact same.trans reads
    · exact same.trans writes
  · exact confined.others buf own

end Confined

namespace Operation

theorem resumeOnce_confined (operation : Operation) (self : Addr) (io : Io)
    (total : Nat) (rt : Runtime queues) :
    Confined operation io rt
      (operation.resumeOnce self io total rt).rt := by
  have entered := Runtime.Silent.refl rt
  cases operation with
  | asyncRead base =>
      simp only [resumeOnce, InnerRecvAwaiter.awaitResume]
      split
      · exact .of_silent (((entered.consumeToken _).settle _).removeToken _)
      · exact (Confined.recv (entered.removeToken _) rfl rfl).then_silent
          ((Runtime.Silent.refl _).settle _)
  | asyncReadTimeout base delay =>
      simp only [resumeOnce, InnerRecvTimeoutAwaiter.awaitResume]
      split
      · exact .of_silent ((((entered.consumeToken _).cancelTimer _).settle
          _).removeToken _).refresh
      · split
        · exact .of_silent ((((entered.removeToken
            _).consumeTimer.cancelTimer _).settle _).refresh)
        · exact (Confined.recv ((entered.removeToken _).cancelTimer
            _).refresh rfl rfl).then_silent
              ((Runtime.Silent.refl _).settle _)
  | asyncReadSome conn buf =>
      exact Confined.recv (entered.settle _) rfl rfl
  | asyncWrite base =>
      simp only [resumeOnce, InnerSendAwaiter.awaitResume]
      split
      · exact .of_silent (((entered.consumeToken _).settle _).removeToken _)
      · exact Confined.send ((entered.removeToken _).settle _) rfl rfl
  | asyncWriteTimeout base delay =>
      simp only [resumeOnce, InnerSendTimeoutAwaiter.awaitResume]
      split
      · exact .of_silent ((((entered.consumeToken _).cancelTimer _).settle
          _).removeToken _).refresh
      · split
        · exact .of_silent ((((entered.removeToken
            _).consumeTimer.cancelTimer _).settle _).refresh)
        · exact (Confined.send ((entered.removeToken _).cancelTimer
            _).refresh rfl rfl).then_silent
              ((Runtime.Silent.refl _).settle _)
  | asyncAccept conn =>
      simp only [resumeOnce, InnerAcceptAwaiter.awaitResume]
      cases io.accept with
      | error errno => exact .of_silent (entered.settle _)
      | ok fd => exact .of_silent (entered.settle _)
  | asyncConnect conn => exact .of_silent (entered.settle _)
  | waitFor delay =>
      exact .of_silent ((entered.consumeTimer.retimed _).refresh)

/-! ## Whole wake-ups -/

/-- A resumption that has not returned was not cancelled. -/
theorem quiet_of_pending
    (waits : (operation.resumeOnce self io total rt).returned = none) :
    rt.cancelRequested operation.token? = false := by
  cases cancelled : rt.cancelRequested operation.token? with
  | false => rfl
  | true =>
      obtain ⟨result, ended, _⟩ :=
        returned_of_cancelled self io total cancelled
      rw [waits] at ended
      cases ended

/-- A wake-up is its resumption, and a suspension if that has not
returned. -/
theorem wake_eq
    (kept : FilesKept rt (operation.resumeOnce self io total rt).rt) :
    operation.wake self io total rt =
      match (operation.resumeOnce self io total rt).returned with
      | some _ => operation.resumeOnce self io total rt
      | none =>
          ⟨(operation.awaitSuspend self
              (operation.resumeOnce self io total rt).rt).1,
            (operation.resumeOnce self io total rt).total, none⟩ := by
  unfold wake
  cases waits : (operation.resumeOnce self io total rt).returned with
  | some result => simp only [waits]
  | none =>
      simp only [waits]
      rw [loop_succ, kept.cancelRequested, quiet_of_pending waits,
        if_neg Bool.false_ne_true]

theorem wake_returned
    (kept : FilesKept rt (operation.resumeOnce self io total rt).rt) :
    (operation.wake self io total rt).returned =
      (operation.resumeOnce self io total rt).returned := by
  rw [wake_eq kept]
  cases waits : (operation.resumeOnce self io total rt).returned with
  | some result => exact waits
  | none => rfl

theorem wake_confined
    (kept : FilesKept rt (operation.resumeOnce self io total rt).rt) :
    Confined operation io rt (operation.wake self io total rt).rt := by
  have once := operation.resumeOnce_confined self io total rt
  rw [wake_eq kept]
  cases (operation.resumeOnce self io total rt).returned with
  | some result => exact once
  | none => exact once.then_silent (awaitSuspend_silent operation self _)

/-- Neither cancelled nor timed out, an operation with a buffer makes one
transfer. -/
theorem resumeOnce_moves (self : Addr) (io : Io) (total : Nat)
    (quiet : rt.cancelRequested operation.token? = false)
    (running : operation.timedTransfer = true → timedOut self rt = false)
    {buf : BufferRef} (named : operation.buf? = some buf) :
    ∃ call direction, operation.socket? = some (call.fd, direction) ∧
      (operation.resumeOnce self io total rt).rt.calls = call :: rt.calls ∧
      ((operation.resumeOnce self io total rt).rt.buffers buf =
          (tryRead (rt.buffers buf) io.recv).2 ∨
        (operation.resumeOnce self io total rt).rt.buffers buf =
          (tryWrite (rt.buffers buf) io.send).2) := by
  cases operation with
  | asyncRead base =>
      cases named
      have uncancelled : rt.cancelRequested base.cancelToken = false := quiet
      have received : (asyncRead base).receives self rt = true := by
        simp [receives, uncancelled]
      have made := (resumeOnce_receives self io total rfl received).1
      exact ⟨_, .read, rfl, made.calls, Or.inl made.buffer⟩
  | asyncReadTimeout base delay =>
      cases named
      have uncancelled : rt.cancelRequested base.cancelToken = false := quiet
      have received : (asyncReadTimeout base delay).receives self rt =
          true := by
        simp [receives, uncancelled, running rfl]
      have made := (resumeOnce_receives self io total rfl received).1
      exact ⟨_, .read, rfl, made.calls, Or.inl made.buffer⟩
  | asyncReadSome conn buf =>
      cases named
      have made := ((Runtime.Silent.refl rt).settle
        (rt.scheduler.removeRead none conn)).receives
          (Runtime.receives_tryRead _ conn buf io.recv) (Runtime.Silent.refl _)
      exact ⟨_, .read, rfl, made.calls, Or.inl made.buffer⟩
  | asyncWrite base =>
      cases named
      have uncancelled : rt.cancelRequested base.cancelToken = false := quiet
      have sent : (asyncWrite base).sends self rt = true := by
        simp [sends, uncancelled]
      have made := (resumeOnce_sends self io total rfl sent).1
      exact ⟨_, .write, rfl, made.calls, Or.inr made.buffer⟩
  | asyncWriteTimeout base delay =>
      cases named
      have uncancelled : rt.cancelRequested base.cancelToken = false := quiet
      have sent : (asyncWriteTimeout base delay).sends self rt = true := by
        simp [sends, uncancelled, running rfl]
      have made := (resumeOnce_sends self io total rfl sent).1
      exact ⟨_, .write, rfl, made.calls, Or.inr made.buffer⟩
  | _ => cases named

/-- A cancelled or expired wake-up makes no transfer. -/
theorem wake_buffers_of_refused (self : Addr) (io : Io) (total : Nat)
    (refused : rt.cancelRequested operation.token? = true ∨
      operation.timedTransfer = true ∧ timedOut self rt = true) :
    (operation.wake self io total rt).rt.buffers = rt.buffers := by
  cases operation with
  | asyncRead base =>
      have missed : (asyncRead base).receives self rt = false := by
        rcases refused with cancelled | ⟨timed, _⟩
        · have flag : rt.cancelRequested base.cancelToken = true := cancelled
          simp [receives, flag]
        · cases timed
      exact (wake_misses self io total rfl missed).1.buffers
  | asyncReadTimeout base delay =>
      have missed : (asyncReadTimeout base delay).receives self rt =
          false := by
        rcases refused with cancelled | ⟨_, expired⟩
        · have flag : rt.cancelRequested base.cancelToken = true := cancelled
          simp [receives, flag]
        · simp [receives, expired]
      exact (wake_misses self io total rfl missed).1.buffers
  | asyncWrite base =>
      have skipped : (asyncWrite base).sends self rt = false := by
        rcases refused with cancelled | ⟨timed, _⟩
        · have flag : rt.cancelRequested base.cancelToken = true := cancelled
          simp [sends, flag]
        · cases timed
      exact (wake_skips self io total rfl skipped).1.buffers
  | asyncWriteTimeout base delay =>
      have skipped : (asyncWriteTimeout base delay).sends self rt =
          false := by
        rcases refused with cancelled | ⟨_, expired⟩
        · have flag : rt.cancelRequested base.cancelToken = true := cancelled
          simp [sends, flag]
        · simp [sends, expired]
      exact (wake_skips self io total rfl skipped).1.buffers
  | _ =>
      rcases refused with cancelled | ⟨timed, _⟩
      · cases cancelled
      · cases timed

/-! ## The class of a wake-up -/

/-- Neither cancelled nor timed out, a resumption gets to its system call. -/
theorem resumeOnce_serves
    (quiet : rt.cancelRequested operation.token? = false)
    (running : operation.timedTransfer = true → timedOut self rt = false) :
    (operation.resumeOnce self io total rt).returned =
      operation.serve io total rt := by
  cases operation with
  | asyncRead base =>
      have uncancelled : rt.cancelRequested base.cancelToken = false := quiet
      refine (resumeOnce_receives self io total rfl ?_).2
      simp [receives, uncancelled]
  | asyncReadTimeout base delay =>
      have uncancelled : rt.cancelRequested base.cancelToken = false := quiet
      refine (resumeOnce_receives self io total rfl ?_).2
      simp [receives, uncancelled, running rfl]
  | asyncReadSome conn buf =>
      have silent := (Runtime.Silent.refl rt).settle
        (rt.scheduler.removeRead none conn)
      simp only [serve]
      rw [← silent.buffers]
      rfl
  | asyncWrite base =>
      have uncancelled : rt.cancelRequested base.cancelToken = false := quiet
      refine (resumeOnce_sends self io total rfl ?_).2.2
      simp [sends, uncancelled]
  | asyncWriteTimeout base delay =>
      have uncancelled : rt.cancelRequested base.cancelToken = false := quiet
      refine (resumeOnce_sends self io total rfl ?_).2.2
      simp [sends, uncancelled, running rfl]
  | asyncAccept conn =>
      simp only [resumeOnce, InnerAcceptAwaiter.awaitResume, serve]
      cases io.accept with
      | error errno => rfl
      | ok fd => rfl
  | asyncConnect conn => rfl
  | waitFor delay => rfl

theorem class_of_cancelled
    (kept : FilesKept rt (operation.resumeOnce self io total rt).rt)
    (cancelled : rt.cancelRequested operation.token? = true) :
    OutcomeClass.of (operation.wake self io total rt).returned =
      .operationCanceled := by
  obtain ⟨result, returned, error⟩ :=
    returned_of_cancelled self io total cancelled
  rw [wake_returned kept, returned]
  exact if_pos error

theorem class_of_timedOut
    (quiet : rt.cancelRequested operation.token? = false)
    (timed : operation.timedTransfer = true)
    (expired : timedOut self rt = true) :
    OutcomeClass.of (operation.wake self io total rt).returned =
      .timedOut := by
  have ended : (operation.wake self io total rt).returned.map OpResult.ec =
      some (operation.refusal rt) := wake_of_timedOut timed expired
  obtain ⟨result, returned, error⟩ := Option.map_eq_some_iff.mp ended
  rw [refusal, quiet, if_neg Bool.false_ne_true] at error
  rw [returned, OutcomeClass.of, error]
  rfl

/-- Whether a transfer leaves the operation unfinished does not depend on what
was transferred before. -/
theorem serve_isSome (operation : Operation) (io : Io) (total other : Nat)
    (rt : Runtime queues) :
    (operation.serve io total rt).isSome =
      (operation.serve io other rt).isSome := by
  have body : ∀ awaited : WriteRet, (writeBody total awaited).2.isSome =
      (writeBody other awaited).2.isSome := by
    intro awaited
    simp only [writeBody]
    split <;> rfl
  cases operation with
  | asyncWrite base => simp only [serve, Option.isSome_map, body]
  | asyncWriteTimeout base delay => simp only [serve, Option.isSome_map, body]
  | _ => rfl

end Operation

/-! ## The clock and the current timer -/

namespace Runtime

@[simp]
theorem timer_settle (rt : Runtime queues) (outcome : Scheduler.Outcome) :
    (rt.settle outcome).timer = rt.timer := by
  obtain ⟨scheduler, thrown⟩ := outcome
  cases thrown <;> rfl

@[simp]
theorem timer_removeToken (rt : Runtime queues) (token : Option Fd) :
    (CancelSlot.remove token rt).timer = rt.timer := by
  cases token with
  | none => rfl
  | some fd => exact timer_settle _ _

@[simp]
theorem timer_submitToken (rt : Runtime queues) (self : Addr)
    (token : Option Fd) :
    (CancelSlot.submit self token rt).timer = rt.timer := by
  unfold CancelSlot.submit
  split
  · rfl
  · cases token with
    | none => rfl
    | some fd => exact timer_settle _ _

@[simp]
theorem timer_consumeToken (rt : Runtime queues) (token : Option Fd) :
    (CancelSlot.consume token rt).timer = rt.timer := by
  cases token with
  | none => rfl
  | some fd =>
      simp only [CancelSlot.consume, consumeToken]
      split <;> rfl

@[simp]
theorem clock_consumeToken (rt : Runtime queues) (token : Option Fd) :
    (CancelSlot.consume token rt).clock = rt.clock := by
  cases token with
  | none => rfl
  | some fd =>
      simp only [CancelSlot.consume, consumeToken]
      split <;> rfl

@[simp]
theorem timer_refresh (rt : Runtime queues) :
    rt.refreshTimerRegistration.timer = rt.timer.refreshCurrentTimer := by
  simp only [refreshTimerRegistration]
  split <;> exact timer_settle _ _

/-- Reading an expired timerfd takes no time. -/
theorem clock_consumeTimer
    (readable : rt.timer.timerFd.isReadable rt.clock = true) :
    rt.consumeTimer.clock = rt.clock := by
  simp only [consumeTimer, readable, if_true]

end Runtime

namespace TimerEvent

variable {timer : TimerEvent queues} {deadlines : OpPtr → Option Int}

/-- Cancelling another timer leaves the current one. -/
theorem cur_cancelRefresh (settled : Settled timer deadlines)
    {read : OpPtr} (nonempty : timer.currentEmpty = false)
    (other : timer.cur.state.read ≠ some read) :
    (timer.cancel read).refreshCurrentTimer.cur = timer.cur := by
  cases active : timer.activeTimerIds.lookup read with
  | none =>
      rw [cancel_of_inactive active,
        refreshCurrentTimer_of_live settled.wellFormed nonempty]
  | some id =>
      have buried := cancel_of_queued settled active other
      have same : (timer.cancel read).cur = timer.cur := by
        rw [cancel_of_active active]
      have occupied : (timer.cancel read).currentEmpty = false := by
        rw [currentEmpty, same]
        exact nonempty
      rw [refreshCurrentTimer_of_live buried.wellFormed occupied, same]

/-- Setting a timer no earlier than the current one leaves that. -/
theorem cur_setTimerRefresh (settled : Settled timer deadlines)
    (nonempty : timer.currentEmpty = false) {now delay : Int}
    {state : FdOps} {read : OpPtr} (named : state.read = some read)
    (timed : toTimePoint now delay ≠ 0) (inactive : deadlines read = none)
    (later : timer.cur.timePoint ≤ toTimePoint now delay) :
    (timer.setTimer now state delay).refreshCurrentTimer.cur =
      timer.cur := by
  have set := (setTimer_spec settled named timed inactive).1
  have same : (timer.setTimer now state delay).cur = timer.cur := by
    have occupied : timer.cur.timePoint ≠ 0 := by
      simpa [currentEmpty, emptyTask] using nonempty
    have behind : ¬toTimePoint now delay < timer.cur.timePoint :=
      not_lt.mpr later
    rw [setTimer_eq_place named,
      refreshCurrentTimer_of_live settled.wellFormed nonempty]
    simp [place, newTask, occupied, behind]
  have occupied : (timer.setTimer now state delay).currentEmpty = false := by
    rw [currentEmpty, same]
    exact nonempty
  rw [refreshCurrentTimer_of_live set.wellFormed occupied, same]

end TimerEvent

namespace Operation

/-- What makes an operation read the timerfd. -/
def Waits (operation : Operation) (self : Addr) (rt : Runtime queues) :
    Prop :=
  operation.timedTransfer = true ∧ timedOut self rt = true ∨
    ∃ delay, operation = .waitFor delay

/-- A resumption takes no time, unless it waits for the timerfd. -/
theorem resumeOnce_clock_of_readable (operation : Operation) (self : Addr)
    (io : Io) (total : Nat) (rt : Runtime queues)
    (readable : operation.Waits self rt →
      rt.timer.timerFd.isReadable rt.clock = true) :
    (operation.resumeOnce self io total rt).rt.clock = rt.clock := by
  cases operation with
  | asyncRead base =>
      simp only [resumeOnce, InnerRecvAwaiter.awaitResume]
      split <;> simp [Runtime.tryRead, Runtime.removeRead]
  | asyncReadTimeout base delay =>
      simp only [resumeOnce, InnerRecvTimeoutAwaiter.awaitResume]
      split
      · simp [Runtime.removeRead, Runtime.cancelTimer]
      · split
        · rename_i expired
          rw [timedOut_remove] at expired
          have here := readable (Or.inl ⟨rfl, expired⟩)
          have read : (CancelSlot.remove base.cancelToken
              rt).consumeTimer.clock = rt.clock := by
            rw [Runtime.clock_consumeTimer] <;> simp [here]
          simp [Runtime.removeRead, Runtime.cancelTimer, read]
        · simp [Runtime.tryRead, Runtime.removeRead, Runtime.cancelTimer]
  | asyncReadSome conn buf =>
      simp [resumeOnce, InnerRecvSomeAwaiter.awaitResume, Runtime.tryRead,
        Runtime.removeRead]
  | asyncWrite base =>
      simp only [resumeOnce, InnerSendAwaiter.awaitResume]
      split <;> simp [Runtime.tryWrite, Runtime.removeWrite]
  | asyncWriteTimeout base delay =>
      simp only [resumeOnce, InnerSendTimeoutAwaiter.awaitResume]
      split
      · simp [Runtime.removeWrite, Runtime.cancelTimer]
      · split
        · rename_i expired
          rw [timedOut_remove] at expired
          have here := readable (Or.inl ⟨rfl, expired⟩)
          have read : (CancelSlot.remove base.cancelToken
              rt).consumeTimer.clock = rt.clock := by
            rw [Runtime.clock_consumeTimer] <;> simp [here]
          simp [Runtime.removeWrite, Runtime.cancelTimer, read]
        · simp [Runtime.tryWrite, Runtime.removeWrite, Runtime.cancelTimer]
  | asyncAccept conn =>
      simp only [resumeOnce, InnerAcceptAwaiter.awaitResume]
      cases io.accept with
      | error errno => exact Runtime.clock_settle _ _
      | ok fd => exact Runtime.clock_settle _ _
  | asyncConnect conn => exact Runtime.clock_settle _ _
  | waitFor delay =>
      simp only [resumeOnce, TimerAwaiter.awaitResume,
        Runtime.clock_refresh, Runtime.advanceTimer]
      exact Runtime.clock_consumeTimer (readable (Or.inr ⟨delay, rfl⟩))

theorem wake_clock_of_readable
    (kept : FilesKept rt (operation.resumeOnce self io total rt).rt)
    (readable : operation.Waits self rt →
      rt.timer.timerFd.isReadable rt.clock = true) :
    (operation.wake self io total rt).rt.clock = rt.clock := by
  have once := operation.resumeOnce_clock_of_readable self io total rt readable
  rw [wake_eq kept]
  cases (operation.resumeOnce self io total rt).returned with
  | some result => exact once
  | none => exact (awaitSuspend_clock operation self _).trans once

/-- What an operation that does not read the timerfd does to the timers. -/
theorem resumeOnce_timer (operation : Operation) (self : Addr) (io : Io)
    (total : Nat) (rt : Runtime queues) (runs : ¬operation.Waits self rt) :
    (operation.resumeOnce self io total rt).rt.timer =
      if operation.timedTransfer then
        (rt.timer.cancel ⟨self, .timer⟩).refreshCurrentTimer
      else rt.timer := by
  cases operation with
  | asyncRead base =>
      simp only [resumeOnce, InnerRecvAwaiter.awaitResume]
      split <;> simp [Runtime.tryRead, Runtime.removeRead, timedTransfer]
  | asyncReadTimeout base delay =>
      simp only [resumeOnce, InnerRecvTimeoutAwaiter.awaitResume]
      split
      · simp [Runtime.removeRead, Runtime.cancelTimer, timedTransfer]
      · rw [timedOut_remove]
        split
        · rename_i expired
          exact absurd (Or.inl ⟨rfl, expired⟩) runs
        · simp [Runtime.tryRead, Runtime.removeRead, Runtime.cancelTimer,
            timedTransfer]
  | asyncReadSome conn buf =>
      simp [resumeOnce, InnerRecvSomeAwaiter.awaitResume, Runtime.tryRead,
        Runtime.removeRead, timedTransfer]
  | asyncWrite base =>
      simp only [resumeOnce, InnerSendAwaiter.awaitResume]
      split <;> simp [Runtime.tryWrite, Runtime.removeWrite, timedTransfer]
  | asyncWriteTimeout base delay =>
      simp only [resumeOnce, InnerSendTimeoutAwaiter.awaitResume]
      split
      · simp [Runtime.removeWrite, Runtime.cancelTimer, timedTransfer]
      · rw [timedOut_remove]
        split
        · rename_i expired
          exact absurd (Or.inl ⟨rfl, expired⟩) runs
        · simp [Runtime.tryWrite, Runtime.removeWrite, Runtime.cancelTimer,
            timedTransfer]
  | asyncAccept conn =>
      simp only [resumeOnce, InnerAcceptAwaiter.awaitResume]
      cases io.accept with
      | error errno => exact Runtime.timer_settle _ _
      | ok fd => exact Runtime.timer_settle _ _
  | asyncConnect conn => exact Runtime.timer_settle _ _
  | waitFor delay => exact absurd (Or.inr ⟨delay, rfl⟩) runs

/-- What the suspension of a read or a write does to the timers. -/
theorem awaitSuspend_timer (operation : Operation) (self : Addr)
    (rt : Runtime queues)
    (quiet : rt.cancelRequested operation.token? = false)
    (transfers : ∀ delay, operation ≠ .waitFor delay) :
    (operation.awaitSuspend self rt).1.timer =
      match operation.delay? with
      | some delay =>
          (rt.timer.setTimer rt.clock
            { fd := rt.timer.fd, read := some ⟨self, .timer⟩ }
              delay).refreshCurrentTimer
      | none => rt.timer := by
  cases operation with
  | asyncRead base =>
      have uncancelled : rt.cancelRequested base.cancelToken = false := quiet
      simp [awaitSuspend, InnerRecvAwaiter.awaitSuspend, uncancelled,
        Runtime.submitRead, delay?]
  | asyncReadTimeout base delay =>
      have uncancelled : rt.cancelRequested base.cancelToken = false := quiet
      simp [awaitSuspend, InnerRecvTimeoutAwaiter.awaitSuspend, uncancelled,
        Runtime.submitRead, Runtime.setTimer, delay?]
  | asyncReadSome conn buf => exact Runtime.timer_settle _ _
  | asyncWrite base =>
      have uncancelled : rt.cancelRequested base.cancelToken = false := quiet
      simp [awaitSuspend, InnerSendAwaiter.awaitSuspend, uncancelled,
        Runtime.submitWrite, delay?]
  | asyncWriteTimeout base delay =>
      have uncancelled : rt.cancelRequested base.cancelToken = false := quiet
      simp [awaitSuspend, InnerSendTimeoutAwaiter.awaitSuspend, uncancelled,
        Runtime.submitWrite, Runtime.setTimer, delay?]
  | asyncAccept conn => exact Runtime.timer_settle _ _
  | asyncConnect conn => exact Runtime.timer_settle _ _
  | waitFor delay => exact absurd rfl (transfers delay)

end Operation

/-- A wake-up leaves the current timer to another operation, as long as its
own next deadline is no earlier. -/
theorem Sound.cur_of_wake {pending : Addr → Option OpFrame}
    (sound : Sound rt pending) {frame other : Addr} {op : OpFrame}
    (waits : pending frame = some op)
    (named : rt.timer.cur.state.read = some ⟨other, .timer⟩)
    (different : other ≠ frame)
    (transfers : ∀ delay, op.operation ≠ .waitFor delay)
    (later : (op.operation.wake frame io op.total rt).returned = none →
      ∀ deadline, op.operation.deadlineAt rt.clock = some deadline →
        rt.timer.cur.timePoint ≤ deadline) :
    (op.operation.wake frame io op.total rt).rt.timer.cur =
      rt.timer.cur := by
  have settled := sound.inOrder.settled
  have nonempty := settled.wellFormed.nonempty_of_read named
  have elsewhere : rt.timer.cur.state.read ≠ some ⟨frame, .timer⟩ := by
    rw [named]
    rintro ⟨⟩
    exact different rfl
  have runs : ¬op.operation.Waits frame rt := by
    rintro (⟨_, expired⟩ | ⟨delay, same⟩)
    · exact elsewhere ((timedOut_iff settled frame).mp expired).1
    · exact transfers delay same
  have leaves := sound.resumeOnce_leaves io op.total waits
    fun delay same => absurd same (transfers delay)
  have once : (op.operation.resumeOnce frame io op.total rt).rt.timer.cur =
      rt.timer.cur := by
    rw [op.operation.resumeOnce_timer frame io op.total rt runs]
    split
    · exact TimerEvent.cur_cancelRefresh settled nonempty elsewhere
    · rfl
  have clock := op.operation.resumeOnce_clock_of_readable frame io op.total
    rt fun waits => absurd waits runs
  have ended := Operation.wake_returned leaves.files
  rw [Operation.wake_eq leaves.files]
  cases pendingOnce :
      (op.operation.resumeOnce frame io op.total rt).returned with
  | some result => exact once
  | none =>
      have quiet : (op.operation.resumeOnce frame io op.total
          rt).rt.cancelRequested op.operation.token? = false := by
        rw [leaves.files.cancelRequested]
        exact Operation.quiet_of_pending pendingOnce
      change (op.operation.awaitSuspend frame _).1.timer.cur = _
      rw [op.operation.awaitSuspend_timer frame _ quiet transfers, clock]
      cases delayed : op.operation.delay? with
      | none => exact once
      | some delay =>
          have set : op.operation.deadlineAt rt.clock =
              some (TimerEvent.toTimePoint rt.clock delay) := by
            rw [Operation.deadlineAt, delayed]
            rfl
          have order := later (ended.trans pendingOnce) _ set
          have positive := sound.positive_of_waits waits (le_refl _) set
          have occupied : (op.operation.resumeOnce frame io op.total
              rt).rt.timer.currentEmpty = false := by
            rw [TimerEvent.currentEmpty, once]
            exact nonempty
          rw [← once] at order ⊢
          exact TimerEvent.cur_setTimerRefresh leaves.inOrder.settled
            occupied rfl positive.ne' (Function.update_self _ _ _) order

end AsyncFrame
