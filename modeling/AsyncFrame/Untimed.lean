import AsyncFrame.Frames
import AsyncFrame.Registered

/-!
# Stretches and the timer of others

An operation without a timer runs the same whatever `TimerEvent` holds.  Every
stretch of an operation keeps the invariant of its own scheduler, and spares
what other schedulers rely on.
-/

namespace AsyncFrame

open Lib

variable {queues : TimerQueue}

/-! ## Operations without a timer -/

namespace Runtime

/-- The runtime with another `TimerEvent`. -/
def retimed (rt : Runtime queues) (timer : TimerEvent queues) :
    Runtime queues :=
  { rt with timer := timer }

variable (rt : Runtime queues) (timer : TimerEvent queues)

private theorem settle_retimed (outcome : Scheduler.Outcome) :
    (rt.retimed timer).settle outcome = (rt.settle outcome).retimed timer := by
  obtain ⟨scheduler, thrown⟩ := outcome
  cases thrown with
  | none => rfl
  | some error => rfl

private theorem removeToken_retimed (token : Option Fd) :
    CancelSlot.remove token (rt.retimed timer) =
      (CancelSlot.remove token rt).retimed timer := by
  cases token with
  | none => rfl
  | some fd => exact rt.settle_retimed timer _

private theorem consumeToken_retimed (token : Option Fd) :
    CancelSlot.consume token (rt.retimed timer) =
      (CancelSlot.consume token rt).retimed timer := by
  cases token with
  | none => rfl
  | some fd =>
      change consumeToken (rt.retimed timer) fd = (consumeToken rt fd).retimed _
      unfold consumeToken
      have files : (rt.retimed timer).files = rt.files := rfl
      rw [files]
      cases rt.files fd with
      | eventFd cancelled counter => rfl
      | _ => rfl

private theorem submitToken_retimed (self : Addr) (token : Option Fd) :
    CancelSlot.submit self token (rt.retimed timer) =
      (CancelSlot.submit self token rt).retimed timer := by
  have requested : (rt.retimed timer).cancelRequested token =
      rt.cancelRequested token := rfl
  unfold CancelSlot.submit
  rw [requested]
  split
  · rfl
  · cases token with
    | none => rfl
    | some fd => exact rt.settle_retimed timer _

end Runtime

/-- The stretch with another `TimerEvent`. -/
def Stretch.retimed (stretch : Stretch queues) (timer : TimerEvent queues) :
    Stretch queues :=
  { stretch with rt := stretch.rt.retimed timer }

namespace Operation

open AsyncFrame.Runtime

variable {operation : Operation} {rt : Runtime queues}

private theorem awaitSuspend_retimed (untimed : operation.delay? = none)
    (self : Addr) (timer : TimerEvent queues) :
    (operation.awaitSuspend self (rt.retimed timer)).1 =
      (operation.awaitSuspend self rt).1.retimed timer := by
  have requested : ∀ token, (rt.retimed timer).cancelRequested token =
      rt.cancelRequested token := fun _ => rfl
  cases operation with
  | asyncRead base =>
      simp only [awaitSuspend, InnerRecvAwaiter.awaitSuspend, requested]
      split
      · rfl
      · have submitted := rt.settle_retimed timer
          (rt.scheduler.submitRead none base.conn
            { read := some ⟨self, .socket⟩ })
        rw [← submitToken_retimed]
        exact congrArg (CancelSlot.submit self base.cancelToken) submitted
  | asyncWrite base =>
      simp only [awaitSuspend, InnerSendAwaiter.awaitSuspend, requested]
      split
      · rfl
      · have submitted := rt.settle_retimed timer
          (rt.scheduler.submitWrite none base.conn
            { write := some ⟨self, .socket⟩ })
        rw [← submitToken_retimed]
        exact congrArg (CancelSlot.submit self base.cancelToken) submitted
  | asyncReadSome conn buf => exact rt.settle_retimed timer _
  | asyncAccept conn => exact rt.settle_retimed timer _
  | asyncConnect conn => exact rt.settle_retimed timer _
  | asyncReadTimeout base delay => cases untimed
  | asyncWriteTimeout base delay => cases untimed
  | waitFor delay => cases untimed

private theorem resumeOnce_retimed (untimed : operation.delay? = none)
    (self : Addr) (io : Io) (total : Nat) (timer : TimerEvent queues) :
    operation.resumeOnce self io total (rt.retimed timer) =
      (operation.resumeOnce self io total rt).retimed timer := by
  have requested : ∀ token, CancelSlot.isCancelEvent token
      (rt.retimed timer) = CancelSlot.isCancelEvent token rt := fun _ => rfl
  have removesRead : ∀ (now : Runtime queues) (fd : Fd),
      (now.retimed timer).removeRead fd = (now.removeRead fd).retimed timer :=
    fun now _ => now.settle_retimed timer _
  have removesWrite : ∀ (now : Runtime queues) (fd : Fd),
      (now.retimed timer).removeWrite fd =
        (now.removeWrite fd).retimed timer :=
    fun now _ => now.settle_retimed timer _
  cases operation with
  | asyncRead base =>
      simp only [resumeOnce, InnerRecvAwaiter.awaitResume, requested]
      split
      · simp only [consumeToken_retimed, removesRead, removeToken_retimed]
        rfl
      · have transferred : ∀ now : Runtime queues,
            (now.retimed timer).tryRead base.conn base.buf io.recv =
              ((now.tryRead base.conn base.buf io.recv).1.retimed timer,
                (now.tryRead base.conn base.buf io.recv).2) := fun _ => rfl
        simp only [removeToken_retimed, transferred, removesRead]
        rfl
  | asyncWrite base =>
      simp only [resumeOnce, InnerSendAwaiter.awaitResume, requested]
      split
      · simp only [consumeToken_retimed, removesWrite, removeToken_retimed]
        rfl
      · simp only [removeToken_retimed, removesWrite]
        rfl
  | asyncReadSome conn buf =>
      simp only [resumeOnce, InnerRecvSomeAwaiter.awaitResume, removesRead]
      rfl
  | asyncAccept conn =>
      have removed : (rt.retimed timer).removeAccept conn =
          (rt.removeAccept conn).retimed timer := rt.settle_retimed timer _
      simp only [resumeOnce, InnerAcceptAwaiter.awaitResume, removed]
      cases io.accept with
      | error errno => rfl
      | ok fd => rfl
  | asyncConnect conn =>
      have removed : (rt.retimed timer).removeConnect conn =
          (rt.removeConnect conn).retimed timer := rt.settle_retimed timer _
      simp only [resumeOnce, InnerConnectAwaiter.awaitResume, removed]
      rfl
  | asyncReadTimeout base delay => cases untimed
  | asyncWriteTimeout base delay => cases untimed
  | waitFor delay => cases untimed

private theorem loop_retimed (untimed : operation.delay? = none) (self : Addr)
    (turns total : Nat) (timer : TimerEvent queues) :
    loop self operation (turns + 1) total (rt.retimed timer) =
      (loop self operation (turns + 1) total rt).retimed timer := by
  have requested : (rt.retimed timer).cancelRequested operation.token? =
      rt.cancelRequested operation.token? := rfl
  rw [loop_succ, loop_succ, requested, resumeOnce_retimed untimed,
    awaitSuspend_retimed untimed]
  split
  · rfl
  · rfl

theorem start_retimed (untimed : operation.delay? = none) (self : Addr)
    (io : Io) (timer : TimerEvent queues) :
    operation.start self io (rt.retimed timer) =
      (operation.start self io rt).retimed timer := by
  have looped : loop self operation 1 0 (rt.retimed timer) =
      (loop self operation 1 0 rt).retimed timer :=
    loop_retimed untimed self 0 0 timer
  cases operation with
  | asyncConnect conn =>
      simp only [start]
      cases tryConnect io.connect with
      | connected => rfl
      | error => rfl
      | inProgress => exact looped
  | _ => exact looped

theorem wake_retimed (untimed : operation.delay? = none) (self : Addr)
    (io : Io) (total : Nat) (timer : TimerEvent queues) :
    operation.wake self io total (rt.retimed timer) =
      (operation.wake self io total rt).retimed timer := by
  unfold wake
  rw [resumeOnce_retimed untimed]
  simp only [Stretch.retimed]
  cases returned : (operation.resumeOnce self io total rt).returned with
  | some result => simp only [returned]
  | none => exact loop_retimed untimed self 0 _ timer

end Operation

/-! ## What a stretch does to the invariant -/

/-- The operation after a stretch of its coroutine, while it is suspended. -/
def OpFrame.after (op : OpFrame) (stretch : Stretch queues) :
    Option OpFrame :=
  match stretch.returned with
  | some _ => none
  | none =>
      some
        { op with
          total := stretch.total
          deadline := op.operation.deadlineAt stretch.rt.clock }

/-- What every stretch leaves to the operations of other schedulers. -/
structure Spares (rt next : Runtime queues) : Prop where
  files : FilesKept rt next
  clock : rt.clock ≤ next.clock
  fault : next.fault = rt.fault
  timerFd : next.timer.fd = rt.timer.fd

private theorem Leaves.spares {rt next : Runtime queues} {frame : Addr}
    {holder : Option Addr} {operation : Operation} {deadline : Option Int}
    {queue : OpPtr → Option Int}
    (leaves : Leaves frame holder operation deadline rt next queue) :
    Spares rt next :=
  ⟨leaves.files, leaves.clock, leaves.fault, leaves.timerFd⟩

private theorem Spares.trans {rt middle next : Runtime queues}
    (first : Spares rt middle) (second : Spares middle next) :
    Spares rt next :=
  ⟨first.files.trans second.files, first.clock.trans second.clock,
    second.fault.trans first.fault, second.timerFd.trans first.timerFd⟩

namespace Sound

variable {rt : Runtime queues} {pending : Addr → Option OpFrame}

/-- Another object that stands for the same deadlines will do. -/
theorem retimed (sound : Sound rt pending) {timer : TimerEvent queues}
    (settled : timer.Settled (deadlines pending))
    (timerFd : timer.fd = rt.timer.fd)
    (slot : timer.cur.state.read = rt.timer.cur.state.read) :
    Sound (rt.retimed timer) pending where
  inOrder :=
    { agrees := by
        change rt.scheduler.Agrees timer.fd
        rw [timerFd]
        exact sound.inOrder.agrees
      settled := settled
      slot := by
        change rt.scheduler.registry timer.fd .read = timer.cur.state.read
        rw [timerFd, slot]
        exact sound.inOrder.slot
      timerFile := by
        change rt.files timer.fd = .timerFd
        rw [timerFd]
        exact sound.inOrder.timerFile }
  held fd direction pointer found := by
    change fd = timer.fd ∧ direction = .read ∨ _
    rw [timerFd]
    exact sound.held fd direction pointer found
  fits frame op waits :=
    (sound.fits frame op waits).refiled fun _ _ => Or.inl rfl
  dated := sound.dated
  clock := sound.clock
  healthy := sound.healthy

/-- Without a current task no suspended operation is timed. -/
theorem untimed_of_empty (sound : Sound rt pending)
    (empty : rt.timer.currentEmpty = true) {frame : Addr} {op : OpFrame}
    (waits : pending frame = some op) : op.operation.delay? = none := by
  obtain ⟨now, _, dated, _⟩ := sound.dated frame op waits
  have gone := sound.inOrder.settled.deadlines_of_empty empty ⟨frame, .timer⟩
  rw [deadlines_timer, waits, Option.bind_some, dated,
    Operation.deadlineAt] at gone
  exact Option.map_eq_none_iff.mp gone

/-- Resuming a suspended operation. -/
theorem woken (sound : Sound rt pending) {frame : Addr} {op : OpFrame}
    (io : Io) (waits : pending frame = some op)
    (current : ∀ delay, op.operation = .waitFor delay →
      rt.timer.cur.state.read = some ⟨frame, .timer⟩) :
    Sound (op.operation.wake frame io op.total rt).rt
        (Function.update pending frame
          (op.after (op.operation.wake frame io op.total rt))) ∧
      Spares rt (op.operation.wake frame io op.total rt).rt := by
  have own : ∀ other, pending frame = some other →
      other.operation = op.operation := by
    intro other here
    rw [waits] at here
    cases here
    rfl
  have fits := sound.fits frame op waits
  rcases sound.wake_cases io op.total waits current with
    ⟨result, returns⟩ | ⟨middle, left, suspends, _⟩
  · refine ⟨?_, returns.leaves.spares⟩
    simp only [OpFrame.after, returns.returned]
    exact sound.resume own fits returns.leaves
  · refine ⟨?_, left.spares.trans suspends.leaves.spares⟩
    simp only [OpFrame.after, suspends.pending]
    have out := sound.resume own fits left
    have queue : deadlines (Function.update pending frame none) =
        Function.update (deadlines pending) ⟨frame, .timer⟩ none :=
      deadlines_update frame none
    have leaves := suspends.leaves
    rw [← queue] at leaves
    let again : OpFrame :=
      { op with
        total := (op.operation.wake frame io op.total rt).total
        deadline := op.operation.deadlineAt
          (op.operation.wake frame io op.total rt).rt.clock }
    have dated : again.Dated
        (op.operation.wake frame io op.total rt).rt.clock := by
      obtain ⟨now, past, set, positive⟩ := sound.dated frame op waits
      exact OpFrame.dated_now
        (past.trans (left.clock.trans suspends.leaves.clock))
        (fun deadline here => positive deadline (set.trans here)) rfl
    have fitsAgain : again.operation.Fits middle := fits.kept left.files
    have back := out.suspend (Function.update_self _ _ _) fitsAgain leaves
      dated
    rw [Function.update_idem] at back
    exact back

/-- Starting an operation in a free frame. -/
theorem started (sound : Sound rt pending) {frame : Addr} {op : OpFrame}
    (io : Io) (free : pending frame = none)
    (fits : op.operation.Fits rt)
    (timed : ∀ deadline, op.operation.deadlineAt rt.clock = some deadline →
      0 < deadline) :
    Sound (op.operation.start frame io rt).rt
        (Function.update pending frame
          (op.after (op.operation.start frame io rt))) ∧
      Spares rt (op.operation.start frame io rt).rt := by
  have absent : deadlines pending ⟨frame, .timer⟩ = none := by
    rw [deadlines_timer, free]
    rfl
  rcases op.operation.start_spec frame io sound.inOrder fits absent
      (fun deadline here => (timed deadline here).ne') with
    suspends | ⟨_, result, returns⟩ | ⟨_, same, returned⟩
  · refine ⟨?_, suspends.leaves.spares⟩
    simp only [OpFrame.after, suspends.pending]
    exact sound.suspend free fits suspends.leaves
      (OpFrame.dated_now suspends.leaves.clock timed rfl)
  · refine ⟨?_, returns.leaves.spares⟩
    simp only [OpFrame.after, returns.returned]
    refine sound.resume (fun other here => ?_) fits returns.leaves
    rw [free] at here
    cases here
  · obtain ⟨result, here⟩ := Option.isSome_iff_exists.mp returned
    rw [same]
    refine ⟨?_, FilesKept.refl rt, le_refl _, rfl, rfl⟩
    simp only [OpFrame.after, here]
    rw [← free, Function.update_eq_self]
    exact sound

end Sound

namespace System

variable {s : System queues}

/-- What completing an operation leaves, as long as nothing faults. -/
theorem complete_spec (linked : Linked s.frames) {pointer : OpPtr}
    {op : OpFrame} (io : Io) (waits : s.pending pointer.frame = some op)
    (healthy : (op.operation.wake pointer.frame io op.total s.rt).rt.fault =
      none) :
    (s.complete pointer io).rt =
        (op.operation.wake pointer.frame io op.total s.rt).rt ∧
      (s.complete pointer io).pending =
        Function.update s.pending pointer.frame
          (op.after (op.operation.wake pointer.frame io op.total s.rt)) := by
  have found := pendingIn_eq_some.mp waits
  unfold complete OpFrame.after
  rw [waits]
  simp only [healthy, Option.isSome_none, Bool.false_eq_true, if_false]
  cases (op.operation.wake pointer.frame io op.total s.rt).returned with
  | none => exact ⟨rfl, pendingIn_insert _ _⟩
  | some result =>
      rcases linked.outer _ _ found with outer | ⟨number, outer⟩
      · simp only [resumeOuter, outer]
        exact ⟨trivial, pendingIn_resume rfl (pendingIn_of_user outer)⟩
      · simp only [resumeOuter, outer]
        exact ⟨trivial, pendingIn_resume rfl (pendingIn_of_impl outer)⟩

/-- What an `await` leaves. -/
theorem await_spec {caller frame : Addr} {below : List Addr}
    {operation : Operation} (io : Io) (stack : s.stack = caller :: below)
    (awake : s.frames.lookup caller = some (.user none))
    (free : s.frames.lookup frame = none) :
    (s.await frame operation io).rt = (operation.start frame io s.rt).rt ∧
      (s.await frame operation io).control = s.control ∧
      ∃ op : OpFrame, op.operation = operation ∧
        (s.await frame operation io).pending =
          Function.update s.pending frame
            (op.after (operation.start frame io s.rt)) := by
  have absent : s.pending frame = none := pendingIn_of_free free
  cases returned : (operation.start frame io s.rt).returned with
  | none =>
      have different : caller ≠ frame := by
        rintro rfl
        rw [free] at awake
        cases awake
      simp only [await, returned, stack, OpFrame.after]
      refine ⟨trivial, trivial, ⟨operation, caller, 0, s.nextNumber, none⟩,
        rfl, ?_⟩
      refine (pendingIn_insert_silent rfl ?_).trans (pendingIn_insert _ _)
      rw [pendingIn_insert, Function.update_of_ne different]
      exact pendingIn_of_user awake
  | some result =>
      simp only [await, returned, OpFrame.after]
      refine ⟨trivial, trivial, ⟨operation, caller, 0, 0, none⟩, rfl, ?_⟩
      rw [← absent, Function.update_eq_self]
      rfl

theorem awaitWithTimeout_spec {caller impl frame : Addr}
    {below : List Addr} {wrapped operation : Operation} {delay : Int}
    (io : Io) (stack : s.stack = caller :: below)
    (awake : s.frames.lookup caller = some (.user none))
    (implFree : s.frames.lookup impl = none)
    (free : s.frames.lookup frame = none) (different : impl ≠ frame)
    (timeout : wrapped.withTimeout delay = some operation) :
    (s.awaitWithTimeout impl frame wrapped delay io).rt =
        (operation.start frame io s.rt).rt ∧
      (s.awaitWithTimeout impl frame wrapped delay io).control = s.control ∧
      ∃ op : OpFrame, op.operation = operation ∧
        (s.awaitWithTimeout impl frame wrapped delay io).pending =
          Function.update s.pending frame
            (op.after (operation.start frame io s.rt)) := by
  have absent : s.pending frame = none := pendingIn_of_free free
  have callerImpl : caller ≠ impl := by
    rintro rfl
    rw [implFree] at awake
    cases awake
  cases returned : (operation.start frame io s.rt).returned with
  | none =>
      have callerFrame : caller ≠ frame := by
        rintro rfl
        rw [free] at awake
        cases awake
      simp only [awaitWithTimeout, timeout, returned, stack, OpFrame.after]
      refine ⟨trivial, trivial, ⟨operation, impl, 0, s.nextNumber + 1, none⟩,
        rfl, ?_⟩
      refine (pendingIn_insert_silent rfl ?_).trans
        ((pendingIn_insert_silent rfl ?_).trans (pendingIn_insert _ _))
      · rw [pendingIn_insert, Function.update_of_ne callerImpl,
          pendingIn_insert, Function.update_of_ne callerFrame]
        exact pendingIn_of_user awake
      · rw [pendingIn_insert, Function.update_of_ne different]
        exact pendingIn_of_free implFree
  | some result =>
      simp only [awaitWithTimeout, timeout, returned, stack, OpFrame.after]
      refine ⟨trivial, trivial, ⟨operation, impl, 0, 0, none⟩, rfl, ?_⟩
      rw [← absent, Function.update_eq_self]
      refine (pendingIn_insert_silent rfl ?_).trans
        (pendingIn_insert_silent rfl (pendingIn_of_free implFree))
      rw [pendingIn_insert, Function.update_of_ne callerImpl]
      exact pendingIn_of_user awake

end System

end AsyncFrame
