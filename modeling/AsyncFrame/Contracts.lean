import AsyncFrame.Calls

/-!
# What the awaiters promise

One contract for all eight operations.  Suspending registers the operation's
own structs and schedules its deadline; resuming, on whatever path, takes both
back.  In either case the timerfd's slot follows the current task, and nothing
else in the table changes.
-/

namespace AsyncFrame

open Lib

variable {queues : TimerQueue} {rt : Runtime queues}
variable {deadlines : OpPtr → Option Int}

/-! ## The contract -/

/-- The structs an operation registers, or clears when there is no holder. -/
def Operation.claim (holder : Option Addr) (operation : Operation)
    (registry : Registry) : Registry :=
  let own (member : OpMember) : Option OpPtr :=
    holder.map fun self => ⟨self, member⟩
  match operation.socket? with
  | none => registry.putToken operation.token? (own .cancel)
  | some (fd, direction) =>
      (registry.put fd direction (own .socket)).putToken operation.token?
        (own .cancel)

/-- Table, timer and the timerfd's slot agree, and the timer stands for
`deadlines`. -/
structure InOrder (rt : Runtime queues)
    (deadlines : OpPtr → Option Int) : Prop where
  agrees : rt.TableAgrees
  settled : rt.timer.Settled deadlines
  slot : rt.scheduler.registry rt.timer.fd .read = rt.timer.cur.state.read
  timerFile : rt.files rt.timer.fd = .timerFd

/-- The descriptors of an operation are open and of the right kind. -/
structure Operation.Fits (operation : Operation)
    (rt : Runtime queues) : Prop where
  socket : ∀ fd direction, operation.socket? = some (fd, direction) →
    rt.files fd = .socket
  token : ∀ fd, operation.token? = some fd →
    ∃ cancelled counter, rt.files fd = .eventFd cancelled counter

/-- What a suspension or a resumption of the operation in frame `frame`
leaves. -/
structure Leaves (frame : Addr) (holder : Option Addr)
    (operation : Operation) (deadline : Option Int)
    (rt next : Runtime queues) (deadlines : OpPtr → Option Int) : Prop where
  inOrder : InOrder next (Function.update deadlines ⟨frame, .timer⟩ deadline)
  timerFd : next.timer.fd = rt.timer.fd
  registers : next.scheduler.registry =
    (operation.claim holder rt.scheduler.registry).put rt.timer.fd .read
      next.timer.cur.state.read
  clock : rt.clock ≤ next.clock
  fault : next.fault = rt.fault
  files : FilesKept rt next
  retires : rt.timer.Retires next.timer
  rearmed : next.timer.timerFd = rt.timer.timerFd ∨
    rt.timer.timerFd.settimes < next.timer.timerFd.settimes
  reads : next.timer.timerFd.reads = rt.timer.timerFd.reads ∨
    next.timer.timerFd.reads = true :: rt.timer.timerFd.reads ∨
    (holder = none ∧ ∃ delay, operation = .waitFor delay) ∧
      next.timer.timerFd.reads =
        rt.timer.timerFd.isReadable rt.clock :: rt.timer.timerFd.reads

section Plain

variable {operation : Operation}

theorem Operation.fits_iff :
    operation.fits rt.files = true ↔ operation.Fits rt := by
  unfold fits
  rw [Bool.and_eq_true, Option.all_eq_true, Option.all_eq_true]
  constructor
  · rintro ⟨socket, token⟩
    refine ⟨fun fd direction here => ?_, fun fd here => ?_⟩
    · exact of_decide_eq_true (socket (fd, direction) here)
    · exact File.isEventFd_iff.mp (token fd here)
  · intro fits
    refine ⟨fun key here => ?_, fun fd here => ?_⟩
    · exact decide_eq_true (fits.socket key.1 key.2 here)
    · exact File.isEventFd_iff.mpr (fits.token fd here)

theorem Operation.Fits.socket_plain (fits : operation.Fits rt)
    (inOrder : InOrder rt deadlines) {fd : Fd} {direction : Direction}
    (socket : operation.socket? = some (fd, direction)) :
    fd ≠ rt.timer.fd := by
  rintro rfl
  have file := fits.socket _ direction socket
  rw [inOrder.timerFile] at file
  cases file

theorem Operation.Fits.token_plain (fits : operation.Fits rt)
    (inOrder : InOrder rt deadlines) :
    ∀ fd, operation.token? = some fd → fd ≠ rt.timer.fd := by
  rintro fd token rfl
  obtain ⟨cancelled, counter, file⟩ := fits.token _ token
  rw [inOrder.timerFile] at file
  cases file

/-- An operation's own registrations do not touch the timerfd's slot. -/
theorem Operation.claim_timer (fits : operation.Fits rt)
    (inOrder : InOrder rt deadlines) (holder : Option Addr)
    (registry : Registry) :
    operation.claim holder registry rt.timer.fd .read =
      registry rt.timer.fd .read := by
  have tokenPlain := fits.token_plain inOrder
  have putToken_timer : ∀ (base : Registry) (pointer : Option OpPtr),
      base.putToken operation.token? pointer rt.timer.fd .read =
        base rt.timer.fd .read := by
    intro base pointer
    cases token : operation.token? with
    | none => rfl
    | some fd =>
        exact base.put_of_fd_ne pointer (tokenPlain fd token).symm
  cases socket : operation.socket? with
  | none => simp only [claim, socket, putToken_timer]
  | some key =>
      obtain ⟨fd, direction⟩ := key
      simp only [claim, socket, putToken_timer]
      exact registry.put_of_fd_ne _
        (fits.socket_plain inOrder socket).symm

end Plain

theorem Operation.claim_of_socket {operation : Operation} {fd : Fd}
    {direction : Direction}
    (socket : operation.socket? = some (fd, direction))
    (holder : Option Addr) (registry : Registry) :
    operation.claim holder registry =
      (registry.put fd direction
        (holder.map fun self => ⟨self, .socket⟩)).putToken operation.token?
          (holder.map fun self => ⟨self, .cancel⟩) := by
  simp only [claim, socket]

/-- The last stage of a function that leaves the timer settled. -/
theorem Stage.leaves {next : Runtime queues} {registry : Registry}
    {timer : TimerEvent queues} {clock : Int} {self : Addr}
    {holder : Option Addr} {operation : Operation} {deadline : Option Int}
    (stage : Stage rt next registry timer clock)
    (timerFile : rt.files rt.timer.fd = .timerFd)
    (settled : timer.Settled
      (Function.update deadlines ⟨self, .timer⟩ deadline))
    (registers : registry =
      (operation.claim holder rt.scheduler.registry).put rt.timer.fd .read
        timer.cur.state.read)
    (later : rt.clock ≤ clock)
    (retires : rt.timer.Retires timer)
    (rearmed : timer.timerFd = rt.timer.timerFd ∨
      rt.timer.timerFd.settimes < timer.timerFd.settimes)
    (reads : timer.timerFd.reads = rt.timer.timerFd.reads ∨
      timer.timerFd.reads = true :: rt.timer.timerFd.reads ∨
      (holder = none ∧ ∃ delay, operation = .waitFor delay) ∧
        timer.timerFd.reads =
          rt.timer.timerFd.isReadable rt.clock :: rt.timer.timerFd.reads) :
    Leaves self holder operation deadline rt next deadlines := by
  have timed := stage.timed
  subst timed
  refine ⟨⟨stage.tableAgrees, settled, ?_, ?_⟩, stage.timerFd, ?_, ?_,
    stage.fault, stage.files, retires, rearmed, reads⟩
  · rw [stage.timerFd, stage.registers, registers]
    exact Registry.put_self _ _
  · rw [stage.timerFd]
    rcases stage.files rt.timer.fd with same | ⟨_, _, before, _⟩
    · rw [same, timerFile]
    · rw [timerFile] at before
      cases before
  · rw [stage.registers, registers]
  · rw [stage.clocked]
    exact later

/-- The same for a function that leaves the timer alone. -/
theorem Stage.leaves_untimed {next : Runtime queues} {registry : Registry}
    {self : Addr} {holder : Option Addr} {operation : Operation}
    (stage : Stage rt next registry rt.timer rt.clock)
    (inOrder : InOrder rt deadlines) (fits : operation.Fits rt)
    (absent : deadlines ⟨self, .timer⟩ = none)
    (registers : registry =
      operation.claim holder rt.scheduler.registry) :
    Leaves self holder operation none rt next deadlines := by
  refine stage.leaves inOrder.timerFile ?_ ?_ (le_refl _)
    (TimerEvent.Retires.refl _) (Or.inl rfl) (Or.inl rfl)
  · rw [← absent, Function.update_eq_self]
    exact inOrder.settled
  · rw [registers]
    refine (Registry.put_eq_self _ _ ?_).symm
    rw [Operation.claim_timer fits inOrder]
    exact inOrder.slot

/-! ## Suspending -/

section Suspending

variable {operation : Operation} {conn : Fd} {direction : Direction}

/-- The suspension of an operation without a timer. -/
theorem suspend_untimed (self : Addr) (inOrder : InOrder rt deadlines)
    (fits : operation.Fits rt)
    (socket : operation.socket? = some (conn, direction))
    (quiet : rt.cancelRequested operation.token? = false)
    (absent : deadlines ⟨self, .timer⟩ = none) (op : FdOps)
    (present : op.pointer direction = some ⟨self, .socket⟩) :
    Leaves self (some self) operation none rt
      (CancelSlot.submit self operation.token?
        (rt.submitPlain conn op direction)) deadlines ∧
      (CancelSlot.submit self operation.token?
        (rt.submitPlain conn op direction)).clock = rt.clock := by
  have submitted := (Stage.enter inOrder.agrees).submit
    (fits.socket_plain inOrder socket) op present
  have slotted := submitted.submitToken self (fits.token_plain inOrder) quiet
  refine ⟨slotted.leaves_untimed inOrder fits absent ?_, slotted.clocked⟩
  rw [Operation.claim_of_socket socket]
  rfl

/-- The suspension of a read or a write with a timeout. -/
theorem suspend_timed (self : Addr) (inOrder : InOrder rt deadlines)
    (fits : operation.Fits rt)
    (socket : operation.socket? = some (conn, direction))
    (quiet : rt.cancelRequested operation.token? = false)
    (absent : deadlines ⟨self, .timer⟩ = none) (op : FdOps)
    (present : op.pointer direction = some ⟨self, .socket⟩)
    (state : FdOps) (named : state.read = some ⟨self, .timer⟩)
    {delay : Int} (timed : TimerEvent.toTimePoint rt.clock delay ≠ 0) :
    Leaves self (some self) operation
      (some (TimerEvent.toTimePoint rt.clock delay)) rt
      (CancelSlot.submit self operation.token?
        (((rt.submitPlain conn op direction).setTimer state
          delay).refreshTimerRegistration)) deadlines ∧
      (CancelSlot.submit self operation.token?
        (((rt.submitPlain conn op direction).setTimer state
          delay).refreshTimerRegistration)).clock = rt.clock := by
  have submitted := (Stage.enter inOrder.agrees).submit
    (fits.socket_plain inOrder socket) op present
  obtain ⟨set, setFd, setSince⟩ :=
    TimerEvent.setTimer_spec inOrder.settled named timed absent
  obtain ⟨refreshed, refreshedFd, refreshedSince⟩ :=
    TimerEvent.refreshCurrentTimer_spec set
  have registered := (submitted.setTimer setFd).refresh refreshed refreshedFd
  have slotted := registered.submitToken self (fits.token_plain inOrder) quiet
  have since := setSince.trans refreshedSince
  have retires := (rt.timer.setTimer_retires rt.clock state delay).trans
    (TimerEvent.refreshCurrentTimer_retires _)
  refine ⟨slotted.leaves inOrder.timerFile refreshed ?_ (le_refl _) retires
    ?_ ?_, slotted.clocked⟩
  · rw [Operation.claim_of_socket socket]
    exact Registry.put_putToken_comm _ _
      (fun fd token => (fits.token_plain inOrder fd token).symm) _
  · exact since.imp id (fun rearmed => rearmed.1)
  · left
    rcases since with same | rearmed
    · rw [same]
    · exact rearmed.2

/-- `timer_awaiter::await_suspend`. -/
theorem suspend_waitFor (self : Addr) (delay : Int)
    (inOrder : InOrder rt deadlines)
    (absent : deadlines ⟨self, .timer⟩ = none)
    (timed : TimerEvent.toTimePoint rt.clock delay ≠ 0) :
    Leaves self (some self) (.waitFor delay)
      (some (TimerEvent.toTimePoint rt.clock delay)) rt
      (TimerAwaiter.awaitSuspend self delay rt) deadlines ∧
      (TimerAwaiter.awaitSuspend self delay rt).clock = rt.clock := by
  have named : FdOps.read { read := some ⟨self, .timer⟩ } =
      some ⟨self, .timer⟩ := rfl
  obtain ⟨set, setFd, since⟩ :=
    TimerEvent.setTimer_spec inOrder.settled named timed absent
  have armed := (Stage.enter inOrder.agrees).setTimer setFd
  have nonempty :
      (rt.timer.setTimer rt.clock { read := some ⟨self, .timer⟩ }
        delay).currentEmpty = false := by
    cases empty : (rt.timer.setTimer rt.clock
        { read := some ⟨self, .timer⟩ } delay).currentEmpty with
    | false => rfl
    | true =>
        have gone := set.deadlines_of_empty empty ⟨self, .timer⟩
        rw [Function.update_self] at gone
        cases gone
  obtain ⟨pointer, current, _⟩ := set.current_present nonempty
  have submitted := armed.submitTimer current
  refine ⟨submitted.leaves inOrder.timerFile set ?_ (le_refl _)
    (rt.timer.setTimer_retires _ _ _) ?_ ?_, submitted.clocked⟩
  · rw [current]
    rfl
  · exact since.imp id (fun rearmed => rearmed.1)
  · left
    rcases since with same | rearmed
    · rw [same]
    · exact rearmed.2

end Suspending

/-! ## Resuming -/

section Resuming

variable {operation : Operation} {conn : Fd} {direction : Direction}

private theorem Operation.claim_none_comm (fits : operation.Fits rt)
    (socket : operation.socket? = some (conn, direction))
    (registry : Registry) :
    operation.claim none registry =
      (registry.putToken operation.token? none).put conn direction none := by
  rw [claim_of_socket socket]
  refine Registry.put_putToken_comm _ _ ?_ _
  rintro fd token rfl
  obtain ⟨cancelled, counter, file⟩ := fits.token _ token
  rw [fits.socket _ direction socket] at file
  cases file

/-- What is known of a timer after its timerfd was read. -/
theorem TimerEvent.Settled.afterRead {timer : TimerEvent queues}
    (settled : timer.Settled deadlines) (clock : Int) :
    WellFormed (timer.afterRead clock) ∧
      Represents TimerEvent.taskView (timer.afterRead clock).tasks
        (timer.afterRead clock).cancelledTimerIds deadlines ∧
      timer.Retires (timer.afterRead clock) :=
  ⟨⟨⟨settled.wellFormed.booked.ledger, settled.wellFormed.booked.timed,
        settled.wellFormed.booked.nextPositive⟩,
      settled.wellFormed.idle, settled.wellFormed.live,
      settled.wellFormed.least⟩,
    settled.represents, le_refl _, fun _ _ active => Or.inl active⟩

/-- A timer with a current task is armed for it. -/
theorem TimerEvent.Settled.setting_of_current {timer : TimerEvent queues}
    (settled : timer.Settled deadlines) {read : OpPtr}
    (named : timer.cur.state.read = some read) :
    timer.timerFd.setting = some timer.cur.timePoint := by
  have nonempty := settled.wellFormed.nonempty_of_read named
  rw [settled.armed.setting, nonempty]
  rfl

/-- The test of the timeout awaiters: the operation's own timer is the current
one, and its deadline is reached. -/
theorem timedOut_iff (settled : rt.timer.Settled deadlines) (self : Addr) :
    timedOut self rt = true ↔
      rt.timer.cur.state.read = some ⟨self, .timer⟩ ∧
        rt.timer.cur.timePoint ≤ rt.clock := by
  unfold timedOut TimerEvent.isCurrent
  rw [Bool.and_eq_true, decide_eq_true_iff]
  refine and_congr_right fun named => ?_
  rw [TimerEvent.getTimer, TimerFd.gettime,
    settled.setting_of_current named]
  simp

theorem isReadable_of_reached (settled : rt.timer.Settled deadlines)
    {read : OpPtr} (named : rt.timer.cur.state.read = some read)
    (reached : rt.timer.cur.timePoint ≤ rt.clock) :
    rt.timer.timerFd.isReadable rt.clock = true :=
  TimerFd.isReadable_iff.mpr ⟨settled.armed.unread, _,
    settled.setting_of_current named, reached⟩

/-- A cancelled read or write with a timeout. -/
theorem resume_timed_cancelled (self : Addr)
    (inOrder : InOrder rt deadlines) (fits : operation.Fits rt)
    (socket : operation.socket? = some (conn, direction)) :
    Leaves self none operation none rt
      (CancelSlot.remove operation.token?
        (((CancelSlot.consume operation.token? rt).cancelTimer
          ⟨self, .timer⟩).removePlain conn
            direction)).refreshTimerRegistration deadlines := by
  obtain ⟨settled, timerFd, since⟩ :=
    TimerEvent.cancelRefresh_spec inOrder.settled ⟨self, .timer⟩
  have cancelled := ((Stage.enter inOrder.agrees).consumeToken
    operation.token?).cancelTimer ⟨self, .timer⟩
  have removed := (cancelled.remove (fits.socket_plain inOrder socket)
    direction).removeToken (fits.token_plain inOrder)
  have refreshed := removed.refresh settled
    (timerFd.trans (TimerEvent.fd_cancel _ _).symm)
  have retires := (rt.timer.cancel_retires ⟨self, .timer⟩).trans
    (TimerEvent.refreshCurrentTimer_retires _)
  refine refreshed.leaves inOrder.timerFile settled ?_ (le_refl _) retires
    (since.imp id fun rearmed => rearmed.1) ?_
  · rw [Operation.claim_of_socket socket]
    rfl
  · left
    rcases since with same | rearmed
    · rw [same]
    · exact rearmed.2

/-- A read or a write that times out. -/
theorem resume_timed_out (self : Addr)
    (inOrder : InOrder rt deadlines) (fits : operation.Fits rt)
    (socket : operation.socket? = some (conn, direction))
    (expired : timedOut self rt = true) :
    Leaves self none operation none rt
      ((((CancelSlot.remove operation.token? rt).consumeTimer.cancelTimer
        ⟨self, .timer⟩).removePlain conn
          direction).refreshTimerRegistration) deadlines := by
  obtain ⟨named, reached⟩ := (timedOut_iff inOrder.settled self).mp expired
  have readable := isReadable_of_reached inOrder.settled named reached
  have consumed := ((Stage.enter inOrder.agrees).removeToken
    (fits.token_plain inOrder)).consumeTimer
      (inOrder.settled.setting_of_current named) inOrder.settled.armed.unread
  obtain ⟨wellFormed, represents, read⟩ :=
    inOrder.settled.afterRead rt.clock
  obtain ⟨settled, timerFd, rearmed⟩ :=
    TimerEvent.cancelRefresh_of_current wellFormed represents named
  have removed := (consumed.cancelTimer ⟨self, .timer⟩).remove
    (fits.socket_plain inOrder socket) direction
  have refreshed := removed.refresh settled
    (timerFd.trans (TimerEvent.fd_cancel _ _).symm)
  have retires := (read.trans (TimerEvent.cancel_retires _
    ⟨self, .timer⟩)).trans (TimerEvent.refreshCurrentTimer_retires _)
  refine refreshed.leaves inOrder.timerFile settled ?_ (le_max_left _ _)
    retires (Or.inr rearmed.1) (Or.inr (Or.inl ?_))
  · rw [Operation.claim_none_comm fits socket]
  · rw [rearmed.2, TimerEvent.afterRead, readable]

/-- The way of a read or a write with a timeout up to its transfer. -/
theorem resume_timed_ready (self : Addr) (token : Option Fd)
    (inOrder : InOrder rt deadlines)
    (plain : ∀ fd, token = some fd → fd ≠ rt.timer.fd) :
    ∃ timer : TimerEvent queues,
      Stage rt
        ((CancelSlot.remove token rt).cancelTimer
          ⟨self, .timer⟩).refreshTimerRegistration
        ((rt.scheduler.registry.putToken token none).put rt.timer.fd .read
          timer.cur.state.read) timer rt.clock ∧
      timer.Settled (Function.update deadlines ⟨self, .timer⟩ none) ∧
      rt.timer.Retires timer ∧
      rt.timer.timerFd.Since timer.timerFd := by
  obtain ⟨settled, timerFd, since⟩ :=
    TimerEvent.cancelRefresh_spec inOrder.settled ⟨self, .timer⟩
  have removed := (Stage.enter inOrder.agrees).removeToken plain
  have refreshed := (removed.cancelTimer ⟨self, .timer⟩).refresh settled
    (timerFd.trans (TimerEvent.fd_cancel _ _).symm)
  exact ⟨_, refreshed, settled,
    (rt.timer.cancel_retires ⟨self, .timer⟩).trans
      (TimerEvent.refreshCurrentTimer_retires _), since⟩

/-- After its transfer the operation leaves its socket. -/
theorem resume_timed_done {self : Addr} {next : Runtime queues}
    {timer : TimerEvent queues}
    (inOrder : InOrder rt deadlines) (fits : operation.Fits rt)
    (socket : operation.socket? = some (conn, direction))
    (stage : Stage rt next
      ((rt.scheduler.registry.putToken operation.token? none).put
        rt.timer.fd .read timer.cur.state.read) timer rt.clock)
    (settled : timer.Settled (Function.update deadlines ⟨self, .timer⟩ none))
    (retires : rt.timer.Retires timer)
    (since : rt.timer.timerFd.Since timer.timerFd) :
    Leaves self none operation none rt (next.removePlain conn direction)
      deadlines := by
  have plain := fits.socket_plain inOrder socket
  refine (stage.remove plain direction).leaves inOrder.timerFile settled ?_
    (le_refl _) retires (since.imp id fun rearmed => rearmed.1) ?_
  · rw [Operation.claim_none_comm fits socket]
    exact Registry.put_comm _ _ plain.symm _
  · left
    rcases since with same | rearmed
    · rw [same]
    · exact rearmed.2

/-- `timer_awaiter::await_resume` of the operation whose timer is current. -/
theorem resume_waitFor (self : Addr) (delay : Int)
    (inOrder : InOrder rt deadlines)
    (named : rt.timer.cur.state.read = some ⟨self, .timer⟩) :
    Leaves self none (.waitFor delay) none rt
      (rt.consumeTimer.advanceTimer.refreshTimerRegistration)
      deadlines := by
  have consumed := (Stage.enter inOrder.agrees).consumeTimer
    (inOrder.settled.setting_of_current named) inOrder.settled.armed.unread
  obtain ⟨wellFormed, represents, read⟩ :=
    inOrder.settled.afterRead rt.clock
  obtain ⟨advanced, advancedFd, rearmed⟩ :=
    TimerEvent.advance_spec wellFormed represents named
  obtain ⟨settled, timerFd, since⟩ :=
    TimerEvent.refreshCurrentTimer_spec advanced
  have refreshed := (consumed.advanceTimer advancedFd).refresh settled timerFd
  have again := TimerFd.Rearmed.trans_since rearmed since
  have retires := (read.trans (TimerEvent.advance_retires _)).trans
    (TimerEvent.refreshCurrentTimer_retires _)
  refine refreshed.leaves inOrder.timerFile settled rfl (le_max_left _ _)
    retires (Or.inr again.1)
    (Or.inr (Or.inr ⟨⟨rfl, delay, rfl⟩, ?_⟩))
  rw [again.2, TimerEvent.afterRead]

end Resuming

/-! ## Each awaiter's `await_resume` -/

section AwaitResume

variable {self : Addr} {base : Base} {conn : Fd} {buf : BufferRef}

private theorem InnerRecvAwaiter.awaitResume_spec (io : Io)
    (inOrder : InOrder rt deadlines)
    (fits : (Operation.asyncRead base).Fits rt)
    (absent : deadlines ⟨self, .timer⟩ = none) :
    Leaves self none (.asyncRead base) none rt
      (InnerRecvAwaiter.awaitResume base io rt).1 deadlines := by
  have plain : base.conn ≠ rt.timer.fd := fits.socket_plain inOrder rfl
  have tokenPlain : ∀ fd, base.cancelToken = some fd → fd ≠ rt.timer.fd :=
    fits.token_plain inOrder
  have entered := Stage.enter inOrder.agrees
  unfold InnerRecvAwaiter.awaitResume
  split
  · have stage := ((entered.consumeToken base.cancelToken).remove plain
      .read).removeToken tokenPlain
    rw [← Runtime.removeRead_eq] at stage
    exact stage.leaves_untimed inOrder fits absent rfl
  · have stage := ((entered.removeToken tokenPlain).tryRead base.conn
      base.buf io.recv).remove plain .read
    rw [← Runtime.removeRead_eq] at stage
    exact stage.leaves_untimed inOrder fits absent
      (Operation.claim_none_comm fits rfl _).symm

private theorem InnerSendAwaiter.awaitResume_spec (io : Io)
    (inOrder : InOrder rt deadlines)
    (fits : (Operation.asyncWrite base).Fits rt)
    (absent : deadlines ⟨self, .timer⟩ = none) :
    Leaves self none (.asyncWrite base) none rt
      (InnerSendAwaiter.awaitResume base io rt).1 deadlines := by
  have plain : base.conn ≠ rt.timer.fd := fits.socket_plain inOrder rfl
  have tokenPlain : ∀ fd, base.cancelToken = some fd → fd ≠ rt.timer.fd :=
    fits.token_plain inOrder
  have entered := Stage.enter inOrder.agrees
  unfold InnerSendAwaiter.awaitResume
  split
  · have stage := ((entered.consumeToken base.cancelToken).remove plain
      .write).removeToken tokenPlain
    rw [← Runtime.removeWrite_eq] at stage
    exact stage.leaves_untimed inOrder fits absent rfl
  · have stage := ((entered.removeToken tokenPlain).remove plain
      .write).tryWrite base.conn base.buf io.send
    rw [← Runtime.removeWrite_eq] at stage
    exact stage.leaves_untimed inOrder fits absent
      (Operation.claim_none_comm fits rfl _).symm

private theorem InnerRecvTimeoutAwaiter.awaitResume_spec (io : Io) {delay : Int}
    (inOrder : InOrder rt deadlines)
    (fits : (Operation.asyncReadTimeout base delay).Fits rt) :
    Leaves self none (.asyncReadTimeout base delay) none rt
      (InnerRecvTimeoutAwaiter.awaitResume self base io rt).1 deadlines := by
  have tokenPlain : ∀ fd, base.cancelToken = some fd → fd ≠ rt.timer.fd :=
    fits.token_plain inOrder
  have socket : (Operation.asyncReadTimeout base delay).socket? =
      some (base.conn, .read) := rfl
  have token : (Operation.asyncReadTimeout base delay).token? =
      base.cancelToken := rfl
  unfold InnerRecvTimeoutAwaiter.awaitResume
  split
  · have left := resume_timed_cancelled self inOrder fits socket
    rw [token, ← Runtime.removeRead_eq] at left
    exact left
  · have removed := (Stage.enter inOrder.agrees).removeToken tokenPlain
    have sameTest : timedOut self (CancelSlot.remove base.cancelToken rt) =
        timedOut self rt := by
      unfold timedOut
      rw [removed.timed, removed.clocked]
    simp only [sameTest]
    split
    · rename_i expired
      have left := resume_timed_out self inOrder fits socket expired
      rw [token, ← Runtime.removeRead_eq] at left
      exact left
    · obtain ⟨timer, stage, settled, retires, since⟩ :=
        resume_timed_ready self base.cancelToken inOrder tokenPlain
      have left := resume_timed_done inOrder fits socket
        (stage.tryRead base.conn base.buf io.recv) settled retires since
      rw [← Runtime.removeRead_eq] at left
      exact left

private theorem InnerSendTimeoutAwaiter.awaitResume_spec (io : Io) {delay : Int}
    (inOrder : InOrder rt deadlines)
    (fits : (Operation.asyncWriteTimeout base delay).Fits rt) :
    Leaves self none (.asyncWriteTimeout base delay) none rt
      (InnerSendTimeoutAwaiter.awaitResume self base io rt).1 deadlines := by
  have tokenPlain : ∀ fd, base.cancelToken = some fd → fd ≠ rt.timer.fd :=
    fits.token_plain inOrder
  have socket : (Operation.asyncWriteTimeout base delay).socket? =
      some (base.conn, .write) := rfl
  have token : (Operation.asyncWriteTimeout base delay).token? =
      base.cancelToken := rfl
  unfold InnerSendTimeoutAwaiter.awaitResume
  split
  · have left := resume_timed_cancelled self inOrder fits socket
    rw [token, ← Runtime.removeWrite_eq] at left
    exact left
  · have removed := (Stage.enter inOrder.agrees).removeToken tokenPlain
    have sameTest : timedOut self (CancelSlot.remove base.cancelToken rt) =
        timedOut self rt := by
      unfold timedOut
      rw [removed.timed, removed.clocked]
    simp only [sameTest]
    split
    · rename_i expired
      have left := resume_timed_out self inOrder fits socket expired
      rw [token, ← Runtime.removeWrite_eq] at left
      exact left
    · obtain ⟨timer, stage, settled, retires, since⟩ :=
        resume_timed_ready self base.cancelToken inOrder tokenPlain
      have left := resume_timed_done inOrder fits socket
        (stage.tryWrite base.conn base.buf io.send) settled retires since
      rw [← Runtime.removeWrite_eq] at left
      exact left

private theorem InnerRecvSomeAwaiter.awaitResume_spec (io : Io)
    (inOrder : InOrder rt deadlines)
    (fits : (Operation.asyncReadSome conn buf).Fits rt)
    (absent : deadlines ⟨self, .timer⟩ = none) :
    Leaves self none (.asyncReadSome conn buf) none rt
      (InnerRecvSomeAwaiter.awaitResume conn buf io rt).1 deadlines := by
  have plain : conn ≠ rt.timer.fd := fits.socket_plain inOrder rfl
  have stage := ((Stage.enter inOrder.agrees).remove plain .read).tryRead
    conn buf io.recv
  rw [← Runtime.removeRead_eq] at stage
  exact stage.leaves_untimed inOrder fits absent rfl

private theorem InnerAcceptAwaiter.awaitResume_spec (io : Io)
    (inOrder : InOrder rt deadlines)
    (fits : (Operation.asyncAccept conn).Fits rt)
    (absent : deadlines ⟨self, .timer⟩ = none) :
    Leaves self none (.asyncAccept conn) none rt
      (InnerAcceptAwaiter.awaitResume conn io rt).1 deadlines := by
  have plain : conn ≠ rt.timer.fd := fits.socket_plain inOrder rfl
  have stage := (Stage.enter inOrder.agrees).remove plain .read
  rw [← Runtime.removeAccept_eq] at stage
  unfold InnerAcceptAwaiter.awaitResume
  cases io.accept with
  | error errno => exact stage.leaves_untimed inOrder fits absent rfl
  | ok fd => exact stage.leaves_untimed inOrder fits absent rfl

private theorem InnerConnectAwaiter.awaitResume_spec (io : Io)
    (inOrder : InOrder rt deadlines)
    (fits : (Operation.asyncConnect conn).Fits rt)
    (absent : deadlines ⟨self, .timer⟩ = none) :
    Leaves self none (.asyncConnect conn) none rt
      (InnerConnectAwaiter.awaitResume conn io rt).1 deadlines := by
  have plain : conn ≠ rt.timer.fd := fits.socket_plain inOrder rfl
  have stage := (Stage.enter inOrder.agrees).remove plain .write
  rw [← Runtime.removeConnect_eq] at stage
  exact stage.leaves_untimed inOrder fits absent rfl

end AwaitResume

/-! ## All operations -/

namespace Operation

/-- With its token cancelled an operation does not suspend. -/
theorem awaitSuspend_of_cancelled {operation : Operation} (self : Addr)
    (cancelled : rt.cancelRequested operation.token? = true) :
    operation.awaitSuspend self rt = (rt, false) := by
  cases operation with
  | asyncRead base =>
      exact if_pos cancelled
  | asyncReadTimeout base delay =>
      exact if_pos cancelled
  | asyncWrite base =>
      exact if_pos cancelled
  | asyncWriteTimeout base delay =>
      exact if_pos cancelled
  | asyncReadSome conn buf => cases cancelled
  | asyncAccept conn => cases cancelled
  | asyncConnect conn => cases cancelled
  | waitFor delay => cases cancelled

/-- Otherwise it suspends, and keeps the contract. -/
theorem awaitSuspend_spec (operation : Operation) (self : Addr)
    (inOrder : InOrder rt deadlines) (fits : operation.Fits rt)
    (quiet : rt.cancelRequested operation.token? = false)
    (absent : deadlines ⟨self, .timer⟩ = none)
    (timed : ∀ deadline, operation.deadlineAt rt.clock = some deadline →
      deadline ≠ 0) :
    ∃ next, operation.awaitSuspend self rt = (next, true) ∧
      Leaves self (some self) operation (operation.deadlineAt rt.clock)
        rt next deadlines ∧
      next.clock = rt.clock := by
  cases operation with
  | asyncRead base =>
      exact ⟨_, if_neg (ne_true_of_eq_false quiet),
        suspend_untimed self inOrder fits rfl quiet absent _ rfl⟩
  | asyncReadTimeout base delay =>
      exact ⟨_, if_neg (ne_true_of_eq_false quiet),
        suspend_timed self inOrder fits rfl quiet absent _ rfl _ rfl
          (timed _ rfl)⟩
  | asyncWrite base =>
      exact ⟨_, if_neg (ne_true_of_eq_false quiet),
        suspend_untimed self inOrder fits rfl quiet absent _ rfl⟩
  | asyncWriteTimeout base delay =>
      exact ⟨_, if_neg (ne_true_of_eq_false quiet),
        suspend_timed self inOrder fits rfl quiet absent _ rfl _ rfl
          (timed _ rfl)⟩
  | asyncReadSome conn buf =>
      exact ⟨_, rfl,
        suspend_untimed self inOrder fits rfl quiet absent _ rfl⟩
  | asyncAccept conn =>
      exact ⟨_, rfl,
        suspend_untimed self inOrder fits rfl quiet absent _ rfl⟩
  | asyncConnect conn =>
      exact ⟨_, rfl,
        suspend_untimed self inOrder fits rfl quiet absent _ rfl⟩
  | waitFor delay =>
      exact ⟨_, rfl,
        suspend_waitFor self delay inOrder absent (timed _ rfl)⟩

/-- A resumption keeps the contract, whatever woke the operation; a `wait_for`
must be the one whose timer is current. -/
theorem resumeOnce_spec (operation : Operation) (self : Addr) (io : Io)
    (total : Nat) (inOrder : InOrder rt deadlines)
    (fits : operation.Fits rt)
    (untimed : operation.delay? = none → deadlines ⟨self, .timer⟩ = none)
    (current : ∀ delay, operation = .waitFor delay →
      rt.timer.cur.state.read = some ⟨self, .timer⟩) :
    Leaves self none operation none rt
      (operation.resumeOnce self io total rt).rt deadlines := by
  cases operation with
  | asyncRead base =>
      exact InnerRecvAwaiter.awaitResume_spec io inOrder fits (untimed rfl)
  | asyncReadTimeout base delay =>
      exact InnerRecvTimeoutAwaiter.awaitResume_spec io inOrder fits
  | asyncReadSome conn buf =>
      exact InnerRecvSomeAwaiter.awaitResume_spec io inOrder fits
        (untimed rfl)
  | asyncWrite base =>
      exact InnerSendAwaiter.awaitResume_spec io inOrder fits (untimed rfl)
  | asyncWriteTimeout base delay =>
      exact InnerSendTimeoutAwaiter.awaitResume_spec io inOrder fits
  | asyncAccept conn =>
      exact InnerAcceptAwaiter.awaitResume_spec io inOrder fits (untimed rfl)
  | asyncConnect conn =>
      exact InnerConnectAwaiter.awaitResume_spec io inOrder fits
        (untimed rfl)
  | waitFor delay =>
      exact resume_waitFor self delay inOrder (current delay rfl)

end Operation

end AsyncFrame
