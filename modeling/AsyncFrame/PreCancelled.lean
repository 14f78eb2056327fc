import AsyncFrame.Effects

/-!
# Starting with a cancelled token

An operation whose token is cancelled before it starts registers nothing, but
its `await_resume` cleans up like that of a registered one.  What this does to
the table, to the kernel's interest set, to the timers and to the token's
eventfd is compared with the state before, in which any other operations may
be suspended.
-/

namespace AsyncFrame

variable {queues : TimerQueue} {rt next : Runtime queues}

/-! ## A table is what it registers -/

namespace Scheduler

variable {timerFd fd : Fd} {scheduler other : Scheduler}

private theorem EntrySound.eq_of_pointers {state twin : FdState}
    (sound : EntrySound timerFd fd state)
    (twinSound : EntrySound timerFd fd twin)
    (same : ∀ direction, state.pointer direction = twin.pointer direction) :
    state = twin := by
  have reads : state.read = twin.read := same .read
  have writes : state.write = twin.write := same .write
  have masks : state.ev = twin.ev := by
    rw [sound.ev, twinSound.ev, reads, writes]
  cases state
  cases twin
  cases reads
  cases writes
  cases masks
  rfl

/-- Two tables that agree with the kernel and register the same are equal, and
so is what the kernel has been told. -/
theorem Agrees.eq_of_registry (agrees : Agrees timerFd scheduler)
    (otherAgrees : Agrees timerFd other)
    (same : scheduler.registry = other.registry) : scheduler = other := by
  have tables : scheduler.fdToOp = other.fdToOp := by
    apply Finmap.ext_lookup
    intro fd
    have slots : ∀ direction, scheduler.registry fd direction =
        other.registry fd direction :=
      fun direction => congrFun (congrFun same fd) direction
    cases found : scheduler.fdToOp.lookup fd with
    | none =>
        symm
        apply lookup_eq_none_of_unused otherAgrees
        intro direction
        rw [← slots direction]
        simp [registry, found]
    | some state =>
        cases twinFound : other.fdToOp.lookup fd with
        | none =>
            have used := (agrees.sound fd state found).used
            have reads := slots .read
            have writes := slots .write
            rw [registry_of_lookup found] at reads writes
            simp only [registry, twinFound, Option.bind_none,
              FdState.pointer] at reads writes
            simp [reads, writes] at used
        | some twin =>
            congr 1
            apply (agrees.sound fd state found).eq_of_pointers
              (otherAgrees.sound fd twin twinFound)
            intro direction
            have slot := slots direction
            rw [registry_of_lookup found, registry_of_lookup twinFound]
              at slot
            exact slot
  have kernels : scheduler.epollManager.interest =
      other.epollManager.interest := by
    apply Finmap.ext_lookup
    intro fd
    rw [agrees.mirror fd, otherAgrees.mirror fd, tables]
  obtain ⟨⟨interest⟩, table⟩ := scheduler
  obtain ⟨⟨otherInterest⟩, otherTable⟩ := other
  cases tables
  cases kernels
  rfl

end Scheduler

/-! ## Nothing to refresh -/

namespace TimerEvent

variable {timer : TimerEvent queues} {deadlines : OpPtr → Option Int}

/-- Without a current task a refresh disarms the timerfd once more. -/
theorem refreshCurrentTimer_of_idle (settled : Settled timer deadlines)
    (empty : timer.currentEmpty = true) :
    timer.refreshCurrentTimer = timer.clearTimer := by
  obtain ⟨blank, drained⟩ := settled.wellFormed.idle empty
  have unoccupied : emptyTask timer.cur = true := empty
  have forgotten : timer.forgetActive timer.cur = timer := by
    apply forgetActive_of_stale
    intro read named
    rw [blank] at named
    cases named
  rw [refreshCurrentTimer, if_pos unoccupied, forgotten, activateNextTimer,
    drained]
  simp only [Multiset.card_zero, activateLoop]
  rw [← blank]

/-- A refresh leaves the live tasks of a settled timer, the current one and the
time that the timerfd is set for. -/
theorem refreshCurrentTimer_still (settled : Settled timer deadlines) :
    timer.refreshCurrentTimer.liveTasks = timer.liveTasks ∧
      timer.refreshCurrentTimer.cur = timer.cur ∧
      timer.refreshCurrentTimer.timerFd.setting =
        timer.timerFd.setting := by
  cases occupied : timer.currentEmpty with
  | false =>
      rw [refreshCurrentTimer_of_live settled.wellFormed occupied]
      exact ⟨rfl, rfl, rfl⟩
  | true =>
      rw [refreshCurrentTimer_of_idle settled occupied]
      refine ⟨rfl, rfl, ?_⟩
      rw [settled.armed.setting, if_pos occupied]
      rfl

/-- Cancelling a timer that was never set changes nothing. -/
theorem cancel_of_absent (settled : Settled timer deadlines) {read : OpPtr}
    (absent : deadlines read = none) : timer.cancel read = timer := by
  apply cancel_of_inactive
  apply (settled.represents.inactive_iff
    settled.wellFormed.booked.ledger read).mpr
  exact absent

end TimerEvent

/-! ## What is compared -/

/-- The eventfd of a token can be read. -/
def Runtime.tokenReadable (rt : Runtime queues) (token : Fd) : Bool :=
  match rt.files token with
  | .eventFd _ counter => 0 < counter
  | _ => false

/-- The table, the interest set, the live timers with what the timerfd is set
for, the buffers and the token's eventfd are what they were. -/
structure Unaffected (token : Fd) (rt next : Runtime queues) : Prop where
  fdToOp : next.scheduler.fdToOp = rt.scheduler.fdToOp
  interest : next.scheduler.epollManager.interest =
    rt.scheduler.epollManager.interest
  liveTasks : next.timer.liveTasks = rt.timer.liveTasks
  armed : next.timer.timerFd.setting = rt.timer.timerFd.setting
  buffers : next.buffers = rt.buffers
  readable : next.tokenReadable token = rt.tokenReadable token

/-- Nothing is registered in the operation's own slots, and the token's eventfd
has been drained before. -/
structure Alone (operation : Operation) (token : Fd)
    (rt : Runtime queues) : Prop where
  socket : ∀ conn direction, operation.socket? = some (conn, direction) →
    rt.scheduler.registry conn direction = none
  cancel : rt.scheduler.registry token .read = none
  drained : rt.tokenReadable token = false

private theorem Registry.putToken_eq_self {registry : Registry}
    {token : Option Fd}
    (free : ∀ fd, token = some fd → registry fd .read = none) :
    registry.putToken token none = registry := by
  cases token with
  | none => rfl
  | some fd => exact registry.put_eq_self none (free fd rfl)

namespace Runtime

@[simp]
theorem files_settle (rt : Runtime queues) (outcome : Scheduler.Outcome) :
    (rt.settle outcome).files = rt.files := by
  obtain ⟨scheduler, _ | thrown⟩ := outcome <;> rfl

@[simp]
theorem files_removeToken (rt : Runtime queues) (token : Option Fd) :
    (CancelSlot.remove token rt).files = rt.files := by
  cases token with
  | none => rfl
  | some fd => exact files_settle _ _

@[simp]
theorem files_refresh (rt : Runtime queues) :
    rt.refreshTimerRegistration.files = rt.files := by
  simp only [refreshTimerRegistration]
  split <;> exact files_settle _ _

/-- Draining the eventfd of a cancelled token. -/
theorem tokenReadable_consume {token : Fd}
    (cancelled : rt.tokenFlag token = true) (same : next.files =
      (CancelSlot.consume (some token) rt).files) :
    next.tokenReadable token = false := by
  unfold tokenReadable
  rw [same]
  simp only [CancelSlot.consume, consumeToken]
  unfold tokenFlag at cancelled
  split at cancelled
  · simp
  · cases cancelled

end Runtime

namespace Operation

variable {operation : Operation} {token : Fd} {self : Addr}
variable {deadlines : OpPtr → Option Int}

/-- Clearing an operation's slots changes nothing exactly if they are
clear. -/
theorem claim_none_eq_self_iff (named : operation.token? = some token)
    (registry : Registry) :
    operation.claim none registry = registry ↔
      (∀ conn direction, operation.socket? = some (conn, direction) →
        registry conn direction = none) ∧ registry token .read = none := by
  constructor
  · intro same
    constructor
    · intro conn direction socket
      rw [← same, claim_of_socket socket, named]
      simp [Registry.putToken, Registry.put]
    · rw [← same]
      simp only [claim, named, Registry.putToken]
      cases operation.socket? <;> exact Registry.put_self _ _
  · rintro ⟨socketFree, tokenFree⟩
    have tokenFree : ∀ fd, operation.token? = some fd →
        registry fd .read = none := by
      rintro fd here
      rw [named] at here
      cases here
      exact tokenFree
    cases socket : operation.socket? with
    | none =>
        simp only [claim, socket]
        exact Registry.putToken_eq_self tokenFree
    | some key =>
        obtain ⟨conn, direction⟩ := key
        rw [claim_of_socket socket]
        simp only [Option.map_none]
        rw [Registry.put_eq_self _ _ (socketFree conn direction socket)]
        exact Registry.putToken_eq_self tokenFree

/-- An operation with a token reads or writes. -/
theorem transfers_of_token (named : operation.token? = some token) :
    ∃ base, base.cancelToken = some token ∧
      (operation.reads? = some base ∨ operation.writes? = some base) := by
  cases operation with
  | asyncRead base => exact ⟨base, named, Or.inl rfl⟩
  | asyncReadTimeout base delay => exact ⟨base, named, Or.inl rfl⟩
  | asyncWrite base => exact ⟨base, named, Or.inr rfl⟩
  | asyncWriteTimeout base delay => exact ⟨base, named, Or.inr rfl⟩
  | asyncReadSome conn buf => cases named
  | asyncAccept conn => cases named
  | asyncConnect conn => cases named
  | waitFor delay => cases named

/-- Started with its token cancelled, an operation goes straight on to its
`await_resume`. -/
theorem start_of_cancelled (self : Addr) (io : Io)
    (named : operation.token? = some token)
    (cancelled : rt.tokenFlag token = true) :
    operation.start self io rt = operation.resumeOnce self {} 0 rt := by
  have requested : rt.cancelRequested operation.token? = true := by
    rw [named]
    exact cancelled
  have entered : operation.start self io rt =
      loop self operation 1 0 rt := by
    cases operation with
    | asyncConnect conn => cases named
    | _ => rfl
  rw [entered, loop_succ, if_pos requested]

private theorem resumeOnce_silent (self : Addr) (io : Io) (total : Nat)
    (named : operation.token? = some token)
    (cancelled : rt.tokenFlag token = true) :
    rt.Silent (operation.resumeOnce self io total rt).rt := by
  have requested : rt.cancelRequested operation.token? = true := by
    rw [named]
    exact cancelled
  obtain ⟨base, _, reads | writes⟩ := transfers_of_token named
  · exact (resumeOnce_misses self io total reads
      (receives_of_cancelled self reads requested)).1
  · exact (resumeOnce_skips self io total writes
      (sends_of_cancelled self writes requested)).1

theorem resumeOnce_files_of_cancelled (self : Addr) (io : Io) (total : Nat)
    (named : operation.token? = some token)
    (cancelled : rt.tokenFlag token = true) :
    (operation.resumeOnce self io total rt).rt.files =
      (CancelSlot.consume (some token) rt).files := by
  have requested : rt.cancelRequested (some token) = true := cancelled
  cases operation with
  | asyncRead base =>
      have holds : base.cancelToken = some token := named
      simp [resumeOnce, InnerRecvAwaiter.awaitResume,
        CancelSlot.isCancelEvent, requested, Runtime.removeRead, holds]
  | asyncReadTimeout base delay =>
      have holds : base.cancelToken = some token := named
      simp [resumeOnce, InnerRecvTimeoutAwaiter.awaitResume,
        CancelSlot.isCancelEvent, requested, Runtime.removeRead,
        Runtime.cancelTimer, holds]
  | asyncWrite base =>
      have holds : base.cancelToken = some token := named
      simp [resumeOnce, InnerSendAwaiter.awaitResume,
        CancelSlot.isCancelEvent, requested, Runtime.removeWrite,
        holds]
  | asyncWriteTimeout base delay =>
      have holds : base.cancelToken = some token := named
      simp [resumeOnce, InnerSendTimeoutAwaiter.awaitResume,
        CancelSlot.isCancelEvent, requested, Runtime.removeWrite,
        Runtime.cancelTimer, holds]
  | asyncReadSome conn buf => cases named
  | asyncAccept conn => cases named
  | asyncConnect conn => cases named
  | waitFor delay => cases named

/-- An operation whose timer was never set leaves the live tasks, the current
one and the timerfd's setting alone. -/
theorem resumeOnce_timer_still (self : Addr) (io : Io) (total : Nat)
    (named : operation.token? = some token)
    (settled : rt.timer.Settled deadlines)
    (absent : deadlines ⟨self, .timer⟩ = none) :
    (operation.resumeOnce self io total rt).rt.timer.liveTasks =
        rt.timer.liveTasks ∧
      (operation.resumeOnce self io total rt).rt.timer.cur =
        rt.timer.cur ∧
      (operation.resumeOnce self io total rt).rt.timer.timerFd.setting =
        rt.timer.timerFd.setting := by
  have runs : ¬operation.Waits self rt := by
    rintro (⟨_, expired⟩ | ⟨delay, rfl⟩)
    · obtain ⟨current, _⟩ := Bool.and_eq_true_iff.mp expired
      have named : rt.timer.cur.state.read = some ⟨self, .timer⟩ :=
        of_decide_eq_true current
      obtain ⟨read, same, present⟩ := settled.current_present
        (settled.wellFormed.nonempty_of_read named)
      rw [named] at same
      cases same
      rw [absent] at present
      cases present
    · cases named
  rw [resumeOnce_timer operation self io total rt runs]
  split
  · rw [TimerEvent.cancel_of_absent settled absent]
    exact TimerEvent.refreshCurrentTimer_still settled
  · exact ⟨rfl, rfl, rfl⟩

/-- For a table and a timer in order: an operation started with a cancelled
token returns at once without a transfer, with its slots cleared, and affects
nothing exactly if it is alone. -/
theorem start_unaffected_iff (self : Addr) (io : Io)
    (inOrder : InOrder rt deadlines) (fits : operation.Fits rt)
    (absent : deadlines ⟨self, .timer⟩ = none)
    (named : operation.token? = some token)
    (cancelled : rt.tokenFlag token = true) :
    rt.Silent (operation.start self io rt).rt ∧
      (operation.start self io rt).rt.scheduler.registry =
        operation.claim none rt.scheduler.registry ∧
      (Unaffected token rt (operation.start self io rt).rt ↔
        Alone operation token rt) := by
  rw [start_of_cancelled self io named cancelled]
  have silent := resumeOnce_silent self {} 0 named cancelled
  have drained := Runtime.tokenReadable_consume cancelled
    (resumeOnce_files_of_cancelled self {} 0 named cancelled)
  obtain ⟨tasks, current, armed⟩ :=
    resumeOnce_timer_still self {} 0 named inOrder.settled absent
  have leaves : Leaves self none operation none rt
      (operation.resumeOnce self {} 0 rt).rt deadlines := by
    apply resumeOnce_spec operation self {} 0 inOrder fits (fun _ => absent)
    rintro delay rfl
    cases named
  generalize (operation.resumeOnce self {} 0 rt).rt = next at *
  have registers : next.scheduler.registry =
      operation.claim none rt.scheduler.registry := by
    rw [leaves.registers, current, ← inOrder.slot,
      ← claim_timer fits inOrder none rt.scheduler.registry]
    exact Registry.put_eq_self _ _ rfl
  refine ⟨silent, registers, ?_, ?_⟩
  · intro unaffected
    have same : next.scheduler.registry = rt.scheduler.registry := by
      funext fd direction
      unfold Scheduler.registry
      rw [unaffected.fdToOp]
    rw [registers, claim_none_eq_self_iff named] at same
    refine ⟨same.1, same.2, ?_⟩
    rw [← unaffected.readable]
    exact drained
  · intro alone
    have same : next.scheduler = rt.scheduler := by
      apply Scheduler.Agrees.eq_of_registry leaves.inOrder.agrees
      · rw [leaves.timerFd]
        exact inOrder.agrees
      · rw [registers, claim_none_eq_self_iff named]
        exact ⟨alone.socket, alone.cancel⟩
    constructor
    · rw [same]
    · rw [same]
    · exact tasks
    · exact armed
    · exact silent.buffers
    · rw [drained, alone.drained]

end Operation

namespace System

variable {s next : System queues} {action : Action}
variable {operation : Operation} {token : Fd}
variable {timerFd : Fd} {uptime : Nat} {buffers : BufferRef → Buffer}
variable {actions : List Action}

/-- A `co_await` leaves the runtime as the start of its operation did, in a
frame that was free. -/
theorem step_starts (starts : action.starts? = some operation)
    (taken : s.step action = some next) :
    ∃ frame io, s.frames.lookup frame = none ∧ operation.Fits s.rt ∧
      next.rt = (operation.start frame io s.rt).rt := by
  obtain ⟨allowed, rfl⟩ := step_eq_some taken
  cases action with
  | await frame other io =>
      cases starts
      obtain ⟨⟨caller, below, stack, _⟩, free, admitted⟩ :=
        enabled_await allowed
      refine ⟨frame, io, free, (admits_iff.mp admitted).1, ?_⟩
      simp only [perform, await, stack]
      cases (operation.start frame io s.rt).returned <;> rfl
  | awaitWithTimeout impl frame wrapped delay io =>
      obtain ⟨⟨caller, below, stack, _⟩, _, free, _, other, timeout,
        admitted⟩ := enabled_awaitWithTimeout allowed
      have same : wrapped.withTimeout delay = some operation := starts
      rw [timeout] at same
      cases same
      refine ⟨frame, io, free, (admits_iff.mp admitted).1, ?_⟩
      simp only [perform, awaitWithTimeout, timeout, stack]
      cases (operation.start frame io s.rt).returned <;> rfl
  | _ => cases starts

/-- The operation that was started has not been suspended and has ended with
`operation_canceled`, without a transfer. -/
structure EndsCancelled (operation : Operation)
    (s next : System queues) : Prop where
  ended : ∃ number result, s.nextNumber ≤ number ∧
    result.ec = operationCancelledError ∧
    next.history number = [.wentOn number result, .finished number result,
      .started number operation]
  pending : next.pending = s.pending
  calls : next.rt.calls = s.rt.calls

private theorem ends_of_cancelled (good : Good s) (ledger : Ledger s)
    (starts : action.starts? = some operation)
    (named : operation.token? = some token)
    (cancelled : s.rt.tokenFlag token = true)
    (taken : s.step action = some next) :
    (∃ number result, s.nextNumber ≤ number ∧
      result.ec = operationCancelledError ∧
      next.history number = [.wentOn number result,
        .finished number result, .started number operation]) ∧
      next.pending = s.pending := by
  have keeps : s.keepsPending action = true := by
    cases action <;> first | rfl | cases starts
  have requested : s.rt.cancelRequested operation.token? = true := by
    rw [named]
    exact cancelled
  cases (step_move good keeps taken).1 with
  | calm nothing =>
      rw [nothing] at starts
      cases starts
  | suspends frame op prelude starting _ _ _ quiet =>
      rw [starting] at starts
      cases starts
      rw [requested] at quiet
      cases quiet
  | passes frame other number result prelude starting opening _ _ pending
      leaves trace =>
      rw [starting] at starts
      cases starts
      obtain ⟨below, _, own, _⟩ :=
        ledger.opens [.wentOn number result, .finished number result,
          .started number operation] opening (by simp [Obs.number?]) trace
      rcases leaves with ⟨⟨conn, rfl⟩, _⟩ | ⟨_, error, _⟩
      · cases named
      · exact ⟨⟨number, result, below, error, own⟩, pending⟩
  | ends _ _ _ woken =>
      rw [starts_of_woken woken] at starts
      cases starts
  | rounds _ _ _ _ woken =>
      rw [starts_of_woken woken] at starts
      cases starts

/-- In every reachable state, an operation that is started with a cancelled
token ends at once with `operation_canceled` and without a transfer, and what
it leaves of the registrations is all but its own two slots.  Nothing is
affected exactly if nothing was registered in these slots and the token's
eventfd had been drained before. -/
theorem preCancelled_unaffected_iff
    (reached : Reaches KeepsPending timerFd uptime buffers actions s)
    (starts : action.starts? = some operation)
    (named : operation.token? = some token)
    (cancelled : s.rt.tokenFlag token = true)
    (taken : s.step action = some next) :
    EndsCancelled operation s next ∧
      next.rt.scheduler.registry =
        operation.claim none s.rt.scheduler.registry ∧
      (Unaffected token s.rt next.rt ↔ Alone operation token s.rt) := by
  have good := reached.good fun _ _ keeps => keeps
  obtain ⟨frame, io, free, fits, left⟩ := step_starts starts taken
  have absent : deadlines s.pending ⟨frame, .timer⟩ = none := by
    rw [deadlines_timer, pending, pendingIn_of_free free]
    rfl
  obtain ⟨silent, registers, unaffected⟩ :=
    Operation.start_unaffected_iff frame io good.sound.inOrder fits absent
      named cancelled
  rw [left]
  refine ⟨?_, registers, unaffected⟩
  obtain ⟨ended, pending⟩ := ends_of_cancelled good (ledger_of_run reached)
    starts named cancelled taken
  refine ⟨ended, pending, ?_⟩
  rw [left]
  exact silent.calls

/-- With another read suspended, and the eventfd drained by an operation that
was started before. -/
theorem preCancelled_unaffected_iff_sample :
    ∃ s : System TimerQueue.sorted,
      Reaches KeepsPending 3 100 (fun _ => ⟨[0, 0], 0⟩)
        [.openFd 5 .socket, .openFd 7 .socket, .openFd 6 (.eventFd false 0),
          .spawn 1, .await 10 (.asyncReadTimeout ⟨5, 0, none⟩ 90) {},
          .requestCancel 6, .spawn 2,
          .await 11 (.asyncRead ⟨7, 1, some 6⟩) {}] s ∧
      (s.pending 10).isSome = true ∧ ∃ next,
        s.step (.await 11 (.asyncReadTimeout ⟨7, 1, some 6⟩ 50) {}) =
          some next ∧
        EndsCancelled (.asyncReadTimeout ⟨7, 1, some 6⟩ 50) s next ∧
        Unaffected 6 s.rt next.rt := by
  refine (exists_reaches (fun s =>
    (s.pending 10).isSome && s.rt.tokenFlag 6 && !s.rt.tokenReadable 6 &&
    (s.rt.scheduler.registry 7 .read).isNone &&
    (s.rt.scheduler.registry 6 .read).isNone &&
    (s.step (.await 11 (.asyncReadTimeout ⟨7, 1, some 6⟩ 50)
      {})).isSome) ?_ ?_).imp fun s ⟨reached, passed⟩ => ⟨reached, ?_⟩
  · decide +kernel
  · decide +kernel
  · simp only [Bool.and_eq_true, Bool.not_eq_true'] at passed
    obtain ⟨⟨⟨⟨⟨waits, flag⟩, drained⟩, socketFree⟩, tokenFree⟩,
      taken⟩ := passed
    obtain ⟨next, taken⟩ := Option.isSome_iff_exists.mp taken
    obtain ⟨ended, _, unaffected⟩ :=
      preCancelled_unaffected_iff reached rfl rfl flag taken
    refine ⟨waits, next, taken, ended, unaffected.mpr ?_⟩
    refine ⟨?_, Option.isNone_iff_eq_none.mp tokenFree, drained⟩
    intro conn direction socket
    cases socket
    exact Option.isNone_iff_eq_none.mp socketFree

/-- A read on socket 5 waits with token 6, which is cancelled.  Before
`running` sees it, a read on socket 7 is started with the same token: the first
read's slot and the eventfd are cleared, and the first read goes on waiting. -/
theorem preCancelled_counterexample :
    ∃ s : System TimerQueue.sorted,
      Reaches KeepsPending 3 100 (fun _ => ⟨[0, 0], 0⟩)
        [.openFd 5 .socket, .openFd 7 .socket, .openFd 6 (.eventFd false 0),
          .spawn 1, .await 10 (.asyncRead ⟨5, 0, some 6⟩) {},
          .requestCancel 6, .spawn 2] s ∧
      s.rt.scheduler.registry 6 .read = some ⟨10, .cancel⟩ ∧
      s.rt.tokenReadable 6 = true ∧ ∃ next,
        s.step (.await 11 (.asyncRead ⟨7, 1, some 6⟩) {}) = some next ∧
        (next.pending 10).isSome = true ∧
        next.rt.scheduler.registry 6 .read = none ∧
        next.rt.tokenReadable 6 = false ∧ ¬ Unaffected 6 s.rt next.rt := by
  refine (exists_reaches (fun s =>
    decide (s.rt.scheduler.registry 6 .read = some ⟨10, .cancel⟩) &&
    s.rt.tokenReadable 6 &&
    (s.step (.await 11 (.asyncRead ⟨7, 1, some 6⟩) {})).any fun next =>
      (next.pending 10).isSome &&
      (next.rt.scheduler.registry 6 .read).isNone &&
      !next.rt.tokenReadable 6) ?_ ?_).imp
    fun s ⟨reached, passed⟩ => ⟨reached, ?_⟩
  · decide +kernel
  · decide +kernel
  · simp only [Bool.and_eq_true, decide_eq_true_eq] at passed
    obtain ⟨⟨registered, readable⟩, started⟩ := passed
    obtain ⟨next, taken, left⟩ := (Option.any_eq_true _ _).mp started
    simp only [Bool.and_eq_true, Bool.not_eq_true'] at left
    obtain ⟨⟨waits, cleared⟩, drained⟩ := left
    refine ⟨registered, readable, next, taken, waits,
      Option.isNone_iff_eq_none.mp cleared, drained, ?_⟩
    intro unaffected
    have same := unaffected.readable
    rw [drained, readable] at same
    cases same

end System

end AsyncFrame
