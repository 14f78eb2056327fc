import AsyncFrame.Fetched
import AsyncFrame.Reactor
import AsyncFrame.Sleeping

/-!
# The scheduler refines the event loop

Forgetting table, interest set and timers takes each step of the program to a
step of the reactor, as long as no two suspended operations wait for the same
direction of a socket or for the same token, and no `Task` is destroyed while
its operation is suspended.
-/

namespace AsyncFrame

open AsyncFrame.Lib

variable {queues : TimerQueue} {rt next : Runtime queues}

/-! ## One stretch of an operation -/

namespace Operation

variable {operation : Operation} {self : Addr} {io : Io} {total : Nat}

/-- Cancelled or timed out, an operation ends with that error. -/
theorem resumeOnce_fails (self : Addr) (io : Io) (total : Nat)
    (refused : rt.cancelRequested operation.token? = true ∨
      operation.timedTransfer = true ∧ timedOut self rt = true) :
    rt.Silent (operation.resumeOnce self io total rt).rt ∧
      (operation.resumeOnce self io total rt).returned =
        some (operation.fails (operation.refusal rt) total rt.buffers) := by
  cases operation with
  | asyncRead base =>
      refine resumeOnce_misses self io total rfl ?_
      rcases refused with cancelled | ⟨timed, _⟩
      · have flag : rt.cancelRequested base.cancelToken = true := cancelled
        simp [receives, flag]
      · cases timed
  | asyncReadTimeout base delay =>
      refine resumeOnce_misses self io total rfl ?_
      rcases refused with cancelled | ⟨_, expired⟩
      · have flag : rt.cancelRequested base.cancelToken = true := cancelled
        simp [receives, flag]
      · simp [receives, expired]
  | asyncWrite base =>
      refine resumeOnce_skips self io total rfl ?_
      rcases refused with cancelled | ⟨timed, _⟩
      · have flag : rt.cancelRequested base.cancelToken = true := cancelled
        simp [sends, flag]
      · cases timed
  | asyncWriteTimeout base delay =>
      refine resumeOnce_skips self io total rfl ?_
      rcases refused with cancelled | ⟨_, expired⟩
      · have flag : rt.cancelRequested base.cancelToken = true := cancelled
        simp [sends, flag]
      · simp [sends, expired]
  | _ =>
      rcases refused with cancelled | ⟨timed, _⟩
      · cases cancelled
      · cases timed

/-- The buffers after one transfer on the operation's own. -/
theorem buffers_of_own (self : Addr) (io : Io) (total : Nat)
    {buf : BufferRef} (named : operation.buf? = some buf) {stored : Buffer}
    (own : (operation.resumeOnce self io total rt).rt.buffers buf = stored) :
    (operation.resumeOnce self io total rt).rt.buffers =
      Function.update rt.buffers buf stored := by
  funext other
  by_cases here : other = buf
  · rw [here, Function.update_self, own]
  · rw [Function.update_of_ne here]
    refine (resumeOnce_confined operation self io total rt).others other ?_
    rw [named]
    exact fun same => here (Option.some.inj same).symm

/-- Neither cancelled nor timed out, an operation gets what its system call
gives. -/
theorem resumeOnce_answers (self : Addr) (io : Io) (total : Nat)
    (quiet : rt.cancelRequested operation.token? = false)
    (running : operation.timedTransfer = true → timedOut self rt = false) :
    (⟨(operation.resumeOnce self io total rt).returned,
      (operation.resumeOnce self io total rt).total,
      (operation.resumeOnce self io total rt).rt.buffers⟩ : Answer) =
        operation.answer io total rt.buffers := by
  cases operation with
  | asyncRead base =>
      have received : (asyncRead base).receives self rt = true := by
        have uncancelled : rt.cancelRequested base.cancelToken = false :=
          quiet
        simp [receives, uncancelled]
      obtain ⟨made, returned⟩ :=
        resumeOnce_receives self io total rfl received
      rw [returned, buffers_of_own self io total rfl made.buffer]
      rfl
  | asyncReadTimeout base delay =>
      have received : (asyncReadTimeout base delay).receives self rt =
          true := by
        have uncancelled : rt.cancelRequested base.cancelToken = false :=
          quiet
        simp [receives, uncancelled, running rfl]
      obtain ⟨made, returned⟩ :=
        resumeOnce_receives self io total rfl received
      rw [returned, buffers_of_own self io total rfl made.buffer]
      rfl
  | asyncReadSome conn buf =>
      have silent := (Runtime.Silent.refl rt).settle
        (rt.scheduler.removeRead none conn)
      simp only [resumeOnce, InnerRecvSomeAwaiter.awaitResume, answer]
      rw [← silent.buffers]
      rfl
  | asyncWrite base =>
      have sent : (asyncWrite base).sends self rt = true := by
        have uncancelled : rt.cancelRequested base.cancelToken = false :=
          quiet
        simp [sends, uncancelled]
      obtain ⟨made, counted, returned⟩ :=
        resumeOnce_sends self io total rfl sent
      rw [returned, counted, buffers_of_own self io total rfl made.buffer]
      rfl
  | asyncWriteTimeout base delay =>
      have sent : (asyncWriteTimeout base delay).sends self rt = true := by
        have uncancelled : rt.cancelRequested base.cancelToken = false :=
          quiet
        simp [sends, uncancelled, running rfl]
      obtain ⟨made, counted, returned⟩ :=
        resumeOnce_sends self io total rfl sent
      rw [returned, counted, buffers_of_own self io total rfl made.buffer]
      rfl
  | asyncAccept conn =>
      have silent := (Runtime.Silent.refl rt).settle
        (rt.scheduler.removeAccept none conn)
      simp only [resumeOnce, InnerAcceptAwaiter.awaitResume, answer]
      cases io.accept with
      | error errno =>
          simp only [Runtime.removeAccept, silent.buffers]
      | ok fd =>
          simp only [Runtime.removeAccept, silent.buffers]
  | asyncConnect conn =>
      have silent := (Runtime.Silent.refl rt).settle
        (rt.scheduler.removeConnect none conn)
      simp only [resumeOnce, InnerConnectAwaiter.awaitResume, answer,
        Runtime.removeConnect, silent.buffers]
  | waitFor delay =>
      have silent : rt.Silent
          rt.consumeTimer.advanceTimer.refreshTimerRegistration :=
        ((Runtime.Silent.refl rt).consumeTimer.retimed _).refresh
      simp only [resumeOnce, TimerAwaiter.awaitResume, answer,
        silent.buffers]

/-- Only a `wait_for` takes time: a timeout is read when it has expired. -/
theorem resumeOnce_clock_of_settled {deadlines : OpPtr → Option Int}
    (settled : rt.timer.Settled deadlines) (self : Addr) (io : Io)
    (total : Nat) (transfers : ∀ delay, operation ≠ .waitFor delay) :
    (operation.resumeOnce self io total rt).rt.clock = rt.clock := by
  refine resumeOnce_clock_of_readable operation self io total rt ?_
  rintro (⟨_, expired⟩ | ⟨delay, waiting⟩)
  · obtain ⟨named, reached⟩ := (timedOut_iff settled self).mp expired
    exact isReadable_of_reached settled named reached
  · exact absurd waiting (transfers delay)

/-- Going round the loop changes neither buffers nor clock. -/
theorem wake_outcome
    (kept : FilesKept rt (operation.resumeOnce self io total rt).rt) :
    (operation.wake self io total rt).rt.buffers =
        (operation.resumeOnce self io total rt).rt.buffers ∧
      (operation.wake self io total rt).rt.clock =
        (operation.resumeOnce self io total rt).rt.clock ∧
      (operation.wake self io total rt).total =
        (operation.resumeOnce self io total rt).total := by
  rw [wake_eq kept]
  cases (operation.resumeOnce self io total rt).returned with
  | some result => exact ⟨rfl, rfl, rfl⟩
  | none =>
      exact ⟨(awaitSuspend_silent operation self _).buffers,
        awaitSuspend_clock operation self _, rfl⟩

/-- How a start can go: the operation waits, its token was cancelled, or it is
a `connect` that is settled at once. -/
theorem start_outcomes {deadlines : OpPtr → Option Int}
    (settled : rt.timer.Settled deadlines) (operation : Operation)
    (self : Addr) (io : Io) :
    rt.Silent (operation.start self io rt).rt ∧
    (operation.start self io rt).rt.clock = rt.clock ∧
    (((operation.start self io rt).returned = none ∧
        rt.cancelRequested operation.token? = false ∧
        (operation.start self io rt).total = 0 ∧
        ∀ conn, operation = .asyncConnect conn →
          tryConnect io.connect = .inProgress) ∨
      (rt.cancelRequested operation.token? = true ∧
        (operation.start self io rt).returned =
          some (operation.fails operationCancelledError 0 rt.buffers)) ∨
      (∃ conn, operation = .asyncConnect conn) ∧
        tryConnect io.connect ≠ .inProgress ∧
        (operation.start self io rt).returned =
          some (.connected io.connect)) := by
  have looped : rt.Silent (loop self operation 1 0 rt).rt ∧
      (loop self operation 1 0 rt).rt.clock = rt.clock ∧
      ((loop self operation 1 0 rt).returned = none ∧
          rt.cancelRequested operation.token? = false ∧
          (loop self operation 1 0 rt).total = 0 ∨
        rt.cancelRequested operation.token? = true ∧
          (loop self operation 1 0 rt).returned =
            some (operation.fails operationCancelledError 0
              rt.buffers)) := by
    rw [loop_succ]
    cases cancelled : rt.cancelRequested operation.token? with
    | true =>
        obtain ⟨silent, returned⟩ := resumeOnce_fails self {} 0
          (Or.inl cancelled)
        have transfers : ∀ delay, operation ≠ .waitFor delay := by
          rintro delay rfl
          cases cancelled
        rw [refusal, if_pos cancelled] at returned
        rw [if_pos rfl]
        exact ⟨silent,
          resumeOnce_clock_of_settled settled self {} 0 transfers,
          Or.inr ⟨rfl, returned⟩⟩
    | false =>
        rw [if_neg Bool.false_ne_true]
        exact ⟨awaitSuspend_silent operation self rt,
          awaitSuspend_clock operation self rt, Or.inl ⟨rfl, rfl, rfl⟩⟩
  by_cases connects : ∃ conn, operation = .asyncConnect conn
  · obtain ⟨conn, rfl⟩ := connects
    cases status : tryConnect io.connect with
    | connected =>
        have zero : io.connect = 0 := by
          by_contra failed
          rw [tryConnect, if_neg failed] at status
          split at status <;> cases status
        have settledAtOnce : (asyncConnect conn).start self io rt =
            ⟨rt, 0, some (.connected io.connect)⟩ := by
          simp only [start, status]
          rw [zero]
        rw [settledAtOnce]
        exact ⟨Runtime.Silent.refl rt, rfl,
          Or.inr (Or.inr ⟨⟨conn, rfl⟩, by decide, rfl⟩)⟩
    | error =>
        have settledAtOnce : (asyncConnect conn).start self io rt =
            ⟨rt, 0, some (.connected io.connect)⟩ := by
          simp only [start, status]
        rw [settledAtOnce]
        exact ⟨Runtime.Silent.refl rt, rfl,
          Or.inr (Or.inr ⟨⟨conn, rfl⟩, by decide, rfl⟩)⟩
    | inProgress =>
        have entered : (asyncConnect conn).start self io rt =
            loop self (asyncConnect conn) 1 0 rt := by
          simp only [start, status]
        rw [entered]
        obtain ⟨silent, clock, waits | refused⟩ := looped
        · exact ⟨silent, clock, Or.inl ⟨waits.1, waits.2.1, waits.2.2,
            fun _ _ => rfl⟩⟩
        · cases refused.1
  · have entered : operation.start self io rt =
        loop self operation 1 0 rt := by
      cases operation with
      | asyncConnect conn => exact absurd ⟨conn, rfl⟩ connects
      | _ => rfl
    rw [entered]
    obtain ⟨silent, clock, waits | refused⟩ := looped
    · refine ⟨silent, clock, Or.inl ⟨waits.1, waits.2.1, waits.2.2, ?_⟩⟩
      exact fun conn connecting => absurd ⟨conn, connecting⟩ connects
    · exact ⟨silent, clock, Or.inr (Or.inl refused)⟩

end Operation

/-! ## What is left out -/

/-- A result that is recorded. -/
def Obs.given? : Obs → Option (Nat × OpResult)
  | .finished number result => some (number, result)
  | _ => none

/-- Where the loop is, without how often the timerfd had been set. -/
def Control.place : Control → Reactor.Place
  | .outside => .outside
  | .head => .head
  | .batch evs _ => .batch evs
  | .half writeOp evs _ => .half writeOp.frame evs

namespace System

variable {s next : System queues} {action : Action}
variable {timerFd : Fd} {uptime : Nat} {buffers : BufferRef → Buffer}
variable {actions : List Action}

/-- The program without table, interest set, timers, frames and stack. -/
def reactor (s : System queues) : Reactor where
  timerFd := s.rt.timer.fd
  clock := s.rt.clock
  requested := s.rt.tokenFlag
  buffers := s.rt.buffers
  waits := s.pending
  place := s.control.place
  nextNumber := s.nextNumber
  results := s.trace.filterMap Obs.given?

private theorem isRequested_reactor (operation : Operation) :
    s.reactor.isRequested operation =
      s.rt.cancelRequested operation.token? := by
  unfold Reactor.isRequested
  cases operation.token? with
  | none => rfl
  | some token => rfl

/-! ## Who is resumed -/

/-- No two suspended operations share a slot, and each has its slots. -/
structure Arranged (s : System queues) : Prop where
  good : Good s
  sockets : Filed .socket s
  tokens : Filed .cancel s

/-- What is registered for reading waits for it. -/
theorem Good.reads_of_registered (good : Good s) {fd : Fd} {pointer : OpPtr}
    (found : s.rt.scheduler.registry fd .read = some pointer) :
    ∃ op, s.reactor.Reads fd pointer.frame op := by
  rcases good.sound.held fd .read pointer found with
    ⟨timer, _⟩ | ⟨op, waits, holds⟩
  · have current : s.rt.timer.cur.state.read = some pointer := by
      rw [← good.sound.inOrder.slot, ← timer]
      exact found
    obtain ⟨frame, op, named, waits, set, least⟩ := good.current
      (good.sound.inOrder.settled.wellFormed.nonempty_of_read current)
    rw [current] at named
    cases named
    exact ⟨op, waits, Or.inr (Or.inr ⟨timer, _, set, least⟩)⟩
  · refine ⟨op, waits, ?_⟩
    rcases holds with ⟨_, socket⟩ | ⟨_, token, _⟩
    · exact Or.inl socket
    · exact Or.inr (Or.inl token)

/-- What waits for a descriptor to become readable has something registered
there. -/
theorem Arranged.registered_of_reads (arranged : Arranged s) {fd : Fd}
    {frame : Addr} {op : OpFrame} (reads : s.reactor.Reads fd frame op) :
    ∃ pointer, s.rt.scheduler.registry fd .read = some pointer := by
  obtain ⟨waits, socket | token | ⟨timer, deadline, set, _⟩⟩ := reads
  · exact ⟨_, arranged.sockets frame op fd .read waits socket⟩
  · refine ⟨_, arranged.tokens frame op fd .read waits ?_⟩
    exact Operation.slot?_cancel.mpr ⟨token, rfl⟩
  · obtain ⟨now, _, dated, _⟩ :=
      arranged.good.sound.dated frame op waits
    have delayed : op.operation.delay?.isSome := by
      rw [set, Operation.deadlineAt] at dated
      obtain ⟨delay, here, _⟩ := Option.map_eq_some_iff.mp dated.symm
      rw [here]
      rfl
    obtain ⟨holder, _, named, _⟩ := arranged.good.current
      (arranged.good.timed_iff.mpr ⟨frame, op, waits, delayed⟩)
    have slot := arranged.good.sound.inOrder.slot
    rw [named] at slot
    change fd = s.rt.timer.fd at timer
    exact ⟨_, timer ▸ slot⟩

/-- What is left of an event in the program is left of it in the reactor. -/
theorem Arranged.remains (arranged : Arranged s) (event : EpollEvent)
    (evs : List EpollEvent) (fetched : Nat) :
    s.reactor.Remains event evs
      (writeHalf event (s.rt.scheduler.registry event.fd .write) evs
        fetched).place := by
  cases found : s.rt.scheduler.registry event.fd .write with
  | none =>
      refine .done fun _ frame op writes => ?_
      obtain ⟨waits, socket⟩ := writes
      rw [arranged.sockets frame op event.fd .write waits socket] at found
      cases found
  | some writeOp =>
      obtain ⟨op, waits, socket⟩ :=
        arranged.good.sound.writes_of_registered found
      cases ready : writeReady event.events with
      | true =>
          simp only [writeHalf, ready, if_true]
          exact .due ready ⟨waits, socket⟩
      | false =>
          simp only [writeHalf, ready, Bool.false_eq_true, if_false]
          exact .done fun due => by
            rw [ready] at due
            cases due

/-- What a suspended operation makes of being resumed is what the reactor
says. -/
theorem Good.resumes (good : Good s) {frame : Addr} {op : OpFrame} (io : Io)
    (waits : s.pending frame = some op)
    (current : ∀ delay, op.operation = .waitFor delay →
      s.rt.timer.cur.state.read = some ⟨frame, .timer⟩) :
    ∃ answer, s.reactor.Resumes frame op io answer
        (op.operation.wake frame io op.total s.rt).rt.clock ∧
      answer.returned =
        (op.operation.wake frame io op.total s.rt).returned ∧
      answer.buffers =
        (op.operation.wake frame io op.total s.rt).rt.buffers ∧
      (answer.returned = none →
        answer.total =
          (op.operation.wake frame io op.total s.rt).total) := by
  have settled := good.sound.inOrder.settled
  have kept := (good.sound.resumeOnce_leaves io op.total waits current).files
  obtain ⟨sameBuffers, sameClock, sameTotal⟩ :=
    Operation.wake_outcome kept
  have sameReturned := Operation.wake_returned kept
  -- the operation whose timer is current has the least deadline
  have least : s.rt.timer.cur.state.read = some ⟨frame, .timer⟩ →
      op.deadline = some s.rt.timer.cur.timePoint ∧
        s.reactor.Least s.rt.timer.cur.timePoint := by
    intro named
    obtain ⟨holder, held, same, heldWaits, set, least⟩ := good.current
      (settled.wellFormed.nonempty_of_read named)
    rw [named] at same
    cases same
    rw [waits] at heldWaits
    cases heldWaits
    exact ⟨set, least⟩
  rw [sameBuffers, sameClock, sameTotal, sameReturned]
  by_cases sleeps : ∃ delay, op.operation = .waitFor delay
  · obtain ⟨delay, operation⟩ := sleeps
    have named := current delay operation
    obtain ⟨set, first⟩ := least named
    have woke := @Operation.wake_waitFor queues s.rt frame io op.total delay
      _ settled.armed.unread (settled.setting_of_current named)
    rw [operation] at sameClock sameReturned ⊢
    have served := @Operation.resumeOnce_answers queues s.rt (.waitFor delay)
      frame io op.total rfl fun timed => by cases timed
    rw [← sameClock, woke.2]
    exact ⟨_, .slept operation set first,
      sameReturned ▸ woke.1.symm, (congrArg Answer.buffers served).symm,
      fun waiting => by cases waiting⟩
  have transfers : ∀ delay, op.operation ≠ .waitFor delay :=
    fun delay operation => sleeps ⟨delay, operation⟩
  rw [Operation.resumeOnce_clock_of_settled settled frame io op.total
    transfers]
  cases requested : s.rt.cancelRequested op.operation.token? with
  | true =>
      obtain ⟨silent, returned⟩ := Operation.resumeOnce_fails frame io
        op.total (Or.inl requested)
      rw [Operation.refusal, if_pos requested] at returned
      rw [returned, silent.buffers]
      exact ⟨_, .cancelled ((isRequested_reactor _).trans requested), rfl,
        rfl, fun waiting => by cases waiting⟩
  | false =>
      have quiet := (isRequested_reactor op.operation).trans requested
      by_cases expired : op.operation.timedTransfer = true ∧
          timedOut frame s.rt = true
      · obtain ⟨silent, returned⟩ := Operation.resumeOnce_fails frame io
          op.total (Or.inr expired)
        obtain ⟨named, passed⟩ :=
          (timedOut_iff settled frame).mp expired.2
        obtain ⟨set, first⟩ := least named
        rw [Operation.refusal, requested, if_neg Bool.false_ne_true]
          at returned
        rw [returned, silent.buffers]
        exact ⟨_, .timedOut quiet expired.1 set first passed, rfl, rfl,
          fun waiting => by cases waiting⟩
      · have running : op.operation.timedTransfer = true →
            timedOut frame s.rt = false :=
          fun timed => Bool.eq_false_iff.mpr fun here => expired ⟨timed, here⟩
        have served := Operation.resumeOnce_answers frame io op.total
          requested running
        refine ⟨_, .served quiet transfers ?_,
          (congrArg Answer.returned served).symm,
          (congrArg Answer.buffers served).symm,
          fun _ => (congrArg Answer.total served).symm⟩
        intro timed deadline set passed
        obtain ⟨delay, delayed⟩ := Operation.delay_of_timedTransfer timed
        obtain ⟨holder, held, named, heldWaits, heldSet, first⟩ :=
          good.current (good.timed_iff.mpr
            ⟨frame, op, waits, Option.isSome_iff_exists.mpr ⟨_, delayed⟩⟩)
        have before := first frame op deadline waits set
        refine ⟨holder, held, _, ?_, heldWaits, heldSet, before⟩
        rintro rfl
        have late := (timedOut_iff settled holder).mpr
          ⟨named, before.trans passed⟩
        rw [running timed] at late
        cases late

/-- What is recorded without a number gives no result. -/
theorem given_of_marks (action : Action) :
    (s.marks action).filterMap Obs.given? = [] := by
  refine List.filterMap_eq_nil_iff.mpr fun obs member => ?_
  have unnumbered := marks_unnumbered member
  cases obs <;> first | rfl | cases unnumbered

private theorem given_of_complete {pointer : OpPtr} {op : OpFrame} (io : Io)
    (waits : s.pending pointer.frame = some op)
    (healthy : (op.operation.wake pointer.frame io op.total s.rt).rt.fault =
      none) :
    (s.complete pointer io).trace.filterMap Obs.given? =
      match (op.operation.wake pointer.frame io op.total s.rt).returned with
      | some result =>
          (op.number, result) :: s.trace.filterMap Obs.given?
      | none => s.trace.filterMap Obs.given? := by
  unfold complete
  rw [waits]
  simp only [healthy, Option.isSome_none, Bool.false_eq_true, if_false]
  cases (op.operation.wake pointer.frame io op.total s.rt).returned with
  | none => rfl
  | some result =>
      dsimp only
      rw [resumeOuter_trace]
      rfl

/-- A completed operation in the reactor. -/
theorem Good.reactor_of_completes (good : Good s) {pointer : OpPtr}
    {op : OpFrame} (taken : s.step action = some next)
    (woken : s.completes action = some pointer)
    (waits : s.pending pointer.frame = some op) :
    ∃ io answer clock, action.io? = some io ∧
      s.reactor.Resumes pointer.frame op io answer clock ∧
      next.reactor = { s.reactor.after pointer.frame op answer clock with
        place := next.control.place } := by
  obtain ⟨control, io, answers, rfl⟩ := step_completes taken woken
  have current := good.current_of_completes woken waits
  obtain ⟨answer, resumes, returned, stored, counted⟩ :=
    good.resumes io waits current
  refine ⟨io, answer, _, answers, resumes, ?_⟩
  have spares := (good.sound.woken io waits current).2
  have healthy := spares.fault.trans good.sound.healthy
  have linked : Linked (s.withMarks control (s.marks action)).frames :=
    good.linked
  have here : (s.withMarks control (s.marks action)).pending
      pointer.frame = some op := waits
  obtain ⟨rt, pending⟩ := complete_spec linked io here healthy
  have given := given_of_complete io here healthy
  have numbered := (Linked.complete_rest
    (s.withMarks control (s.marks action)) pointer io).1
  have marked : (s.withMarks control (s.marks action)).trace.filterMap
      Obs.given? = s.trace.filterMap Obs.given? := by
    rw [System.withMarks, List.filterMap_append, given_of_marks]
    rfl
  refine Reactor.ext ?_ ?_ ?_ ?_ ?_ rfl numbered ?_
  · exact (congrArg (fun now : Runtime queues => now.timer.fd) rt).trans
      spares.timerFd
  · exact congrArg Runtime.clock rt
  · funext token
    exact (congrArg (fun now : Runtime queues => now.tokenFlag token)
      rt).trans (spares.files.cancelRequested (some token))
  · exact (congrArg Runtime.buffers rt).trans stored.symm
  · refine pending.trans (congrArg (Function.update s.pending _) ?_)
    cases ended : answer.returned with
    | some result =>
        rw [ended] at returned
        simp only [OpFrame.after, System.withMarks, ← returned]
    | none =>
        rw [ended] at returned
        simp only [OpFrame.after, System.withMarks, ← returned,
          counted ended]
  · refine given.trans ?_
    rw [marked]
    cases ended : answer.returned with
    | some result =>
        rw [ended] at returned
        simp only [System.withMarks, ← returned, Reactor.after, ended]
        rfl
    | none =>
        rw [ended] at returned
        simp only [System.withMarks, ← returned, Reactor.after, ended]
        rfl

/-! ## Steps of `running` -/

private theorem Arranged.dispatch_reactor (arranged : Arranged s) {io : Io}
    (taken : s.step (.dispatch io) = some next) :
    s.reactor.Step (.dispatch io) next.reactor := by
  have good := arranged.good
  obtain ⟨allowed, performed⟩ := step_eq_some taken
  obtain ⟨_, event, evs, fetched, batch⟩ := enabled_dispatch allowed
  have place : s.reactor.place = .batch (event :: evs) := by
    rw [reactor, batch]
    rfl
  have control : next.control = writeHalf event
      (s.rt.scheduler.registry event.fd .write) evs fetched :=
    performed ▸ dispatch_control io batch
  have remains := control ▸ arranged.remains event evs fetched
  have reading : s.completes (.dispatch io) =
      if readReady event.events then s.rt.scheduler.registry event.fd .read
      else none := by
    simp only [completes, batch]
  cases woken : s.completes (.dispatch io) with
  | none =>
      obtain ⟨rest, _, same⟩ := dispatch_cases io batch
      rw [woken] at same
      have unmoved : next.reactor =
          { s.reactor with place := next.control.place } := by
        rw [performed, same]
        refine Reactor.ext rfl rfl rfl rfl rfl rfl rfl ?_
        simp only [reactor, System.withMarks, List.filterMap_append,
          given_of_marks, List.nil_append]
      rw [unmoved]
      refine .skips place (fun ready frame op reads => ?_) remains
      obtain ⟨pointer, found⟩ := arranged.registered_of_reads reads
      rw [woken, if_pos ready, found] at reading
      cases reading
  | some pointer =>
      have ready : readReady event.events = true := by
        by_contra unready
        rw [woken, if_neg unready] at reading
        cases reading
      rw [woken, if_pos ready] at reading
      obtain ⟨op, reads⟩ := good.reads_of_registered reading.symm
      obtain ⟨given, answer, clock, answers, resumes, moved⟩ :=
        good.reactor_of_completes taken woken reads.1
      cases answers
      rw [moved]
      exact .reads place ready reads resumes remains

private theorem Good.dispatchWrite_reactor (good : Good s) {io : Io}
    (taken : s.step (.dispatchWrite io) = some next) :
    s.reactor.Step (.dispatchWrite io) next.reactor := by
  obtain ⟨allowed, performed⟩ := step_eq_some taken
  obtain ⟨_, writeOp, evs, fetched, half⟩ := enabled_dispatchWrite allowed
  obtain ⟨op, fd, waits, socket⟩ := good.fetched writeOp evs fetched half
  have woken : s.completes (.dispatchWrite io) = some writeOp := by
    simp only [completes, half]
  obtain ⟨given, answer, clock, answers, resumes, moved⟩ :=
    good.reactor_of_completes taken woken waits
  cases answers
  have place : s.reactor.place = .half writeOp.frame evs := by
    rw [reactor, half]
    rfl
  have control : next.control = .batch evs fetched := by
    rw [performed, dispatchWrite_eq io half]
    exact (Linked.complete_rest _ writeOp io).2
  rw [moved, control]
  exact .writes place ⟨waits, socket⟩ resumes

/-! ## Starts -/

/-- The reactor's step for a start, from what the start leaves. -/
theorem Good.reactor_of_start (good : Good s) {frame : Addr}
    {operation : Operation} {number : Nat} (outer : Addr) (io : Io)
    (starts : action.starts? = some operation)
    (answers : action.io? = some io)
    (numbered : number = s.nextNumber + action.numbersBefore)
    (absent : s.pending frame = none)
    (admitted : s.admits operation = true)
    (rt : next.rt = (operation.start frame io s.rt).rt)
    (control : next.control = s.control)
    (counted : next.nextNumber = number + 1)
    (waits : (operation.start frame io s.rt).returned = none →
      next.pending = Function.update s.pending frame
          (some ⟨operation, outer, (operation.start frame io s.rt).total,
            number, operation.deadlineAt
              (operation.start frame io s.rt).rt.clock⟩) ∧
        next.trace.filterMap Obs.given? = s.trace.filterMap Obs.given?)
    (passes : ∀ result,
      (operation.start frame io s.rt).returned = some result →
        next.pending = s.pending ∧ next.trace.filterMap Obs.given? =
          (number, result) :: s.trace.filterMap Obs.given?) :
    s.reactor.Step action next.reactor := by
  obtain ⟨fits, positive⟩ := admits_iff.mp admitted
  let op : OpFrame := ⟨operation, outer, 0, 0, none⟩
  have fresh : op.operation.Fits s.rt := fits
  have spares := (good.sound.started io absent fresh positive).2
  obtain ⟨silent, clock, outcome⟩ := Operation.start_outcomes
    good.sound.inOrder.settled operation frame io
  have timerFd : next.rt.timer.fd = s.rt.timer.fd := by
    rw [rt, spares.timerFd]
  have sameClock : next.rt.clock = s.rt.clock := by rw [rt, clock]
  have requested : next.rt.tokenFlag = s.rt.tokenFlag := by
    funext token
    rw [rt]
    exact spares.files.cancelRequested (some token)
  have buffers : next.rt.buffers = s.rt.buffers := by rw [rt, silent.buffers]
  have place : next.control.place = s.control.place := by rw [control]
  rcases outcome with ⟨waiting, quiet, total, connecting⟩ |
    ⟨cancelled, returned⟩ | ⟨⟨conn, connects⟩, settled, returned⟩
  · obtain ⟨pending, given⟩ := waits waiting
    have moved : next.reactor =
        { s.reactor with
          waits := Function.update s.reactor.waits frame
            (some ⟨operation, outer, 0, number,
              operation.deadlineAt s.rt.clock⟩)
          nextNumber := number + 1 } := by
      refine Reactor.ext timerFd sameClock requested buffers ?_ place counted
        given
      rw [total, clock] at pending
      exact pending
    rw [moved]
    refine .suspends starts absent
      ((isRequested_reactor operation).trans quiet) numbered rfl rfl ?_
    intro conn given connects told
    rw [answers] at told
    cases told
    exact connecting conn connects
  · obtain ⟨pending, given⟩ := passes _ returned
    have moved : next.reactor =
        { s.reactor with
          nextNumber := number + 1
          results := (number, operation.fails operationCancelledError 0
            s.reactor.buffers) :: s.reactor.results } :=
      Reactor.ext timerFd sameClock requested buffers pending place counted
        given
    rw [moved]
    exact .refuses starts ((isRequested_reactor operation).trans cancelled)
      numbered
  · obtain ⟨pending, given⟩ := passes _ returned
    have moved : next.reactor =
        { s.reactor with
          nextNumber := number + 1
          results := (number, .connected io.connect) ::
            s.reactor.results } :=
      Reactor.ext timerFd sameClock requested buffers pending place counted
        given
    rw [moved]
    exact .connects (connects ▸ starts) answers settled numbered

private theorem Good.await_reactor (good : Good s) {frame : Addr}
    {operation : Operation} {io : Io}
    (taken : s.step (.await frame operation io) = some next) :
    s.reactor.Step (.await frame operation io) next.reactor := by
  obtain ⟨allowed, performed⟩ := step_eq_some taken
  obtain ⟨⟨caller, below, stack, awake⟩, free, admitted⟩ :=
    enabled_await allowed
  have same : next = s.await frame operation io := performed
  obtain ⟨rt, control, _⟩ := await_spec io stack awake free
  have absent : s.pending frame = none := pendingIn_of_free free
  rw [same]
  refine good.reactor_of_start caller io rfl rfl rfl absent admitted rt
    control ?_ ?_ ?_
  · cases returned : (operation.start frame io s.rt).returned with
    | none => simp only [await, returned, stack, Action.numbersBefore,
        Nat.add_zero]
    | some result => simp only [await, returned, Action.numbersBefore,
        Nat.add_zero]
  · intro waiting
    have different : caller ≠ frame := by
      rintro rfl
      rw [free] at awake
      cases awake
    simp only [await, waiting, stack]
    refine ⟨(pendingIn_insert_silent rfl ?_).trans (pendingIn_insert _ _),
      rfl⟩
    rw [pendingIn_insert, Function.update_of_ne different]
    exact pendingIn_of_user awake
  · intro result returned
    simp only [await, returned]
    exact ⟨rfl, rfl⟩

private theorem Good.awaitWithTimeout_reactor (good : Good s)
    {impl frame : Addr} {wrapped : Operation} {delay : Int} {io : Io}
    (taken : s.step (.awaitWithTimeout impl frame wrapped delay io) =
      some next) :
    s.reactor.Step (.awaitWithTimeout impl frame wrapped delay io)
      next.reactor := by
  obtain ⟨allowed, performed⟩ := step_eq_some taken
  obtain ⟨⟨caller, below, stack, awake⟩, implFree, free, different,
    operation, timeout, admitted⟩ := enabled_awaitWithTimeout allowed
  have same : next = s.awaitWithTimeout impl frame wrapped delay io :=
    performed
  obtain ⟨rt, control, _⟩ :=
    awaitWithTimeout_spec io stack awake implFree free different timeout
  have absent : s.pending frame = none := pendingIn_of_free free
  have callerImpl : caller ≠ impl := by
    rintro rfl
    rw [implFree] at awake
    cases awake
  rw [same]
  refine good.reactor_of_start impl io timeout rfl rfl absent admitted rt
    control ?_ ?_ ?_
  · cases returned : (operation.start frame io s.rt).returned with
    | none => simp only [awaitWithTimeout, timeout, returned, stack,
        Action.numbersBefore]
    | some result => simp only [awaitWithTimeout, timeout, returned, stack,
        Action.numbersBefore]
  · intro waiting
    have callerFrame : caller ≠ frame := by
      rintro rfl
      rw [free] at awake
      cases awake
    simp only [awaitWithTimeout, timeout, waiting, stack]
    refine ⟨(pendingIn_insert_silent rfl ?_).trans
      ((pendingIn_insert_silent rfl ?_).trans (pendingIn_insert _ _)), rfl⟩
    · rw [pendingIn_insert, Function.update_of_ne callerImpl,
        pendingIn_insert, Function.update_of_ne callerFrame]
      exact pendingIn_of_user awake
    · rw [pendingIn_insert, Function.update_of_ne different]
      exact pendingIn_of_free implFree
  · intro result returned
    simp only [awaitWithTimeout, timeout, returned, stack]
    refine ⟨(pendingIn_insert_silent rfl ?_).trans
      (pendingIn_insert_silent rfl (pendingIn_of_free implFree)), rfl⟩
    rw [pendingIn_insert, Function.update_of_ne callerImpl]
    exact pendingIn_of_user awake

/-! ## Everything else -/

private theorem Move.reactor_of_calm (move : Move action s next)
    (nothing : action.starts? = none) (asleep : s.completes action = none)
    (clock : next.rt.clock = (s.reactor.calm action).clock)
    (requested : next.rt.tokenFlag = (s.reactor.calm action).requested)
    (buffers : next.rt.buffers = (s.reactor.calm action).buffers)
    (place : next.control.place = (s.reactor.calm action).place) :
    next.reactor = s.reactor.calm action := by
  obtain ⟨timerFd, waits, numbers, results⟩ := s.reactor.calm_keeps action
  cases move with
  | calm _ _ pending table timer _ _ _ _ _ counted trace =>
      refine Reactor.ext ?_ clock requested buffers ?_ place ?_ ?_
      · exact (congrArg TimerEvent.fd timer).trans timerFd.symm
      · exact pending.trans waits.symm
      · exact counted.trans numbers.symm
      · refine Eq.trans ?_ results.symm
        simp only [reactor, trace, List.filterMap_append, given_of_marks,
          List.nil_append]
  | suspends _ _ _ starting =>
      rw [nothing] at starting
      cases starting
  | passes _ _ _ _ _ starting =>
      rw [nothing] at starting
      cases starting
  | ends _ _ _ woken =>
      rw [asleep] at woken
      cases woken
  | rounds _ _ _ _ woken =>
      rw [asleep] at woken
      cases woken

/-- The kernel reports only what an operation waits for. -/
theorem Good.waits_of_reports (good : Good s) {event : EpollEvent}
    (reported : s.reports event = true) :
    ∃ frame op, s.reactor.Reads event.fd frame op ∨
      s.reactor.Writes event.fd frame op := by
  have agrees := good.sound.inOrder.agrees
  by_contra nobody
  have unused : ∀ direction,
      s.rt.scheduler.registry event.fd direction = none := by
    intro direction
    cases found : s.rt.scheduler.registry event.fd direction with
    | none => rfl
    | some pointer =>
        exfalso
        apply nobody
        cases direction with
        | read =>
            obtain ⟨op, reads⟩ := good.reads_of_registered found
            exact ⟨_, op, Or.inl reads⟩
        | write =>
            obtain ⟨op, writes⟩ := good.sound.writes_of_registered found
            exact ⟨_, op, Or.inr writes⟩
  have absent := Scheduler.lookup_eq_none_of_unused agrees unused
  simp [reports, agrees.mirror, absent] at reported

/-- What happens to the flags of all tokens when one file changes. -/
theorem tokenFlag_updated (rt : Runtime queues) (fd : Fd) (file : File)
    {flag : Bool}
    (own : Runtime.tokenFlag
      { rt with files := Function.update rt.files fd file } fd = flag) :
    Runtime.tokenFlag { rt with files := Function.update rt.files fd file } =
      Function.update rt.tokenFlag fd flag := by
  funext token
  by_cases here : token = fd
  · rw [here, own, Function.update_self]
  · rw [Function.update_of_ne here, tokenFlag_update rt file here]

/-- Each step of the program is the same step of the reactor. -/
theorem Arranged.step_reactor (arranged : Arranged s)
    (keeps : KeepsPending s action) (taken : s.step action = some next) :
    s.reactor.Step action next.reactor := by
  have good := arranged.good
  obtain ⟨move, _⟩ := step_move good keeps taken
  obtain ⟨allowed, performed⟩ := step_eq_some taken
  have calm : s.reactor.Allows action →
      next.reactor = s.reactor.calm action →
      s.reactor.Step action next.reactor :=
    fun allows moved => moved ▸ .calm allows
  cases action with
  | dispatch io => exact arranged.dispatch_reactor taken
  | dispatchWrite io => exact good.dispatchWrite_reactor taken
  | await frame operation io => exact good.await_reactor taken
  | awaitWithTimeout impl frame wrapped delay io =>
      exact good.awaitWithTimeout_reactor taken
  | tick elapsed =>
      subst performed
      exact calm trivial (move.reactor_of_calm rfl rfl rfl rfl rfl rfl)
  | requestCancel token =>
      obtain ⟨counter, files⟩ := requestCancel_files s.rt token allowed
      have same : next = { s with
          rt :=
            { s.rt with
              files := Function.update s.rt.files token
                (.eventFd true counter) } } := by
        rw [performed, perform, files]
      subst same
      refine calm trivial (move.reactor_of_calm rfl rfl rfl ?_ rfl rfl)
      exact tokenFlag_updated s.rt token _ (by simp [Runtime.tokenFlag])
  | openFd fd file =>
      subst performed
      refine calm trivial (move.reactor_of_calm rfl rfl rfl ?_ rfl rfl)
      refine tokenFlag_updated s.rt fd file ?_
      simp only [enabled, Bool.and_eq_true, Bool.or_eq_true,
        decide_eq_true_eq] at allowed
      rcases allowed.2 with rfl | rfl <;> simp [Runtime.tokenFlag]
  | closeFd fd =>
      subst performed
      simp only [enabled, Bool.and_eq_true, Bool.not_eq_true'] at allowed
      refine calm (fun frame op waits => ?_)
        (move.reactor_of_calm rfl rfl rfl ?_ rfl rfl)
      · exact anyPending_eq_false allowed.2 waits
      · exact tokenFlag_updated s.rt fd .closed (by simp [Runtime.tokenFlag])
  | setBuffer buf buffer =>
      subst performed
      exact calm trivial (move.reactor_of_calm rfl rfl rfl rfl rfl rfl)
  | spawn frame =>
      subst performed
      exact calm trivial (move.reactor_of_calm rfl rfl rfl rfl rfl rfl)
  | finish =>
      subst performed
      exact calm trivial (move.reactor_of_calm rfl rfl rfl rfl rfl rfl)
  | destroy frame =>
      subst performed
      exact calm trivial (move.reactor_of_calm rfl rfl rfl rfl rfl rfl)
  | run =>
      subst performed
      simp only [enabled, Bool.and_eq_true, decide_eq_true_eq] at allowed
      refine calm ?_ (move.reactor_of_calm rfl rfl rfl rfl rfl rfl)
      exact congrArg Control.place allowed.1
  | epollWait evs =>
      subst performed
      simp only [enabled, Bool.and_eq_true, decide_eq_true_eq,
        List.all_eq_true] at allowed
      refine calm ⟨congrArg Control.place allowed.1.1.1.1.1,
        fun event member => ?_⟩
        (move.reactor_of_calm rfl rfl rfl rfl rfl rfl)
      exact good.waits_of_reports (allowed.2 event member)
  | batchEnd =>
      subst performed
      refine calm ?_ (move.reactor_of_calm rfl rfl rfl rfl rfl rfl)
      change s.control.place = .batch []
      simp only [enabled, Bool.and_eq_true] at allowed
      split at allowed
      · rename_i batch
        rw [batch]
        rfl
      · cases allowed.2
  | exit =>
      subst performed
      simp only [enabled, Bool.and_eq_true, decide_eq_true_eq] at allowed
      refine calm ⟨congrArg Control.place allowed.1.1, ?_⟩
        (move.reactor_of_calm rfl rfl rfl rfl rfl rfl)
      exact good.pending_of_empty arranged.sockets allowed.2

/-! ## Whole runs -/

/-- What the program must respect: no operation is started on a slot in which
another one is suspended, its socket's direction or its token, and no `Task`
is destroyed while an operation inside it is suspended. -/
def Unshared (s : System queues) (action : Action) : Prop :=
  KeepsPending s action ∧ s.unshared .socket action = true ∧
    s.unshared .cancel action = true

instance : DecidableRel (@Unshared queues) :=
  fun s action => inferInstanceAs (Decidable
    (KeepsPending s action ∧ s.unshared .socket action = true ∧
      s.unshared .cancel action = true))

theorem Arranged.step (arranged : Arranged s) (unshared : Unshared s action)
    (taken : s.step action = some next) : Arranged next := by
  obtain ⟨keeps, sockets, tokens⟩ := unshared
  obtain ⟨move, good⟩ := step_move arranged.good keeps taken
  exact ⟨good, arranged.sockets.move arranged.good.sound move sockets,
    arranged.tokens.move arranged.good.sound move tokens⟩

theorem arranged_initial (queues : TimerQueue) (timerFd : Fd)
    (uptime : Nat) (buffers : BufferRef → Buffer) :
    Arranged (initial queues timerFd uptime buffers) where
  good := good_initial queues timerFd uptime buffers
  sockets := filed_initial queues .socket timerFd uptime buffers
  tokens := filed_initial queues .cancel timerFd uptime buffers

theorem Reaches.arranged
    (reached : Reaches Unshared timerFd uptime buffers actions s) :
    Arranged s :=
  invariant_of_run Arranged
    (fun arranged unshared taken => arranged.step unshared taken)
    (arranged_initial queues timerFd uptime buffers) reached.1 reached.2

/-- On a run from any state in order every step is one of the reactor. -/
theorem Arranged.refines (arranged : Arranged s) {final : System queues}
    (run : Leads Unshared s actions final) :
    Path (Refines System.step reactor Reactor.Step) s actions final :=
  refinement_of_run Arranged reactor Reactor.Step
    (fun arranged unshared taken => arranged.step unshared taken)
    (fun arranged unshared taken => arranged.step_reactor unshared.1 taken)
    arranged run.1 run.2

theorem Arranged.path (arranged : Arranged s) {final : System queues}
    (run : Leads Unshared s actions final) :
    Path Reactor.Step s.reactor actions final.reactor :=
  (arranged.refines run).map reactor fun refines => refines.2

theorem reactor_initial (queues : TimerQueue) (timerFd : Fd) (uptime : Nat)
    (buffers : BufferRef → Buffer) :
    (initial queues timerFd uptime buffers).reactor =
      Reactor.initial timerFd uptime buffers := by
  refine Reactor.ext rfl rfl ?_ rfl ?_ rfl rfl rfl
  · funext token
    by_cases here : token = timerFd
    · simp [reactor, initial, Reactor.initial, Runtime.tokenFlag, here]
    · simp [reactor, initial, Reactor.initial, Runtime.tokenFlag,
        Function.update_of_ne here]
  · funext frame
    rfl

theorem Reaches.path
    (reached : Reaches Unshared timerFd uptime buffers actions s) :
    Path Reactor.Step (Reactor.initial timerFd uptime buffers) actions
      s.reactor := by
  rw [← reactor_initial queues]
  exact (arranged_initial queues timerFd uptime buffers).path reached

/-- Every run of the program is, action by action, a run of the reactor: each
of its steps is one of the reactor between the same operations waiting, the
same results and the same buffers. -/
theorem refines_reactor
    (reached : Reaches Unshared timerFd uptime buffers actions s) :
    Path (Refines System.step reactor Reactor.Step)
        (initial queues timerFd uptime buffers) actions s ∧
      Path Reactor.Step (Reactor.initial timerFd uptime buffers) actions
        s.reactor :=
  ⟨(arranged_initial queues timerFd uptime buffers).refines reached,
    reached.path⟩

/-- A read with a timeout is cancelled by its token while a `wait_for`
sleeps. -/
theorem refines_reactor_sample :
    ∃ s : System TimerQueue.sorted,
      Reaches Unshared 3 100 (fun _ => ⟨[0, 0], 0⟩)
        [.openFd 5 .socket, .openFd 7 (.eventFd false 0), .spawn 1,
          .await 10 (.asyncReadTimeout ⟨5, 0, some 7⟩ 50) {}, .spawn 2,
          .await 20 (.waitFor 80) {}, .requestCancel 7, .run,
          .epollWait [⟨EPOLLIN, 7⟩], .dispatch {}] s ∧
      s.reactor.results = [(0, .transfer operationCancelledError 0)] ∧
      Path Reactor.Step (Reactor.initial 3 100 (fun _ => ⟨[0, 0], 0⟩))
        [.openFd 5 .socket, .openFd 7 (.eventFd false 0), .spawn 1,
          .await 10 (.asyncReadTimeout ⟨5, 0, some 7⟩ 50) {}, .spawn 2,
          .await 20 (.waitFor 80) {}, .requestCancel 7, .run,
          .epollWait [⟨EPOLLIN, 7⟩], .dispatch {}] s.reactor := by
  refine (exists_reaches (fun s => s.reactor.results =
    [(0, .transfer operationCancelledError 0)]) ?_ ?_).imp
      fun s ⟨reached, results⟩ =>
        ⟨reached, of_decide_eq_true results, (refines_reactor reached).2⟩
  · decide +kernel
  · decide +kernel

end System

end AsyncFrame
