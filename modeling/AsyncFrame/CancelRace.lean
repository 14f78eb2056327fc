import AsyncFrame.Registrations

/-!
# Cancelling while an operation starts

`await_suspend` of the four awaiters with a cancel token, cut at its accesses
to what another thread shares: the two tests of the flag, with the
registrations between them.  Between any two steps another thread may go on
with its call of `request_cancel`.
-/

namespace AsyncFrame

open Lib

variable {queues : TimerQueue} {rt : Runtime queues}
variable {frame : Addr} {operation : Operation} {token : Fd}

/-! ## The two threads -/

/-- What `await_suspend` does next, or how it returned. -/
inductive Phase where
  | firstTest
  | submitSocket
  | setTimer
  | refreshTimer
  | secondTest
  | register
  | suspended
  | declined
  deriving DecidableEq, Repr

/-- The first test has passed. -/
def Phase.passed : Phase → Bool
  | .firstTest | .declined => false
  | _ => true

/-- The first test has passed, the second one is still to come. -/
def Phase.betweenTests : Phase → Bool
  | .submitSocket | .setTimer | .refreshTimer | .secondTest => true
  | _ => false

/-- The timer of the operation has not been set. -/
def Phase.beforeTimer : Phase → Bool
  | .firstTest | .submitSocket | .setTimer => true
  | _ => false

/-- `await_suspend` has returned. -/
def Phase.returned : Phase → Bool
  | .suspended | .declined => true
  | _ => false

/-- What `request_cancel` does next. -/
inductive Canceller where
  | compareExchange
  | write
  | done
  deriving DecidableEq, Repr

inductive Turn where
  | starter
  | canceller
  deriving DecidableEq, Repr

/-- The call of `submit_read` or `submit_write` in `await_suspend`. -/
def Operation.submitSocket (frame : Addr) (rt : Runtime queues) :
    Operation → Runtime queues
  | .asyncRead base =>
      rt.submitRead base.conn { read := some ⟨frame, .socket⟩ }
  | .asyncReadTimeout base _ =>
      rt.submitRead base.conn
        { fd := base.conn, read := some ⟨frame, .socket⟩ }
  | .asyncWrite base =>
      rt.submitWrite base.conn { write := some ⟨frame, .socket⟩ }
  | .asyncWriteTimeout base _ =>
      rt.submitWrite base.conn
        { fd := base.conn, write := some ⟨frame, .socket⟩ }
  | _ => rt

/-- One step of `await_suspend`.  The second test is the one in
`cancel_slot::submit`, which returns without a trace when it fails. -/
def Operation.suspendStep (frame : Addr) (operation : Operation)
    (rt : Runtime queues) : Phase → Option (Runtime queues × Phase)
  | .firstTest =>
      if rt.cancelRequested operation.token? then some (rt, .declined)
      else some (rt, .submitSocket)
  | .submitSocket =>
      some (operation.submitSocket frame rt,
        if operation.delay?.isSome then .setTimer else .secondTest)
  | .setTimer =>
      operation.delay?.map fun delay =>
        (rt.setTimer { fd := rt.timer.fd, read := some ⟨frame, .timer⟩ } delay,
          .refreshTimer)
  | .refreshTimer => some (rt.refreshTimerRegistration, .secondTest)
  | .secondTest =>
      if rt.cancelRequested operation.token? then some (rt, .suspended)
      else some (rt, .register)
  | .register =>
      some (CancelSlot.register frame operation.token? rt, .suspended)
  | .suspended => none
  | .declined => none

/-- One step of `request_cancel`. -/
def Runtime.requestCancelStep (rt : Runtime queues) (token : Fd) :
    Canceller → Option (Runtime queues × Canceller)
  | .compareExchange =>
      if rt.tokenFlag token then some (rt, .done)
      else some (rt.setCancelled token, .write)
  | .write => some (rt.signalCancelled token, .done)
  | .done => none

/-- An operation that starts and a `request_cancel`, from the beginning of
both. -/
structure Race (queues : TimerQueue) where
  rt : Runtime queues
  phase : Phase := .firstTest
  canceller : Canceller := .compareExchange

namespace Race

def step (frame : Addr) (operation : Operation) (token : Fd)
    (race : Race queues) : Turn → Option (Race queues)
  | .starter =>
      (operation.suspendStep frame race.rt race.phase).map fun after =>
        { race with rt := after.1, phase := after.2 }
  | .canceller =>
      (race.rt.requestCancelStep token race.canceller).map fun after =>
        { race with rt := after.1, canceller := after.2 }

/-- The turn is the one in which `request_cancel` sets the flag. -/
def setsFlag (race : Race queues) (token : Fd) (turn : Turn) : Bool :=
  turn = .canceller && race.canceller = .compareExchange &&
    !race.rt.tokenFlag token

/-- The flag is not set between the two tests. -/
def SparesWindow (token : Fd) (race : Race queues) (turn : Turn) : Prop :=
  race.setsFlag token turn = true → race.phase.betweenTests = false

instance (token : Fd) (race : Race queues) (turn : Turn) :
    Decidable (SparesWindow token race turn) :=
  inferInstanceAs (Decidable (_ → _))

/-- Both threads are done. -/
def Finished (race : Race queues) : Prop :=
  race.phase.returned = true ∧ race.canceller = .done

/-- The operation is suspended, its token is cancelled, and the eventfd would
not wake it. -/
def Lost (frame : Addr) (token : Fd) (race : Race queues) : Prop :=
  race.phase = .suspended ∧ race.rt.tokenFlag token = true ∧
    race.rt.scheduler.registry token .read ≠ some ⟨frame, .cancel⟩

instance (race : Race queues) : Decidable race.Finished :=
  inferInstanceAs (Decidable (_ ∧ _))

instance (race : Race queues) : Decidable (race.Lost frame token) :=
  inferInstanceAs (Decidable (_ ∧ _ ∧ _))

end Race

/-! ## Uninterrupted calls -/

/-- From the second test on the steps are `cancel_slot::submit`. -/
theorem Operation.submitToken_of_steps (frame : Addr) (operation : Operation)
    (token : Fd) (rt : Runtime queues) (canceller : Canceller) :
    ∃ count, runFrom (Race.step frame operation token)
      ⟨rt, .secondTest, canceller⟩ (List.replicate count .starter) =
        some ⟨CancelSlot.submit frame operation.token? rt, .suspended,
          canceller⟩ := by
  cases flag : rt.cancelRequested operation.token? with
  | true =>
      refine ⟨1, ?_⟩
      simp [runFrom, Race.step, suspendStep, CancelSlot.submit, flag]
  | false =>
      refine ⟨2, ?_⟩
      simp [runFrom, Race.step, suspendStep, CancelSlot.submit, flag,
        List.replicate]

/-- Without the other thread the steps are `await_suspend`. -/
theorem Operation.awaitSuspend_of_steps (frame : Addr) (rt : Runtime queues)
    (canceller : Canceller) (tokened : operation.token? = some token) :
    ∃ count, runFrom (Race.step frame operation token)
      ⟨rt, .firstTest, canceller⟩ (List.replicate count .starter) =
        some ⟨(operation.awaitSuspend frame rt).1,
          if (operation.awaitSuspend frame rt).2 then .suspended
          else .declined, canceller⟩ := by
  cases flag : rt.cancelRequested operation.token? with
  | true =>
      refine ⟨1, ?_⟩
      cases operation <;> simp_all [token?, runFrom, Race.step, suspendStep,
        awaitSuspend, InnerRecvAwaiter.awaitSuspend,
        InnerRecvTimeoutAwaiter.awaitSuspend, InnerSendAwaiter.awaitSuspend,
        InnerSendTimeoutAwaiter.awaitSuspend]
  | false =>
      let submitted := operation.submitSocket frame rt
      cases timed : operation.delay? with
      | none =>
          obtain ⟨count, slotted⟩ :=
            submitToken_of_steps frame operation token submitted canceller
          refine ⟨count + 2, ?_⟩
          have steps : runFrom (Race.step frame operation token)
              ⟨rt, .firstTest, canceller⟩
              (List.replicate (count + 2) .starter) =
                runFrom (Race.step frame operation token)
                  ⟨submitted, .secondTest, canceller⟩
                  (List.replicate count .starter) := by
            simp [runFrom, Race.step, suspendStep, flag, timed, submitted,
              List.replicate_succ]
          rw [steps, slotted]
          cases operation with
          | asyncRead base =>
              have quiet : rt.cancelRequested base.cancelToken = false := flag
              simp [awaitSuspend, InnerRecvAwaiter.awaitSuspend, quiet,
                submitted, submitSocket, token?]
          | asyncWrite base =>
              have quiet : rt.cancelRequested base.cancelToken = false := flag
              simp [awaitSuspend, InnerSendAwaiter.awaitSuspend, quiet,
                submitted, submitSocket, token?]
          | asyncReadTimeout base delay => cases timed
          | asyncWriteTimeout base delay => cases timed
          | asyncReadSome conn buf => cases tokened
          | asyncAccept conn => cases tokened
          | asyncConnect conn => cases tokened
          | waitFor delay => cases tokened
      | some delay =>
          let armed := (submitted.setTimer
            { fd := submitted.timer.fd, read := some ⟨frame, .timer⟩ }
            delay).refreshTimerRegistration
          obtain ⟨count, slotted⟩ :=
            submitToken_of_steps frame operation token armed canceller
          refine ⟨count + 4, ?_⟩
          have steps : runFrom (Race.step frame operation token)
              ⟨rt, .firstTest, canceller⟩
              (List.replicate (count + 4) .starter) =
                runFrom (Race.step frame operation token)
                  ⟨armed, .secondTest, canceller⟩
                  (List.replicate count .starter) := by
            simp [runFrom, Race.step, suspendStep, flag, timed, submitted,
              armed, List.replicate_succ]
          rw [steps, slotted]
          cases operation with
          | asyncReadTimeout base delay =>
              have quiet : rt.cancelRequested base.cancelToken = false := flag
              cases timed
              simp [awaitSuspend, InnerRecvTimeoutAwaiter.awaitSuspend, quiet,
                armed, submitted, submitSocket, token?]
          | asyncWriteTimeout base delay =>
              have quiet : rt.cancelRequested base.cancelToken = false := flag
              cases timed
              simp [awaitSuspend, InnerSendTimeoutAwaiter.awaitSuspend, quiet,
                armed, submitted, submitSocket, token?]
          | asyncRead base => cases timed
          | asyncWrite base => cases timed
          | asyncReadSome conn buf => cases tokened
          | asyncAccept conn => cases tokened
          | asyncConnect conn => cases tokened
          | waitFor delay => cases tokened

/-- Without the other thread the steps are `request_cancel`. -/
theorem Runtime.requestCancel_of_steps (rt : Runtime queues) (frame : Addr)
    (operation : Operation) (token : Fd) (phase : Phase) :
    ∃ count, runFrom (Race.step frame operation token)
      ⟨rt, phase, .compareExchange⟩ (List.replicate count .canceller) =
        some ⟨rt.requestCancel token, phase, .done⟩ := by
  cases flag : rt.tokenFlag token with
  | true =>
      refine ⟨1, ?_⟩
      simp [runFrom, Race.step, requestCancelStep, requestCancel, flag]
  | false =>
      refine ⟨2, ?_⟩
      simp [runFrom, Race.step, requestCancelStep, requestCancel, flag,
        List.replicate]

/-! ## The steps of the race -/

private theorem Operation.socket_of_token
    (tokened : operation.token? = some token) :
    ∃ conn direction, operation.socket? = some (conn, direction) := by
  cases operation with
  | asyncRead base => exact ⟨base.conn, .read, rfl⟩
  | asyncReadTimeout base delay => exact ⟨base.conn, .read, rfl⟩
  | asyncWrite base => exact ⟨base.conn, .write, rfl⟩
  | asyncWriteTimeout base delay => exact ⟨base.conn, .write, rfl⟩
  | asyncReadSome conn buf => cases tokened
  | asyncAccept conn => cases tokened
  | asyncConnect conn => cases tokened
  | waitFor delay => cases tokened

private theorem Operation.submitSocket_spec (agrees : rt.TableAgrees)
    (frame : Addr) (tokened : operation.token? = some token) {conn : Fd}
    {direction : Direction}
    (socket : operation.socket? = some (conn, direction))
    (plain : conn ≠ rt.timer.fd) :
    rt.Registers (operation.submitSocket frame rt)
      (rt.scheduler.registry.put conn direction (some ⟨frame, .socket⟩)) := by
  cases operation with
  | asyncRead base =>
      cases socket
      rw [submitSocket, Runtime.submitRead_eq]
      exact Runtime.submitPlain_spec agrees plain _ rfl
  | asyncReadTimeout base delay =>
      cases socket
      rw [submitSocket, Runtime.submitRead_eq]
      exact Runtime.submitPlain_spec agrees plain _ rfl
  | asyncWrite base =>
      cases socket
      rw [submitSocket, Runtime.submitWrite_eq]
      exact Runtime.submitPlain_spec agrees plain _ rfl
  | asyncWriteTimeout base delay =>
      cases socket
      rw [submitSocket, Runtime.submitWrite_eq]
      exact Runtime.submitPlain_spec agrees plain _ rfl
  | asyncReadSome conn buf => cases tokened
  | asyncAccept conn => cases tokened
  | asyncConnect conn => cases tokened
  | waitFor delay => cases tokened

namespace Race

/-- What each step of the race keeps: table and timer are in order, the
operation's slot on the eventfd is not registered before its time, and once
`request_cancel` is done with an operation behind its first test, the eventfd
is readable. -/
structure Racing (frame : Addr) (operation : Operation) (token : Fd)
    (race : Race queues) : Prop where
  agrees : race.rt.TableAgrees
  settled : ∃ deadlines, race.rt.timer.Settled deadlines ∧
    (race.phase.beforeTimer = false ∨ deadlines ⟨frame, .timer⟩ = none)
  timed : ∀ delay, operation.delay? = some delay →
    TimerEvent.toTimePoint race.rt.clock delay ≠ 0
  plain : ∀ fd, operation.touches fd = true → fd ≠ race.rt.timer.fd
  apart : ∀ direction, operation.socket? ≠ some (token, direction)
  unregistered : race.phase = .suspended ∨
    race.rt.scheduler.registry token .read ≠ some ⟨frame, .cancel⟩
  file : ∃ cancelled counter,
    race.rt.files token = .eventFd cancelled counter
  flagged : race.canceller = .compareExchange ∨
    race.rt.tokenFlag token = true
  clear : race.phase.passed = true → race.canceller = .compareExchange →
    race.rt.tokenFlag token = false
  readable : race.phase.passed = true → race.canceller = .done →
    ∃ counter, race.rt.files token = .eventFd true (counter + 1)

/-- The flag is clear between the two tests, and the slot is registered while
the operation is suspended. -/
def Lawful (frame : Addr) (token : Fd) (race : Race queues) : Prop :=
  (race.phase.betweenTests = false ∨ race.rt.tokenFlag token = false) ∧
    (race.phase ≠ .suspended ∨
      race.rt.scheduler.registry token .read = some ⟨frame, .cancel⟩)

variable {race next : Race queues}

/-- A step of `await_suspend` leaves the clock, the files and the number of
the timerfd as they are. -/
theorem Racing.goOn (racing : Racing frame operation token race)
    {changed : Runtime queues} {phase : Phase}
    (agrees : changed.TableAgrees)
    (settled : ∃ deadlines, changed.timer.Settled deadlines ∧
      (phase.beforeTimer = false ∨ deadlines ⟨frame, .timer⟩ = none))
    (clock : changed.clock = race.rt.clock)
    (timerFd : changed.timer.fd = race.rt.timer.fd)
    (files : changed.files = race.rt.files)
    (unregistered : phase = .suspended ∨
      changed.scheduler.registry token .read ≠ some ⟨frame, .cancel⟩)
    (passed : race.phase.passed = true ∨ phase.passed = false ∨
      race.rt.tokenFlag token = false) :
    Racing frame operation token ⟨changed, phase, race.canceller⟩ := by
  have flags : changed.tokenFlag token = race.rt.tokenFlag token := by
    simp only [Runtime.tokenFlag, files]
  refine ⟨agrees, settled, ?_, ?_, racing.apart, unregistered, ?_, ?_, ?_,
    ?_⟩
  · rw [clock]
    exact racing.timed
  · rw [timerFd]
    exact racing.plain
  · rw [files]
    exact racing.file
  · rw [flags]
    exact racing.flagged
  · intro inside waiting
    rcases passed with before | outside | quiet
    · exact flags.trans (racing.clear before waiting)
    · exact absurd inside (ne_true_of_eq_false outside)
    · exact flags.trans quiet
  · intro inside done
    rw [files]
    rcases passed with before | outside | quiet
    · exact racing.readable before done
    · exact absurd inside (ne_true_of_eq_false outside)
    · rcases racing.flagged with waiting | set
      · cases waiting.symm.trans done
      · rw [quiet] at set
        cases set

/-- Between the two tests the law is about the flag only. -/
theorem lawful_between {changed : Runtime queues} {phase now : Phase}
    {canceller : Canceller} (before : phase.betweenTests = true)
    (after : now.betweenTests = true) (files : changed.files = rt.files) :
    Lawful frame token ⟨changed, now, canceller⟩ ↔
      Lawful frame token ⟨rt, phase, canceller⟩ := by
  have running : ∀ {phase : Phase}, phase.betweenTests = true →
      phase ≠ .suspended := by
    rintro phase between rfl
    cases between
  simp [Lawful, before, after, running before, running after,
    Runtime.tokenFlag, files]

section Calls

variable {canceller : Canceller}

/-- `submit_read` or `submit_write`. -/
theorem Racing.submitSocket
    (racing : Racing frame operation token ⟨rt, .submitSocket, canceller⟩)
    (tokened : operation.token? = some token) {phase : Phase} :
    Racing frame operation token
        ⟨operation.submitSocket frame rt, phase, canceller⟩ ∧
      (operation.submitSocket frame rt).files = rt.files := by
  obtain ⟨conn, direction, socket⟩ := Operation.socket_of_token tokened
  have connPlain : conn ≠ rt.timer.fd :=
    racing.plain conn (Operation.touches_iff.mpr (Or.inl ⟨direction, socket⟩))
  have different : token ≠ conn := by
    rintro rfl
    exact racing.apart direction socket
  obtain ⟨deadlines, settled, absent⟩ := racing.settled
  have unset := absent.resolve_left (by simp [Phase.beforeTimer])
  obtain ⟨scheduler, called, agrees, registry⟩ :=
    Operation.submitSocket_spec racing.agrees frame tokened socket connPlain
  rw [called]
  refine ⟨racing.goOn agrees ⟨deadlines, settled, Or.inr unset⟩ rfl rfl rfl
    (Or.inr ?_) (Or.inl rfl), rfl⟩
  have free : scheduler.registry token .read =
      rt.scheduler.registry token .read := by
    rw [registry]
    exact Registry.put_of_fd_ne _ _ different
  rw [free]
  exact racing.unregistered.resolve_left (by simp)

/-- `set_timer`. -/
theorem Racing.setTimer
    (racing : Racing frame operation token ⟨rt, .setTimer, canceller⟩)
    {delay : Int} (timed : operation.delay? = some delay) :
    Racing frame operation token
      ⟨rt.setTimer { fd := rt.timer.fd, read := some ⟨frame, .timer⟩ } delay,
        .refreshTimer, canceller⟩ := by
  have named : FdOps.read
      { fd := rt.timer.fd, read := some ⟨frame, .timer⟩ } =
        some ⟨frame, .timer⟩ := rfl
  obtain ⟨deadlines, settled, absent⟩ := racing.settled
  have unset := absent.resolve_left (by simp [Phase.beforeTimer])
  obtain ⟨set, timerFd, _⟩ := TimerEvent.setTimer_spec settled named
    (racing.timed delay timed) unset
  refine racing.goOn ?_ ⟨_, set, Or.inl rfl⟩ rfl timerFd rfl
    (Or.inr (racing.unregistered.resolve_left (by simp))) (Or.inl rfl)
  change rt.scheduler.Agrees (rt.timer.setTimer _ _ _).fd
  rw [timerFd]
  exact racing.agrees

/-- `refresh_timer_registration`. -/
theorem Racing.refreshTimer
    (racing : Racing frame operation token ⟨rt, .refreshTimer, canceller⟩)
    (tokenPlain : token ≠ rt.timer.fd) :
    Racing frame operation token
        ⟨rt.refreshTimerRegistration, .secondTest, canceller⟩ ∧
      rt.refreshTimerRegistration.files = rt.files := by
  obtain ⟨deadlines, settled, _⟩ := racing.settled
  obtain ⟨refreshed, timerFd, _⟩ :=
    TimerEvent.refreshCurrentTimer_spec settled
  obtain ⟨scheduler, called, agrees, registry⟩ :=
    Runtime.refreshTimerRegistration_spec racing.agrees refreshed timerFd
  rw [called]
  refine ⟨racing.goOn ?_ ⟨_, refreshed, Or.inl rfl⟩ rfl timerFd rfl
    (Or.inr ?_) (Or.inl rfl), rfl⟩
  · change scheduler.Agrees rt.timer.refreshCurrentTimer.fd
    rw [timerFd]
    exact agrees
  · have free : scheduler.registry token .read =
        rt.scheduler.registry token .read := by
      rw [registry]
      exact Registry.put_of_fd_ne _ _ tokenPlain
    rw [free]
    exact racing.unregistered.resolve_left (by simp)

/-- `submit_cancel`. -/
theorem Racing.register
    (racing : Racing frame operation token ⟨rt, .register, canceller⟩)
    (tokenPlain : token ≠ rt.timer.fd) :
    Racing frame operation token
        ⟨CancelSlot.register frame (some token) rt, .suspended, canceller⟩ ∧
      (CancelSlot.register frame (some token) rt).scheduler.registry token
        .read = some ⟨frame, .cancel⟩ := by
  have slot : FdOps.pointer
      { fd := token, read := some ⟨frame, .cancel⟩ } .read =
        some ⟨frame, .cancel⟩ := rfl
  obtain ⟨deadlines, settled, _⟩ := racing.settled
  obtain ⟨scheduler, called, agrees, registry⟩ :=
    Runtime.submitPlain_spec racing.agrees tokenPlain _ slot
  rw [← Runtime.submitCancel_eq] at called
  rw [CancelSlot.register, called]
  refine ⟨racing.goOn agrees ⟨deadlines, settled, Or.inl rfl⟩ rfl rfl rfl
    (Or.inl rfl) (Or.inl rfl), ?_⟩
  change scheduler.registry token .read = _
  rw [registry]
  exact Registry.put_self _ _

end Calls

/-- A step of `await_suspend` keeps the law both ways: whether it holds is
decided by the other thread. -/
theorem Racing.starter (racing : Racing frame operation token race)
    (tokened : operation.token? = some token)
    (taken : race.step frame operation token .starter = some next) :
    Racing frame operation token next ∧
      (Lawful frame token next ↔ Lawful frame token race) := by
  obtain ⟨rt, phase, canceller⟩ := race
  obtain ⟨⟨changed, now⟩, stepped, rfl⟩ := Option.map_eq_some_iff.mp taken
  have requested : rt.cancelRequested operation.token? =
      rt.tokenFlag token := by
    rw [tokened]
    rfl
  have tokenPlain : token ≠ rt.timer.fd :=
    racing.plain token (Operation.touches_iff.mpr (Or.inr tokened))
  cases phase with
  | firstTest =>
      have unregistered := racing.unregistered.resolve_left (by simp)
      obtain ⟨deadlines, settled, absent⟩ := racing.settled
      simp only [Operation.suspendStep, requested] at stepped
      cases flag : rt.tokenFlag token with
      | true =>
          rw [flag] at stepped
          cases stepped
          refine ⟨racing.goOn racing.agrees
            ⟨deadlines, settled, Or.inl rfl⟩ rfl rfl rfl (Or.inr unregistered)
            (Or.inr (Or.inl rfl)), ?_⟩
          simp [Lawful, Phase.betweenTests]
      | false =>
          rw [flag] at stepped
          cases stepped
          refine ⟨racing.goOn racing.agrees ⟨deadlines, settled, absent⟩ rfl
            rfl rfl (Or.inr unregistered) (Or.inr (Or.inr flag)), ?_⟩
          simp [Lawful, Phase.betweenTests, flag]
  | submitSocket =>
      cases stepped
      cases operation.delay? with
      | none =>
          obtain ⟨kept, files⟩ := racing.submitSocket tokened
          exact ⟨kept, lawful_between rfl rfl files⟩
      | some delay =>
          obtain ⟨kept, files⟩ := racing.submitSocket tokened
          exact ⟨kept, lawful_between rfl rfl files⟩
  | setTimer =>
      obtain ⟨delay, timed, same⟩ := Option.map_eq_some_iff.mp stepped
      cases same
      exact ⟨racing.setTimer timed, lawful_between rfl rfl rfl⟩
  | refreshTimer =>
      cases stepped
      obtain ⟨kept, files⟩ := racing.refreshTimer tokenPlain
      exact ⟨kept, lawful_between rfl rfl files⟩
  | secondTest =>
      have unregistered := racing.unregistered.resolve_left (by simp)
      obtain ⟨deadlines, settled, _⟩ := racing.settled
      simp only [Operation.suspendStep, requested] at stepped
      cases flag : rt.tokenFlag token with
      | true =>
          rw [flag] at stepped
          cases stepped
          refine ⟨racing.goOn racing.agrees
            ⟨deadlines, settled, Or.inl rfl⟩ rfl rfl rfl (Or.inl rfl)
            (Or.inl rfl), ?_⟩
          -- the operation is suspended without its cancel registration
          simp [Lawful, Phase.betweenTests, flag, unregistered]
      | false =>
          rw [flag] at stepped
          cases stepped
          refine ⟨racing.goOn racing.agrees
            ⟨deadlines, settled, Or.inl rfl⟩ rfl rfl rfl
            (Or.inr unregistered) (Or.inl rfl), ?_⟩
          simp [Lawful, Phase.betweenTests, flag]
  | register =>
      cases stepped
      rw [tokened]
      obtain ⟨kept, registered⟩ := racing.register tokenPlain
      refine ⟨kept, ?_⟩
      simp [Lawful, Phase.betweenTests, registered]
  | suspended => cases stepped
  | declined => cases stepped

/-- A step of `request_cancel` leaves everything but the token's file as it
is. -/
theorem Racing.withFile (racing : Racing frame operation token race)
    {canceller : Canceller} {counter : Nat}
    (readable : canceller = .done → ∃ earlier, counter = earlier + 1)
    (begun : canceller ≠ .compareExchange) :
    Racing frame operation token
      ⟨{ race.rt with
          files := Function.update race.rt.files token
            (.eventFd true counter) }, race.phase, canceller⟩ := by
  refine ⟨racing.agrees, racing.settled, racing.timed, racing.plain,
    racing.apart, racing.unregistered, ⟨true, counter, ?_⟩, Or.inr ?_,
    fun _ waiting => absurd waiting begun, fun _ done => ?_⟩
  · exact Function.update_self _ _ _
  · simp [Runtime.tokenFlag]
  · obtain ⟨earlier, rfl⟩ := readable done
    exact ⟨earlier, Function.update_self _ _ _⟩

/-- A step of `request_cancel` breaks the law exactly if it sets the flag
between the two tests. -/
theorem Racing.canceller (racing : Racing frame operation token race)
    (taken : race.step frame operation token .canceller = some next) :
    Racing frame operation token next ∧
      (Lawful frame token next ↔
        Lawful frame token race ∧ SparesWindow token race .canceller) := by
  obtain ⟨rt, phase, canceller⟩ := race
  obtain ⟨⟨changed, now⟩, stepped, rfl⟩ := Option.map_eq_some_iff.mp taken
  obtain ⟨cancelled, counter, file⟩ :
    ∃ cancelled counter, rt.files token = .eventFd cancelled counter :=
      racing.file
  have flag : rt.tokenFlag token = cancelled := by
    simp only [Runtime.tokenFlag, file]
  cases canceller with
  | compareExchange =>
      cases cancelled with
      | true =>
          simp only [Runtime.requestCancelStep, flag, if_true,
            Option.some.injEq] at stepped
          cases stepped
          refine ⟨⟨racing.agrees, racing.settled, racing.timed, racing.plain,
            racing.apart, racing.unregistered, racing.file, Or.inr flag,
            fun _ waiting => ?_, fun inside _ => ?_⟩, ?_⟩
          · cases waiting
          · cases flag.symm.trans (racing.clear inside rfl)
          · simp [Lawful, SparesWindow, setsFlag, flag]
      | false =>
          simp only [Runtime.requestCancelStep, flag, Bool.false_eq_true,
            if_false, Option.some.injEq] at stepped
          rw [Runtime.setCancelled, file] at stepped
          cases stepped
          refine ⟨racing.withFile (by simp) (by simp), ?_⟩
          have set : Runtime.tokenFlag
              { rt with
                files := Function.update rt.files token
                  (.eventFd true counter) } token = true := by
            simp [Runtime.tokenFlag]
          cases between : phase.betweenTests <;>
            simp [Lawful, SparesWindow, setsFlag, flag, set, between]
  | write =>
      have set : cancelled = true :=
        flag.symm.trans (racing.flagged.resolve_left (by simp))
      subst set
      simp only [Runtime.requestCancelStep, Option.some.injEq] at stepped
      rw [Runtime.signalCancelled, file] at stepped
      cases stepped
      refine ⟨racing.withFile (fun _ => ⟨counter, rfl⟩) (by simp), ?_⟩
      have stays : Runtime.tokenFlag
          { rt with
            files := Function.update rt.files token
              (.eventFd true (counter + 1)) } token = true := by
        simp [Runtime.tokenFlag]
      simp [Lawful, SparesWindow, setsFlag, flag, stays]
  | done => cases stepped

private theorem Racing.turn (racing : Racing frame operation token race)
    (tokened : operation.token? = some token) {turn : Turn}
    (taken : race.step frame operation token turn = some next) :
    Racing frame operation token next ∧
      (Lawful frame token next ↔
        Lawful frame token race ∧ SparesWindow token race turn) := by
  cases turn with
  | starter =>
      obtain ⟨kept, lawful⟩ := racing.starter tokened taken
      refine ⟨kept, lawful.trans (and_iff_left ?_).symm⟩
      simp [SparesWindow, setsFlag]
  | canceller => exact racing.canceller taken

/-- The race begins in any reachable state in which the operation may be
started in a new frame. -/
theorem racing_start {s : System queues} (good : System.Good s)
    (free : s.frames.lookup frame = none)
    (admitted : s.admits operation = true)
    (tokened : operation.token? = some token) :
    Racing frame operation token ⟨s.rt, .firstTest, .compareExchange⟩ := by
  have inOrder := good.sound.inOrder
  have absent : s.pending frame = none := pendingIn_of_free free
  obtain ⟨fits, timed⟩ := System.admits_iff.mp admitted
  refine ⟨inOrder.agrees, ⟨_, inOrder.settled, Or.inr ?_⟩, ?_, ?_, ?_,
    Or.inr ?_, fits.token token tokened, Or.inl rfl, ?_, ?_⟩
  · rw [deadlines_timer, absent]
    rfl
  · intro delay here
    refine (timed _ ?_).ne'
    rw [Operation.deadlineAt, here]
    rfl
  · intro fd touched
    rcases Operation.touches_iff.mp touched with ⟨direction, socket⟩ | token
    · exact fits.socket_plain inOrder socket
    · exact fits.token_plain inOrder fd token
  · intro direction socket
    obtain ⟨cancelled, counter, file⟩ := fits.token token tokened
    rw [fits.socket token direction socket] at file
    cases file
  · intro registered
    obtain ⟨op, waits, _⟩ := good.sound.waits_of_registered registered
    rw [absent] at waits
    cases waits
  · intro inside
    cases inside
  · intro inside
    cases inside

end Race

/-! ## The exact condition -/

namespace System

variable {s : System queues} {timerFd : Fd} {uptime : Nat}
variable {buffers : BufferRef → Buffer} {actions : List Action}
variable {turns : List Turn} {final : Race queues}

/-- An operation with a token is started in any reachable state, while another
thread calls `request_cancel`.  Whatever the interleaving, when both are done
the cancellation is not lost exactly if the flag was not set between the two
tests; and the eventfd is readable when the operation is suspended. -/
theorem cancellation_notLost_iff
    (reached : Reaches KeepsPending timerFd uptime buffers actions s)
    (free : s.frames.lookup frame = none)
    (admitted : s.admits operation = true)
    (tokened : operation.token? = some token)
    (run : runFrom (Race.step frame operation token)
      ⟨s.rt, .firstTest, .compareExchange⟩ turns = some final)
    (finished : final.Finished) :
    (¬ final.Lost frame token ↔
      Meets (Race.step frame operation token) (Race.SparesWindow token)
        ⟨s.rt, .firstTest, .compareExchange⟩ turns) ∧
    (final.phase = .suspended →
      ∃ counter, final.rt.files token = .eventFd true (counter + 1)) := by
  have good := reached.good fun _ _ keeps => keeps
  have start := Race.racing_start good free admitted tokened
  have unrestricted : Meets (Race.step frame operation token)
      (fun _ _ => True) ⟨s.rt, .firstTest, .compareExchange⟩ turns :=
    meets_of_forall_mem fun _ _ _ => trivial
  have racing : Race.Racing frame operation token final :=
    invariant_of_run (Race.Racing frame operation token)
      (fun racing _ taken => (racing.turn tokened taken).1) start
      unrestricted run
  have decided := law_iff_meets_of_run
    (Race.Racing frame operation token) (Race.Lawful frame token)
    (Race.SparesWindow token)
    (fun racing _ taken => (racing.turn tokened taken).1)
    (fun racing _ taken => (racing.turn tokened taken).2) start
    ⟨Or.inl rfl, Or.inl (by simp)⟩ unrestricted run
  obtain ⟨returned, done⟩ := finished
  have flag : final.rt.tokenFlag token = true :=
    racing.flagged.resolve_left (by simp [done])
  have notBetween : final.phase.betweenTests = false := by
    cases phase : final.phase <;> rw [phase] at returned <;>
      first | rfl | cases returned
  refine ⟨?_, fun suspended => ?_⟩
  · rw [← decided]
    simp [Race.Lost, Race.Lawful, flag, notBetween, or_iff_not_imp_left]
  · exact racing.readable (by rw [suspended]; rfl) done

/-- The flag is set behind the second test: the registration that follows
lets the eventfd wake the operation. -/
theorem cancellation_notLost_iff_sample :
    ∃ s : System TimerQueue.sorted,
      Reaches KeepsPending 3 100 (fun _ => ⟨[0, 0], 0⟩)
        [.openFd 5 .socket, .openFd 6 (.eventFd false 0), .spawn 1] s ∧
      ∃ final, runFrom (Race.step 10 (.asyncRead ⟨5, 0, some 6⟩) 6)
          ⟨s.rt, .firstTest, .compareExchange⟩
          [.starter, .starter, .starter, .canceller, .starter,
            .canceller] = some final ∧
        ¬ final.Lost 10 6 := by
  refine (exists_reaches (fun s =>
    decide (s.frames.lookup 10 = none) &&
      s.admits (.asyncRead ⟨5, 0, some 6⟩) &&
      decide (Meets (Race.step 10 (.asyncRead ⟨5, 0, some 6⟩) 6)
        (Race.SparesWindow 6) ⟨s.rt, .firstTest, .compareExchange⟩
        [.starter, .starter, .starter, .canceller, .starter,
          .canceller]) &&
      (runFrom (Race.step 10 (.asyncRead ⟨5, 0, some 6⟩) 6)
        ⟨s.rt, .firstTest, .compareExchange⟩
        [.starter, .starter, .starter, .canceller, .starter,
          .canceller]).any fun final => decide final.Finished)
    ?_ ?_).imp fun s ⟨reached, passed⟩ => ⟨reached, ?_⟩
  · decide +kernel
  · decide +kernel
  · simp only [Bool.and_eq_true, decide_eq_true_eq] at passed
    obtain ⟨⟨⟨free, admitted⟩, spared⟩, ends⟩ := passed
    obtain ⟨final, run, finished⟩ := (Option.any_eq_true _ _).mp ends
    exact ⟨final, run, (cancellation_notLost_iff reached free admitted rfl run
      (of_decide_eq_true finished)).1.mpr spared⟩

/-- The flag is set between the two tests: the operation is suspended, and
nothing is registered for its eventfd. -/
theorem cancellation_notLost_counterexample :
    ∃ s : System TimerQueue.sorted,
      Reaches KeepsPending 3 100 (fun _ => ⟨[0, 0], 0⟩)
        [.openFd 5 .socket, .openFd 6 (.eventFd false 0), .spawn 1] s ∧
      s.admits (.asyncRead ⟨5, 0, some 6⟩) = true ∧
      ∃ final, runFrom (Race.step 10 (.asyncRead ⟨5, 0, some 6⟩) 6)
          ⟨s.rt, .firstTest, .compareExchange⟩
          [.starter, .canceller, .canceller, .starter, .starter] =
            some final ∧
        final.Finished ∧ final.Lost 10 6 := by
  refine (exists_reaches (fun s =>
    s.admits (.asyncRead ⟨5, 0, some 6⟩) &&
      (runFrom (Race.step 10 (.asyncRead ⟨5, 0, some 6⟩) 6)
        ⟨s.rt, .firstTest, .compareExchange⟩
        [.starter, .canceller, .canceller, .starter, .starter]).any
          fun final => decide (final.Finished ∧ final.Lost 10 6))
    ?_ ?_).imp fun s ⟨reached, passed⟩ => ⟨reached, ?_⟩
  · decide +kernel
  · decide +kernel
  · obtain ⟨admitted, ends⟩ := Bool.and_eq_true_iff.mp passed
    obtain ⟨final, run, lost⟩ := (Option.any_eq_true _ _).mp ends
    exact ⟨admitted, final, run, of_decide_eq_true lost⟩

end System

end AsyncFrame
