import AsyncFrame.Awaiters
import AsyncFrame.TimerSettled

/-!
# What the calls of an awaiter do

One lemma for each call that an awaiter makes on the scheduler, the timer or
its cancel slot, in a runtime whose table agrees with the kernel.  A call on
the scheduler changes the scheduler only, does not throw, and is one update of
the registry.
-/

namespace AsyncFrame

open Lib

variable {queues : TimerQueue} {rt : Runtime queues}

/-- The table is in order, for the number of the shared timerfd. -/
abbrev Runtime.TableAgrees (rt : Runtime queues) : Prop :=
  rt.scheduler.Agrees rt.timer.fd

/-- The outcome of a call on the scheduler: only the scheduler changed, and
its registry is the given one. -/
def Runtime.Registers (rt next : Runtime queues)
    (registry : Registry) : Prop :=
  ∃ scheduler : Scheduler,
    next = { rt with scheduler := scheduler } ∧
      scheduler.Agrees rt.timer.fd ∧ scheduler.registry = registry

namespace Runtime

private theorem settle_submit (agrees : rt.TableAgrees) (fd : Fd) (op : FdOps)
    (direction : Direction) {pointer : OpPtr}
    (present : op.pointer direction = some pointer)
    (timerReads : fd = rt.timer.fd → direction = .read) :
    rt.Registers
      (rt.settle (rt.scheduler.submitEventImpl none fd op
        (eventOf (fd = rt.timer.fd) direction)))
      (rt.scheduler.registry.put fd direction (some pointer)) := by
  obtain ⟨next, called, nextAgrees, registry⟩ :=
    Scheduler.submit_spec agrees present timerReads
  exact ⟨next, by rw [called]; rfl, nextAgrees, registry⟩

private theorem settle_remove (agrees : rt.TableAgrees) (fd : Fd)
    (direction : Direction) :
    rt.Registers
      (rt.settle (rt.scheduler.removeOpImpl none fd
        (eventOf (fd = rt.timer.fd) direction)))
      (rt.scheduler.registry.put fd direction none) := by
  obtain ⟨next, called, nextAgrees, registry⟩ :=
    Scheduler.remove_spec agrees fd direction
  exact ⟨next, by rw [called]; rfl, nextAgrees, registry⟩

/-- A submit for one direction of a socket or an eventfd. -/
def submitPlain (rt : Runtime queues) (fd : Fd) (op : FdOps)
    (direction : Direction) : Runtime queues :=
  rt.settle (rt.scheduler.submitEventImpl none fd op
    (eventOf false direction))

/-- A remove for one direction of a socket or an eventfd. -/
def removePlain (rt : Runtime queues) (fd : Fd) (direction : Direction) :
    Runtime queues :=
  rt.settle (rt.scheduler.removeOpImpl none fd (eventOf false direction))

section Members

variable (rt : Runtime queues) (fd : Fd) (op : FdOps)

theorem submitRead_eq : rt.submitRead fd op = rt.submitPlain fd op .read :=
  rfl

theorem submitCancel_eq :
    rt.submitCancel fd op = rt.submitPlain fd op .read :=
  rfl

theorem submitWrite_eq : rt.submitWrite fd op = rt.submitPlain fd op .write :=
  rfl

theorem removeRead_eq : rt.removeRead fd = rt.removePlain fd .read :=
  rfl

theorem removeAccept_eq : rt.removeAccept fd = rt.removePlain fd .read :=
  rfl

private theorem removeCancel_eq :
    rt.removeCancel fd = rt.removePlain fd .read :=
  rfl

theorem removeWrite_eq : rt.removeWrite fd = rt.removePlain fd .write :=
  rfl

theorem removeConnect_eq : rt.removeConnect fd = rt.removePlain fd .write :=
  rfl

end Members

theorem submitPlain_spec (agrees : rt.TableAgrees) {fd : Fd}
    (plain : fd ≠ rt.timer.fd) (op : FdOps) {direction : Direction}
    {pointer : OpPtr} (present : op.pointer direction = some pointer) :
    rt.Registers (rt.submitPlain fd op direction)
      (rt.scheduler.registry.put fd direction (some pointer)) := by
  have called := settle_submit agrees fd op direction present
    (fun timer => absurd timer plain)
  simpa only [submitPlain, plain, decide_false] using called

private theorem removePlain_spec (agrees : rt.TableAgrees) {fd : Fd}
    (plain : fd ≠ rt.timer.fd) (direction : Direction) :
    rt.Registers (rt.removePlain fd direction)
      (rt.scheduler.registry.put fd direction none) := by
  have called := settle_remove agrees fd direction
  simpa only [removePlain, plain, decide_false] using called

/-- `submit_timer` of the current task. -/
theorem submitTimer_spec (agrees : rt.TableAgrees) (op : FdOps)
    {pointer : OpPtr} (present : op.read = some pointer) :
    rt.Registers (rt.submitTimer rt.timer.fd op)
      (rt.scheduler.registry.put rt.timer.fd .read (some pointer)) := by
  have called := settle_submit agrees rt.timer.fd op .read present
    (fun _ => rfl)
  simp only [decide_true] at called
  exact called

private theorem removeTimer_spec (agrees : rt.TableAgrees) :
    rt.Registers (rt.removeTimer rt.timer.fd)
      (rt.scheduler.registry.put rt.timer.fd .read none) := by
  have called := settle_remove agrees rt.timer.fd .read
  simp only [decide_true] at called
  exact called

/-- `refresh_timer_registration` registers the refreshed current task, or
clears the timerfd's entry. -/
theorem refreshTimerRegistration_spec (agrees : rt.TableAgrees)
    {deadlines : OpPtr → Option Int}
    (settled : rt.timer.refreshCurrentTimer.Settled deadlines)
    (sameFd : rt.timer.refreshCurrentTimer.fd = rt.timer.fd) :
    ∃ scheduler : Scheduler,
      rt.refreshTimerRegistration =
        { rt with
          scheduler := scheduler
          timer := rt.timer.refreshCurrentTimer } ∧
      scheduler.Agrees rt.timer.fd ∧
      scheduler.registry =
        rt.scheduler.registry.put rt.timer.fd .read
          rt.timer.refreshCurrentTimer.cur.state.read := by
  let refreshed : Runtime queues :=
    { rt with timer := rt.timer.refreshCurrentTimer }
  have refreshedAgrees : refreshed.TableAgrees := by
    change rt.scheduler.Agrees rt.timer.refreshCurrentTimer.fd
    rw [sameFd]
    exact agrees
  cases empty : rt.timer.refreshCurrentTimer.currentEmpty with
  | true =>
      obtain ⟨scheduler, called, nextAgrees, registry⟩ :=
        removeTimer_spec refreshedAgrees
      refine ⟨scheduler, ?_, sameFd ▸ nextAgrees, ?_⟩
      · simp only [refreshTimerRegistration, empty, if_true]
        exact called
      · have idle := (settled.wellFormed.idle empty).1
        rw [registry, idle]
        exact congrArg
          (fun fd => Registry.put rt.scheduler.registry fd .read none) sameFd
  | false =>
      obtain ⟨pointer, named, _⟩ := settled.current_present empty
      obtain ⟨scheduler, called, nextAgrees, registry⟩ :=
        submitTimer_spec refreshedAgrees
          rt.timer.refreshCurrentTimer.cur.state named
      refine ⟨scheduler, ?_, sameFd ▸ nextAgrees, ?_⟩
      · simp only [refreshTimerRegistration, empty, Bool.false_eq_true,
          if_false]
        exact called
      · rw [registry, named]
        exact congrArg
          (fun fd =>
            Registry.put rt.scheduler.registry fd .read (some pointer))
          sameFd

end Runtime

namespace CancelSlot

variable {token : Option Fd}

/-- The second test of `cancel_slot::submit` passes, and the slot is
registered. -/
theorem submit_spec (agrees : rt.TableAgrees) (self : Addr)
    (plain : ∀ eventFd, token = some eventFd → eventFd ≠ rt.timer.fd)
    (quiet : rt.cancelRequested token = false) :
    rt.Registers (submit self token rt)
      (rt.scheduler.registry.putToken token (some ⟨self, .cancel⟩)) := by
  rw [submit, quiet, if_neg Bool.false_ne_true]
  cases token with
  | none => exact ⟨rt.scheduler, rfl, agrees, rfl⟩
  | some eventFd =>
      have slot : FdOps.pointer
          { fd := eventFd, read := some ⟨self, .cancel⟩ } .read =
            some ⟨self, .cancel⟩ := rfl
      have called :=
        Runtime.submitPlain_spec agrees (plain eventFd rfl) _ slot
      rw [← Runtime.submitCancel_eq] at called
      exact called

private theorem remove_spec (agrees : rt.TableAgrees)
    (plain : ∀ eventFd, token = some eventFd → eventFd ≠ rt.timer.fd) :
    rt.Registers (remove token rt)
      (rt.scheduler.registry.putToken token none) := by
  cases token with
  | none => exact ⟨rt.scheduler, rfl, agrees, rfl⟩
  | some eventFd =>
      have called := Runtime.removePlain_spec agrees (plain eventFd rfl) .read
      rw [← Runtime.removeCancel_eq] at called
      exact called

end CancelSlot

/-! ## Stages of an awaiter's function -/

/-- The timer when its timerfd has been read. -/
def TimerEvent.afterRead (timer : TimerEvent queues) (clock : Int) :
    TimerEvent queues :=
  { timer with
    timerFd :=
      { timer.timerFd with
        consumed := true
        reads := timer.timerFd.isReadable clock :: timer.timerFd.reads } }

/-- The open files are the same, and a token keeps its flag; only the counter
of an eventfd may have been read. -/
def FilesKept (start now : Runtime queues) : Prop :=
  ∀ fd, now.files fd = start.files fd ∨
    ∃ cancelled counter, start.files fd = .eventFd cancelled counter ∧
      now.files fd = .eventFd cancelled 0

theorem FilesKept.refl (rt : Runtime queues) : FilesKept rt rt :=
  fun _ => Or.inl rfl

theorem FilesKept.trans {start middle now : Runtime queues}
    (first : FilesKept start middle) (second : FilesKept middle now) :
    FilesKept start now := by
  intro fd
  rcases second fd with same | ⟨cancelled, counter, before, after⟩
  · rw [same]
    exact first fd
  · rcases first fd with same | ⟨_, _, first', middle'⟩
    · exact Or.inr ⟨cancelled, counter, same ▸ before, after⟩
    · rw [middle'] at before
      cases before
      exact Or.inr ⟨_, _, first', after⟩

theorem FilesKept.cancelRequested {start now : Runtime queues}
    (kept : FilesKept start now) (token : Option Fd) :
    now.cancelRequested token = start.cancelRequested token := by
  cases token with
  | none => rfl
  | some fd =>
      rcases kept fd with same | ⟨cancelled, counter, before, after⟩
      · simp [Runtime.cancelRequested, Runtime.tokenFlag, same]
      · simp [Runtime.cancelRequested, Runtime.tokenFlag, before, after]

private theorem filesKept_consume (token : Option Fd) (rt : Runtime queues) :
    FilesKept rt (CancelSlot.consume token rt) := by
  cases token with
  | none => exact FilesKept.refl rt
  | some eventFd =>
      intro fd
      cases here : rt.files eventFd with
      | eventFd cancelled counter =>
          by_cases same : fd = eventFd
          · subst same
            refine Or.inr ⟨cancelled, counter, here, ?_⟩
            simp [CancelSlot.consume, Runtime.consumeToken, here]
          · left
            simp [CancelSlot.consume, Runtime.consumeToken, here, same]
      | closed => left; simp [CancelSlot.consume, Runtime.consumeToken, here]
      | socket => left; simp [CancelSlot.consume, Runtime.consumeToken, here]
      | timerFd => left; simp [CancelSlot.consume, Runtime.consumeToken, here]

/-- How far a function that was entered in `start` has come: what the table
registers, and what has become of the timer and the clock.  Buffers and the
log of the calls are free. -/
structure Stage (start now : Runtime queues) (registry : Registry)
    (timer : TimerEvent queues) (clock : Int) : Prop where
  agrees : now.scheduler.Agrees start.timer.fd
  registers : now.scheduler.registry = registry
  timed : now.timer = timer
  timerFd : timer.fd = start.timer.fd
  clocked : now.clock = clock
  fault : now.fault = start.fault
  files : FilesKept start now

namespace Stage

variable {start now : Runtime queues} {registry : Registry}
variable {timer : TimerEvent queues} {clock : Int}

theorem enter (agrees : rt.TableAgrees) :
    Stage rt rt rt.scheduler.registry rt.timer rt.clock :=
  ⟨agrees, rfl, rfl, rfl, rfl, rfl, FilesKept.refl rt⟩

theorem tableAgrees (stage : Stage start now registry timer clock) :
    now.TableAgrees := by
  change now.scheduler.Agrees now.timer.fd
  rw [stage.timed, stage.timerFd]
  exact stage.agrees

/-- A call on the scheduler replaces the registry. -/
theorem registering (stage : Stage start now registry timer clock)
    {next : Runtime queues} {changed : Registry}
    (registers : now.Registers next changed) :
    Stage start next changed timer clock := by
  obtain ⟨scheduler, rfl, agrees, registered⟩ := registers
  rw [stage.timed, stage.timerFd] at agrees
  exact ⟨agrees, registered, stage.timed, stage.timerFd, stage.clocked,
    stage.fault, stage.files⟩

private theorem plain (stage : Stage start now registry timer clock) {fd : Fd}
    (plain : fd ≠ start.timer.fd) : fd ≠ now.timer.fd := by
  rw [stage.timed, stage.timerFd]
  exact plain

theorem submit (stage : Stage start now registry timer clock) {fd : Fd}
    (plain : fd ≠ start.timer.fd) (op : FdOps) {direction : Direction}
    {pointer : OpPtr} (present : op.pointer direction = some pointer) :
    Stage start (now.submitPlain fd op direction)
      (registry.put fd direction (some pointer)) timer clock := by
  have called := Runtime.submitPlain_spec stage.tableAgrees
    (stage.plain plain) op present
  rw [stage.registers] at called
  exact stage.registering called

theorem remove (stage : Stage start now registry timer clock) {fd : Fd}
    (plain : fd ≠ start.timer.fd) (direction : Direction) :
    Stage start (now.removePlain fd direction)
      (registry.put fd direction none) timer clock := by
  have called := Runtime.removePlain_spec stage.tableAgrees
    (stage.plain plain) direction
  rw [stage.registers] at called
  exact stage.registering called

theorem submitToken (stage : Stage start now registry timer clock)
    (self : Addr) {token : Option Fd}
    (plain : ∀ fd, token = some fd → fd ≠ start.timer.fd)
    (quiet : start.cancelRequested token = false) :
    Stage start (CancelSlot.submit self token now)
      (registry.putToken token (some ⟨self, .cancel⟩)) timer clock := by
  have stillQuiet : now.cancelRequested token = false := by
    rw [stage.files.cancelRequested token, quiet]
  have called := CancelSlot.submit_spec stage.tableAgrees self
    (fun fd here => stage.plain (plain fd here)) stillQuiet
  rw [stage.registers] at called
  exact stage.registering called

theorem removeToken (stage : Stage start now registry timer clock)
    {token : Option Fd}
    (plain : ∀ fd, token = some fd → fd ≠ start.timer.fd) :
    Stage start (CancelSlot.remove token now)
      (registry.putToken token none) timer clock := by
  have called := CancelSlot.remove_spec stage.tableAgrees
    (fun fd here => stage.plain (plain fd here))
  rw [stage.registers] at called
  exact stage.registering called

theorem consumeToken (stage : Stage start now registry timer clock)
    (token : Option Fd) :
    Stage start (CancelSlot.consume token now) registry timer clock := by
  have files := stage.files.trans (filesKept_consume token now)
  cases token with
  | none => exact stage
  | some eventFd =>
      cases here : now.files eventFd <;>
        simp only [CancelSlot.consume, Runtime.consumeToken, here]
          at files ⊢ <;>
        exact ⟨stage.agrees, stage.registers, stage.timed, stage.timerFd,
          stage.clocked, stage.fault, files⟩

theorem tryRead (stage : Stage start now registry timer clock)
    (conn : Fd) (buf : BufferRef) (outcome : RecvOutcome) :
    Stage start (now.tryRead conn buf outcome).1 registry timer clock :=
  ⟨stage.agrees, stage.registers, stage.timed, stage.timerFd, stage.clocked,
    stage.fault, stage.files⟩

theorem tryWrite (stage : Stage start now registry timer clock)
    (conn : Fd) (buf : BufferRef) (outcome : SendOutcome) :
    Stage start (now.tryWrite conn buf outcome).1 registry timer clock :=
  ⟨stage.agrees, stage.registers, stage.timed, stage.timerFd, stage.clocked,
    stage.fault, stage.files⟩

/-- A call on the timer alone. -/
theorem retimed (stage : Stage start now registry timer clock)
    {changed : TimerEvent queues} (timerFd : changed.fd = timer.fd) :
    Stage start { now with timer := changed } registry changed clock :=
  ⟨stage.agrees, stage.registers, rfl, timerFd.trans stage.timerFd,
    stage.clocked, stage.fault, stage.files⟩

theorem setTimer (stage : Stage start now registry timer clock)
    {state : FdOps} {delay : Int}
    (timerFd : (timer.setTimer clock state delay).fd = timer.fd) :
    Stage start (now.setTimer state delay) registry
      (timer.setTimer clock state delay) clock := by
  have moved := stage.retimed timerFd
  rw [← stage.timed, ← stage.clocked] at moved ⊢
  exact moved

theorem cancelTimer (stage : Stage start now registry timer clock)
    (read : OpPtr) :
    Stage start (now.cancelTimer read) registry (timer.cancel read) clock := by
  have moved := stage.retimed (timer.fd_cancel read)
  rw [← stage.timed] at moved ⊢
  exact moved

theorem advanceTimer (stage : Stage start now registry timer clock)
    (timerFd : timer.advance.fd = timer.fd) :
    Stage start now.advanceTimer registry timer.advance clock := by
  have moved := stage.retimed timerFd
  rw [← stage.timed] at moved ⊢
  exact moved

/-- Reading the timerfd while it is set and unread: it waits for the
expiration if need be, and does not block for ever. -/
theorem consumeTimer (stage : Stage start now registry timer clock)
    {deadline : Int} (setting : timer.timerFd.setting = some deadline)
    (unread : timer.timerFd.consumed = false) :
    Stage start now.consumeTimer registry (timer.afterRead clock)
      (max clock deadline) := by
  have timed := stage.timed
  have clocked := stage.clocked
  subst timed
  subst clocked
  cases ready : now.timer.timerFd.isReadable now.clock with
  | true =>
      have reached : deadline ≤ now.clock := by
        obtain ⟨_, other, set, reached⟩ := TimerFd.isReadable_iff.mp ready
        rw [setting] at set
        cases set
        exact reached
      simp only [Runtime.consumeTimer, TimerEvent.afterRead, ready, if_true]
      exact ⟨stage.agrees, stage.registers, rfl, stage.timerFd,
        (max_eq_left reached).symm, stage.fault, stage.files⟩
  | false =>
      simp only [Runtime.consumeTimer, TimerEvent.afterRead, ready,
        Bool.false_eq_true, if_false, unread, setting]
      exact ⟨stage.agrees, stage.registers, rfl, stage.timerFd, rfl,
        stage.fault, stage.files⟩

/-- `submit_timer` of the current task. -/
theorem submitTimer (stage : Stage start now registry timer clock)
    {pointer : OpPtr} (current : timer.cur.state.read = some pointer) :
    Stage start (now.submitTimer now.timer.fd now.timer.cur.state)
      (registry.put start.timer.fd .read (some pointer)) timer clock := by
  rw [← stage.timed] at current
  have called := Runtime.submitTimer_spec stage.tableAgrees
    now.timer.cur.state current
  rw [stage.registers] at called
  have sameFd : now.timer.fd = start.timer.fd := by
    rw [stage.timed, stage.timerFd]
  rw [← sameFd]
  exact stage.registering called

theorem refresh (stage : Stage start now registry timer clock)
    {deadlines : OpPtr → Option Int}
    (settled : timer.refreshCurrentTimer.Settled deadlines)
    (timerFd : timer.refreshCurrentTimer.fd = timer.fd) :
    Stage start now.refreshTimerRegistration
      (registry.put start.timer.fd .read
        timer.refreshCurrentTimer.cur.state.read)
      timer.refreshCurrentTimer clock := by
  have same := stage.timed
  subst same
  obtain ⟨scheduler, called, agrees, registered⟩ :=
    Runtime.refreshTimerRegistration_spec stage.tableAgrees settled timerFd
  rw [called]
  rw [stage.timerFd] at agrees registered
  rw [stage.registers] at registered
  exact ⟨agrees, registered, rfl, timerFd.trans stage.timerFd, stage.clocked,
    stage.fault, stage.files⟩

end Stage

end AsyncFrame
