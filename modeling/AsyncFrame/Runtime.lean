import AsyncFrame.Scheduler
import AsyncFrame.Timer
import AsyncFrame.Transfer
import Mathlib.Logic.Function.Basic

/-!
# What an awaiter works on

One scheduler, the process-wide `TimerEvent`, and the parts of the kernel that
the awaiters touch: the clock, the open files, and the timerfd inside
`TimerEvent`.  System calls on epoll and on the timerfd succeed; an exception
leaves a `noexcept` function and ends the process.
-/

namespace AsyncFrame

/-- The address of a buffer object of the caller. -/
abbrev BufferRef := Nat

/-- What an open descriptor refers to.  The eventfd carries the shared state
of its `cancel_token`: the flag, and the counter of the eventfd. -/
inductive File where
  | closed
  | socket
  | timerFd
  | eventFd (cancelled : Bool) (counter : Nat)
  deriving DecidableEq, Repr

def File.isEventFd : File → Bool
  | .eventFd _ _ => true
  | _ => false

theorem File.isEventFd_iff {file : File} :
    file.isEventFd = true ↔
      ∃ cancelled counter, file = .eventFd cancelled counter := by
  cases file <;> simp [isEventFd]

/-- How a run can go wrong. -/
inductive Fault where
  | terminated (thrown : RuntimeError)
  | blockedForever
  | danglingPointer
  | badResume
  deriving DecidableEq, Repr

/-- A `recv` or a `send`: descriptor, offset and length passed, and outcome. -/
inductive SocketCall where
  | recv (fd : Fd) (offset length : Nat) (outcome : RecvOutcome)
  | send (fd : Fd) (offset length : Nat) (outcome : SendOutcome)
  deriving DecidableEq, Repr

structure Runtime (queues : TimerQueue) where
  scheduler : Scheduler
  timer : TimerEvent queues
  clock : Int
  files : Fd → File
  buffers : BufferRef → Buffer
  calls : List SocketCall := []
  fault : Option Fault := none

namespace Runtime

variable {queues : TimerQueue}

/-- `close`: the kernel takes the descriptor out of the interest set, the table
is not told. -/
def closeFd (rt : Runtime queues) (fd : Fd) : Runtime queues :=
  { rt with
    scheduler :=
      { rt.scheduler with
        epollManager := ⟨rt.scheduler.epollManager.interest.erase fd⟩ }
    files := Function.update rt.files fd .closed }

/-! ## The scheduler's calls -/

/-- Take over what a call on the scheduler left, and end the process if it
threw. -/
def settle (rt : Runtime queues) (outcome : Scheduler.Outcome) :
    Runtime queues :=
  match outcome with
  | (scheduler, none) => { rt with scheduler := scheduler }
  | (scheduler, some thrown) =>
      { rt with
        scheduler := scheduler
        fault := some (.terminated thrown) }

section Calls

variable (rt : Runtime queues) (fd : Fd) (op : FdOps)

def submitRead := rt.settle (rt.scheduler.submitRead none fd op)
def submitWrite := rt.settle (rt.scheduler.submitWrite none fd op)
def submitAccept := rt.settle (rt.scheduler.submitAccept none fd op)
def submitConnect := rt.settle (rt.scheduler.submitConnect none fd op)
def submitTimer := rt.settle (rt.scheduler.submitTimer none fd op)
def submitCancel := rt.settle (rt.scheduler.submitCancel none fd op)
def removeRead := rt.settle (rt.scheduler.removeRead none fd)
def removeWrite := rt.settle (rt.scheduler.removeWrite none fd)
def removeAccept := rt.settle (rt.scheduler.removeAccept none fd)
def removeConnect := rt.settle (rt.scheduler.removeConnect none fd)
def removeTimer := rt.settle (rt.scheduler.removeTimer none fd)
def removeCancel := rt.settle (rt.scheduler.removeCancel none fd)

end Calls

/-! ## Cancel tokens -/

/-- `cancel_token::cancel()` of the token with this eventfd. -/
def tokenFlag (rt : Runtime queues) (token : Fd) : Bool :=
  match rt.files token with
  | .eventFd cancelled _ => cancelled
  | _ => false

/-- `CANCEL_TOKEN::cancel()`; `noop_cancel_token` has no eventfd. -/
def cancelRequested (rt : Runtime queues) (token : Option Fd) : Bool :=
  match token with
  | none => false
  | some fd => rt.tokenFlag fd

/-- `cancel_token::request_cancel()`, first half: the compare-exchange. -/
def setCancelled (rt : Runtime queues) (token : Fd) : Runtime queues :=
  match rt.files token with
  | .eventFd _ counter =>
      { rt with
        files := Function.update rt.files token (.eventFd true counter) }
  | _ => rt

/-- `cancel_token::request_cancel()`, second half: the write to the
eventfd. -/
def signalCancelled (rt : Runtime queues) (token : Fd) : Runtime queues :=
  match rt.files token with
  | .eventFd cancelled counter =>
      { rt with
        files := Function.update rt.files token
          (.eventFd cancelled (counter + 1)) }
  | _ => rt

/-- `cancel_token::request_cancel()`. -/
def requestCancel (rt : Runtime queues) (token : Fd) : Runtime queues :=
  if rt.tokenFlag token then rt
  else (rt.setCancelled token).signalCancelled token

/-- `cancel_token::consume()`: the eventfd does not block. -/
def consumeToken (rt : Runtime queues) (token : Fd) : Runtime queues :=
  match rt.files token with
  | .eventFd cancelled _ =>
      { rt with
        files := Function.update rt.files token (.eventFd cancelled 0) }
  | _ => rt

/-! ## The timer -/

def setTimer (rt : Runtime queues) (state : FdOps) (delay : Int) :
    Runtime queues :=
  { rt with timer := rt.timer.setTimer rt.clock state delay }

def cancelTimer (rt : Runtime queues) (read : OpPtr) : Runtime queues :=
  { rt with timer := rt.timer.cancel read }

/-- `instance++`. -/
def advanceTimer (rt : Runtime queues) : Runtime queues :=
  { rt with timer := rt.timer.advance }

/-- `TimerEvent::consume()`.  The timerfd was created without `TFD_NONBLOCK`,
so the read waits for the next expiration, for ever if there is none. -/
def consumeTimer (rt : Runtime queues) : Runtime queues :=
  let timerFd := rt.timer.timerFd
  let ready := timerFd.isReadable rt.clock
  let timer : TimerEvent queues :=
    { rt.timer with
      timerFd :=
        { timerFd with consumed := true, reads := ready :: timerFd.reads } }
  if ready then
    { rt with timer := timer }
  else
    match timerFd.consumed, timerFd.setting with
    | false, some deadline =>
        { rt with timer := timer, clock := max rt.clock deadline }
    | _, _ =>
        { rt with timer := timer, fault := some .blockedForever }

/-- `refresh_timer_registration`. -/
def refreshTimerRegistration (rt : Runtime queues) : Runtime queues :=
  let rt : Runtime queues :=
    { rt with timer := rt.timer.refreshCurrentTimer }
  if rt.timer.currentEmpty then
    rt.removeTimer rt.timer.fd
  else
    rt.submitTimer rt.timer.fd rt.timer.cur.state

/-! ## Transfers -/

/-- `try_read(conn, buf)`. -/
def tryRead (rt : Runtime queues) (conn : Fd) (buf : BufferRef)
    (outcome : RecvOutcome) : Runtime queues × ReadRet :=
  let buffer := rt.buffers buf
  let (awaited, stored) := AsyncFrame.tryRead buffer outcome
  ({ rt with
      buffers := Function.update rt.buffers buf stored
      calls := .recv conn buffer.offset buffer.remain outcome :: rt.calls },
    awaited)

/-- `try_write(conn, buf)`. -/
def tryWrite (rt : Runtime queues) (conn : Fd) (buf : BufferRef)
    (outcome : SendOutcome) : Runtime queues × WriteRet :=
  let buffer := rt.buffers buf
  let (awaited, stored) := AsyncFrame.tryWrite buffer outcome
  ({ rt with
      buffers := Function.update rt.buffers buf stored
      calls := .send conn buffer.offset buffer.remain outcome :: rt.calls },
    awaited)

end Runtime

end AsyncFrame
