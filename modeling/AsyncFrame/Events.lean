import Mathlib.Data.Finmap
import Mathlib.Data.BitVec

/-!
# Event masks and operation structs

The data of `scheduler_type_traits.h` and `single_operator.h`: epoll masks as
32-bit words, and the `read_op`/`write_op` structs that the scheduler reaches
through raw pointers.  Such a struct is a member of an awaiter, which lives in
a coroutine frame, so a pointer is the address of the frame together with the
member it points at.  An address is free again once its frame is destroyed.
-/

namespace AsyncFrame

/-- An open file descriptor. -/
abbrev Fd := Nat

/-- The address of a coroutine frame. -/
abbrev Addr := Nat

/-- A value of `errno`, and of `std::error_code`, where zero is no error. -/
abbrev Errno := Nat

abbrev ErrorCode := Nat

def EBADF : Errno := 9
def EINVAL : Errno := 22
def EAGAIN : Errno := 11
def EWOULDBLOCK : Errno := 11
def EEXIST : Errno := 17
def ENOENT : Errno := 2
def ETIMEDOUT : Errno := 110
def ECANCELED : Errno := 125

/-- `timeout_error()`. -/
def timeoutError : ErrorCode := ETIMEDOUT

/-- `operation_cancelled_error()`. -/
def operationCancelledError : ErrorCode := ECANCELED

/-- Which of its op structs an awaiter's pointer points at: `read_`/`write_`,
`timer_read_` (the member `read` in `timer_awaiter`) or `cancel_.read`. -/
inductive OpMember where
  | socket
  | timer
  | cancel
  deriving DecidableEq, Repr

/-- A `read_op *` or `write_op *`. -/
structure OpPtr where
  frame : Addr
  member : OpMember
  deriving DecidableEq, Repr

/-- `fd_ops`. -/
structure FdOps where
  fd : Fd := 0
  write : Option OpPtr := none
  read : Option OpPtr := none
  deriving DecidableEq, Repr

/-- The two pointers of an entry. -/
inductive Direction where
  | read
  | write
  deriving DecidableEq, Repr

def FdOps.pointer (op : FdOps) : Direction → Option OpPtr
  | .read => op.read
  | .write => op.write

/-! ## Masks -/

abbrev Events := BitVec 32

def EPOLLIN : Events := 0x001#32
def EPOLLOUT : Events := 0x004#32
def EPOLLERR : Events := 0x008#32
def EPOLLHUP : Events := 0x010#32
def EPOLLET : Events := 0x80000000#32

/-- `enum class register_type`. -/
inductive RegisterType where
  | emptyEvent
  | eventRead
  | eventAccept
  | eventWrite
  | eventConnect
  | eventTimer
  deriving DecidableEq, Repr

/-- `std::to_underlying`. -/
def RegisterType.toUnderlying : RegisterType → Events
  | .emptyEvent => 0
  | .eventRead => EPOLLIN
  | .eventAccept => EPOLLIN
  | .eventWrite => EPOLLOUT
  | .eventConnect => EPOLLOUT
  | .eventTimer => EPOLLIN ||| EPOLLET

/-- `epoll_event`, whose `data` is used for the descriptor. -/
structure EpollEvent where
  events : Events
  fd : Fd
  deriving DecidableEq, Repr

/-- `read_ready` of the dispatch loop. -/
def readReady (ready : Events) : Bool :=
  ready &&& (EPOLLIN ||| EPOLLERR ||| EPOLLHUP) ≠ 0

/-- `write_ready` of the dispatch loop. -/
def writeReady (ready : Events) : Bool :=
  ready &&& (EPOLLOUT ||| EPOLLERR ||| EPOLLHUP) ≠ 0

/-- The bits that one direction of a descriptor uses.  The timerfd, which has
only a read direction, is registered edge-triggered. -/
def eventOf (timer : Bool) : Direction → Events
  | .read =>
      if timer then RegisterType.eventTimer.toUnderlying
      else RegisterType.eventRead.toUnderlying
  | .write => RegisterType.eventWrite.toUnderlying

/-- The mask of an entry with the given pointers present. -/
def maskOf (timer reads writes : Bool) : Events :=
  (if reads then eventOf timer .read else 0) |||
    (if writes then eventOf timer .write else 0)

theorem maskOf_submit_read (timer reads writes : Bool) :
    maskOf timer reads writes ||| eventOf timer .read =
      maskOf timer true writes := by
  cases timer <;> cases reads <;> cases writes <;> decide

theorem maskOf_submit_write (timer reads writes : Bool) :
    maskOf timer reads writes ||| eventOf timer .write =
      maskOf timer reads true := by
  cases timer <;> cases reads <;> cases writes <;> decide

theorem maskOf_remove_read (timer reads writes : Bool) :
    maskOf timer reads writes &&& ~~~eventOf timer .read =
      maskOf timer false writes := by
  cases timer <;> cases reads <;> cases writes <;> decide

theorem maskOf_remove_write (timer reads writes : Bool) :
    maskOf timer reads writes &&& ~~~eventOf timer .write =
      maskOf timer reads false := by
  cases timer <;> cases reads <;> cases writes <;> decide

/-- A mask is empty exactly if neither pointer is present. -/
theorem maskOf_eq_zero_iff (timer reads writes : Bool) :
    maskOf timer reads writes = 0 ↔ reads = false ∧ writes = false := by
  cases timer <;> cases reads <;> cases writes <;> decide

theorem eventOf_touches_read (timer : Bool) (direction : Direction) :
    (eventOf timer direction &&& RegisterType.eventRead.toUnderlying ≠ 0) ↔
      direction = .read := by
  cases timer <;> cases direction <;> decide

theorem eventOf_touches_write (timer : Bool) (direction : Direction) :
    (eventOf timer direction &&& RegisterType.eventWrite.toUnderlying ≠ 0) ↔
      direction = .write := by
  cases timer <;> cases direction <;> decide

end AsyncFrame
