import AsyncFrame.Runtime

/-!
# The awaiters and the coroutines around them

Each awaiter is its pair of `await_suspend` and `await_resume`; `self` is the
address of the coroutine frame that the awaiter lives in, so that its op
structs are the members of `self`.  The coroutines (`async_read_impl` and so
on) are cut at their `co_await`: `start` runs one until it first suspends,
`wake` from there until it suspends again or returns.
-/

namespace AsyncFrame

variable {queues : TimerQueue}

/-- `Base<CONNECTION, BUFFER, CANCEL_TOKEN, ...>`; without a token it is the
one of `noop_cancel_token`. -/
structure Base where
  conn : Fd
  buf : BufferRef
  cancelToken : Option Fd := none
  deriving DecidableEq, Repr

/-- What the system calls that an operation makes would answer: `connect`
gives zero, `EINPROGRESS` or an error; `accept4` gives a descriptor or
`errno`; `soError` is the error that `connect_error` finds. -/
structure Io where
  recv : RecvOutcome := .received []
  send : SendOutcome := .sent 0
  accept : Except Errno Fd := .error 0
  connect : Errno := 0
  soError : Errno := 0
  deriving DecidableEq

def EINPROGRESS : Errno := 115

/-- What an operation's coroutine returns. -/
inductive OpResult where
  | transfer (ec : ErrorCode) (count : Nat)
  | accepted (ec : ErrorCode) (fd : Option Fd)
  | connected (ec : ErrorCode)
  | waited (ec : ErrorCode)
  deriving DecidableEq, Repr

def OpResult.ec : OpResult → ErrorCode
  | .transfer ec _ => ec
  | .accepted ec _ => ec
  | .connected ec => ec
  | .waited ec => ec

/-! ## cancel_slot -/

namespace CancelSlot

/-- The registration in `cancel_slot::submit`, behind its test of the
flag. -/
def register (self : Addr) (token : Option Fd) (rt : Runtime queues) :
    Runtime queues :=
  match token with
  | none => rt
  | some fd =>
      rt.submitCancel fd { fd := fd, read := some ⟨self, .cancel⟩ }

def submit (self : Addr) (token : Option Fd) (rt : Runtime queues) :
    Runtime queues :=
  if rt.cancelRequested token then rt else register self token rt

def remove (token : Option Fd) (rt : Runtime queues) : Runtime queues :=
  match token with
  | none => rt
  | some fd => rt.removeCancel fd

def isCancelEvent (token : Option Fd) (rt : Runtime queues) : Bool :=
  rt.cancelRequested token

def consume (token : Option Fd) (rt : Runtime queues) : Runtime queues :=
  match token with
  | none => rt
  | some fd => rt.consumeToken fd

end CancelSlot

/-! ## async_read.h -/

namespace InnerRecvAwaiter

def awaitSuspend (self : Addr) (base : Base) (rt : Runtime queues) :
    Runtime queues × Bool :=
  if rt.cancelRequested base.cancelToken then
    (rt, false)
  else
    let rt := rt.submitRead base.conn { read := some ⟨self, .socket⟩ }
    let rt := CancelSlot.submit self base.cancelToken rt
    (rt, true)

def awaitResume (base : Base) (io : Io) (rt : Runtime queues) :
    Runtime queues × ReadRet :=
  if CancelSlot.isCancelEvent base.cancelToken rt then
    let rt := CancelSlot.consume base.cancelToken rt
    let rt := rt.removeRead base.conn
    let rt := CancelSlot.remove base.cancelToken rt
    (rt, (operationCancelledError, (rt.buffers base.buf).readCount))
  else
    let rt := CancelSlot.remove base.cancelToken rt
    let (rt, awaited) := rt.tryRead base.conn base.buf io.recv
    let rt := rt.removeRead base.conn
    (rt, awaited)

end InnerRecvAwaiter

/-- The test of the two timeout awaiters. -/
def timedOut (self : Addr) (rt : Runtime queues) : Bool :=
  rt.timer.isCurrent ⟨self, .timer⟩ && rt.timer.getTimer rt.clock = 0

namespace InnerRecvTimeoutAwaiter

def awaitSuspend (self : Addr) (base : Base) (delay : Int)
    (rt : Runtime queues) : Runtime queues × Bool :=
  if rt.cancelRequested base.cancelToken then
    (rt, false)
  else
    let rt := rt.submitRead base.conn
      { fd := base.conn, read := some ⟨self, .socket⟩ }
    let rt := rt.setTimer
      { fd := rt.timer.fd, read := some ⟨self, .timer⟩ } delay
    let rt := rt.refreshTimerRegistration
    let rt := CancelSlot.submit self base.cancelToken rt
    (rt, true)

def awaitResume (self : Addr) (base : Base) (io : Io)
    (rt : Runtime queues) : Runtime queues × ReadRet :=
  if CancelSlot.isCancelEvent base.cancelToken rt then
    let rt := CancelSlot.consume base.cancelToken rt
    let rt := rt.cancelTimer ⟨self, .timer⟩
    let rt := rt.removeRead base.conn
    let rt := CancelSlot.remove base.cancelToken rt
    let rt := rt.refreshTimerRegistration
    (rt, (operationCancelledError, (rt.buffers base.buf).readCount))
  else
    let rt := CancelSlot.remove base.cancelToken rt
    if timedOut self rt then
      let rt := rt.consumeTimer
      let rt := rt.cancelTimer ⟨self, .timer⟩
      let rt := rt.removeRead base.conn
      let rt := rt.refreshTimerRegistration
      (rt, (timeoutError, (rt.buffers base.buf).readCount))
    else
      let rt := rt.cancelTimer ⟨self, .timer⟩
      let rt := rt.refreshTimerRegistration
      let (rt, awaited) := rt.tryRead base.conn base.buf io.recv
      let rt := rt.removeRead base.conn
      (rt, awaited)

end InnerRecvTimeoutAwaiter

/-! ## async_read_some.h -/

namespace InnerRecvSomeAwaiter

def awaitSuspend (self : Addr) (conn : Fd) (rt : Runtime queues) :
    Runtime queues :=
  rt.submitRead conn { fd := conn, read := some ⟨self, .socket⟩ }

def awaitResume (conn : Fd) (buf : BufferRef) (io : Io)
    (rt : Runtime queues) : Runtime queues × ReadRet :=
  let rt := rt.removeRead conn
  rt.tryRead conn buf io.recv

end InnerRecvSomeAwaiter

/-! ## async_write.h -/

namespace InnerSendAwaiter

def awaitSuspend (self : Addr) (base : Base) (rt : Runtime queues) :
    Runtime queues × Bool :=
  if rt.cancelRequested base.cancelToken then
    (rt, false)
  else
    let rt := rt.submitWrite base.conn { write := some ⟨self, .socket⟩ }
    let rt := CancelSlot.submit self base.cancelToken rt
    (rt, true)

def awaitResume (base : Base) (io : Io) (rt : Runtime queues) :
    Runtime queues × WriteRet :=
  if CancelSlot.isCancelEvent base.cancelToken rt then
    let rt := CancelSlot.consume base.cancelToken rt
    let rt := rt.removeWrite base.conn
    let rt := CancelSlot.remove base.cancelToken rt
    (rt, ⟨operationCancelledError, 0, .cancelled⟩)
  else
    let rt := CancelSlot.remove base.cancelToken rt
    let rt := rt.removeWrite base.conn
    rt.tryWrite base.conn base.buf io.send

end InnerSendAwaiter

namespace InnerSendTimeoutAwaiter

def awaitSuspend (self : Addr) (base : Base) (delay : Int)
    (rt : Runtime queues) : Runtime queues × Bool :=
  if rt.cancelRequested base.cancelToken then
    (rt, false)
  else
    let rt := rt.submitWrite base.conn
      { fd := base.conn, write := some ⟨self, .socket⟩ }
    let rt := rt.setTimer
      { fd := rt.timer.fd, read := some ⟨self, .timer⟩ } delay
    let rt := rt.refreshTimerRegistration
    let rt := CancelSlot.submit self base.cancelToken rt
    (rt, true)

def awaitResume (self : Addr) (base : Base) (io : Io)
    (rt : Runtime queues) : Runtime queues × WriteRet :=
  if CancelSlot.isCancelEvent base.cancelToken rt then
    let rt := CancelSlot.consume base.cancelToken rt
    let rt := rt.cancelTimer ⟨self, .timer⟩
    let rt := rt.removeWrite base.conn
    let rt := CancelSlot.remove base.cancelToken rt
    let rt := rt.refreshTimerRegistration
    (rt, ⟨operationCancelledError, 0, .cancelled⟩)
  else
    let rt := CancelSlot.remove base.cancelToken rt
    if timedOut self rt then
      let rt := rt.consumeTimer
      let rt := rt.cancelTimer ⟨self, .timer⟩
      let rt := rt.removeWrite base.conn
      let rt := rt.refreshTimerRegistration
      (rt, ⟨timeoutError, 0, .timeout⟩)
    else
      let rt := rt.cancelTimer ⟨self, .timer⟩
      let rt := rt.refreshTimerRegistration
      let (rt, awaited) := rt.tryWrite base.conn base.buf io.send
      let rt := rt.removeWrite base.conn
      (rt, awaited)

end InnerSendTimeoutAwaiter

/-! ## async_accept.h, async_connect.h, wait_for.h -/

namespace InnerAcceptAwaiter

def awaitSuspend (self : Addr) (conn : Fd) (rt : Runtime queues) :
    Runtime queues :=
  rt.submitAccept conn { fd := conn, read := some ⟨self, .socket⟩ }

def awaitResume (conn : Fd) (io : Io) (rt : Runtime queues) :
    Runtime queues × OpResult :=
  let rt := rt.removeAccept conn
  match io.accept with
  | .error errno => (rt, .accepted errno none)
  | .ok fd => (rt, .accepted 0 (some fd))

end InnerAcceptAwaiter

namespace InnerConnectAwaiter

def awaitSuspend (self : Addr) (conn : Fd) (rt : Runtime queues) :
    Runtime queues :=
  rt.submitConnect conn { fd := conn, write := some ⟨self, .socket⟩ }

def awaitResume (conn : Fd) (io : Io) (rt : Runtime queues) :
    Runtime queues × OpResult :=
  (rt.removeConnect conn, .connected io.soError)

end InnerConnectAwaiter

inductive ConnectStatus where
  | connected
  | error
  | inProgress
  deriving DecidableEq, Repr

/-- `try_connect`; zero stands for a connect that succeeded. -/
def tryConnect (errno : Errno) : ConnectStatus :=
  if errno = 0 then .connected
  else if errno = EINPROGRESS ∨ errno = EWOULDBLOCK then .inProgress
  else .error

namespace TimerAwaiter

def awaitSuspend (self : Addr) (delay : Int) (rt : Runtime queues) :
    Runtime queues :=
  let rt := rt.setTimer { read := some ⟨self, .timer⟩ } delay
  rt.submitTimer rt.timer.fd rt.timer.cur.state

def awaitResume (rt : Runtime queues) : Runtime queues × OpResult :=
  let rt := rt.consumeTimer
  let rt := rt.advanceTimer
  let rt := rt.refreshTimerRegistration
  (rt, .waited 0)

end TimerAwaiter

/-! ## The coroutines -/

/-- An operation with the arguments its awaiter keeps. -/
inductive Operation where
  | asyncRead (base : Base)
  | asyncReadTimeout (base : Base) (delay : Int)
  | asyncReadSome (conn : Fd) (buf : BufferRef)
  | asyncWrite (base : Base)
  | asyncWriteTimeout (base : Base) (delay : Int)
  | asyncAccept (conn : Fd)
  | asyncConnect (conn : Fd)
  | waitFor (delay : Int)
  deriving DecidableEq, Repr

/-- What a stretch of an operation's coroutine leaves: the runtime, its local
`total_len`, and the value it returned unless it is suspended. -/
structure Stretch (queues : TimerQueue) where
  rt : Runtime queues
  total : Nat
  returned : Option OpResult

/-- A pair returned as `result_t`. -/
def OpResult.ofPair (pair : ReadRet) : OpResult :=
  .transfer pair.1 pair.2

namespace Operation

/-- `await_suspend` of the operation's awaiter: whether the coroutine stays
suspended. -/
def awaitSuspend (self : Addr) (rt : Runtime queues) :
    Operation → Runtime queues × Bool
  | .asyncRead base => InnerRecvAwaiter.awaitSuspend self base rt
  | .asyncReadTimeout base delay =>
      InnerRecvTimeoutAwaiter.awaitSuspend self base delay rt
  | .asyncReadSome conn _ =>
      (InnerRecvSomeAwaiter.awaitSuspend self conn rt, true)
  | .asyncWrite base => InnerSendAwaiter.awaitSuspend self base rt
  | .asyncWriteTimeout base delay =>
      InnerSendTimeoutAwaiter.awaitSuspend self base delay rt
  | .asyncAccept conn =>
      (InnerAcceptAwaiter.awaitSuspend self conn rt, true)
  | .asyncConnect conn =>
      (InnerConnectAwaiter.awaitSuspend self conn rt, true)
  | .waitFor delay => (TimerAwaiter.awaitSuspend self delay rt, true)

/-- The coroutine resumed at its `co_await`: `await_resume` and the rest of
the loop's body. -/
def resumeOnce (self : Addr) (io : Io) (total : Nat) (rt : Runtime queues) :
    Operation → Stretch queues
  | .asyncRead base =>
      let (rt, awaited) := InnerRecvAwaiter.awaitResume base io rt
      ⟨rt, total,
        (readBody (rt.buffers base.buf) awaited).map OpResult.ofPair⟩
  | .asyncReadTimeout base _ =>
      let (rt, awaited) :=
        InnerRecvTimeoutAwaiter.awaitResume self base io rt
      ⟨rt, total,
        (readBody (rt.buffers base.buf) awaited).map OpResult.ofPair⟩
  | .asyncReadSome conn buf =>
      let (rt, awaited) := InnerRecvSomeAwaiter.awaitResume conn buf io rt
      ⟨rt, total, some (OpResult.ofPair awaited)⟩
  | .asyncWrite base =>
      let (rt, awaited) := InnerSendAwaiter.awaitResume base io rt
      let (total, returned) := writeBody total awaited
      ⟨rt, total, returned.map OpResult.ofPair⟩
  | .asyncWriteTimeout base _ =>
      let (rt, awaited) :=
        InnerSendTimeoutAwaiter.awaitResume self base io rt
      let (total, returned) := writeBody total awaited
      ⟨rt, total, returned.map OpResult.ofPair⟩
  | .asyncAccept conn =>
      let (rt, awaited) := InnerAcceptAwaiter.awaitResume conn io rt
      ⟨rt, total, some awaited⟩
  | .asyncConnect conn =>
      let (rt, awaited) := InnerConnectAwaiter.awaitResume conn io rt
      ⟨rt, total, some awaited⟩
  | .waitFor _ =>
      let (rt, awaited) := TimerAwaiter.awaitResume rt
      ⟨rt, total, some awaited⟩

/-- The loop entered at its `co_await`, for a bounded number of turns.  A turn
ends the loop unless `await_suspend` returned false and the body did not
return. -/
def loop (self : Addr) (operation : Operation) :
    Nat → Nat → Runtime queues → Stretch queues
  | 0, total, rt => ⟨rt, total, none⟩
  | turns + 1, total, rt =>
      match operation.awaitSuspend self rt with
      | (rt, true) => ⟨rt, total, none⟩
      | (rt, false) =>
          let stretch := operation.resumeOnce self {} total rt
          match stretch.returned with
          | some _ => stretch
          | none => loop self operation turns stretch.total stretch.rt

/-- The coroutine from its start. -/
def start (self : Addr) (io : Io) (rt : Runtime queues)
    (operation : Operation) : Stretch queues :=
  match operation with
  | .asyncConnect _ =>
      match tryConnect io.connect with
      | .connected => ⟨rt, 0, some (.connected 0)⟩
      | .error => ⟨rt, 0, some (.connected io.connect)⟩
      | .inProgress => loop self operation 1 0 rt
  | _ => loop self operation 1 0 rt

/-- The coroutine from a resumption. -/
def wake (self : Addr) (io : Io) (total : Nat) (rt : Runtime queues)
    (operation : Operation) : Stretch queues :=
  let stretch := operation.resumeOnce self io total rt
  match stretch.returned with
  | some _ => stretch
  | none => loop self operation 1 stretch.total stretch.rt

/-! ## What an operation waits for -/

/-- The socket direction an operation waits for. -/
def socket? : Operation → Option (Fd × Direction)
  | .asyncRead base => some (base.conn, .read)
  | .asyncReadTimeout base _ => some (base.conn, .read)
  | .asyncReadSome conn _ => some (conn, .read)
  | .asyncWrite base => some (base.conn, .write)
  | .asyncWriteTimeout base _ => some (base.conn, .write)
  | .asyncAccept conn => some (conn, .read)
  | .asyncConnect conn => some (conn, .write)
  | .waitFor _ => none

/-- The eventfd of an operation's token. -/
def token? : Operation → Option Fd
  | .asyncRead base => base.cancelToken
  | .asyncReadTimeout base _ => base.cancelToken
  | .asyncWrite base => base.cancelToken
  | .asyncWriteTimeout base _ => base.cancelToken
  | _ => none

/-- The delay of a timed operation. -/
def delay? : Operation → Option Int
  | .asyncReadTimeout _ delay => some delay
  | .asyncWriteTimeout _ delay => some delay
  | .waitFor delay => some delay
  | _ => none

/-- The deadline that a suspension at time `now` sets. -/
def deadlineAt (operation : Operation) (now : Int) : Option Int :=
  operation.delay?.map (TimerEvent.toTimePoint now)

/-- Whether the operation keeps the descriptor: as its socket, or through its
copy of a token. -/
def touches (operation : Operation) (fd : Fd) : Bool :=
  operation.socket?.any (fun key => key.1 = fd) ||
    operation.token?.any (fun token => token = fd)

/-- The operation's descriptors are open and of the right kind. -/
def fits (operation : Operation) (files : Fd → File) : Bool :=
  (operation.socket?.all fun key => files key.1 = .socket) &&
    operation.token?.all fun token => (files token).isEventFd

/-- What `with_timeout_impl` awaits in place of the operation it is given;
other awaitables do not have its result type. -/
def withTimeout (delay : Int) : Operation → Option Operation
  | .asyncRead base => some (.asyncReadTimeout base delay)
  | .asyncWrite base => some (.asyncWriteTimeout base delay)
  | .asyncReadSome conn buf => some (.asyncReadSome conn buf)
  | _ => none

end Operation

end AsyncFrame
