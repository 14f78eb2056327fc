import AsyncFrame.Deadlines
import AsyncFrame.Untimed

/-!
# One batch, in any order

A batch is dispatched to its end while the clock and the sockets stand still
and no coroutine that goes on starts anything.  What each suspended operation
makes of it is one of four classes.

The verdict is the class by the operation's own data alone: its cancel flag,
its deadline and its descriptors' events.  The batch resolves when every order
of its events gives every operation its verdict.
-/

namespace AsyncFrame

variable {queues : TimerQueue}

/-- What the coroutine that awaits an operation sees of it. -/
inductive OutcomeClass where
  | pending
  | completed
  | timedOut
  | operationCanceled
  deriving DecidableEq, Repr

/-- The class of an operation that has returned this, if anything. -/
def OutcomeClass.of : Option OpResult → OutcomeClass
  | none => .pending
  | some result =>
      if result.ec = operationCancelledError then .operationCanceled
      else if result.ec = timeoutError then .timedOut
      else .completed

/-! ## Sockets that stand still -/

/-- What the system calls on a socket answer, by its descriptor, the number of
transfers made on it before and the number of bytes they are asked for. -/
structure Answers where
  io : Fd → Nat → Nat → Io
  recv : ∀ fd before remain, (io fd before remain).recv.possible remain = true
  send : ∀ fd before remain, (io fd before remain).send.possible remain = true

def SocketCall.fd : SocketCall → Fd
  | .recv fd _ _ _ => fd
  | .send fd _ _ _ => fd

/-- How many transfers were made on a descriptor. -/
def Runtime.transfers (rt : Runtime queues) (fd : Fd) : Nat :=
  rt.calls.countP fun call => call.fd = fd

namespace Operation

/-- The buffer that the operation transfers to or from. -/
def buf? : Operation → Option BufferRef
  | .asyncRead base => some base.buf
  | .asyncReadTimeout base _ => some base.buf
  | .asyncReadSome _ buf => some buf
  | .asyncWrite base => some base.buf
  | .asyncWriteTimeout base _ => some base.buf
  | _ => none

/-- How many bytes the operation's next transfer asks for. -/
def asks (rt : Runtime queues) (operation : Operation) : Nat :=
  (operation.buf?.map fun buf => (rt.buffers buf).remain).getD 0

/-- What the operation returns when its `await_resume` gets to its system
call. -/
def serve (io : Io) (total : Nat) (rt : Runtime queues) :
    Operation → Option OpResult
  | .asyncRead base =>
      (readBody (tryRead (rt.buffers base.buf) io.recv).2
        (tryRead (rt.buffers base.buf) io.recv).1).map OpResult.ofPair
  | .asyncReadTimeout base _ =>
      (readBody (tryRead (rt.buffers base.buf) io.recv).2
        (tryRead (rt.buffers base.buf) io.recv).1).map OpResult.ofPair
  | .asyncReadSome _ buf =>
      some (OpResult.ofPair (tryRead (rt.buffers buf) io.recv).1)
  | .asyncWrite base =>
      (writeBody total (tryWrite (rt.buffers base.buf) io.send).1).2.map
        OpResult.ofPair
  | .asyncWriteTimeout base _ =>
      (writeBody total (tryWrite (rt.buffers base.buf) io.send).1).2.map
        OpResult.ofPair
  | .asyncAccept _ =>
      match io.accept with
      | .error errno => some (.accepted errno none)
      | .ok fd => some (.accepted 0 (some fd))
  | .asyncConnect _ => some (.connected io.soError)
  | .waitFor _ => some (.waited 0)

/-- One transfer ends the operation, whatever its socket answers. -/
def EndsAtOnce (rt : Runtime queues) (operation : Operation) : Prop :=
  ∀ io total, io.recv.possible (operation.asks rt) = true →
    io.send.possible (operation.asks rt) = true →
    (operation.serve io total rt).isSome = true

end Operation

/-- The answers to the next transfer of an operation. -/
def Answers.answer (answers : Answers) (rt : Runtime queues)
    (operation : Operation) : Io :=
  match operation.socket? with
  | none => {}
  | some (fd, _) => answers.io fd (rt.transfers fd) (operation.asks rt)

/-! ## The events of an operation -/

namespace OpFrame

/-- The event is one of the operation's socket in its direction. -/
def socketEvent (op : OpFrame) (event : EpollEvent) : Bool :=
  match op.operation.socket? with
  | some (fd, .read) => event.fd = fd && readReady event.events
  | some (fd, .write) => event.fd = fd && writeReady event.events
  | none => false

/-- The event is one of the operation's token. -/
def cancelEvent (op : OpFrame) (event : EpollEvent) : Bool :=
  op.operation.token? = some event.fd && readReady event.events

def ownEvent (op : OpFrame) (event : EpollEvent) : Bool :=
  op.socketEvent event || op.cancelEvent event

/-- The batch has an event of the operation's own. -/
def ready (op : OpFrame) (evs : List EpollEvent) : Bool :=
  evs.any op.ownEvent

/-- The operation's own deadline is reached. -/
def reached (op : OpFrame) (clock : Int) : Bool :=
  op.deadline.any fun deadline => deadline ≤ clock

end OpFrame

namespace System

/-- The event is the timerfd's. -/
def timerEvent (s : System queues) (event : EpollEvent) : Bool :=
  event.fd = s.rt.timer.fd && readReady event.events

def timerReady (s : System queues) (evs : List EpollEvent) : Bool :=
  evs.any s.timerEvent

/-- The timer of the operation in this frame is the current one. -/
def current (s : System queues) (frame : Addr) : Bool :=
  s.rt.timer.isCurrent ⟨frame, .timer⟩

/-- The operation's token is cancelled. -/
def flagged (s : System queues) (op : OpFrame) : Bool :=
  s.rt.cancelRequested op.operation.token?

/-! ## Dispatching a batch -/

/-- The answers to the operation that an action completes. -/
def answered (s : System queues) (answers : Answers)
    (woken : Option OpPtr) : Io :=
  match woken.bind fun pointer => s.pending pointer.frame with
  | none => {}
  | some op => answers.answer s.rt op.operation

/-- A coroutine that was resumed returns. -/
def goOn (s : System queues) : Option (System queues) :=
  if s.stack = [] then some s else s.step .finish

def readTurn (answers : Answers) (s : System queues) :
    Option (System queues) :=
  (s.step (.dispatch
    (s.answered answers (s.completes (.dispatch {}))))).bind goOn

def writeTurn (answers : Answers) (s : System queues) :
    Option (System queues) :=
  match s.control with
  | .half _ _ _ =>
      (s.step (.dispatchWrite
        (s.answered answers (s.completes (.dispatchWrite {}))))).bind goOn
  | _ => some s

/-- The body of the `for` loop of `running` for the next event. -/
def turn (answers : Answers) (s : System queues) :
    Option (System queues) :=
  (s.readTurn answers).bind (writeTurn answers)

/-- That many events. -/
def drain (answers : Answers) : Nat → System queues → Option (System queues)
  | 0, s => some s
  | turns + 1, s => (s.turn answers).bind (drain answers turns)

/-- `epoll_wait` returns the events in this order, and they are dispatched. -/
def runBatch (s : System queues) (answers : Answers)
    (order : List EpollEvent) : Option (System queues) :=
  (s.step (.epollWait order)).bind (drain answers order.length)

/-! ## Outcomes -/

end System

/-- The result that an entry records for this number. -/
def Obs.resultOf (number : Nat) : Obs → Option OpResult
  | .finished other result => if other = number then some result else none
  | _ => none

namespace System

/-- The result that was last recorded for this number. -/
def resultOf (s : System queues) (number : Nat) : Option OpResult :=
  s.trace.findSome? (Obs.resultOf number)

def outcome (s : System queues) (number : Nat) : OutcomeClass :=
  .of (s.resultOf number)

/-- The class by the operation's own data: its cancel flag, its own deadline
against the clock, and the events of its own descriptors. -/
def verdict (s : System queues) (answers : Answers) (evs : List EpollEvent)
    (op : OpFrame) : OutcomeClass :=
  if op.ready evs || op.reached s.rt.clock && s.timerReady evs then
    if s.flagged op then .operationCanceled
    else if op.reached s.rt.clock && op.operation.timedTransfer then .timedOut
    else
      .of (op.operation.serve (answers.answer s.rt op.operation) op.total s.rt)
  else .pending

/-- In every order of its events the batch is dispatched to its end, and each
suspended operation ends it in the class of its verdict. -/
def Resolves (s : System queues) (evs : List EpollEvent) : Prop :=
  ∀ answers order, order.Perm evs →
    ∃ final, s.runBatch answers order = some final ∧
      ∀ frame op, s.pending frame = some op →
        final.outcome op.number = s.verdict answers evs op

/-! ## What decides -/

/-- The suspended operations have distinct sockets and private tokens. -/
structure Separate (s : System queues) : Prop where
  sockets : ∀ frame other op otherOp fd direction way,
    s.pending frame = some op → s.pending other = some otherOp →
    op.operation.socket? = some (fd, direction) →
    otherOp.operation.socket? = some (fd, way) → frame = other
  tokens : ∀ frame other op otherOp token,
    s.pending frame = some op → s.pending other = some otherOp →
    op.operation.token? = some token →
    otherOp.operation.token? = some token → frame = other

/-- The buffers of the suspended operations are not overrun. -/
def Within (s : System queues) : Prop :=
  ∀ frame op buf, s.pending frame = some op →
    op.operation.buf? = some buf →
    (s.rt.buffers buf).offset ≤ (s.rt.buffers buf).capacity ∧
      (s.rt.buffers buf).capacity < 2 ^ 64

/-- The batch wakes the operation for a transfer. -/
structure Served (s : System queues) (evs : List EpollEvent)
    (op : OpFrame) : Prop where
  ready : op.ready evs = true
  quiet : s.flagged op = false
  unreached : op.reached s.rt.clock = false

/-- An expired operation that the batch wakes by its own descriptor has the
current timer, or is cancelled.  With an event of the timerfd, every other
expired operation is cancelled and woken by its own descriptor; and if the
operation with the current timer may go first, then so is every other timed
one, or it is woken by its own descriptor for a transfer that is bound to end
it.  Two operations share a buffer only if it has no room, or one of them makes
no transfer. -/
structure Arbitrated (s : System queues) (evs : List EpollEvent) : Prop where
  current : ∀ frame op, s.pending frame = some op → op.ready evs = true →
    op.reached s.rt.clock = true → s.flagged op = false →
    s.current frame = true
  single : s.timerReady evs = true → ∀ frame op, s.pending frame = some op →
    op.reached s.rt.clock = true → s.current frame = false →
    op.ready evs = true ∧ s.flagged op = true
  behind : s.timerReady evs = true → ∀ holder holderOp,
    s.pending holder = some holderOp → s.current holder = true →
    holderOp.ready evs = true → ∀ frame op, s.pending frame = some op →
    op.operation.delay?.isSome = true → frame ≠ holder →
    op.ready evs = true ∧
      (s.flagged op = true ∨ op.operation.EndsAtOnce s.rt)
  apart : ∀ frame other op otherOp buf, s.pending frame = some op →
    s.pending other = some otherOp → frame ≠ other →
    op.operation.buf? = some buf → otherOp.operation.buf? = some buf →
    s.Served evs op → s.Served evs otherOp → (s.rt.buffers buf).remain = 0

end System

end AsyncFrame
