import AsyncFrame.Awaiters

/-!
# Programs on one scheduler

One thread runs coroutines and `Scheduler::running`; the environment chooses
what the program does next, what the system calls answer and which batches
`epoll_wait` returns.  A coroutine of the program is a frame that awaits at
most one operation; what else it does is left open.  `running` is called by
the program's main function only.

The trace records what the properties speak of, newest entry first.  Every
`co_await` of an operation has a number there.
-/

namespace AsyncFrame

/-- The coroutine frame of a suspended operation (`async_read_impl` and so
on).  All its op structs hold the frame itself as `inner` and `outer`, the
coroutine that awaits it; `deadline` is what it last passed to `set_timer`. -/
structure OpFrame where
  operation : Operation
  outer : Addr
  total : Nat
  number : Nat
  deadline : Option Int
  deriving DecidableEq, Repr

/-- A coroutine frame.  `user` is a coroutine of the program with the frame it
awaits; `withTimeoutImpl` is the coroutine of that name. -/
inductive Frame where
  | user (awaits : Option Addr)
  | withTimeoutImpl (number : Nat) (awaits : Option Addr)
      (result : Option OpResult)
  | op (op : OpFrame)
  deriving DecidableEq, Repr

/-- The operation suspended in a frame. -/
def Frame.op? : Frame → Option OpFrame
  | .op suspended => some suspended
  | _ => none

/-- The operation suspended at an address. -/
def pendingIn (frames : Finmap fun _ : Addr => Frame) (frame : Addr) :
    Option OpFrame :=
  (frames.lookup frame).bind Frame.op?

/-- Where `running` is: not called, at its `while`, at the next event of a
batch, or between the two halves of an event, the write pointer fetched and
due.  With a batch goes how often the timerfd had been set when `epoll_wait`
returned it. -/
inductive Control where
  | outside
  | head
  | batch (evs : List EpollEvent) (fetched : Nat)
  | half (writeOp : OpPtr) (evs : List EpollEvent) (fetched : Nat)
  deriving DecidableEq, Repr

/-- What is recorded of a run. -/
inductive Obs where
  /-- An operation is awaited. -/
  | started (number : Nat) (operation : Operation)
  /-- `with_timeout` is awaited. -/
  | startedWithTimeout (number : Nat) (wrapped : Operation) (delay : Int)
  /-- The operation's coroutine has returned. -/
  | finished (number : Nat) (result : OpResult)
  /-- The awaiting coroutine is resumed with the result. -/
  | resumed (number : Nat) (result : OpResult)
  /-- The awaiting coroutine goes on without having been suspended. -/
  | wentOn (number : Nat) (result : OpResult)
  /-- An operation is about to be resumed for the timerfd's event. -/
  | timerEvent (number : Nat) (deadline : Option Int) (clock : Int)
  /-- `running` returns. -/
  | returned
  deriving DecidableEq, Repr

/-- The `co_await` that an entry belongs to. -/
def Obs.number? : Obs → Option Nat
  | .started number _ => some number
  | .startedWithTimeout number _ _ => some number
  | .finished number _ => some number
  | .resumed number _ => some number
  | .wentOn number _ => some number
  | .timerEvent _ _ _ => none
  | .returned => none

/-- `stack` lists the coroutines of the program that are running, the innermost
first. -/
structure System (queues : TimerQueue) where
  rt : Runtime queues
  frames : Finmap fun _ : Addr => Frame
  stack : List Addr
  control : Control
  nextNumber : Nat
  trace : List Obs

/-- What happens next: time passes, a token is cancelled, the program acts, or
`running` goes on.  An action is taken as a whole: a thread that cancels does
so between two of them, and `Race` has the window inside `await_suspend`. -/
inductive Action where
  | tick (elapsed : Nat)
  | requestCancel (token : Fd)
  | openFd (fd : Fd) (file : File)
  | closeFd (fd : Fd)
  | setBuffer (buf : BufferRef) (buffer : Buffer)
  | spawn (frame : Addr)
  | finish
  | destroy (frame : Addr)
  | await (frame : Addr) (operation : Operation) (io : Io)
  | awaitWithTimeout (impl frame : Addr) (wrapped : Operation) (delay : Int)
      (io : Io)
  | run
  | epollWait (evs : List EpollEvent)
  | dispatch (io : Io)
  | dispatchWrite (io : Io)
  | batchEnd
  | exit
  deriving DecidableEq

/-- The operation that an action starts. -/
def Action.starts? : Action → Option Operation
  | .await _ operation _ => some operation
  | .awaitWithTimeout _ _ wrapped delay _ => wrapped.withTimeout delay
  | _ => none

namespace System

variable {queues : TimerQueue}

/-- The program before its first step, with a positive reading of the
clock. -/
def initial (queues : TimerQueue) (timerFd : Fd) (uptime : Nat)
    (buffers : BufferRef → Buffer) : System queues where
  rt :=
    { scheduler := Scheduler.initial
      timer := TimerEvent.initial queues timerFd
      clock := uptime + 1
      files := Function.update (fun _ => .closed) timerFd .timerFd
      buffers := buffers }
  frames := ∅
  stack := []
  control := .outside
  nextNumber := 0
  trace := []

/-! ## Looking at the frames -/

/-- What was recorded of one `co_await`, newest first. -/
def history (s : System queues) (number : Nat) : List Obs :=
  s.trace.filter fun obs => obs.number? = some number

/-- The suspended operations. -/
def pending (s : System queues) : Addr → Option OpFrame :=
  pendingIn s.frames

/-- A suspended operation meets the test. -/
def anyPending (s : System queues) (test : OpFrame → Bool) : Bool :=
  decide (∃ frame ∈ s.frames.keys, (s.pending frame).any test = true)

/-- A coroutine of the program with the frames that its awaiter owns, which
are destroyed with it. -/
def owned (s : System queues) (frame : Addr) : List Addr :=
  match s.frames.lookup frame with
  | some (.user (some child)) =>
      match s.frames.lookup child with
      | some (.withTimeoutImpl _ (some inner) _) => [frame, child, inner]
      | _ => [frame, child]
  | _ => [frame]

/-- Code of the program may run: its main function, or a coroutine. -/
def acts (s : System queues) : Bool :=
  s.control = .outside || s.stack ≠ []

/-- No coroutine of the program is running. -/
def idle (s : System queues) : Bool :=
  s.stack = []

/-! ## Completing an operation -/

/-- The operation's coroutine is done, and the coroutine that awaits it is
resumed with the result; it destroys the operation's frame.
`with_timeout_impl` returns the result and stays at its final suspend point:
it never resumes the handle it was given. -/
def resumeOuter (s : System queues) (frame : Addr) (op : OpFrame)
    (result : OpResult) : System queues :=
  let s : System queues :=
    { s with
      trace := .resumed op.number result :: .finished op.number result ::
        s.trace }
  match s.frames.lookup op.outer with
  | some (.user _) =>
      { s with
        frames := (s.frames.erase frame).insert op.outer (.user none)
        stack := op.outer :: s.stack }
  | some (.withTimeoutImpl number _ _) =>
      { s with
        frames := (s.frames.erase frame).insert op.outer
          (.withTimeoutImpl number none (some result)) }
  | _ =>
      { s with rt := { s.rt with fault := some .danglingPointer } }

/-- `read_op::complete` and `write_op::complete`. -/
def complete (s : System queues) (pointer : OpPtr) (io : Io) :
    System queues :=
  match s.pending pointer.frame with
  | none =>
      { s with rt := { s.rt with fault := some .danglingPointer } }
  | some op =>
      let stretch := op.operation.wake pointer.frame io op.total s.rt
      let s : System queues := { s with rt := stretch.rt }
      if stretch.rt.fault.isSome then s
      else
        match stretch.returned with
        | some result => s.resumeOuter pointer.frame op result
        | none =>
            let op :=
              { op with
                total := stretch.total
                deadline := op.operation.deadlineAt stretch.rt.clock }
            { s with frames := s.frames.insert pointer.frame (.op op) }

/-! ## What may happen -/

/-- The operation may be started: its descriptors are open, and its deadline
is positive, as every non-negative delay gives it. -/
def admits (s : System queues) (operation : Operation) : Bool :=
  operation.fits s.rt.files &&
    (operation.deadlineAt s.rt.clock).all fun deadline => 0 < deadline

/-- The coroutine that runs awaits nothing. -/
def runningFrame (s : System queues) : Option Addr :=
  match s.stack with
  | [] => none
  | caller :: _ =>
      if s.frames.lookup caller = some (.user none) then some caller
      else none

/-- The kernel may report this event: the descriptor is registered, was
registered for these events, and is ready. -/
def reports (s : System queues) (event : EpollEvent) : Bool :=
  match s.rt.scheduler.epollManager.interest.lookup event.fd with
  | none => false
  | some registered =>
      (event.events &&& ~~~(registered.events ||| EPOLLERR ||| EPOLLHUP) =
        0) &&
      match s.rt.files event.fd with
      | .closed => false
      | .socket => true
      | .timerFd => s.rt.timer.timerFd.isReadable s.rt.clock
      | .eventFd _ counter => 0 < counter

/-- `events_size`. -/
def eventsSize : Nat := 128

/-- The action may be taken in this state. -/
def enabled (s : System queues) : Action → Bool
  | .tick _ => true
  | .requestCancel token => (s.rt.files token).isEventFd
  | .openFd fd file =>
      s.acts && s.rt.files fd = .closed &&
        (file = .socket || file = .eventFd false 0)
  | .closeFd fd =>
      s.acts && s.rt.files fd ≠ .timerFd &&
        !s.anyPending fun op => op.operation.touches fd
  | .setBuffer _ _ => s.acts
  | .spawn frame => s.acts && s.frames.lookup frame = none
  | .finish => s.runningFrame.isSome
  | .destroy frame =>
      s.acts && frame ∉ s.stack &&
        match s.frames.lookup frame with
        | some (.user _) => true
        | _ => false
  | .await frame operation _ =>
      s.runningFrame.isSome && s.frames.lookup frame = none &&
        s.admits operation
  | .awaitWithTimeout impl frame wrapped delay _ =>
      s.runningFrame.isSome && s.frames.lookup impl = none &&
        s.frames.lookup frame = none && impl ≠ frame &&
        (wrapped.withTimeout delay).any s.admits
  | .run => s.control = .outside && s.idle
  | .epollWait evs =>
      s.control = .head && s.idle && s.rt.scheduler.fdToOp ≠ ∅ &&
        evs.length ≤ eventsSize && (evs.map EpollEvent.fd).Nodup &&
        evs.all s.reports
  | .dispatch _ =>
      s.idle &&
        match s.control with
        | .batch (_ :: _) _ => true
        | _ => false
  | .dispatchWrite _ =>
      s.idle &&
        match s.control with
        | .half _ _ _ => true
        | _ => false
  | .batchEnd =>
      s.idle &&
        match s.control with
        | .batch [] _ => true
        | _ => false
  | .exit => s.control = .head && s.idle && s.rt.scheduler.fdToOp = ∅

/-! ## What the actions do -/

/-- `co_await` of an operation by the running coroutine. -/
def await (s : System queues) (frame : Addr) (operation : Operation)
    (io : Io) : System queues :=
  let number := s.nextNumber
  let stretch := operation.start frame io s.rt
  let s : System queues := { s with rt := stretch.rt }
  match stretch.returned, s.stack with
  | none, caller :: below =>
      let op : OpFrame :=
        { operation := operation
          outer := caller
          total := stretch.total
          number := number
          deadline := operation.deadlineAt stretch.rt.clock }
      { s with
        frames := (s.frames.insert frame (.op op)).insert caller
          (.user (some frame))
        stack := below
        nextNumber := number + 1
        trace := .started number operation :: s.trace }
  | some result, _ =>
      { s with
        nextNumber := number + 1
        trace := .wentOn number result :: .finished number result ::
          .started number operation :: s.trace }
  | none, [] => s

/-- `co_await with_timeout(op, delay)` by the running coroutine: its
`await_suspend` returns nothing, so that the coroutine is suspended even when
`with_timeout_impl` is done at once. -/
def awaitWithTimeout (s : System queues) (impl frame : Addr)
    (wrapped : Operation) (delay : Int) (io : Io) : System queues :=
  match wrapped.withTimeout delay, s.stack with
  | some operation, caller :: below =>
      let number := s.nextNumber
      let stretch := operation.start frame io s.rt
      let s : System queues :=
        { s with
          rt := stretch.rt
          stack := below
          nextNumber := number + 2
          trace := .started (number + 1) operation ::
            .startedWithTimeout number wrapped delay :: s.trace }
      match stretch.returned with
      | none =>
          let op : OpFrame :=
            { operation := operation
              outer := impl
              total := stretch.total
              number := number + 1
              deadline := operation.deadlineAt stretch.rt.clock }
          { s with
            frames :=
              ((s.frames.insert frame (.op op)).insert impl
                (.withTimeoutImpl number (some frame) none)).insert caller
                  (.user (some impl)) }
      | some result =>
          { s with
            frames :=
              (s.frames.insert impl
                (.withTimeoutImpl number none (some result))).insert caller
                  (.user (some impl))
            trace := .wentOn (number + 1) result ::
              .finished (number + 1) result :: s.trace }
  | _, _ => s

/-- The operation that an event of the timerfd resumes. -/
def timerWakes (s : System queues) (event : EpollEvent) : Option OpFrame :=
  if event.fd = s.rt.timer.fd ∧ readReady event.events = true then
    (s.rt.scheduler.registry event.fd .read).bind fun pointer =>
      s.pending pointer.frame
  else none

/-- What is recorded when an event of the timerfd resumes an operation. -/
def timerMarks (s : System queues) (event : EpollEvent) : List Obs :=
  match s.timerWakes event with
  | some op => [.timerEvent op.number op.deadline s.rt.clock]
  | none => []

def record (s : System queues) (event : EpollEvent) : System queues :=
  { s with trace := s.timerMarks event ++ s.trace }

/-- What is left of an event after its read half: its write half, if it is
due. -/
def writeHalf (event : EpollEvent) (write : Option OpPtr)
    (evs : List EpollEvent) (fetched : Nat) : Control :=
  match write with
  | some writeOp =>
      if writeReady event.events then .half writeOp evs fetched
      else .batch evs fetched
  | none => .batch evs fetched

/-- The body of the `for` loop of `running`, up to its write half. -/
def dispatchEvent (s : System queues) (event : EpollEvent)
    (evs : List EpollEvent) (fetched : Nat) (io : Io) : System queues :=
  let s := s.record event
  match s.rt.scheduler.fdToOp.lookup event.fd with
  | none => { s with control := .batch evs fetched }
  | some state =>
      let s : System queues :=
        { s with control := writeHalf event state.write evs fetched }
      match state.read with
      | some readOp =>
          if readReady event.events then s.complete readOp io else s
      | none => s

def perform (s : System queues) : Action → System queues
  | .tick elapsed =>
      { s with rt := { s.rt with clock := s.rt.clock + elapsed } }
  | .requestCancel token => { s with rt := s.rt.requestCancel token }
  | .openFd fd file =>
      { s with
        rt := { s.rt with files := Function.update s.rt.files fd file } }
  | .closeFd fd => { s with rt := s.rt.closeFd fd }
  | .setBuffer buf buffer =>
      { s with
        rt :=
          { s.rt with buffers := Function.update s.rt.buffers buf buffer } }
  | .spawn frame =>
      { s with
        frames := s.frames.insert frame (.user none)
        stack := frame :: s.stack }
  | .finish => { s with stack := s.stack.tail }
  | .destroy frame =>
      { s with
        frames := (s.owned frame).foldl (fun frames gone => frames.erase gone)
          s.frames }
  | .await frame operation io => s.await frame operation io
  | .awaitWithTimeout impl frame wrapped delay io =>
      s.awaitWithTimeout impl frame wrapped delay io
  | .run => { s with control := .head }
  | .epollWait evs =>
      { s with control := .batch evs s.rt.timer.timerFd.settimes }
  | .dispatch io =>
      match s.control with
      | .batch (event :: evs) fetched =>
          s.dispatchEvent event evs fetched io
      | _ => s
  | .dispatchWrite io =>
      match s.control with
      | .half writeOp evs fetched =>
          { s with control := .batch evs fetched }.complete writeOp io
      | _ => s
  | .batchEnd => { s with control := .head }
  | .exit => { s with control := .outside, trace := .returned :: s.trace }

/-- One step.  After a fault there is none. -/
def step (s : System queues) (action : Action) : Option (System queues) :=
  if s.rt.fault = none ∧ s.enabled action = true then
    some (s.perform action)
  else
    none

/-! ## What a step is about -/

/-- The op struct that an action completes. -/
def completes (s : System queues) : Action → Option OpPtr
  | .dispatch _ =>
      match s.control with
      | .batch (event :: _) _ =>
          if readReady event.events then
            s.rt.scheduler.registry event.fd .read
          else none
      | _ => none
  | .dispatchWrite _ =>
      match s.control with
      | .half writeOp _ _ => some writeOp
      | _ => none
  | _ => none

/-- What is recorded of an action besides the operations that it starts and
ends. -/
def marks (s : System queues) : Action → List Obs
  | .dispatch _ =>
      match s.control with
      | .batch (event :: _) _ => s.timerMarks event
      | _ => []
  | .exit => [.returned]
  | _ => []

/-- No operation is suspended inside a frame that the action destroys. -/
def keepsPending (s : System queues) : Action → Bool
  | .destroy frame =>
      (s.owned frame).all fun gone => (s.pending gone).isNone
  | _ => true

end System

end AsyncFrame
