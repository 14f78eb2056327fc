import AsyncFrame.Outcomes

/-!
# The event loop without its bookkeeping

What the scheduler and the timer are for, in terms of the operations alone:
each waits for its socket, its token or its deadline, an event resumes one that
waits for it, and the loop ends when none is left.  There is no table, no
interest set, no timer queue and no timerfd setting.  Only among operations
with equal deadlines is it left open which one the timer resumes.
-/

namespace AsyncFrame

/-- What one system call gives an operation: its result, unless it waits on,
and the count and the buffers from then on. -/
structure Answer where
  returned : Option OpResult
  total : Nat
  buffers : BufferRef → Buffer

namespace Operation

/-- What an operation returns that makes no transfer. -/
def fails (ec : ErrorCode) (total : Nat) (buffers : BufferRef → Buffer)
    (operation : Operation) : OpResult :=
  match operation.reads? with
  | some base => .transfer ec (buffers base.buf).readCount
  | none => .transfer ec total

/-- What the operation's system call gives it. -/
def answer (io : Io) (total : Nat) (buffers : BufferRef → Buffer) :
    Operation → Answer
  | .asyncRead base =>
      let (awaited, stored) := tryRead (buffers base.buf) io.recv
      ⟨(readBody stored awaited).map OpResult.ofPair, total,
        Function.update buffers base.buf stored⟩
  | .asyncReadTimeout base _ =>
      let (awaited, stored) := tryRead (buffers base.buf) io.recv
      ⟨(readBody stored awaited).map OpResult.ofPair, total,
        Function.update buffers base.buf stored⟩
  | .asyncReadSome _ buf =>
      let (awaited, stored) := tryRead (buffers buf) io.recv
      ⟨some (OpResult.ofPair awaited), total,
        Function.update buffers buf stored⟩
  | .asyncWrite base =>
      let (awaited, stored) := tryWrite (buffers base.buf) io.send
      let (total, returned) := writeBody total awaited
      ⟨returned.map OpResult.ofPair, total,
        Function.update buffers base.buf stored⟩
  | .asyncWriteTimeout base _ =>
      let (awaited, stored) := tryWrite (buffers base.buf) io.send
      let (total, returned) := writeBody total awaited
      ⟨returned.map OpResult.ofPair, total,
        Function.update buffers base.buf stored⟩
  | .asyncAccept _ =>
      match io.accept with
      | .error errno => ⟨some (.accepted errno none), total, buffers⟩
      | .ok fd => ⟨some (.accepted 0 (some fd)), total, buffers⟩
  | .asyncConnect _ => ⟨some (.connected io.soError), total, buffers⟩
  | .waitFor _ => ⟨some (.waited 0), total, buffers⟩

end Operation

/-- The `co_await` gets its number behind the one of `with_timeout`. -/
def Action.numbersBefore : Action → Nat
  | .awaitWithTimeout _ _ _ _ _ => 1
  | _ => 0

/-- Where the loop is.  In the middle of an event the operation whose write
half is due is known. -/
inductive Reactor.Place where
  | outside
  | head
  | batch (evs : List EpollEvent)
  | half (writer : Addr) (evs : List EpollEvent)
  deriving DecidableEq, Repr

/-- `waits` are the suspended operations by their coroutine frames; `results`
are those given so far, newest first. -/
@[ext]
structure Reactor where
  timerFd : Fd
  clock : Int
  requested : Fd → Bool
  buffers : BufferRef → Buffer
  waits : Addr → Option OpFrame
  place : Reactor.Place
  nextNumber : Nat
  results : List (Nat × OpResult)

namespace Reactor

/-- Nothing has been started. -/
def initial (timerFd : Fd) (uptime : Nat) (buffers : BufferRef → Buffer) :
    Reactor where
  timerFd := timerFd
  clock := uptime + 1
  requested _ := false
  buffers := buffers
  waits _ := none
  place := .outside
  nextNumber := 0
  results := []

variable (r : Reactor)

/-- The operation's token is cancelled. -/
def isRequested (operation : Operation) : Bool :=
  operation.token?.any r.requested

/-- No operation waits for an earlier deadline. -/
def Least (deadline : Int) : Prop :=
  ∀ frame op other, r.waits frame = some op → op.deadline = some other →
    deadline ≤ other

/-- The operation waits for the descriptor to become readable: its socket, its
token, or the timer while its deadline is least. -/
def Reads (fd : Fd) (frame : Addr) (op : OpFrame) : Prop :=
  r.waits frame = some op ∧
    (op.operation.socket? = some (fd, .read) ∨
      op.operation.token? = some fd ∨
      fd = r.timerFd ∧ ∃ deadline, op.deadline = some deadline ∧
        r.Least deadline)

/-- The operation waits for the descriptor to become writable. -/
def Writes (fd : Fd) (frame : Addr) (op : OpFrame) : Prop :=
  r.waits frame = some op ∧ op.operation.socket? = some (fd, .write)

/-! ## What resuming an operation gives -/

/-- What a resumed operation makes of it, and the time at which it does:
cancellation comes first, then the timeout of the operation whose turn it is,
then the system call. -/
inductive Resumes (frame : Addr) (op : OpFrame) (io : Io) :
    Answer → Int → Prop
  | cancelled
      (requested : r.isRequested op.operation = true) :
      Resumes frame op io
        ⟨some (op.operation.fails operationCancelledError op.total r.buffers),
          op.total, r.buffers⟩
        r.clock
  | timedOut {deadline : Int}
      (quiet : r.isRequested op.operation = false)
      (timed : op.operation.timedTransfer = true)
      (set : op.deadline = some deadline)
      (least : r.Least deadline)
      (passed : deadline ≤ r.clock) :
      Resumes frame op io
        ⟨some (op.operation.fails timeoutError op.total r.buffers),
          op.total, r.buffers⟩
        r.clock
  | slept {delay deadline : Int}
      (operation : op.operation = .waitFor delay)
      (set : op.deadline = some deadline)
      (least : r.Least deadline) :
      Resumes frame op io ⟨some (.waited 0), op.total, r.buffers⟩
        (max r.clock deadline)
  | served
      (quiet : r.isRequested op.operation = false)
      (transfers : ∀ delay, op.operation ≠ .waitFor delay)
      (early : op.operation.timedTransfer = true →
        ∀ deadline, op.deadline = some deadline → deadline ≤ r.clock →
          ∃ other rival earlier, other ≠ frame ∧
            r.waits other = some rival ∧ rival.deadline = some earlier ∧
              earlier ≤ deadline) :
      Resumes frame op io (op.operation.answer io op.total r.buffers) r.clock

/-- The operation is over, or waits on with the deadline of this moment. -/
def after (frame : Addr) (op : OpFrame) (answer : Answer) (clock : Int) :
    Reactor :=
  { r with
    clock := clock
    buffers := answer.buffers
    waits := Function.update r.waits frame <|
      match answer.returned with
      | some _ => none
      | none =>
          some { op with
            total := answer.total
            deadline := op.operation.deadlineAt clock }
    results := match answer.returned with
      | some result => (op.number, result) :: r.results
      | none => r.results }

/-! ## What may happen -/

/-- What an action that neither starts nor resumes an operation changes. -/
def calm : Action → Reactor
  | .tick elapsed => { r with clock := r.clock + elapsed }
  | .requestCancel token =>
      { r with requested := Function.update r.requested token true }
  | .openFd fd _ =>
      { r with requested := Function.update r.requested fd false }
  | .closeFd fd =>
      { r with requested := Function.update r.requested fd false }
  | .setBuffer buf buffer =>
      { r with buffers := Function.update r.buffers buf buffer }
  | .run => { r with place := .head }
  | .epollWait evs => { r with place := .batch evs }
  | .batchEnd => { r with place := .head }
  | .exit => { r with place := .outside }
  | _ => r

theorem calm_keeps (action : Action) :
    (r.calm action).timerFd = r.timerFd ∧
      (r.calm action).waits = r.waits ∧
      (r.calm action).nextNumber = r.nextNumber ∧
      (r.calm action).results = r.results := by
  cases action <;> exact ⟨rfl, rfl, rfl, rfl⟩

/-- Such an action may be taken.  A descriptor that an operation uses stays
open; an event is reported only if an operation waits for its descriptor; the
loop ends when no operation waits. -/
def Allows : Action → Prop
  | .closeFd fd => ∀ frame op, r.waits frame = some op →
      op.operation.touches fd = false
  | .run => r.place = .outside
  | .epollWait evs => r.place = .head ∧ ∀ event ∈ evs,
      ∃ frame op, r.Reads event.fd frame op ∨ r.Writes event.fd frame op
  | .batchEnd => r.place = .batch []
  | .exit => r.place = .head ∧ ∀ frame, r.waits frame = none
  | .await _ _ _ => False
  | .awaitWithTimeout _ _ _ _ _ => False
  | .dispatch _ => False
  | .dispatchWrite _ => False
  | _ => True

/-- What is left of an event after its read half: its write half, if an
operation waits for it. -/
inductive Remains (event : EpollEvent) (evs : List EpollEvent) : Place → Prop
  | due {frame : Addr} {op : OpFrame}
      (ready : writeReady event.events = true)
      (writes : r.Writes event.fd frame op) :
      Remains event evs (.half frame evs)
  | done
      (nobody : writeReady event.events = true →
        ∀ frame op, ¬r.Writes event.fd frame op) :
      Remains event evs (.batch evs)

/-- One step. -/
inductive Step : Action → Reactor → Prop
  | calm {action : Action} (allowed : r.Allows action) :
      Step action (r.calm action)
  | suspends {action : Action} {frame : Addr} {op : OpFrame}
      (starts : action.starts? = some op.operation)
      (free : r.waits frame = none)
      (quiet : r.isRequested op.operation = false)
      (number : op.number = r.nextNumber + action.numbersBefore)
      (total : op.total = 0)
      (deadline : op.deadline = op.operation.deadlineAt r.clock)
      (unsettled : ∀ conn io, op.operation = .asyncConnect conn →
        action.io? = some io → tryConnect io.connect = .inProgress) :
      Step action
        { r with
          waits := Function.update r.waits frame (some op)
          nextNumber := op.number + 1 }
  | refuses {action : Action} {operation : Operation} {number : Nat}
      (starts : action.starts? = some operation)
      (requested : r.isRequested operation = true)
      (counted : number = r.nextNumber + action.numbersBefore) :
      Step action
        { r with
          nextNumber := number + 1
          results :=
            (number, operation.fails operationCancelledError 0 r.buffers) ::
              r.results }
  | connects {action : Action} {conn : Fd} {io : Io} {number : Nat}
      (starts : action.starts? = some (.asyncConnect conn))
      (answers : action.io? = some io)
      (settled : tryConnect io.connect ≠ .inProgress)
      (counted : number = r.nextNumber + action.numbersBefore) :
      Step action
        { r with
          nextNumber := number + 1
          results := (number, .connected io.connect) :: r.results }
  | reads {event : EpollEvent} {evs : List EpollEvent} {io : Io}
      {frame : Addr} {op : OpFrame} {answer : Answer} {clock : Int}
      {place : Place}
      (batch : r.place = .batch (event :: evs))
      (ready : readReady event.events = true)
      (waits : r.Reads event.fd frame op)
      (resumes : r.Resumes frame op io answer clock)
      (remains : r.Remains event evs place) :
      Step (.dispatch io)
        { r.after frame op answer clock with place := place }
  | skips {event : EpollEvent} {evs : List EpollEvent} {io : Io}
      {place : Place}
      (batch : r.place = .batch (event :: evs))
      (nobody : readReady event.events = true →
        ∀ frame op, ¬r.Reads event.fd frame op)
      (remains : r.Remains event evs place) :
      Step (.dispatch io) { r with place := place }
  | writes {evs : List EpollEvent} {io : Io} {frame : Addr} {op : OpFrame}
      {fd : Fd} {answer : Answer} {clock : Int}
      (half : r.place = .half frame evs)
      (waits : r.Writes fd frame op)
      (resumes : r.Resumes frame op io answer clock) :
      Step (.dispatchWrite io)
        { r.after frame op answer clock with place := .batch evs }

end Reactor

end AsyncFrame
