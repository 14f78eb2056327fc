import AsyncFrame.Lib.Runs
import AsyncFrame.Steps

/-!
# Several schedulers in one thread

A thread may use any number of `Scheduler` objects in turn, each with its own
table and its own epoll descriptor.  `TimerEvent::get_instance` gives all of
them the same object.  An awaiter keeps a reference to the scheduler that its
operation was started on, and works on that one's table whichever `running`
resumes it.
-/

namespace AsyncFrame

/-- The program and all schedulers.  The scheduler in `program` is the one that
was last worked on; `owner` is the one that the awaiter in a frame refers to,
and `running` the one whose `running` was called last. -/
structure Process (queues : TimerQueue) where
  program : System queues
  tables : Nat → Scheduler
  owner : Addr → Nat
  running : Nat

/-- The action is a part of `running`. -/
def Action.inRunning : Action → Bool
  | .epollWait _ => true
  | .dispatch _ => true
  | .dispatchWrite _ => true
  | .batchEnd => true
  | .exit => true
  | _ => false

namespace Process

/-- What is done, and on which scheduler. -/
structure Call where
  scheduler : Nat
  action : Action
  deriving DecidableEq

variable {queues : TimerQueue}

def initial (queues : TimerQueue) (timerFd : Fd) (uptime : Nat)
    (buffers : BufferRef → Buffer) : Process queues where
  program := System.initial queues timerFd uptime buffers
  tables := fun _ => Scheduler.initial
  owner := fun _ => 0
  running := 0

/-- The suspended operations of all schedulers. -/
def pending (p : Process queues) : Addr → Option OpFrame :=
  p.program.pending

/-- The program as it works on one scheduler. -/
def focus (p : Process queues) (scheduler : Nat) : System queues :=
  { p.program with
    rt := { p.program.rt with scheduler := p.tables scheduler } }

/-- Take over what was done on one scheduler. -/
def store (p : Process queues) (scheduler : Nat) (program : System queues) :
    Process queues :=
  { p with
    program := program
    tables := Function.update p.tables scheduler program.rt.scheduler }

def withMarks (p : Process queues) (control : Control) (marks : List Obs) :
    Process queues :=
  { p with program := p.program.withMarks control marks }

/-- `read_op::complete` and `write_op::complete`: the operation goes on with
its own scheduler. -/
def complete (p : Process queues) (pointer : OpPtr) (io : Io) :
    Process queues :=
  let owner := p.owner pointer.frame
  p.store owner ((p.focus owner).complete pointer io)

/-- The body of the `for` loop of `running`, up to its write half. -/
def dispatchEvent (p : Process queues) (event : EpollEvent)
    (evs : List EpollEvent) (fetched : Nat) (io : Io) : Process queues :=
  let marks := (p.focus p.running).timerMarks event
  match (p.tables p.running).fdToOp.lookup event.fd with
  | none => p.withMarks (.batch evs fetched) marks
  | some state =>
      let p :=
        p.withMarks (System.writeHalf event state.write evs fetched) marks
      match state.read with
      | some readOp =>
          if readReady event.events then p.complete readOp io else p
      | none => p

/-- `close`: the kernel takes the descriptor out of every interest set. -/
def closeFd (p : Process queues) (fd : Fd) : Process queues :=
  { p with
    program := { p.program with rt := p.program.rt.closeFd fd }
    tables := fun scheduler =>
      ((p.focus scheduler).rt.closeFd fd).scheduler }

/-- The call may be made in this state. -/
def enabled (p : Process queues) (call : Call) : Bool :=
  (p.focus call.scheduler).enabled call.action &&
    (!call.action.inRunning || call.scheduler = p.running)

def perform (p : Process queues) (call : Call) : Process queues :=
  let done :=
    p.store call.scheduler
      ((p.focus call.scheduler).perform call.action)
  match call.action with
  | .closeFd fd => p.closeFd fd
  | .await frame _ _ =>
      { done with
        owner := Function.update p.owner frame call.scheduler }
  | .awaitWithTimeout _ frame _ _ _ =>
      { done with
        owner := Function.update p.owner frame call.scheduler }
  | .run => { done with running := call.scheduler }
  | .dispatch io =>
      match p.program.control with
      | .batch (event :: evs) fetched =>
          p.dispatchEvent event evs fetched io
      | _ => p
  | .dispatchWrite io =>
      match p.program.control with
      | .half writeOp evs fetched =>
          (p.withMarks (.batch evs fetched) []).complete writeOp io
      | _ => p
  | _ => done

/-- One step.  After a fault there is none. -/
def step (p : Process queues) (call : Call) : Option (Process queues) :=
  if p.program.rt.fault = none ∧ p.enabled call = true then
    some (p.perform call)
  else
    none

/-! ## What a step is about -/

/-- The op struct that a step completes. -/
def completes (p : Process queues) (call : Call) : Option OpPtr :=
  (p.focus p.running).completes call.action

/-- The scheduler that a step starts or resumes an operation of. -/
def worksFor (p : Process queues) (call : Call) : Option Nat :=
  match call.action.starts? with
  | some _ => some call.scheduler
  | none => (p.completes call).map fun pointer => p.owner pointer.frame

/-- No operation is suspended inside a frame that the step destroys. -/
def KeepsPending (p : Process queues) (call : Call) : Prop :=
  p.program.keepsPending call.action = true

instance : DecidableRel (@KeepsPending queues) :=
  fun p call =>
    inferInstanceAs (Decidable (p.program.keepsPending call.action = true))

/-- A timed operation of another scheduler is suspended. -/
def timedElsewhere (p : Process queues) (scheduler : Nat) : Bool :=
  decide (∃ frame ∈ p.program.frames.keys,
    (p.pending frame).any (fun op => op.operation.delay?.isSome) = true ∧
      p.owner frame ≠ scheduler)

/-- A timed operation is started only while no timed operation of another
scheduler is suspended. -/
def TimersApart (p : Process queues) (call : Call) : Prop :=
  call.action.starts?.any (fun operation => operation.delay?.isSome) = true →
    p.timedElsewhere call.scheduler = false

instance : DecidableRel (@TimersApart queues) :=
  fun p call =>
    inferInstanceAs (Decidable
      (call.action.starts?.any (fun operation => operation.delay?.isSome) =
        true → p.timedElsewhere call.scheduler = false))

variable {p next : Process queues} {call : Call}

theorem step_eq_some (taken : p.step call = some next) :
    p.enabled call = true ∧ next = p.perform call := by
  unfold step at taken
  split at taken
  · rename_i allowed
    exact ⟨allowed.2, (Option.some.inj taken).symm⟩
  · cases taken

theorem timedElsewhere_eq_false {scheduler : Nat}
    (noneTimed : p.timedElsewhere scheduler = false) {frame : Addr}
    {op : OpFrame} (waits : p.pending frame = some op)
    (timed : op.operation.delay?.isSome = true) :
    p.owner frame = scheduler := by
  by_contra elsewhere
  have member : frame ∈ p.program.frames.keys :=
    Finmap.mem_keys.mpr (Finmap.mem_of_lookup_eq_some
      (pendingIn_eq_some.mp waits))
  have found : p.timedElsewhere scheduler = true := by
    refine decide_eq_true ⟨frame, member, ?_, elsewhere⟩
    rw [waits]
    exact timed
  rw [noneTimed] at found
  cases found

/-- One event completes the registered read operation, or only goes on; a
write half that is left is for the registered write operation. -/
theorem dispatch_cases {event : EpollEvent} {evs : List EpollEvent}
    {fetched scheduler : Nat} (io : Io)
    (batch : p.program.control = .batch (event :: evs) fetched) :
    ∃ control,
      (control = .batch evs fetched ∨
        ∃ writeOp, control = .half writeOp evs fetched ∧
          (p.tables p.running).registry event.fd .write = some writeOp) ∧
      (∀ readOp, p.completes ⟨scheduler, .dispatch io⟩ = some readOp →
        (p.tables p.running).registry event.fd .read = some readOp) ∧
      p.perform ⟨scheduler, .dispatch io⟩ =
        match p.completes ⟨scheduler, .dispatch io⟩ with
        | none =>
            p.withMarks control ((p.focus p.running).timerMarks event)
        | some readOp =>
            (p.withMarks control
              ((p.focus p.running).timerMarks event)).complete readOp io := by
  have focused : (p.focus p.running).control =
      .batch (event :: evs) fetched := batch
  have completed : p.completes ⟨scheduler, .dispatch io⟩ =
      if readReady event.events then
        (p.tables p.running).registry event.fd .read
      else none := by
    simp only [completes, System.completes, focused]
    rfl
  have registered : ∀ readOp,
      p.completes ⟨scheduler, .dispatch io⟩ = some readOp →
        (p.tables p.running).registry event.fd .read = some readOp := by
    intro readOp woken
    rw [completed] at woken
    split at woken
    · exact woken
    · cases woken
  cases found : (p.tables p.running).fdToOp.lookup event.fd with
  | none =>
      refine ⟨.batch evs fetched, Or.inl rfl, registered, ?_⟩
      have absent :
          (p.tables p.running).registry event.fd .read = none := by
        simp [Scheduler.registry, found]
      rw [completed]
      simp only [perform, batch, dispatchEvent, found, absent, ite_self]
  | some state =>
      have looked := Scheduler.registry_of_lookup found
      refine ⟨System.writeHalf event state.write evs fetched, ?_, registered,
        ?_⟩
      · unfold System.writeHalf
        split
        · split
          · rename_i writeOp writes _
            exact Or.inr ⟨writeOp, rfl, (looked .write).trans writes⟩
          · exact Or.inl rfl
        · exact Or.inl rfl
      · have reads : (p.tables p.running).registry event.fd .read =
            state.read := looked .read
        rw [completed]
        simp only [perform, batch, dispatchEvent, found, reads]
        cases state.read with
        | none =>
            simp only [ite_self]
        | some readOp =>
            cases readReady event.events with
            | false => rfl
            | true => rfl

end Process

end AsyncFrame
