import AsyncFrame.Connections

/-!
# Two programs over a connection

Two whole programs, each with its own scheduler, at the ends of one stream
socket, in any interleaving.  The kernel keeps the bytes of a direction in
order and gives a `recv` any number of them.  Seen from the two ends the
programs are the ends of a pipe.
-/

namespace AsyncFrame

open AsyncFrame.Lib

variable {queues : TimerQueue}

/-- The programs, and all bytes that were sent and that were received. -/
structure Network (queues : TimerQueue) where
  writer : System queues
  reader : System queues
  sent : List UInt8 := []
  received : List UInt8 := []

namespace Network

inductive Action where
  | writer (action : AsyncFrame.Action)
  | reader (action : AsyncFrame.Action)

variable (outlet inlet : End)

/-- One step of one program.  What is received is what was sent, in order. -/
def step (network : Network queues) : Action → Option (Network queues)
  | .writer action =>
      (network.writer.step action).map fun next =>
        { network with
          writer := next
          sent := network.sent ++
            network.writer.rt.streamed outlet .write next.rt }
  | .reader action =>
      (network.reader.step action).bind fun next =>
        let received := network.received ++
          network.reader.rt.streamed inlet .read next.rt
        if received <+: network.sent then
          some { network with reader := next, received := received }
        else none

/-- Each program keeps the buffer for its end of the connection, which stays
open, and the view that is written stays the same. -/
def dedicated (network : Network queues) : Action → Bool
  | .writer action =>
      network.writer.dedicated outlet .write action &&
        !action.sets outlet.buf && action ≠ .closeFd outlet.conn
  | .reader action =>
      network.reader.dedicated inlet .read action &&
        action ≠ .closeFd inlet.conn

def Dedicated (network : Network queues) (action : Action) : Prop :=
  network.dedicated outlet inlet action = true

instance : DecidableRel (@Dedicated queues outlet inlet) :=
  fun network action => inferInstanceAs
    (Decidable (network.dedicated outlet inlet action = true))

/-- The buffer of the reader is not cleared. -/
def Action.keeps : Action → Bool
  | .writer _ => true
  | .reader action => !action.sets inlet.buf

variable {outlet inlet}
variable {network next : Network queues} {pipe : Pipe queues}
variable {action : Action} {actions : List Action}

/-! ## The network as a pipe -/

/-- The pipe between the two ends. -/
structure Joins (outlet inlet : End) (network : Network queues)
    (pipe : Pipe queues) : Prop where
  writer : System.Tracks outlet .write network.writer pipe.writer
  reader : System.Tracks inlet .read network.reader pipe.reader
  sent : network.sent = pipe.delivered ++ pipe.wire
  received : network.received = pipe.delivered

private theorem Joins.writes (joins : Joins outlet inlet network pipe)
    {act : AsyncFrame.Action}
    (dedicated : Dedicated outlet inlet network (.writer act))
    (taken : network.step outlet inlet (.writer act) = some next) :
    ∃ move after, pipe.step outlet inlet (.writer move) = some after ∧
      Joins outlet inlet next after := by
  obtain ⟨program, moved, rfl⟩ := Option.map_eq_some_iff.mp taken
  simp only [Dedicated, Network.dedicated, Bool.and_eq_true,
    Bool.not_eq_true'] at dedicated
  obtain ⟨⟨uses, kept⟩, _⟩ := dedicated
  obtain ⟨move, after, matched⟩ := joins.writer.step uses moved
  have clears : move.clears = false := matched.clears.trans kept
  have allowed : move.isWrite = true := by
    rw [matched.writes rfl, clears]
    rfl
  have sent : pipe.step outlet inlet (.writer move) =
      some
        { pipe with
          writer := after
          wire := pipe.wire ++ pipe.writer.movedSince after } := by
    rw [Pipe.step, if_pos allowed, matched.taken]
    rfl
  refine ⟨move, _, sent, matched.tracks, joins.reader, ?_, joins.received⟩
  dsimp only
  rw [joins.sent, matched.moved, List.append_assoc]

private theorem Joins.reads (joins : Joins outlet inlet network pipe)
    {act : AsyncFrame.Action}
    (dedicated : Dedicated outlet inlet network (.reader act))
    (taken : network.step outlet inlet (.reader act) = some next) :
    ∃ move after, pipe.step outlet inlet (.reader move) = some after ∧
      move.clears = act.sets inlet.buf ∧ Joins outlet inlet next after := by
  obtain ⟨program, moved, received⟩ := Option.bind_eq_some_iff.mp taken
  simp only [Dedicated, Network.dedicated, Bool.and_eq_true] at dedicated
  obtain ⟨move, after, matched⟩ := joins.reader.step dedicated.1 moved
  dsimp only at received
  split at received
  · rename_i ordered
    cases received
    have first : pipe.reader.movedSince after <+: pipe.wire := by
      rw [← matched.moved, joins.received, joins.sent,
        List.prefix_append_right_inj] at ordered
      exact ordered
    have delivered : pipe.step outlet inlet (.reader move) =
        some
          { pipe with
            reader := after
            wire := pipe.wire.drop (pipe.reader.movedSince after).length
            delivered := pipe.delivered ++
              pipe.reader.movedSince after } := by
      rw [Pipe.step, if_pos (matched.reads rfl), matched.taken,
        Option.bind_some]
      dsimp only
      rw [if_pos first]
    refine ⟨move, _, delivered, matched.clears, joins.writer,
      matched.tracks, ?_, ?_⟩
    · obtain ⟨rest, whole⟩ := first
      dsimp only
      rw [joins.sent, ← whole, List.drop_left, List.append_assoc]
    · dsimp only
      rw [joins.received, matched.moved]
  · cases received

/-- Each step of the network is a step of the pipe. -/
theorem Joins.step (joins : Joins outlet inlet network pipe)
    (dedicated : Dedicated outlet inlet network action)
    (taken : network.step outlet inlet action = some next) :
    ∃ move after, pipe.step outlet inlet move = some after ∧
      move.keeps = action.keeps inlet ∧ Joins outlet inlet next after := by
  cases action with
  | writer act =>
      obtain ⟨move, after, moved, joined⟩ := joins.writes dedicated taken
      exact ⟨.writer move, after, moved, rfl, joined⟩
  | reader act =>
      obtain ⟨move, after, moved, clears, joined⟩ :=
        joins.reads dedicated taken
      refine ⟨.reader move, after, moved, ?_, joined⟩
      rw [Pipe.Action.keeps, clears]
      rfl

/-! ## Whole runs -/

variable {source sink : System queues}

/-- Two programs between which nothing is on its way. -/
def begin (source sink : System queues) : Network queues where
  writer := source
  reader := sink

/-- The actions of the two programs lead from `source` and `sink` to
`network`, and each one keeps the ends dedicated. -/
def Leads (outlet inlet : End) (source sink : System queues)
    (actions : List Action) (network : Network queues) : Prop :=
  Meets (step outlet inlet) (Dedicated outlet inlet) (begin source sink)
      actions ∧
    runFrom (step outlet inlet) (begin source sink) actions = some network

private theorem refines_pipe (sourceGood : System.Good source)
    (sinkGood : System.Good sink)
    (sourceIdle : source.busy outlet .write = false)
    (sinkIdle : sink.busy inlet .read = false)
    (led : Leads outlet inlet source sink actions network) :
    ∃ moves pipe,
      runFrom (Pipe.step outlet inlet)
        (Pipe.begin outlet inlet source.rt sink.rt) moves = some pipe ∧
      moves.map Pipe.Action.keeps = actions.map (Action.keeps inlet) ∧
      Joins outlet inlet network pipe := by
  have joined : Joins outlet inlet (begin source sink)
      (Pipe.begin outlet inlet source.rt sink.rt) :=
    ⟨.start sourceGood sourceIdle, .start sinkGood sinkIdle, rfl, rfl⟩
  obtain ⟨moves, pipe, moved, shown, joins⟩ :=
    showing_of_run (Joins outlet inlet)
      (fun joins dedicated taken => by
        obtain ⟨move, after, moved, keeps, joined⟩ :=
          joins.step dedicated taken
        exact ⟨move, after, moved, congrArg some keeps, joined⟩)
      joined led.1 led.2
  refine ⟨moves, pipe, moved, ?_, joins⟩
  rw [observed_eq_map _ moved, observed_eq_map _ led.2] at shown
  exact shown

end Network

/-- Below what was read since then the reader's buffer holds what it held at
first, or nothing since it was cleared. -/
theorem Pipe.kept_of_run {outlet inlet : End} {source sink : Runtime queues}
    {moves : List (Pipe.Action queues)} {pipe : Pipe queues}
    (run : runFrom (Pipe.step outlet inlet)
      (Pipe.begin outlet inlet source sink) moves = some pipe) :
    pipe.reader.kept = (sink.buffers inlet.buf).bytes.take
        (sink.buffers inlet.buf).offset ∨
      pipe.reader.kept = [] := by
  refine invariant_of_run (fun pipe : Pipe queues =>
      pipe.reader.kept = (sink.buffers inlet.buf).bytes.take
          (sink.buffers inlet.buf).offset ∨ pipe.reader.kept = [])
    ?_ (Or.inl rfl) (meets_of_forall_mem fun _ _ _ => trivial) run
  intro pipe action next kept _ taken
  cases action with
  | writer act =>
      obtain ⟨_, _, same⟩ := Pipe.step_writer taken
      rw [same]
      exact kept
  | reader act =>
      obtain ⟨moved, _⟩ := Pipe.step_reader taken
      rcases Session.step_moved moved with ⟨same, _⟩ | ⟨_, cleared, _⟩
      · rw [same]
        exact kept
      · exact Or.inr cleared

namespace Network

variable {outlet inlet : End} {network : Network queues}
variable {source sink : System queues} {actions : List Action}
variable {timerFd timerFd' : Fd} {uptime uptime' : Nat}
variable {buffers buffers' : BufferRef → Buffer}
variable {before before' : List AsyncFrame.Action}

/-- Two programs in reachable states in which nothing waits at the two ends,
each of which then keeps its buffer for its end, in any interleaving of all
their steps: what was sent is what the writer's view holds between its first
offset and its offset; what the reader's buffer has got since it was cleared
are the last bytes received; if it is never cleared it has all of them; and a
buffer of the view's size that has been filled from its beginning is the view,
and all of it was sent. -/
theorem delivers (outlet inlet : End)
    (sourceReached : System.Reaches System.KeepsPending timerFd uptime
      buffers before source)
    (sinkReached : System.Reaches System.KeepsPending timerFd' uptime'
      buffers' before' sink)
    (sourceIdle : source.busy outlet .write = false)
    (sinkIdle : sink.busy inlet .read = false)
    (sourceWithin : (source.rt.buffers outlet.buf).offset ≤
      (source.rt.buffers outlet.buf).capacity)
    (sourceBounded : (source.rt.buffers outlet.buf).capacity < 2 ^ 64)
    (sinkWithin : (sink.rt.buffers inlet.buf).offset ≤
      (sink.rt.buffers inlet.buf).capacity)
    (sinkBounded : (sink.rt.buffers inlet.buf).capacity < 2 ^ 64)
    (led : Leads outlet inlet source sink actions network) :
    network.sent =
      ((source.rt.buffers outlet.buf).bytes.take
        (network.writer.rt.buffers outlet.buf).offset).drop
          (source.rt.buffers outlet.buf).offset ∧
    network.received <+: network.sent ∧
    (∃ recent, recent <:+ network.received ∧
      ((network.reader.rt.buffers inlet.buf).bytes.take
          (network.reader.rt.buffers inlet.buf).offset = recent ∨
        (network.reader.rt.buffers inlet.buf).bytes.take
            (network.reader.rt.buffers inlet.buf).offset =
          (sink.rt.buffers inlet.buf).bytes.take
            (sink.rt.buffers inlet.buf).offset ++ recent)) ∧
    ((∀ action ∈ actions, action.keeps inlet = true) →
      (network.reader.rt.buffers inlet.buf).bytes.take
          (network.reader.rt.buffers inlet.buf).offset =
        (sink.rt.buffers inlet.buf).bytes.take
          (sink.rt.buffers inlet.buf).offset ++ network.received ∧
      ((source.rt.buffers outlet.buf).offset = 0 →
        (sink.rt.buffers inlet.buf).offset = 0 →
        (sink.rt.buffers inlet.buf).capacity =
          (source.rt.buffers outlet.buf).capacity →
        (network.reader.rt.buffers inlet.buf).done = true →
          (network.reader.rt.buffers inlet.buf).bytes =
              (source.rt.buffers outlet.buf).bytes ∧
            network.sent = network.received ∧
            (network.writer.rt.buffers outlet.buf).done = true)) := by
  obtain ⟨moves, pipe, moved, keeping, joins⟩ :=
    refines_pipe (sourceReached.good fun _ _ keeps => keeps)
      (sinkReached.good fun _ _ keeps => keeps) sourceIdle sinkIdle led
  have conveys := Pipe.conveys_of_run sourceWithin sourceBounded sinkWithin
    sinkBounded moved
  have view : pipe.writer.buffer outlet.buf =
      network.writer.rt.buffers outlet.buf := by
    rw [Session.buffer, joins.writer.rt]
  have filled : pipe.reader.buffer inlet.buf =
      network.reader.rt.buffers inlet.buf := by
    rw [Session.buffer, joins.reader.rt]
  have stream := conveys.input.stream
  rw [filled] at stream
  have gathers : (∀ action ∈ actions, action.keeps inlet = true) →
      Pipe.Gathers (sink.rt.buffers inlet.buf) pipe := by
    intro keeps
    refine Pipe.gathers_of_run ?_ moved
    intro move member
    have shown := List.mem_map_of_mem (f := Pipe.Action.keeps) member
    rw [keeping] at shown
    obtain ⟨action, inside, same⟩ := List.mem_map.mp shown
    rw [← same]
    exact keeps action inside
  refine ⟨?_, ?_, ⟨pipe.reader.moved, ?_, ?_⟩, fun keeps => ⟨?_, ?_⟩⟩
  · rw [joins.sent, conveys.accepted sourceWithin, view]
  · rw [joins.sent, joins.received]
    exact List.prefix_append _ _
  · obtain ⟨earlier, delivered⟩ := conveys.recent
    exact ⟨earlier, by rw [joins.received, delivered]⟩
  · rcases Pipe.kept_of_run moved with first | cleared
    · exact Or.inr (by rw [stream, first])
    · exact Or.inl (by rw [stream, cleared, List.nil_append])
  · rw [stream, (gathers keeps).1, (gathers keeps).2, joins.received]
  · intro sourceFirst sinkFirst sized full
    have capacity := conveys.input.capacity
    have within := conveys.input.within
    rw [filled] at capacity within
    rw [Session.done_iff within (lt_of_eq_of_lt capacity sinkBounded)] at full
    rw [← filled] at full
    obtain ⟨same, empty, sent⟩ := conveys.complete (gathers keeps)
      sourceFirst sinkFirst sized full
    refine ⟨filled ▸ same, ?_, ?_⟩
    · rw [joins.sent, joins.received, empty, List.append_nil]
    · rw [← view, Session.done_iff conveys.output.within
        (lt_of_eq_of_lt conveys.output.capacity sourceBounded)]
      exact sent

private theorem exists_leads (test : Network queues → Bool)
    (meets : Meets (step outlet inlet) (Dedicated outlet inlet)
      (begin source sink) actions)
    (passes : (runFrom (step outlet inlet) (begin source sink) actions).any
      test = true) :
    ∃ network, Leads outlet inlet source sink actions network ∧
      test network = true := by
  obtain ⟨network, run, passed⟩ := (Option.any_eq_true _ _).mp passes
  exact ⟨network, ⟨meets, run⟩, passed⟩

/-- Three bytes go over in two pieces; the read times out after the first byte
and is started again. -/
theorem delivers_sample :
    ∃ network : Network TimerQueue.sorted,
      Leads ⟨5, 0⟩ ⟨6, 0⟩
        (System.initial .sorted 3 100 fun _ => ⟨[1, 2, 3], 0⟩)
        (System.initial .sorted 3 100 fun _ => ⟨[0, 0, 0], 0⟩)
        [.writer (.openFd 5 .socket), .reader (.openFd 6 .socket),
          .writer (.spawn 1),
          .writer (.await 10 (.asyncWrite ⟨5, 0, none⟩) {}),
          .reader (.spawn 1),
          .reader (.await 10 (.asyncReadTimeout ⟨6, 0, none⟩ 50) {}),
          .writer .run, .reader .run, .writer (.epollWait [⟨EPOLLOUT, 5⟩]),
          .writer (.dispatch {}),
          .writer (.dispatchWrite { send := .sent 2 }),
          .reader (.epollWait [⟨EPOLLIN, 6⟩]),
          .reader (.dispatch { recv := .received [1] }), .reader .batchEnd,
          .reader (.tick 60), .reader (.epollWait [⟨EPOLLIN, 3⟩]),
          .reader (.dispatch {}),
          .reader (.await 11 (.asyncRead ⟨6, 0, none⟩) {}),
          .writer .batchEnd, .writer (.epollWait [⟨EPOLLOUT, 5⟩]),
          .writer (.dispatch {}),
          .writer (.dispatchWrite { send := .sent 1 }), .reader .batchEnd,
          .reader (.epollWait [⟨EPOLLIN, 6⟩]),
          .reader (.dispatch { recv := .received [2, 3] })] network ∧
      (network.reader.rt.buffers 0).bytes = [1, 2, 3] ∧
      network.sent = network.received ∧
      (network.writer.rt.buffers 0).done = true := by
  have first (bytes : List UInt8) :
      System.Reaches System.KeepsPending 3 100 (fun _ => ⟨bytes, 0⟩) []
        (System.initial TimerQueue.sorted 3 100 fun _ => ⟨bytes, 0⟩) :=
    ⟨trivial, rfl⟩
  refine (exists_leads (fun network =>
    (network.reader.rt.buffers 0).done) ?_ ?_).imp
      fun network both => ⟨both.1, ?_⟩
  · decide +kernel
  · decide +kernel
  · exact ((delivers ⟨5, 0⟩ ⟨6, 0⟩ (first [1, 2, 3]) (first [0, 0, 0])
      (by decide) (by decide) (by decide) (by decide) (by decide) (by decide)
      both.1).2.2.2 (List.all_eq_true.mp (by decide))).2 rfl rfl rfl both.2

end Network

end AsyncFrame
