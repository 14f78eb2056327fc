import AsyncFrame.Sessions

/-!
# From one end of a connection to the other

A session of writes and a session of reads at the two ends of a stream socket,
in one process or in two.  The kernel keeps the bytes that were accepted and
not yet received, in order, and gives a `recv` any number of them.
-/

namespace AsyncFrame

open AsyncFrame.Lib

variable {queues : TimerQueue}

/-- A descriptor and the buffer of the caller at this end. -/
structure End where
  conn : Fd
  buf : BufferRef

/-- The action starts no write. -/
def SessionAction.isRead : SessionAction queues → Bool
  | .call _ operation _ => operation.writes?.isNone
  | _ => true

def SessionAction.clears : SessionAction queues → Bool
  | .clear => true
  | _ => false

/-- The bytes that were moved since `before`, which was one step earlier. -/
def Session.movedSince (before after : Session queues) : List UInt8 :=
  after.moved.drop before.moved.length

/-- Both ends, the bytes on their way, and all bytes that were received. -/
structure Pipe (queues : TimerQueue) where
  writer : Session queues
  reader : Session queues
  wire : List UInt8 := []
  delivered : List UInt8 := []

namespace Pipe

inductive Action (queues : TimerQueue) where
  | writer (action : SessionAction queues)
  | reader (action : SessionAction queues)

variable (outlet inlet : End)

def begin (source sink : Runtime queues) : Pipe queues where
  writer := .begin outlet.buf source
  reader := .begin inlet.buf sink

/-- One step at one end.  What is received are the first bytes on the wire. -/
def step (pipe : Pipe queues) : Action queues → Option (Pipe queues)
  | .writer action =>
      if action.isWrite then
        (pipe.writer.step outlet.conn outlet.buf action).map fun writer =>
          { pipe with
            writer := writer
            wire := pipe.wire ++ pipe.writer.movedSince writer }
      else none
  | .reader action =>
      if action.isRead then
        (pipe.reader.step inlet.conn inlet.buf action).bind fun reader =>
          let received := pipe.reader.movedSince reader
          if received <+: pipe.wire then
            some
              { pipe with
                reader := reader
                wire := pipe.wire.drop received.length
                delivered := pipe.delivered ++ received }
          else none
      else none

/-- The buffer of the reader is not cleared. -/
def Action.keeps : Action queues → Bool
  | .writer _ => true
  | .reader action => !action.clears

end Pipe

namespace Session

variable {session next : Session queues} {action : SessionAction queues}
variable {conn : Fd} {buf : BufferRef}

/-- A step adds to what was moved, or starts it anew. -/
theorem step_moved (taken : session.step conn buf action = some next) :
    next.kept = session.kept ∧
        next.moved = session.moved ++ session.movedSince next ∨
      action.clears = true ∧ next.kept = [] ∧ next.moved = [] ∧
        session.movedSince next = [] := by
  have added : ∀ {after : Session queues} {bytes : List UInt8},
      after.kept = session.kept → after.moved = session.moved ++ bytes →
        after.kept = session.kept ∧
          after.moved = session.moved ++ session.movedSince after := by
    intro after bytes kept moved
    refine ⟨kept, ?_⟩
    rw [movedSince, moved, List.drop_left]
  cases action with
  | meanwhile change =>
      simp only [step] at taken
      split at taken
      · cases taken
        exact Or.inl (added rfl (List.append_nil _).symm)
      · cases taken
  | call frame operation io =>
      simp only [step] at taken
      split at taken
      · cases taken
        exact Or.inl (added rfl rfl)
      · cases taken
  | wake io =>
      simp only [step] at taken
      split at taken
      · cases taken
      · split at taken
        · cases taken
          exact Or.inl (added rfl rfl)
        · cases taken
  | clear =>
      simp only [step] at taken
      split at taken
      · cases taken
        exact Or.inr ⟨rfl, rfl, rfl, List.drop_nil⟩
      · cases taken

end Session

namespace Pipe

variable {outlet inlet : End} {source sink : Runtime queues}
variable {pipe next : Pipe queues} {action : Action queues}
variable {actions : List (Action queues)}

/-! ## One step -/

/-- What was accepted is what was received and what is on its way, in this
order, and the reader has received it since its buffer was cleared. -/
structure Conveys (outlet inlet : End) (source sink : Buffer)
    (pipe : Pipe queues) : Prop where
  output : pipe.writer.Intact outlet.conn outlet.buf source.capacity
  writing : pipe.writer.Writing source outlet.buf
  input : pipe.reader.Intact inlet.conn inlet.buf sink.capacity
  conserved : pipe.writer.moved = pipe.delivered ++ pipe.wire
  recent : ∃ earlier, pipe.delivered = earlier ++ pipe.reader.moved

/-- A reader that never clears its buffer has all of it there. -/
def Gathers (sink : Buffer) (pipe : Pipe queues) : Prop :=
  pipe.reader.kept = sink.bytes.take sink.offset ∧
    pipe.reader.moved = pipe.delivered

theorem step_writer {act : SessionAction queues}
    (taken : pipe.step outlet inlet (.writer act) = some next) :
    act.isWrite = true ∧
      pipe.writer.step outlet.conn outlet.buf act = some next.writer ∧
      next = { pipe with
        writer := next.writer
        wire := pipe.wire ++ pipe.writer.movedSince next.writer } := by
  simp only [step] at taken
  split at taken
  · rename_i writes
    obtain ⟨writer, moved, rfl⟩ := Option.map_eq_some_iff.mp taken
    exact ⟨writes, moved, rfl⟩
  · cases taken

theorem step_reader {act : SessionAction queues}
    (taken : pipe.step outlet inlet (.reader act) = some next) :
    pipe.reader.step inlet.conn inlet.buf act = some next.reader ∧
      pipe.wire = pipe.reader.movedSince next.reader ++ next.wire ∧
      next.writer = pipe.writer ∧
      next.delivered =
        pipe.delivered ++ pipe.reader.movedSince next.reader := by
  simp only [step] at taken
  split at taken
  · obtain ⟨reader, moved, received⟩ := Option.bind_eq_some_iff.mp taken
    split at received
    · rename_i first
      cases received
      obtain ⟨rest, whole⟩ := first
      refine ⟨moved, ?_, rfl, rfl⟩
      dsimp only
      rw [← whole, List.drop_left]
    · cases received
  · cases taken

private theorem Conveys.step {source sink : Buffer}
    (conveys : Conveys outlet inlet source sink pipe)
    (sourceBounded : source.capacity < 2 ^ 64)
    (sinkBounded : sink.capacity < 2 ^ 64)
    (taken : pipe.step outlet inlet action = some next) :
    Conveys outlet inlet source sink next := by
  cases action with
  | writer act =>
      obtain ⟨writes, moved, same⟩ := step_writer taken
      rcases Session.step_moved moved with ⟨_, added⟩ | ⟨clears, _⟩
      · rw [same]
        refine ⟨Session.step_intact sourceBounded conveys.output moved,
          Session.step_writing conveys.output conveys.writing writes moved,
          conveys.input, ?_, conveys.recent⟩
        dsimp only
        rw [added, conveys.conserved, List.append_assoc]
      · cases act with
        | clear => cases writes
        | _ => cases clears
  | reader act =>
      obtain ⟨moved, first, still, delivered⟩ := step_reader taken
      refine ⟨?_, ?_,
        Session.step_intact sinkBounded conveys.input moved, ?_, ?_⟩
      · rw [still]
        exact conveys.output
      · rw [still]
        exact conveys.writing
      · rw [still, conveys.conserved, delivered, first, List.append_assoc]
      · obtain ⟨earlier, received⟩ := conveys.recent
        rcases Session.step_moved moved with ⟨_, added⟩ | ⟨_, _, empty, _⟩
        · refine ⟨earlier, ?_⟩
          rw [delivered, added, received, List.append_assoc]
        · refine ⟨next.delivered, ?_⟩
          rw [empty, List.append_nil]

private theorem Gathers.step {sink : Buffer} (gathers : Gathers sink pipe)
    (keeps : action.keeps = true)
    (taken : pipe.step outlet inlet action = some next) :
    Gathers sink next := by
  cases action with
  | writer act =>
      obtain ⟨_, _, same⟩ := step_writer taken
      rw [same]
      exact gathers
  | reader act =>
      obtain ⟨moved, _, _, delivered⟩ := step_reader taken
      rcases Session.step_moved moved with ⟨kept, added⟩ | ⟨clears, _⟩
      · refine ⟨kept.trans gathers.1, ?_⟩
        rw [added, gathers.2, delivered]
      · simp [Action.keeps, clears] at keeps

/-! ## Whole runs -/

theorem conveys_of_run
    (sourceWithin : (source.buffers outlet.buf).offset ≤
      (source.buffers outlet.buf).capacity)
    (sourceBounded : (source.buffers outlet.buf).capacity < 2 ^ 64)
    (sinkWithin : (sink.buffers inlet.buf).offset ≤
      (sink.buffers inlet.buf).capacity)
    (sinkBounded : (sink.buffers inlet.buf).capacity < 2 ^ 64)
    (run : runFrom (step outlet inlet) (begin outlet inlet source sink)
      actions = some pipe) :
    Conveys outlet inlet (source.buffers outlet.buf)
      (sink.buffers inlet.buf) pipe := by
  refine invariant_of_run (Conveys outlet inlet (source.buffers outlet.buf)
      (sink.buffers inlet.buf))
    (fun conveys _ taken => conveys.step sourceBounded sinkBounded taken)
    ?_ (meets_of_forall_mem fun _ _ _ => trivial) run
  refine ⟨Session.intact_begin outlet.conn sourceWithin, ?_,
    Session.intact_begin inlet.conn sinkWithin, rfl, [], rfl⟩
  have none : runFrom (Session.step outlet.conn outlet.buf)
      (Session.begin outlet.buf source) [] =
        some (Session.begin outlet.buf source) := rfl
  exact Session.writing_of_run sourceWithin sourceBounded (by simp) none

theorem gathers_of_run
    (keeps : ∀ action ∈ actions, action.keeps = true)
    (run : runFrom (step outlet inlet) (begin outlet inlet source sink)
      actions = some pipe) :
    Gathers (sink.buffers inlet.buf) pipe := by
  have allowed : Meets (step outlet inlet) (fun _ action =>
      action.keeps = true) (begin outlet inlet source sink) actions :=
    meets_of_forall_mem fun action member _ => keeps action member
  exact invariant_of_run (Gathers (sink.buffers inlet.buf))
    (fun gathers keeps taken => gathers.step keeps taken) ⟨rfl, rfl⟩ allowed
    run

/-- What was accepted of a view stands between its first offset and its offset
now. -/
theorem Conveys.accepted {source sink : Buffer}
    (conveys : Conveys outlet inlet source sink pipe)
    (within : source.offset ≤ source.capacity) :
    pipe.delivered ++ pipe.wire =
      (source.bytes.take (pipe.writer.buffer outlet.buf).offset).drop
        source.offset := by
  have stream := conveys.output.stream
  rw [conveys.writing.whole.data, conveys.writing.kept] at stream
  have first : (source.bytes.take source.offset).length = source.offset := by
    rw [List.length_take]
    exact min_eq_left within
  calc
    pipe.delivered ++ pipe.wire = pipe.writer.moved := conveys.conserved.symm
    _ = (source.bytes.take source.offset ++ pipe.writer.moved).drop
        source.offset := by
      rw [List.drop_append_of_le_length (Nat.le_of_eq first.symm),
        List.drop_of_length_le (Nat.le_of_eq first), List.nil_append]
    _ = (source.bytes.take (pipe.writer.buffer outlet.buf).offset).drop
        source.offset := by rw [stream]

/-- A buffer of the view's size that has been filled is the view. -/
theorem Conveys.complete {source sink : Buffer}
    (conveys : Conveys outlet inlet source sink pipe)
    (gathers : Gathers sink pipe) (sourceFirst : source.offset = 0)
    (sinkFirst : sink.offset = 0) (sized : sink.capacity = source.capacity)
    (full : (pipe.reader.buffer inlet.buf).offset =
      (pipe.reader.buffer inlet.buf).capacity) :
    (pipe.reader.buffer inlet.buf).bytes = source.bytes ∧ pipe.wire = [] ∧
      (pipe.writer.buffer outlet.buf).offset =
        (pipe.writer.buffer outlet.buf).capacity := by
  have accepted := conveys.accepted (sourceFirst ▸ Nat.zero_le _)
  rw [sourceFirst, List.drop_zero] at accepted
  have arrived : (pipe.reader.buffer inlet.buf).bytes = pipe.delivered := by
    have stream := conveys.input.stream
    rw [gathers.1, gathers.2, sinkFirst, List.take_zero, List.nil_append,
      full] at stream
    exact (List.take_length.symm).trans stream
  have count : pipe.delivered.length = source.bytes.length := by
    rw [← arrived]
    exact conveys.input.capacity.trans sized
  have within := conveys.output.within
  have capacity := conveys.output.capacity
  have lengths := congrArg List.length accepted
  rw [List.length_append, List.length_take, count] at lengths
  have size : source.capacity = source.bytes.length := rfl
  have empty : pipe.wire = [] := List.eq_nil_of_length_eq_zero (by omega)
  have sent : (pipe.writer.buffer outlet.buf).offset =
      (pipe.writer.buffer outlet.buf).capacity := by omega
  refine ⟨?_, empty, sent⟩
  rw [empty, List.append_nil, sent, capacity, size, List.take_length]
    at accepted
  exact arrived.trans accepted

/-- Whatever calls the two ends make, however these end and however the steps
interleave: what was accepted of the writer's view is what was received and
what is on its way, each byte once and in order; the reader's buffer holds
what was received since it was cleared; and when a buffer of the view's size
has been filled from its beginning, it is the view, all of it was sent, and
nothing is on its way. -/
theorem transfer_intact (outlet inlet : End) (source sink : Runtime queues)
    (sourceWithin : (source.buffers outlet.buf).offset ≤
      (source.buffers outlet.buf).capacity)
    (sourceBounded : (source.buffers outlet.buf).capacity < 2 ^ 64)
    (sinkWithin : (sink.buffers inlet.buf).offset ≤
      (sink.buffers inlet.buf).capacity)
    (sinkBounded : (sink.buffers inlet.buf).capacity < 2 ^ 64)
    (actions : List (Action queues)) (pipe : Pipe queues)
    (run : runFrom (step outlet inlet) (begin outlet inlet source sink)
      actions = some pipe) :
    pipe.delivered ++ pipe.wire =
      ((source.buffers outlet.buf).bytes.take
        (pipe.writer.buffer outlet.buf).offset).drop
          (source.buffers outlet.buf).offset ∧
    (∃ earlier, pipe.delivered = earlier ++ pipe.reader.moved) ∧
    (pipe.reader.buffer inlet.buf).bytes.take
        (pipe.reader.buffer inlet.buf).offset =
      pipe.reader.kept ++ pipe.reader.moved ∧
    ((∀ action ∈ actions, action.keeps = true) →
      (source.buffers outlet.buf).offset = 0 →
      (sink.buffers inlet.buf).offset = 0 →
      (sink.buffers inlet.buf).capacity =
        (source.buffers outlet.buf).capacity →
      (pipe.reader.buffer inlet.buf).done = true →
        (pipe.reader.buffer inlet.buf).bytes =
            (source.buffers outlet.buf).bytes ∧
          pipe.wire = [] ∧
          (pipe.writer.buffer outlet.buf).done = true) := by
  have conveys := conveys_of_run sourceWithin sourceBounded sinkWithin
    sinkBounded run
  refine ⟨conveys.accepted sourceWithin, conveys.recent,
    conveys.input.stream, ?_⟩
  intro keeps sourceFirst sinkFirst sized full
  rw [Session.done_iff conveys.input.within
    (lt_of_eq_of_lt conveys.input.capacity sinkBounded)] at full
  rw [Session.done_iff conveys.output.within
    (lt_of_eq_of_lt conveys.output.capacity sourceBounded)]
  exact conveys.complete (gathers_of_run keeps run) sourceFirst sinkFirst
    sized full

/-- Three bytes go over in two pieces; the read times out after the first and
is started again. -/
theorem transfer_intact_sample :
    ∃ pipe : Pipe TimerQueue.sorted,
      runFrom (step ⟨5, 0⟩ ⟨6, 0⟩) (begin ⟨5, 0⟩ ⟨6, 0⟩
          (System.initial TimerQueue.sorted 3 100 fun _ => ⟨[1, 2, 3], 0⟩).rt
          (System.initial TimerQueue.sorted 3 100 fun _ => ⟨[0, 0, 0], 0⟩).rt)
        [.writer (.call 10 (.asyncWrite ⟨5, 0, none⟩) {}),
          .reader (.call 10 (.asyncReadTimeout ⟨6, 0, none⟩ 50) {}),
          .writer (.wake { send := .sent 2 }),
          .reader (.wake { recv := .received [1] }),
          .reader (.meanwhile fun rt => { rt with clock := rt.clock + 60 }),
          .reader (.wake {}), .writer (.wake { send := .sent 1 }),
          .reader (.call 11 (.asyncRead ⟨6, 0, none⟩) {}),
          .reader (.wake { recv := .received [2, 3] })] = some pipe ∧
      (pipe.reader.buffer 0).bytes = [1, 2, 3] ∧ pipe.wire = [] ∧
      (pipe.writer.buffer 0).done = true := by
  have ends : (runFrom (step ⟨5, 0⟩ ⟨6, 0⟩) (begin ⟨5, 0⟩ ⟨6, 0⟩
      (System.initial TimerQueue.sorted 3 100 fun _ => ⟨[1, 2, 3], 0⟩).rt
      (System.initial TimerQueue.sorted 3 100 fun _ => ⟨[0, 0, 0], 0⟩).rt)
      [.writer (.call 10 (.asyncWrite ⟨5, 0, none⟩) {}),
        .reader (.call 10 (.asyncReadTimeout ⟨6, 0, none⟩ 50) {}),
        .writer (.wake { send := .sent 2 }),
        .reader (.wake { recv := .received [1] }),
        .reader (.meanwhile fun rt => { rt with clock := rt.clock + 60 }),
        .reader (.wake {}), .writer (.wake { send := .sent 1 }),
        .reader (.call 11 (.asyncRead ⟨6, 0, none⟩) {}),
        .reader (.wake { recv := .received [2, 3] })]).any
          (fun pipe => (pipe.reader.buffer 0).done) = true := by
    decide +kernel
  obtain ⟨pipe, run, full⟩ := (Option.any_eq_true _ _).mp ends
  refine ⟨pipe, run, (transfer_intact ⟨5, 0⟩ ⟨6, 0⟩ _ _ (by decide)
    (by decide) (by decide) (by decide) _ pipe run).2.2.2 ?_ rfl rfl rfl
    full⟩
  intro action member
  simp only [List.mem_cons, List.not_mem_nil, or_false] at member
  rcases member with rfl | rfl | rfl | rfl | rfl | rfl | rfl | rfl | rfl <;>
    rfl

end Pipe

end AsyncFrame
