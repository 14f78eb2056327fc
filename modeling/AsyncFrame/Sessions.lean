import AsyncFrame.Streams

/-!
# Sequences of transfers on one buffer

The machine of a caller that starts one transfer after the other on its
connection and its buffer.  Each call may end in any way; the caller may clear
the buffer between two calls, and the rest of the program acts at any time.
-/

namespace AsyncFrame

open Lib

variable {queues : TimerQueue} {rt : Runtime queues}
variable {conn : Fd} {buf : BufferRef}

/-- A call that is suspended. -/
structure Pending where
  frame : Addr
  operation : Operation
  total : Nat

/-- A caller and its buffer: the call that is pending, the latest one and what
it returned, and the buffer as it found it.  `kept` are the bytes below the
first offset, until the buffer is cleared; `moved` is what was moved since
then, and `callMoved` what the latest call moved. -/
structure Session (queues : TimerQueue) where
  rt : Runtime queues
  pending : Option Pending := none
  latest : Option Operation := none
  returned : Option OpResult := none
  entry : Buffer
  kept : List UInt8
  moved : List UInt8 := []
  callMoved : List UInt8 := []

/-- What happens next to a caller. -/
inductive SessionAction (queues : TimerQueue) where
  | meanwhile (change : Runtime queues → Runtime queues)
  | call (frame : Addr) (operation : Operation) (io : Io)
  | wake (io : Io)
  | clear

/-- The action starts no read, and does not clear the buffer. -/
def SessionAction.isWrite : SessionAction queues → Bool
  | .call _ operation _ => operation.writes?.isSome
  | .clear => false
  | _ => true

namespace Session

def begin (buf : BufferRef) (rt : Runtime queues) : Session queues where
  rt := rt
  entry := rt.buffers buf
  kept := (rt.buffers buf).bytes.take (rt.buffers buf).offset

/-- The buffer now. -/
def buffer (session : Session queues) (buf : BufferRef) : Buffer :=
  session.rt.buffers buf

/-- Take over what a stretch of the call's coroutine left. -/
def after (session : Session queues) (buf : BufferRef) (frame : Addr)
    (operation : Operation) (stretch : Stretch queues) : Session queues :=
  let moved := session.rt.movedUntil stretch.rt buf
  { session with
    rt := stretch.rt
    pending :=
      match stretch.returned with
      | none => some ⟨frame, operation, stretch.total⟩
      | some _ => none
    latest := some operation
    returned := stretch.returned
    moved := session.moved ++ moved
    callMoved := session.callMoved ++ moved }

/-- The rest of the program leaves the buffer alone, a call is a transfer on
this connection and this buffer, and only one is pending at a time. -/
def step (conn : Fd) (buf : BufferRef) (session : Session queues) :
    SessionAction queues → Option (Session queues)
  | .meanwhile change =>
      if (change session.rt).buffers buf = session.rt.buffers buf then
        some { session with rt := change session.rt }
      else none
  | .call frame operation io =>
      if session.pending.isNone ∧
          operation.transfers? = some (conn, buf) then
        some
          (({ session with
              returned := none
              entry := session.buffer buf
              callMoved := [] } : Session queues).after buf frame operation
            (operation.start frame io session.rt))
      else none
  | .wake io =>
      match session.pending with
      | none => none
      | some call =>
          if call.operation.possible io (session.buffer buf).remain then
            some (session.after buf call.frame call.operation
              (call.operation.wake call.frame io call.total session.rt))
          else none
  | .clear =>
      if session.pending.isNone then
        some
          { session with
            rt :=
              { session.rt with
                buffers := Function.update session.rt.buffers buf
                  (session.buffer buf).clear }
            kept := []
            moved := [] }
      else none

/-! ## What every session keeps -/

/-- The buffer holds the bytes kept and moved, in this order, below its
offset, and every count is right up to what it contains besides. -/
structure Intact (conn : Fd) (buf : BufferRef) (size : Nat)
    (session : Session queues) : Prop where
  capacity : (session.buffer buf).capacity = size
  within : (session.buffer buf).offset ≤ (session.buffer buf).capacity
  stream : (session.buffer buf).bytes.take (session.buffer buf).offset =
    session.kept ++ session.moved
  below : (session.buffer buf).bytes.take session.entry.offset =
    session.entry.bytes.take session.entry.offset
  waits : ∀ call, session.pending = some call →
    call.operation.transfers? = some (conn, buf) ∧
      session.latest = some call.operation ∧
      (session.buffer buf).offset =
        session.entry.offset + session.callMoved.length ∧
      call.operation.counted call.total (session.buffer buf).offset =
        call.operation.counted 0 session.entry.offset +
          session.callMoved.length
  counts : ∀ result, session.returned = some result →
    ∃ operation ec, session.latest = some operation ∧
      result = .transfer ec
        (operation.counted 0 session.entry.offset +
          session.callMoved.length)

/-- A write of a view that was not yet sent: the view stays the same, and the
empty error code says that all of it is sent. -/
structure Whole (data : List UInt8) (buf : BufferRef)
    (session : Session queues) : Prop where
  data : (session.buffer buf).bytes = data
  latest : ∀ operation, session.latest = some operation →
    operation.writes?.isSome = true
  waits : ∀ call, session.pending = some call →
    call.operation.writes?.isSome = true ∧
      (session.entry.done = false → (session.buffer buf).done = false)
  ends : ∀ result, session.returned = some result →
    session.entry.done = false →
      (result.ec = 0 ↔ (session.buffer buf).done = true)

theorem intact_begin (conn : Fd)
    (within : (rt.buffers buf).offset ≤ (rt.buffers buf).capacity) :
    (begin buf rt).Intact conn buf (rt.buffers buf).capacity where
  capacity := rfl
  within := within
  stream := (List.append_nil _).symm
  below := rfl
  waits := by
    rintro call ⟨⟩
  counts := by
    rintro result ⟨⟩

/-- A stretch of a call that keeps the account keeps the session intact. -/
theorem Intact.after {size : Nat} {session : Session queues}
    (intact : session.Intact conn buf size)
    (offset : (session.buffer buf).offset =
      session.entry.offset + session.callMoved.length)
    {operation : Operation} (frame : Addr) {total : Nat}
    (transfers : operation.transfers? = some (conn, buf))
    (summed : operation.counted total (session.buffer buf).offset =
      operation.counted 0 session.entry.offset + session.callMoved.length)
    {stretch : Stretch queues}
    (accounts : stretch.Accounts session.rt buf operation total) :
    (session.after buf frame operation stretch).Intact conn buf size where
  capacity := accounts.carried.capacity.trans intact.capacity
  within := accounts.carried.within
  stream := by
    have carried := accounts.carried.stream
    change (stretch.rt.buffers buf).bytes.take
      (stretch.rt.buffers buf).offset = session.kept ++ (session.moved ++ _)
    rw [carried, ← List.append_assoc, ← intact.stream]
    rfl
  below := by
    have order : session.entry.offset ≤ (session.rt.buffers buf).offset :=
      offset ▸ Nat.le_add_right _ _
    exact (accounts.carried.below order intact.within).trans intact.below
  waits := by
    intro call pending
    cases ended : stretch.returned with
    | some result => simp [Session.after, ended] at pending
    | none =>
        simp only [Session.after, ended, Option.some.injEq] at pending
        subst pending
        refine ⟨transfers, rfl, ?_, ?_⟩
        · have moved := accounts.carried.offset
          simp only [Session.after, buffer, List.length_append] at offset ⊢
          omega
        · have moved := accounts.goesOn ended
          simp only [Session.after, buffer, List.length_append]
            at summed ⊢
          omega
  counts := by
    intro result ended
    obtain ⟨ec, rfl⟩ := accounts.ends result ended
    refine ⟨operation, ec, rfl, ?_⟩
    simp only [Session.after, buffer, List.length_append,
      OpResult.transfer.injEq, true_and] at summed ⊢
    omega

variable {session next : Session queues} {action : SessionAction queues}
variable {size : Nat}

/-- Every step keeps the session intact. -/
theorem step_intact (bounded : size < 2 ^ 64)
    (intact : session.Intact conn buf size)
    (taken : session.step conn buf action = some next) :
    next.Intact conn buf size := by
  cases action with
  | meanwhile change =>
      simp only [step] at taken
      split at taken
      · rename_i kept
        cases taken
        have same : Session.buffer
            { session with rt := change session.rt } buf =
              session.buffer buf := kept
        refine ⟨?_, ?_, ?_, ?_, ?_, intact.counts⟩
        · rw [same]
          exact intact.capacity
        · rw [same]
          exact intact.within
        · rw [same]
          exact intact.stream
        · rw [same]
          exact intact.below
        · rw [same]
          exact intact.waits
      · cases taken
  | call frame operation io =>
      simp only [step] at taken
      split at taken
      · rename_i allowed
        cases taken
        have idle := Option.isNone_iff_eq_none.mp allowed.1
        refine Intact.after ?_ rfl frame allowed.2 rfl
          (operation.start_accounts frame io allowed.2 intact.within)
        refine ⟨intact.capacity, intact.within, intact.stream, rfl, ?_, ?_⟩
        · intro call pending
          cases idle.symm.trans pending
        · rintro result ⟨⟩
      · cases taken
  | wake io =>
      simp only [step] at taken
      split at taken
      · cases taken
      · rename_i call pending
        split at taken
        · rename_i possible
          cases taken
          obtain ⟨transfers, _, offset, summed⟩ := intact.waits call pending
          refine intact.after offset call.frame transfers summed ?_
          exact call.operation.wake_accounts call.frame io call.total
            transfers intact.within
            (lt_of_eq_of_lt intact.capacity bounded) possible
        · cases taken
  | clear =>
      simp only [step] at taken
      split at taken
      · rename_i idle
        cases taken
        have cleared : Session.buffer
            { session with
              rt :=
                { session.rt with
                  buffers := Function.update session.rt.buffers buf
                    (session.buffer buf).clear }
              kept := []
              moved := [] } buf = (session.buffer buf).clear :=
          Function.update_self buf _ _
        refine ⟨?_, ?_, ?_, ?_, ?_, intact.counts⟩
        · rw [cleared]
          exact intact.capacity
        · rw [cleared]
          exact Nat.zero_le _
        · rw [cleared]
          rfl
        · rw [cleared]
          exact intact.below
        · intro call pending
          rw [Option.isNone_iff_eq_none.mp idle] at pending
          cases pending
      · cases taken

/-- A session of writes has kept its view and its first offset. -/
structure Writing (start : Buffer) (buf : BufferRef)
    (session : Session queues) : Prop where
  whole : Whole start.bytes buf session
  kept : session.kept = start.bytes.take start.offset

private theorem Whole.after {data : List UInt8} (whole : Whole data buf session)
    {operation : Operation} (frame : Addr)
    (writes : operation.writes?.isSome = true)
    (room : session.entry.done = false → (session.buffer buf).done = false)
    {stretch : Stretch queues} (sends : stretch.Sends session.rt buf) :
    Whole data buf (session.after buf frame operation stretch) where
  data := sends.data.trans whole.data
  latest := by
    rintro latest ⟨⟩
    exact writes
  waits := by
    intro call pending
    cases ended : stretch.returned with
    | some result => simp [Session.after, ended] at pending
    | none =>
        simp only [Session.after, ended, Option.some.injEq] at pending
        subst pending
        exact ⟨writes, fun open_ => sends.goesOn (room open_) ended⟩
  ends result ended open_ := sends.ends (room open_) result ended

/-- Every step of a session of writes that does not clear the buffer keeps the
view. -/
theorem step_writing {start : Buffer}
    (intact : session.Intact conn buf size)
    (writing : session.Writing start buf) (allowed : action.isWrite = true)
    (taken : session.step conn buf action = some next) :
    next.Writing start buf := by
  obtain ⟨whole, kept⟩ := writing
  cases action with
  | meanwhile change =>
      simp only [step] at taken
      split at taken
      · rename_i same
        cases taken
        have unchanged : Session.buffer
            { session with rt := change session.rt } buf =
              session.buffer buf := same
        refine ⟨⟨?_, whole.latest, ?_, ?_⟩, kept⟩
        · rw [unchanged]
          exact whole.data
        · rw [unchanged]
          exact whole.waits
        · rw [unchanged]
          exact whole.ends
      · cases taken
  | call frame operation io =>
      simp only [step] at taken
      split at taken
      · rename_i enabled
        cases taken
        have idle := Option.isNone_iff_eq_none.mp enabled.1
        obtain ⟨base, writes⟩ := Option.isSome_iff_exists.mp allowed
        have own := Operation.buf_of_writes writes enabled.2
        refine ⟨Whole.after ?_ frame allowed id ?_, kept⟩
        · refine ⟨whole.data, whole.latest, ?_, ?_⟩
          · intro call pending
            cases idle.symm.trans pending
          · rintro result ⟨⟩
        · rw [← own]
          exact operation.start_sends frame io writes
      · cases taken
  | wake io =>
      simp only [step] at taken
      split at taken
      · cases taken
      · rename_i call pending
        split at taken
        · rename_i possible
          cases taken
          obtain ⟨transfers, _⟩ := intact.waits call pending
          obtain ⟨writes, room⟩ := whole.waits call pending
          obtain ⟨base, args⟩ := Option.isSome_iff_exists.mp writes
          have own := Operation.buf_of_writes args transfers
          refine ⟨whole.after call.frame writes room ?_, kept⟩
          rw [Operation.possible_of_writes args] at possible
          rw [← own] at possible ⊢
          exact call.operation.wake_sends_whole call.frame io call.total args
            possible
        · cases taken
  | clear => cases allowed

/-! ## Whole sessions -/

private theorem intact_of_run {actions : List (SessionAction queues)}
    (within : (rt.buffers buf).offset ≤ (rt.buffers buf).capacity)
    (bounded : (rt.buffers buf).capacity < 2 ^ 64)
    (run : runFrom (step conn buf) (begin buf rt) actions = some session) :
    session.Intact conn buf (rt.buffers buf).capacity :=
  invariant_of_run (fun session =>
      session.Intact conn buf (rt.buffers buf).capacity)
    (fun intact _ taken => step_intact bounded intact taken)
    (intact_begin conn within)
    (meets_of_forall_mem fun _ _ _ => trivial) run

theorem writing_of_run {actions : List (SessionAction queues)}
    (within : (rt.buffers buf).offset ≤ (rt.buffers buf).capacity)
    (bounded : (rt.buffers buf).capacity < 2 ^ 64)
    (writes : ∀ action ∈ actions, action.isWrite = true)
    (run : runFrom (step conn buf) (begin buf rt) actions = some session) :
    session.Writing (rt.buffers buf) buf := by
  have allowed : Meets (step conn buf) (fun _ action => action.isWrite = true)
      (begin buf rt) actions :=
    meets_of_forall_mem fun action member _ => writes action member
  refine (invariant_of_run (fun session =>
      session.Intact conn buf (rt.buffers buf).capacity ∧
        session.Writing (rt.buffers buf) buf)
    (fun both writing taken => ⟨step_intact bounded both.1 taken,
      step_writing both.1 both.2 writing taken⟩)
    ⟨intact_begin conn within, ⟨⟨rfl, ?_, ?_, ?_⟩, rfl⟩⟩ allowed run).2
  · rintro operation ⟨⟩
  · rintro call ⟨⟩
  · rintro result ⟨⟩

theorem done_iff {buffer : Buffer} (within : buffer.offset ≤ buffer.capacity)
    (bounded : buffer.capacity < 2 ^ 64) :
    buffer.done = true ↔ buffer.offset = buffer.capacity := by
  rw [Buffer.done, Buffer.remain_of_le within bounded, decide_eq_true_iff]
  omega

/-- For every session on a buffer, whatever its calls are and however they
end: the offset stays within the buffer, what was below it when a call started
is untouched, and below it stand the bytes kept and then all bytes moved, in
order; and an `await_resume` that times out or is cancelled moves none. -/
theorem input_intact (conn : Fd) (buf : BufferRef) (rt : Runtime queues)
    (within : (rt.buffers buf).offset ≤ (rt.buffers buf).capacity)
    (bounded : (rt.buffers buf).capacity < 2 ^ 64)
    (actions : List (SessionAction queues)) (final : Session queues)
    (run : runFrom (step conn buf) (begin buf rt) actions = some final) :
    ((final.buffer buf).offset ≤ (final.buffer buf).capacity ∧
      (final.buffer buf).remain =
        (final.buffer buf).capacity - (final.buffer buf).offset) ∧
    (final.buffer buf).bytes.take final.entry.offset =
      final.entry.bytes.take final.entry.offset ∧
    (final.buffer buf).bytes.take (final.buffer buf).offset =
      final.kept ++ final.moved ∧
    ∀ (frame : Addr) (operation : Operation) (io : Io) (total : Nat)
        (now : Runtime queues) (result : OpResult),
      operation.transfers? = some (conn, buf) →
      (operation.resumeOnce frame io total now).returned = some result →
      result.ec = timeoutError ∨ result.ec = operationCancelledError →
        now.movedUntil (operation.resumeOnce frame io total now).rt buf =
          [] := by
  have intact := intact_of_run within bounded run
  refine ⟨⟨intact.within, ?_⟩, intact.below, intact.stream, ?_⟩
  · exact Buffer.remain_of_le intact.within
      (lt_of_eq_of_lt intact.capacity bounded)
  · intro frame operation io total now result transfers returned refused
    refine operation.resumeOnce_error frame io total transfers returned ?_
    rcases refused with expired | cancelled
    · rw [expired]
      decide
    · rw [cancelled]
      decide

/-- A read with a timeout gets one byte and times out; the next call goes on
where it ended. -/
theorem input_intact_sample :
    ∃ final : Session TimerQueue.sorted,
      runFrom (step 5 0) (begin 0
          (System.initial TimerQueue.sorted 3 100 fun _ => ⟨[1, 0, 0], 1⟩).rt)
        [.call 10 (.asyncReadTimeout ⟨5, 0, none⟩ 50) {},
          .wake { recv := .received [7] },
          .meanwhile fun rt => { rt with clock := rt.clock + 60 }, .wake {},
          .call 11 (.asyncReadSome 5 0) {},
          .wake { recv := .received [8] }] = some final ∧
      final.moved = [7, 8] ∧
      (final.buffer 0).bytes.take (final.buffer 0).offset =
        final.kept ++ final.moved := by
  have ends : (runFrom (step 5 0) (begin 0
      (System.initial TimerQueue.sorted 3 100 fun _ => ⟨[1, 0, 0], 1⟩).rt)
      [.call 10 (.asyncReadTimeout ⟨5, 0, none⟩ 50) {},
        .wake { recv := .received [7] },
        .meanwhile fun rt => { rt with clock := rt.clock + 60 }, .wake {},
        .call 11 (.asyncReadSome 5 0) {},
        .wake { recv := .received [8] }]).any
          (fun final => final.moved = [7, 8]) = true := by
    decide +kernel
  obtain ⟨final, run, moved⟩ := (Option.any_eq_true _ _).mp ends
  exact ⟨final, run, of_decide_eq_true moved,
    (input_intact 5 0 _ (by decide) (by decide) _ final run).2.2.1⟩

/-- For every session of writes on a view: the bytes accepted are those
between its first offset and its offset now, each call returns how many were
accepted during it, and a call on a view not yet sent returns the empty error
code exactly if all of it is sent. -/
theorem output_intact (conn : Fd) (buf : BufferRef) (rt : Runtime queues)
    (within : (rt.buffers buf).offset ≤ (rt.buffers buf).capacity)
    (bounded : (rt.buffers buf).capacity < 2 ^ 64)
    (actions : List (SessionAction queues)) (final : Session queues)
    (writes : ∀ action ∈ actions, action.isWrite = true)
    (run : runFrom (step conn buf) (begin buf rt) actions = some final) :
    (final.buffer buf).bytes = (rt.buffers buf).bytes ∧
    (final.buffer buf).offset ≤ (final.buffer buf).capacity ∧
    final.moved = ((rt.buffers buf).bytes.take
      (final.buffer buf).offset).drop (rt.buffers buf).offset ∧
    ∀ result, final.returned = some result →
      ∃ ec, result = .transfer ec final.callMoved.length ∧
        (final.entry.done = false →
          (ec = 0 ↔ (final.buffer buf).offset =
            (final.buffer buf).capacity)) := by
  have intact := intact_of_run within bounded run
  have writing := writing_of_run within bounded writes run
  refine ⟨writing.whole.data, intact.within, ?_, ?_⟩
  · have stream := intact.stream
    rw [writing.whole.data, writing.kept] at stream
    have first : ((rt.buffers buf).bytes.take
        (rt.buffers buf).offset).length = (rt.buffers buf).offset := by
      rw [List.length_take]
      exact min_eq_left within
    rw [stream, List.drop_append_of_le_length (Nat.le_of_eq first.symm),
      List.drop_of_length_le (Nat.le_of_eq first), List.nil_append]
  · intro result returned
    obtain ⟨operation, ec, latest, rfl⟩ := intact.counts result returned
    obtain ⟨base, args⟩ :=
      Option.isSome_iff_exists.mp (writing.whole.latest operation latest)
    refine ⟨ec, ?_, fun open_ => ?_⟩
    · rw [Operation.counted_of_writes args, Nat.zero_add]
    · rw [← done_iff intact.within (lt_of_eq_of_lt intact.capacity bounded)]
      exact writing.whole.ends _ returned open_

/-- Two bytes, a `send` that would block, and the third. -/
theorem output_intact_sample :
    ∃ final : Session TimerQueue.sorted,
      runFrom (step 5 0) (begin 0
          (System.initial TimerQueue.sorted 3 100 fun _ => ⟨[1, 2, 3], 0⟩).rt)
        [.call 10 (.asyncWrite ⟨5, 0, none⟩) {}, .wake { send := .sent 2 },
          .wake { send := .failed EAGAIN }, .wake { send := .sent 1 }] =
            some final ∧
      final.returned = some (.transfer 0 3) ∧
      final.moved = ([1, 2, 3].take (final.buffer 0).offset).drop 0 := by
  have ends : (runFrom (step 5 0) (begin 0
      (System.initial TimerQueue.sorted 3 100 fun _ => ⟨[1, 2, 3], 0⟩).rt)
      [.call 10 (.asyncWrite ⟨5, 0, none⟩) {}, .wake { send := .sent 2 },
        .wake { send := .failed EAGAIN }, .wake { send := .sent 1 }]).any
          (fun final => final.returned = some (.transfer 0 3)) = true := by
    decide +kernel
  obtain ⟨final, run, returned⟩ := (Option.any_eq_true _ _).mp ends
  refine ⟨final, run, of_decide_eq_true returned, ?_⟩
  refine (output_intact 5 0 _ (by decide) (by decide) _ final ?_ run).2.2.1
  intro action member
  simp only [List.mem_cons, List.not_mem_nil, or_false] at member
  rcases member with rfl | rfl | rfl | rfl <;> rfl

/-- For every session and every call that has returned in it: the count is the
number of bytes that the call moved, except that `async_read` and
`async_read_timeout` report it only if the call found the offset at zero. -/
theorem readCount_iff (conn : Fd) (buf : BufferRef) (rt : Runtime queues)
    (within : (rt.buffers buf).offset ≤ (rt.buffers buf).capacity)
    (bounded : (rt.buffers buf).capacity < 2 ^ 64)
    (actions : List (SessionAction queues)) (final : Session queues)
    (run : runFrom (step conn buf) (begin buf rt) actions = some final)
    (operation : Operation) (latest : final.latest = some operation)
    (result : OpResult) (returned : final.returned = some result) :
    (∃ ec, result = .transfer ec final.callMoved.length) ↔
      (operation.reads?.isSome = true → final.entry.offset = 0) := by
  have intact := intact_of_run within bounded run
  obtain ⟨other, ec, here, rfl⟩ := intact.counts result returned
  rw [latest] at here
  cases here
  constructor
  · rintro ⟨code, same⟩ reads
    obtain ⟨base, args⟩ := Option.isSome_iff_exists.mp reads
    rw [Operation.counted_of_reads args, OpResult.transfer.injEq] at same
    omega
  · intro fresh
    refine ⟨ec, congrArg (OpResult.transfer ec) ?_⟩
    cases operation with
    | asyncRead base =>
        have offset := fresh rfl
        simp only [Operation.counted]
        omega
    | asyncReadTimeout base delay =>
        have offset := fresh rfl
        simp only [Operation.counted]
        omega
    | _ => exact Nat.zero_add _

/-- A read into a cleared buffer. -/
theorem readCount_iff_sample :
    ∃ final : Session TimerQueue.sorted,
      runFrom (step 5 0) (begin 0
          (System.initial TimerQueue.sorted 3 100 fun _ => ⟨[1, 0], 1⟩).rt)
        [.clear, .call 10 (.asyncRead ⟨5, 0, none⟩) {},
          .wake { recv := .received [7, 8] }] = some final ∧
      ∃ ec, OpResult.transfer 0 2 =
        .transfer ec final.callMoved.length := by
  have ends : (runFrom (step 5 0) (begin 0
      (System.initial TimerQueue.sorted 3 100 fun _ => ⟨[1, 0], 1⟩).rt)
      [.clear, .call 10 (.asyncRead ⟨5, 0, none⟩) {},
        .wake { recv := .received [7, 8] }]).any
          (fun final => final.returned = some (.transfer 0 2) ∧
            final.latest = some (.asyncRead ⟨5, 0, none⟩) ∧
              final.entry.offset = 0) = true := by
    decide +kernel
  obtain ⟨final, run, passed⟩ := (Option.any_eq_true _ _).mp ends
  obtain ⟨returned, latest, fresh⟩ := of_decide_eq_true passed
  exact ⟨final, run, (readCount_iff 5 0 _ (by decide) (by decide) _ final run
    _ latest _ returned).mpr fun _ => fresh⟩

/-- A read into a buffer that holds a byte from before returns three for the
two bytes that it received. -/
theorem readCount_counterexample :
    ∃ final : Session TimerQueue.sorted,
      runFrom (step 5 0) (begin 0
          (System.initial TimerQueue.sorted 3 100 fun _ =>
            ⟨[1, 0, 0], 1⟩).rt)
        [.call 10 (.asyncRead ⟨5, 0, none⟩) {},
          .wake { recv := .received [7, 8] }] = some final ∧
      final.returned = some (.transfer 0 3) ∧
      final.callMoved = [7, 8] := by
  have ends : (runFrom (step 5 0) (begin 0
      (System.initial TimerQueue.sorted 3 100 fun _ => ⟨[1, 0, 0], 1⟩).rt)
      [.call 10 (.asyncRead ⟨5, 0, none⟩) {},
        .wake { recv := .received [7, 8] }]).any
          (fun final => final.returned = some (.transfer 0 3) ∧
            final.callMoved = [7, 8]) = true := by
    decide +kernel
  obtain ⟨final, run, passed⟩ := (Option.any_eq_true _ _).mp ends
  exact ⟨final, run, of_decide_eq_true passed⟩

end Session

end AsyncFrame
