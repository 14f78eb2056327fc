import AsyncFrame.WriteLoop

/-!
# Buffers as streams

A caller that reads or writes one connection through one buffer, call after
call, while the rest of the program does anything but touch that buffer.  The
bytes that the system calls moved are read off the log of the calls, and
compared with what the buffer and the returned counts say.
-/

namespace AsyncFrame

open Lib

variable {queues : TimerQueue} {rt next : Runtime queues}
variable {operation : Operation} {base : Base} {conn : Fd} {buf : BufferRef}

/-! ## Bytes moved -/

/-- The bytes that a call moved, for the bytes that were in its buffer. -/
def SocketCall.moved (data : List UInt8) : SocketCall → List UInt8
  | .recv _ _ _ (.received bytes) => bytes
  | .recv _ _ _ (.failed _) => []
  | .send _ offset _ (.sent count) => (data.drop offset).take count
  | .send _ _ _ (.failed _) => []

/-- The socket calls made on the way from one runtime to a later one, oldest
first. -/
def Runtime.callsUntil (rt next : Runtime queues) : List SocketCall :=
  (next.calls.take (next.calls.length - rt.calls.length)).reverse

/-- The bytes moved on the way. -/
def Runtime.movedUntil (rt next : Runtime queues) (buf : BufferRef) :
    List UInt8 :=
  (rt.callsUntil next).flatMap (SocketCall.moved (rt.buffers buf).bytes)

/-- From one state of a buffer to a later one, `bytes` were moved: they stand
between the two offsets. -/
structure Buffer.Carried (before after : Buffer)
    (bytes : List UInt8) : Prop where
  capacity : after.capacity = before.capacity
  offset : after.offset = before.offset + bytes.length
  within : after.offset ≤ after.capacity
  stream : after.bytes.take after.offset =
    before.bytes.take before.offset ++ bytes

namespace Buffer

variable {before after : Buffer} {bytes : List UInt8}

private theorem Carried.refl (within : before.offset ≤ before.capacity) :
    before.Carried before [] :=
  ⟨rfl, rfl, within, (List.append_nil _).symm⟩

/-- What is below the first offset is untouched. -/
theorem Carried.below (carried : before.Carried after bytes) {lower : Nat}
    (order : lower ≤ before.offset)
    (within : before.offset ≤ before.capacity) :
    after.bytes.take lower = before.bytes.take lower := by
  have short : lower ≤ (before.bytes.take before.offset).length := by
    rw [List.length_take]
    exact le_min order (order.trans within)
  have longer : lower ≤ after.offset := by
    rw [carried.offset]
    omega
  have same := congrArg (List.take lower) carried.stream
  rw [List.take_take, min_eq_left longer,
    List.take_append_of_le_length short, List.take_take,
    min_eq_left order] at same
  exact same

private theorem carried_tryRead (within : before.offset ≤ before.capacity)
    (bounded : before.capacity < 2 ^ 64) {outcome : RecvOutcome}
    (possible : outcome.possible before.remain = true) :
    before.Carried (tryRead before outcome).2
      (SocketCall.moved before.bytes (.recv conn before.offset before.remain
        outcome)) := by
  cases outcome with
  | failed errno =>
      have kept : (tryRead before (.failed errno)).2 = before := by
        simp only [tryRead]
        split <;> rfl
      rw [kept]
      exact Carried.refl within
  | received bytes =>
      have fits : bytes.length ≤ before.capacity - before.offset := by
        rw [← remain_of_le within bounded]
        exact of_decide_eq_true possible
      have length : before.bytes.length = before.capacity := rfl
      cases bytes with
      | nil => exact Carried.refl within
      | cons head tail =>
          have stored : (tryRead before (.received (head :: tail))).2 =
              (before.storeAtSeek (head :: tail)).addOffset
                (head :: tail).length := by
            simp [tryRead]
          rw [stored]
          simp only [SocketCall.moved]
          refine ⟨?_, rfl, ?_, ?_⟩
          · simp only [capacity, addOffset, storeAtSeek, List.length_append,
              List.length_take, List.length_drop]
            omega
          · simp only [capacity, addOffset, storeAtSeek, List.length_append,
              List.length_take, List.length_drop]
            omega
          · simp only [addOffset, storeAtSeek]
            rw [List.take_append_of_le_length, List.take_of_length_le]
            · simp only [List.length_append, List.length_take]
              omega
            · simp only [List.length_append, List.length_take]
              omega

private theorem carried_tryWrite (within : before.offset ≤ before.capacity)
    (bounded : before.capacity < 2 ^ 64) {outcome : SendOutcome}
    (possible : outcome.possible before.remain = true) :
    before.Carried (tryWrite before outcome).2
      (SocketCall.moved before.bytes (.send conn before.offset before.remain
        outcome)) := by
  cases outcome with
  | failed errno =>
      have kept : (tryWrite before (.failed errno)).2 = before := by
        simp only [tryWrite]
        split <;> rfl
      rw [kept]
      exact Carried.refl within
  | sent count =>
      have fits : count ≤ before.capacity - before.offset := by
        rw [← remain_of_le within bounded]
        simp only [SendOutcome.possible, Bool.and_eq_true] at possible
        exact of_decide_eq_true possible.1
      have length : before.bytes.length = before.capacity := rfl
      have counted : ((before.bytes.drop before.offset).take count).length =
          count := by
        rw [List.length_take, List.length_drop]
        omega
      by_cases nothing : count = 0
      · have kept : (tryWrite before (.sent count)).2 = before := by
          simp [tryWrite, nothing]
        rw [kept, nothing]
        exact Carried.refl within
      · have stored : (tryWrite before (.sent count)).2 =
            before.addOffset count := by
          simp only [tryWrite, nothing, if_false]
          split <;> rfl
        rw [stored]
        refine ⟨rfl, ?_, ?_, ?_⟩
        · simp only [SocketCall.moved, counted, addOffset]
        · simp only [capacity, addOffset]
          omega
        · simp only [SocketCall.moved, addOffset]
          exact List.take_add

end Buffer

namespace Runtime

theorem Silent.movedUntil (silent : rt.Silent next) (buf : BufferRef) :
    rt.movedUntil next buf = [] := by
  simp [Runtime.movedUntil, callsUntil, silent.calls]

theorem callsUntil_cons {call : SocketCall}
    (made : next.calls = call :: rt.calls) :
    rt.callsUntil next = [call] := by
  simp [callsUntil, made]

private theorem Silent.carried (silent : rt.Silent next)
    (within : (rt.buffers buf).offset ≤ (rt.buffers buf).capacity) :
    (rt.buffers buf).Carried (next.buffers buf)
      (rt.movedUntil next buf) := by
  rw [silent.movedUntil, silent.buffers]
  exact Buffer.Carried.refl within

private theorem Receives.carried {outcome : RecvOutcome}
    (made : rt.Receives next conn buf outcome)
    (within : (rt.buffers buf).offset ≤ (rt.buffers buf).capacity)
    (bounded : (rt.buffers buf).capacity < 2 ^ 64)
    (possible : outcome.possible (rt.buffers buf).remain = true) :
    (rt.buffers buf).Carried (next.buffers buf)
      (rt.movedUntil next buf) := by
  rw [Runtime.movedUntil, callsUntil_cons made.calls, made.buffer,
    List.flatMap_singleton]
  exact Buffer.carried_tryRead within bounded possible

private theorem Sends.carried {outcome : SendOutcome}
    (made : rt.Sends next conn buf outcome)
    (within : (rt.buffers buf).offset ≤ (rt.buffers buf).capacity)
    (bounded : (rt.buffers buf).capacity < 2 ^ 64)
    (possible : outcome.possible (rt.buffers buf).remain = true) :
    (rt.buffers buf).Carried (next.buffers buf)
      (rt.movedUntil next buf) := by
  rw [Runtime.movedUntil, callsUntil_cons made.calls, made.buffer,
    List.flatMap_singleton]
  exact Buffer.carried_tryWrite within bounded possible

end Runtime

/-! ## What one stretch moves and reports -/

namespace Operation

/-- The connection and the buffer of a read or a write. -/
def transfers? : Operation → Option (Fd × BufferRef)
  | .asyncRead base => some (base.conn, base.buf)
  | .asyncReadTimeout base _ => some (base.conn, base.buf)
  | .asyncReadSome conn buf => some (conn, buf)
  | .asyncWrite base => some (base.conn, base.buf)
  | .asyncWriteTimeout base _ => some (base.conn, base.buf)
  | _ => none

/-- The system call that the operation would make can answer so. -/
def possible (io : Io) (remain : Nat) : Operation → Bool
  | .asyncWrite _ => io.send.possible remain
  | .asyncWriteTimeout _ _ => io.send.possible remain
  | _ => io.recv.possible remain

/-- What the operation's count contains besides the bytes of its last
stretch: the two loops of `async_read` report the buffer's offset, those of
`async_write` their `total_len`. -/
def counted (total offset : Nat) : Operation → Nat
  | .asyncRead _ => offset
  | .asyncReadTimeout _ _ => offset
  | .asyncWrite _ => total
  | .asyncWriteTimeout _ _ => total
  | _ => 0

/-- A transfer is a read loop, an `async_read_some` or a write loop. -/
theorem transfers_cases (transfers : operation.transfers? = some (conn, buf)) :
    (∃ base, operation.reads? = some base ∧ base.conn = conn ∧
        base.buf = buf) ∨
      operation = .asyncReadSome conn buf ∨
      ∃ base, operation.writes? = some base ∧ base.conn = conn ∧
        base.buf = buf := by
  cases operation with
  | asyncRead base =>
      cases transfers
      exact Or.inl ⟨base, rfl, rfl, rfl⟩
  | asyncReadTimeout base delay =>
      cases transfers
      exact Or.inl ⟨base, rfl, rfl, rfl⟩
  | asyncReadSome conn buf =>
      cases transfers
      exact Or.inr (Or.inl rfl)
  | asyncWrite base =>
      cases transfers
      exact Or.inr (Or.inr ⟨base, rfl, rfl, rfl⟩)
  | asyncWriteTimeout base delay =>
      cases transfers
      exact Or.inr (Or.inr ⟨base, rfl, rfl, rfl⟩)
  | asyncAccept conn => cases transfers
  | asyncConnect conn => cases transfers
  | waitFor delay => cases transfers

theorem counted_of_reads (reads : operation.reads? = some base)
    (total offset : Nat) : operation.counted total offset = offset := by
  rcases reads_cases reads with rfl | ⟨delay, rfl⟩ <;> rfl

theorem counted_of_writes (writes : operation.writes? = some base)
    (total offset : Nat) : operation.counted total offset = total := by
  rcases writes_cases writes with rfl | ⟨delay, rfl⟩ <;> rfl

theorem buf_of_writes (writes : operation.writes? = some base)
    (transfers : operation.transfers? = some (conn, buf)) :
    base.buf = buf := by
  rcases writes_cases writes with rfl | ⟨delay, rfl⟩
  · cases transfers
    rfl
  · cases transfers
    rfl

private theorem possible_of_reads (reads : operation.reads? = some base)
    (io : Io) (remain : Nat) : operation.possible io remain =
      io.recv.possible remain := by
  rcases reads_cases reads with rfl | ⟨delay, rfl⟩ <;> rfl

theorem possible_of_writes (writes : operation.writes? = some base) (io : Io)
    (remain : Nat) : operation.possible io remain =
      io.send.possible remain := by
  rcases writes_cases writes with rfl | ⟨delay, rfl⟩ <;> rfl

end Operation

/-- What a stretch of a transfer on `buf` did: the buffer carries what was
moved, and the count is right up to what it contains besides, whether it is
returned or kept. -/
structure Stretch.Accounts (stretch : Stretch queues) (rt : Runtime queues)
    (buf : BufferRef) (operation : Operation) (total : Nat) : Prop where
  carried : (rt.buffers buf).Carried (stretch.rt.buffers buf)
    (rt.movedUntil stretch.rt buf)
  ends : ∀ result, stretch.returned = some result →
    ∃ ec, result = .transfer ec
      (operation.counted total (rt.buffers buf).offset +
        (rt.movedUntil stretch.rt buf).length)
  goesOn : stretch.returned = none →
    operation.counted stretch.total (stretch.rt.buffers buf).offset =
      operation.counted total (rt.buffers buf).offset +
        (rt.movedUntil stretch.rt buf).length

/-- A write's stretch besides: the view stays the same, and if some of it was
left to send, then the empty error code says that all of it is sent. -/
structure Stretch.Sends (stretch : Stretch queues) (rt : Runtime queues)
    (buf : BufferRef) : Prop where
  data : (stretch.rt.buffers buf).bytes = (rt.buffers buf).bytes
  ends : (rt.buffers buf).done = false →
    ∀ result, stretch.returned = some result →
      (result.ec = 0 ↔ (stretch.rt.buffers buf).done = true)
  goesOn : (rt.buffers buf).done = false → stretch.returned = none →
    (stretch.rt.buffers buf).done = false

private theorem readBody_count {buffer : Buffer} {awaited returned : ReadRet}
    (ends : readBody buffer awaited = some returned) :
    returned.2 = buffer.readCount := by
  unfold readBody at ends
  split at ends
  · cases ends
    rfl
  · split at ends
    · cases ends
      rfl
    · split at ends
      · cases ends
        rfl
      · cases ends

private theorem tryWrite_offset (buffer : Buffer) (outcome : SendOutcome) :
    (tryWrite buffer outcome).2.offset =
      buffer.offset + (tryWrite buffer outcome).1.count := by
  cases outcome with
  | failed errno =>
      simp only [tryWrite]
      split <;> rfl
  | sent count =>
      simp only [tryWrite]
      split
      · rfl
      · split <;> rfl

/-- The body of a write's loop adds up, and returns the sum. -/
theorem writeBody_count (total : Nat) (awaited : WriteRet) :
    (writeBody total awaited).1 = total + awaited.count ∧
      ∀ returned, (writeBody total awaited).2 = some returned →
        returned = (awaited.ec, total + awaited.count) := by
  unfold writeBody
  split
  · exact ⟨rfl, fun returned ended => by cases ended⟩
  · exact ⟨rfl, fun returned ended => (Option.some.inj ended).symm⟩

private theorem writeBody_ends {total sum : Nat} {awaited : WriteRet}
    {returned : ReadRet}
    (ends : writeBody total awaited = (sum, some returned)) :
    awaited.status ≠ .inProgress ∧
      returned = (awaited.ec, total + awaited.count) := by
  unfold writeBody at ends
  split at ends
  · cases ends
  · rename_i stopped
    cases ends
    exact ⟨stopped, rfl⟩

private theorem writeBody_goesOn {total sum : Nat} {awaited : WriteRet}
    (goesOn : writeBody total awaited = (sum, none)) :
    awaited.status = .inProgress := by
  unfold writeBody at goesOn
  split at goesOn
  · rename_i status
    exact status
  · cases goesOn

private theorem tryWrite_bytes (buffer : Buffer) (outcome : SendOutcome) :
    (tryWrite buffer outcome).2.bytes = buffer.bytes := by
  cases outcome with
  | failed errno =>
      simp only [tryWrite]
      split <;> rfl
  | sent count =>
      simp only [tryWrite]
      split
      · rfl
      · split <;> rfl

/-- With something left to send, `try_write` says that the write is over
exactly with an error or with nothing left. -/
theorem tryWrite_room {buffer : Buffer} {outcome : SendOutcome}
    (possible : outcome.possible buffer.remain = true)
    (room : buffer.done = false) :
    ((tryWrite buffer outcome).1.status ≠ .inProgress →
        ((tryWrite buffer outcome).1.ec = 0 ↔
          (tryWrite buffer outcome).2.done = true)) ∧
      ((tryWrite buffer outcome).1.status = .inProgress →
        (tryWrite buffer outcome).2.done = false) := by
  cases outcome with
  | failed errno =>
      have present : errno ≠ 0 := of_decide_eq_true possible
      simp only [tryWrite]
      split
      · exact ⟨fun stopped => absurd rfl stopped, fun _ => room⟩
      · refine ⟨fun _ => ?_, fun goesOn => by cases goesOn⟩
        exact iff_of_false present (by simp [room])
  | sent count =>
      have something : count ≠ 0 := by
        intro nothing
        simp only [SendOutcome.possible, Bool.and_eq_true] at possible
        have full : buffer.remain = 0 :=
          of_decide_eq_true possible.2 nothing
        simp [Buffer.done, full] at room
      simp only [tryWrite, something, if_false]
      split
      · rename_i full
        exact ⟨fun _ => iff_of_true rfl full, fun goesOn => by cases goesOn⟩
      · rename_i more
        exact ⟨fun stopped => absurd rfl stopped,
          fun _ => Bool.eq_false_iff.mpr more⟩

theorem readBody_ec {buffer : Buffer} {awaited returned : ReadRet}
    (ends : readBody buffer awaited = some returned) :
    returned.1 = awaited.1 := by
  unfold readBody at ends
  split at ends
  · cases ends
    rfl
  · split at ends
    · cases ends
      rfl
    · split at ends
      · cases ends
        rfl
      · cases ends

/-- A `recv` that fails brings no bytes. -/
theorem tryRead_error (buffer : Buffer) {outcome : RecvOutcome}
    {data : List UInt8} {offset length : Nat}
    (error : (tryRead buffer outcome).1.1 ≠ 0) :
    SocketCall.moved data (.recv conn offset length outcome) = [] := by
  cases outcome with
  | failed errno => rfl
  | received bytes =>
      cases bytes with
      | nil => rfl
      | cons head tail => simp [tryRead] at error

/-- A `send` that fails takes none. -/
theorem tryWrite_error (buffer : Buffer) {outcome : SendOutcome}
    {data : List UInt8} {offset length : Nat}
    (error : (tryWrite buffer outcome).1.ec ≠ 0) :
    SocketCall.moved data (.send conn offset length outcome) = [] := by
  cases outcome with
  | failed errno => rfl
  | sent count =>
      simp only [tryWrite] at error
      split at error
      · exact absurd rfl error
      · split at error <;> exact absurd rfl error

namespace Operation

variable {self : Addr} {io : Io} {total : Nat}

private theorem loop_accounts (self : Addr) (turns total : Nat)
    (rt : Runtime queues) (transfers : operation.transfers? = some (conn, buf))
    (within : (rt.buffers buf).offset ≤ (rt.buffers buf).capacity) :
    (loop self operation (turns + 1) total rt).Accounts rt buf operation
      total := by
  rcases transfers_cases transfers with
    ⟨base, reads, rfl, rfl⟩ | rfl | ⟨base, writes, rfl, rfl⟩
  · obtain ⟨silent, returned⟩ :=
      loop_silent self turns total rt reads
    refine ⟨silent.carried within, fun result ended => ?_, ?_⟩
    · rw [returned] at ended
      split at ended
      · cases ended
        rw [silent.movedUntil, counted_of_reads reads]
        exact ⟨_, rfl⟩
      · cases ended
    · intro _
      rw [counted_of_reads reads, counted_of_reads reads]
      exact (silent.carried within).offset
  · have silent := awaitSuspend_silent (.asyncReadSome conn buf) self rt
    refine ⟨silent.carried within, ?_, fun _ => ?_⟩
    · rintro result ⟨⟩
    · change 0 = 0 + (rt.movedUntil
        (awaitSuspend self rt (.asyncReadSome conn buf)).1 buf).length
      rw [silent.movedUntil]
      rfl
  · obtain ⟨silent, returned, kept⟩ :=
      loop_silent_write self turns total rt writes
    refine ⟨silent.carried within, fun result ended => ?_, ?_⟩
    · rw [returned] at ended
      split at ended
      · cases ended
        rw [silent.movedUntil, counted_of_writes writes]
        exact ⟨_, rfl⟩
      · cases ended
    · intro pending
      rw [silent.movedUntil, counted_of_writes writes,
        counted_of_writes writes]
      apply kept
      rw [returned] at pending
      simpa using pending

theorem start_accounts (self : Addr) (io : Io)
    (transfers : operation.transfers? = some (conn, buf))
    (within : (rt.buffers buf).offset ≤ (rt.buffers buf).capacity) :
    (operation.start self io rt).Accounts rt buf operation 0 := by
  have looped := loop_accounts self 0 0 rt transfers within
  cases operation with
  | asyncConnect conn => cases transfers
  | _ => exact looped

private theorem wake_accounts_of_reads (self : Addr) (io : Io) (total : Nat)
    (reads : operation.reads? = some base)
    (within : (rt.buffers base.buf).offset ≤
      (rt.buffers base.buf).capacity)
    (bounded : (rt.buffers base.buf).capacity < 2 ^ 64)
    (possible :
      operation.possible io (rt.buffers base.buf).remain = true) :
    (operation.wake self io total rt).Accounts rt base.buf operation
      total := by
  rw [possible_of_reads reads] at possible
  cases received : operation.receives self rt with
  | false =>
      obtain ⟨silent, returned⟩ :=
        wake_misses self io total reads received
      refine ⟨silent.carried within, fun result ended => ?_,
        fun pending => ?_⟩
      · rw [returned] at ended
        cases ended
        rw [silent.movedUntil, counted_of_reads reads]
        exact ⟨_, rfl⟩
      · rw [returned] at pending
        cases pending
  | true =>
      obtain ⟨made, returned⟩ :=
        wake_receives self io total reads received
      have carried := made.carried within bounded possible
      have offset : (tryRead (rt.buffers base.buf) io.recv).2.offset =
          (rt.buffers base.buf).offset +
            (rt.movedUntil (operation.wake self io total rt).rt
              base.buf).length := by
        rw [← made.buffer]
        exact carried.offset
      refine ⟨carried, fun result ended => ?_, fun _ => ?_⟩
      · rw [counted_of_reads reads, ← offset]
        split at returned
        · rename_i pair body
          have same := Option.some.inj (returned.symm.trans ended)
          rw [← same, OpResult.ofPair, readBody_count body]
          exact ⟨_, rfl⟩
        · rw [ended] at returned
          split at returned
          · cases returned
            exact ⟨_, rfl⟩
          · cases returned
      · rw [counted_of_reads reads, counted_of_reads reads]
        exact carried.offset

private theorem wake_accounts_of_readSome (self : Addr) (io : Io) (total : Nat)
    (within : (rt.buffers buf).offset ≤ (rt.buffers buf).capacity)
    (bounded : (rt.buffers buf).capacity < 2 ^ 64)
    (possible : (Operation.asyncReadSome conn buf).possible io
      (rt.buffers buf).remain = true) :
    ((Operation.asyncReadSome conn buf).wake self io total rt).Accounts rt
      buf (.asyncReadSome conn buf) total := by
  obtain ⟨made, returned⟩ := wake_readSome self conn buf io total rt
  refine ⟨made.carried within bounded possible, fun result ended => ?_,
    fun pending => ?_⟩
  · have same := Option.some.inj (returned.symm.trans ended)
    rw [← same, OpResult.ofPair, Runtime.movedUntil,
      Runtime.callsUntil_cons made.calls, List.flatMap_singleton]
    exact ⟨_, congrArg (OpResult.transfer _) (by
      cases io.recv with
      | failed errno =>
          simp only [tryRead, SocketCall.moved]
          split <;> rfl
      | received bytes =>
          cases bytes with
          | nil => rfl
          | cons head tail => simp [tryRead, SocketCall.moved, counted])⟩
  · rw [returned] at pending
    cases pending

private theorem wake_accounts_of_writes (self : Addr) (io : Io) (total : Nat)
    (writes : operation.writes? = some base)
    (within : (rt.buffers base.buf).offset ≤
      (rt.buffers base.buf).capacity)
    (bounded : (rt.buffers base.buf).capacity < 2 ^ 64)
    (possible :
      operation.possible io (rt.buffers base.buf).remain = true) :
    (operation.wake self io total rt).Accounts rt base.buf operation
      total := by
  rw [possible_of_writes writes] at possible
  cases sent : operation.sends self rt with
  | false =>
      obtain ⟨silent, returned⟩ := wake_skips self io total writes sent
      refine ⟨silent.carried within, fun result ended => ?_,
        fun pending => ?_⟩
      · rw [returned] at ended
        cases ended
        rw [silent.movedUntil, counted_of_writes writes]
        exact ⟨_, rfl⟩
      · rw [returned] at pending
        cases pending
  | true =>
      obtain ⟨made, returned⟩ := wake_sends self io total writes sent
      have carried := made.carried within bounded possible
      have count : (tryWrite (rt.buffers base.buf) io.send).1.count =
          (rt.movedUntil (operation.wake self io total rt).rt
            base.buf).length := by
        have offset := carried.offset
        rw [made.buffer, tryWrite_offset] at offset
        omega
      obtain ⟨added, summed⟩ := writeBody_count total
        (tryWrite (rt.buffers base.buf) io.send).1
      rw [count] at added summed
      refine ⟨carried, fun result ended => ?_, fun pending => ?_⟩
      · rw [counted_of_writes writes]
        split at returned
        · rename_i sum pair body
          rw [body] at summed
          have same := Option.some.inj (returned.symm.trans ended)
          rw [← same, summed pair rfl]
          exact ⟨_, rfl⟩
        · rename_i sum body
          rw [body] at added
          rw [returned.1] at ended
          split at ended
          · cases ended
            exact ⟨_, congrArg _ added⟩
          · cases ended
      · split at returned
        · rw [returned] at pending
          cases pending
        · rename_i sum body
          rw [body] at added
          rw [counted_of_writes writes, counted_of_writes writes,
            returned.2 pending]
          exact added

theorem wake_accounts (self : Addr) (io : Io) (total : Nat)
    (transfers : operation.transfers? = some (conn, buf))
    (within : (rt.buffers buf).offset ≤ (rt.buffers buf).capacity)
    (bounded : (rt.buffers buf).capacity < 2 ^ 64)
    (possible : operation.possible io (rt.buffers buf).remain = true) :
    (operation.wake self io total rt).Accounts rt buf operation total := by
  rcases transfers_cases transfers with
    ⟨base, reads, rfl, rfl⟩ | rfl | ⟨base, writes, rfl, rfl⟩
  · exact wake_accounts_of_reads self io total reads within bounded possible
  · exact wake_accounts_of_readSome self io total within bounded possible
  · exact wake_accounts_of_writes self io total writes within bounded
      possible

/-- Going round its loop, a write sends nothing. -/
theorem loop_sends (self : Addr) (turns total : Nat)
    (writes : operation.writes? = some base) :
    (loop self operation (turns + 1) total rt).Sends rt base.buf := by
  obtain ⟨silent, returned, _⟩ :=
    loop_silent_write self turns total rt writes
  refine ⟨?_, fun room result ended => ?_, fun room _ => ?_⟩
  · rw [silent.buffers]
  · rw [returned] at ended
    rw [ec_of_goneRound ended, silent.buffers, room]
    decide
  · rw [silent.buffers]
    exact room

theorem start_sends (self : Addr) (io : Io)
    (writes : operation.writes? = some base) :
    (operation.start self io rt).Sends rt base.buf := by
  rw [start_of_writes self io writes]
  exact loop_sends self 0 0 writes

theorem wake_sends_whole (self : Addr) (io : Io) (total : Nat)
    (writes : operation.writes? = some base)
    (possible : io.send.possible (rt.buffers base.buf).remain = true) :
    (operation.wake self io total rt).Sends rt base.buf := by
  cases sent : operation.sends self rt with
  | false =>
      obtain ⟨silent, returned⟩ := wake_skips self io total writes sent
      refine ⟨?_, fun room result ended => ?_, fun room pending => ?_⟩
      · rw [silent.buffers]
      · have same := Option.some.inj (returned.symm.trans ended)
        rw [← same, silent.buffers, room]
        exact iff_of_false (operation.refusal_ne_zero rt) (by decide)
      · rw [returned] at pending
        cases pending
  | true =>
      obtain ⟨made, returned⟩ := wake_sends self io total writes sent
      refine ⟨?_, fun room result ended => ?_, fun room pending => ?_⟩
      · rw [made.buffer, tryWrite_bytes]
      · obtain ⟨ends, goesOn⟩ := tryWrite_room possible room
        rw [made.buffer]
        split at returned
        · rename_i sum pair body
          have same := Option.some.inj (returned.symm.trans ended)
          obtain ⟨stopped, rfl⟩ := writeBody_ends body
          rw [← same]
          exact ends stopped
        · rename_i sum body
          rw [returned.1] at ended
          rw [ec_of_goneRound ended, goesOn (writeBody_goesOn body)]
          decide
      · obtain ⟨_, goesOn⟩ := tryWrite_room possible room
        rw [made.buffer]
        split at returned
        · rw [returned] at pending
          cases pending
        · rename_i sum body
          exact goesOn (writeBody_goesOn body)

/-- An `await_resume` that reports an error has moved nothing. -/
theorem resumeOnce_error (self : Addr) (io : Io) (total : Nat)
    (transfers : operation.transfers? = some (conn, buf)) {result : OpResult}
    (returned : (operation.resumeOnce self io total rt).returned =
      some result)
    (error : result.ec ≠ 0) :
    rt.movedUntil (operation.resumeOnce self io total rt).rt buf = [] := by
  rcases transfers_cases transfers with
    ⟨base, reads, rfl, rfl⟩ | rfl | ⟨base, writes, rfl, rfl⟩
  · cases received : operation.receives self rt with
    | false =>
        obtain ⟨silent, _⟩ := resumeOnce_misses self io total reads received
        exact silent.movedUntil _
    | true =>
        obtain ⟨made, ended⟩ :=
          resumeOnce_receives self io total reads received
        rw [Runtime.movedUntil, Runtime.callsUntil_cons made.calls,
          List.flatMap_singleton]
        refine tryRead_error (rt.buffers base.buf) ?_
        rw [ended, Option.map_eq_some_iff] at returned
        obtain ⟨pair, body, rfl⟩ := returned
        rw [← readBody_ec body]
        exact error
  · obtain ⟨made, ended⟩ := wake_readSome self conn buf io total rt
    have same := Option.some.inj (ended.symm.trans returned)
    change rt.movedUntil ((asyncReadSome conn buf).wake self io total rt).rt
      buf = []
    rw [Runtime.movedUntil, Runtime.callsUntil_cons made.calls,
      List.flatMap_singleton]
    refine tryRead_error (rt.buffers buf) ?_
    rw [← same] at error
    exact error
  · cases sent : operation.sends self rt with
    | false =>
        obtain ⟨silent, _⟩ := resumeOnce_skips self io total writes sent
        exact silent.movedUntil _
    | true =>
        obtain ⟨made, _, ended⟩ := resumeOnce_sends self io total writes sent
        rw [Runtime.movedUntil, Runtime.callsUntil_cons made.calls,
          List.flatMap_singleton]
        refine tryWrite_error (rt.buffers base.buf) ?_
        rw [ended, Option.map_eq_some_iff] at returned
        obtain ⟨pair, body, rfl⟩ := returned
        obtain ⟨_, summed⟩ := writeBody_count total
          (tryWrite (rt.buffers base.buf) io.send).1
        rw [summed pair body] at error
        exact error

end Operation

end AsyncFrame
