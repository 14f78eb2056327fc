import AsyncFrame.Events

/-!
# Buffers and single transfers

`buffer.h`, `do_read.h`, `do_write.h`, and the bodies of the loops in
`async_read_impl` and `async_write_impl` after each `co_await`.
-/

namespace AsyncFrame

/-- `a - b` on `size_t`. -/
def sizeSub (left right : Nat) : Nat :=
  (left + 2 ^ 64 - right) % 2 ^ 64

/-- A `DynamicBuffer` whose size is its capacity, or a `Buffer_View`: the
bytes behind it and how far it has been used. -/
structure Buffer where
  bytes : List UInt8
  offset : Nat := 0
  deriving DecidableEq, Repr

namespace Buffer

/-- `capacity()` of a `DynamicBuffer`, `size()` of a `Buffer_View`. -/
def capacity (buffer : Buffer) : Nat := buffer.bytes.length

def remain (buffer : Buffer) : Nat :=
  sizeSub buffer.capacity buffer.offset

def done (buffer : Buffer) : Bool := buffer.remain = 0

def readCount (buffer : Buffer) : Nat := buffer.offset

def clear (buffer : Buffer) : Buffer := { buffer with offset := 0 }

/-- `operator+=`. -/
def addOffset (buffer : Buffer) (count : Nat) : Buffer :=
  { buffer with offset := buffer.offset + count }

/-- What `recv(fd, seek(), ...)` does to the bytes. -/
def storeAtSeek (buffer : Buffer) (received : List UInt8) : Buffer :=
  { buffer with
    bytes := buffer.bytes.take buffer.offset ++ received ++
      buffer.bytes.drop (buffer.offset + received.length) }

theorem remain_of_le {buffer : Buffer}
    (within : buffer.offset ≤ buffer.capacity)
    (bounded : buffer.capacity < 2 ^ 64) :
    buffer.remain = buffer.capacity - buffer.offset := by
  have reduced : buffer.capacity + 2 ^ 64 - buffer.offset =
      (buffer.capacity - buffer.offset) + 2 ^ 64 := by omega
  rw [remain, sizeSub, reduced, Nat.add_mod_right]
  exact Nat.mod_eq_of_lt (by omega)

end Buffer

/-- What one call of `recv` gives; no bytes is an orderly close. -/
inductive RecvOutcome where
  | received (bytes : List UInt8)
  | failed (errno : Errno)
  deriving DecidableEq, Repr

/-- What one call of `send` gives. -/
inductive SendOutcome where
  | sent (count : Nat)
  | failed (errno : Errno)
  deriving DecidableEq, Repr

inductive OpStatus where
  | errorous
  | inProgress
  | cancelled
  | shutdown
  | completed
  | timeout
  deriving DecidableEq, Repr

/-- `read_ret_t` and `result_t`. -/
abbrev ReadRet := ErrorCode × Nat

/-- `write_ret_t`. -/
structure WriteRet where
  ec : ErrorCode
  count : Nat
  status : OpStatus
  deriving DecidableEq, Repr

/-- `try_read`. -/
def tryRead (buffer : Buffer) : RecvOutcome → ReadRet × Buffer
  | .failed errno =>
      if errno = EWOULDBLOCK ∨ errno = EAGAIN then
        ((0, 0), buffer)
      else
        ((errno, 0), buffer)
  | .received bytes =>
      if bytes.length = 0 then
        ((0, 0), buffer)
      else
        -- the source returns the same pair whether or not the buffer is full
        ((0, bytes.length),
          (buffer.storeAtSeek bytes).addOffset bytes.length)

/-- `try_write`. -/
def tryWrite (buffer : Buffer) : SendOutcome → WriteRet × Buffer
  | .failed errno =>
      if errno = EWOULDBLOCK ∨ errno = EAGAIN then
        (⟨0, 0, .inProgress⟩, buffer)
      else
        (⟨errno, 0, .errorous⟩, buffer)
  | .sent count =>
      if count = 0 then
        (⟨0, 0, .shutdown⟩, buffer)
      else
        let buffer := buffer.addOffset count
        if buffer.done then
          (⟨0, count, .completed⟩, buffer)
        else
          (⟨0, count, .inProgress⟩, buffer)

/-- The body of the loop of `async_read_impl` and `async_read_timeout_impl`
after its `co_await`: the pair returned, or none to go round again.  The
buffer is the one the awaiter left. -/
def readBody (buffer : Buffer) (awaited : ReadRet) : Option ReadRet :=
  if awaited.1 ≠ 0 then
    some (awaited.1, buffer.readCount)
  else if awaited.2 = 0 then
    some (awaited.1, buffer.readCount)
  else if buffer.done then
    some (awaited.1, buffer.readCount)
  else
    none

/-- The body of the loop of `async_write_impl` and `async_write_timeout_impl`:
the new `total_len`, and the pair returned, or none to go round again. -/
def writeBody (total : Nat) (awaited : WriteRet) : Nat × Option ReadRet :=
  let total := total + awaited.count
  if awaited.status = .inProgress then
    (total, none)
  else
    (total, some (awaited.ec, total))

/-- Anything but the empty error code ends a read. -/
theorem readBody_of_error {buffer : Buffer} {awaited : ReadRet}
    (error : awaited.1 ≠ 0) :
    readBody buffer awaited = some (awaited.1, buffer.readCount) := by
  simp [readBody, error]

theorem writeBody_of_ended {total : Nat} {awaited : WriteRet}
    (ended : awaited.status ≠ .inProgress) :
    writeBody total awaited =
      (total + awaited.count,
        some (awaited.ec, total + awaited.count)) := by
  simp [writeBody, ended]

end AsyncFrame
