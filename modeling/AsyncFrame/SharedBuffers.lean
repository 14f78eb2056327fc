import AsyncFrame.BadOrders

/-!
# Two operations on one buffer

A transfer of one byte leaves the other operation less to ask for.  Its socket
may answer that with an error of another class.
-/

namespace AsyncFrame

open Lib

variable {queues : TimerQueue}

/-! ## One byte -/

/-- One byte is transferred. -/
def Io.oneByte : Io where
  recv := .received [0]
  send := .sent 1

/-- Every transfer fails with `ETIMEDOUT`. -/
def Io.timedOut : Io where
  recv := .failed ETIMEDOUT
  send := .failed ETIMEDOUT

private theorem Buffer.remain_addOffset_ne {buffer after : Buffer}
    (within : buffer.offset ≤ buffer.capacity)
    (bounded : buffer.capacity < 2 ^ 64) (room : buffer.remain ≠ 0)
    (offset : after.offset = buffer.offset + 1)
    (capacity : after.capacity = buffer.capacity) :
    after.remain ≠ buffer.remain := by
  rw [remain_of_le within bounded] at room ⊢
  rw [remain_of_le (by omega) (by omega)]
  omega

/-- Whichever way the byte goes, one less remains. -/
theorem Buffer.remain_of_oneByte {buffer : Buffer}
    (within : buffer.offset ≤ buffer.capacity)
    (bounded : buffer.capacity < 2 ^ 64) (room : buffer.remain ≠ 0) :
    (tryRead buffer Io.oneByte.recv).2.remain ≠ buffer.remain ∧
      (tryWrite buffer Io.oneByte.send).2.remain ≠ buffer.remain := by
  have below : buffer.offset < buffer.bytes.length := by
    have left := room
    rw [remain_of_le within bounded] at left
    exact Nat.lt_of_sub_ne_zero left
  have read : (tryRead buffer Io.oneByte.recv).2 =
      (buffer.storeAtSeek [0]).addOffset 1 := rfl
  have sent : (tryWrite buffer Io.oneByte.send).2 = buffer.addOffset 1 := by
    simp only [tryWrite, Io.oneByte, Nat.one_ne_zero, if_false]
    split <;> rfl
  rw [read, sent]
  refine ⟨remain_addOffset_ne within bounded room rfl ?_,
    remain_addOffset_ne within bounded room rfl rfl⟩
  simp only [capacity, addOffset, storeAtSeek, List.length_append,
    List.length_take, List.length_drop, List.length_singleton]
  omega

private theorem Operation.serve_timedOut {operation : Operation}
    {buf : BufferRef}
    (named : operation.buf? = some buf) (total : Nat) (rt : Runtime queues) :
    ∃ result, operation.serve .timedOut total rt = some result ∧
      OutcomeClass.of (some result) = .timedOut := by
  cases operation with
  | asyncAccept conn => cases named
  | asyncConnect conn => cases named
  | waitFor delay => cases named
  | _ => exact ⟨_, rfl, rfl⟩

/-- Asked for this many bytes, one socket transfers a byte and the others are
reset; asked for any other number, every transfer times out. -/
def Answers.contended (first : Fd) (asked : Nat) (room : asked ≠ 0) :
    Answers where
  io fd _ remain :=
    if remain = asked then
      if fd = first then .oneByte else .reset
    else .timedOut
  recv fd _ remain := by
    split
    · split
      · rename_i same _
        rw [same]
        exact decide_eq_true (Nat.pos_of_ne_zero room)
      · rfl
    · rfl
  send fd _ remain := by
    split
    · split
      · rename_i same _
        rw [same]
        simp only [Io.oneByte, SendOutcome.possible, Bool.and_eq_true]
        exact ⟨decide_eq_true (Nat.pos_of_ne_zero room), by simp⟩
      · rfl
    · rfl

/-- What a single transfer leaves in the buffer, with the answers to it. -/
theorem Operation.wake_moves {operation : Operation} {rt : Runtime queues}
    {self : Addr} {io : Io} {total : Nat}
    (kept : FilesKept rt (operation.resumeOnce self io total rt).rt)
    (quiet : rt.cancelRequested operation.token? = false)
    (running : timedOut self rt = false) {buf : BufferRef}
    (named : operation.buf? = some buf) :
    (operation.wake self io total rt).rt.buffers buf =
        (tryRead (rt.buffers buf) io.recv).2 ∨
      (operation.wake self io total rt).rt.buffers buf =
        (tryWrite (rt.buffers buf) io.send).2 := by
  obtain ⟨_, _, _, _, moved⟩ :=
    resumeOnce_moves self io total quiet (fun _ => running) named
  rw [wake_eq kept]
  cases (operation.resumeOnce self io total rt).returned with
  | some result => exact moved
  | none =>
      have silent := awaitSuspend_silent operation self
        (operation.resumeOnce self io total rt).rt
      dsimp only
      rw [silent.buffers]
      exact moved

namespace System

variable {s : System queues} {event second : EpollEvent}
variable {evs rest : List EpollEvent}
variable {frame other : Addr} {op otherOp : OpFrame} {buf : BufferRef}

private theorem answer_of_socket {answers : Answers} {operation : Operation}
    {rt : Runtime queues} {fd : Fd} {direction : Direction}
    (socket : operation.socket? = some (fd, direction))
    (named : operation.buf? = some buf) :
    answers.answer rt operation =
      answers.io fd (rt.transfers fd) (rt.buffers buf).remain := by
  have asks : operation.asks rt = (rt.buffers buf).remain := by
    rw [Operation.asks, named, Option.map_some, Option.getD_some]
  simp only [Answers.answer, socket]
  rw [asks]

private theorem Served.verdict_of_reset {answers : Answers}
    (serves : s.Served evs op)
    (answered : answers.answer s.rt op.operation = .reset) :
    s.verdict answers evs op = .completed := by
  obtain ⟨result, served, completed⟩ :=
    op.operation.serve_reset op.total s.rt
  rw [verdict, serves.ready, Bool.true_or, if_pos rfl, serves.quiet,
    if_neg Bool.false_ne_true, serves.unreached, Bool.false_and,
    if_neg Bool.false_ne_true, answered, served]
  exact completed

/-- If one operation goes first, the other one's socket is asked for less. -/
theorem Resolves.full_of_order (resolves : Resolves s evs)
    (fetched : Fetched s evs) (within : Within s)
    (allowed : s.enabled (.epollWait evs) = true)
    (waits : s.pending frame = some op)
    (otherWaits : s.pending other = some otherOp) (different : frame ≠ other)
    (named : op.operation.buf? = some buf)
    (otherNamed : otherOp.operation.buf? = some buf)
    (serves : s.Served evs op) (otherServes : s.Served evs otherOp)
    (same : (event :: second :: rest).Perm evs)
    (own : op.ownEvent event = true)
    (secondOwn : otherOp.ownEvent second = true) :
    (s.rt.buffers buf).remain = 0 := by
  by_contra room
  obtain ⟨⟨fd, direction⟩, socket⟩ :=
    Option.ne_none_iff_exists'.mp (socket_of_own own)
  obtain ⟨⟨otherFd, way⟩, otherSocket⟩ :=
    Option.ne_none_iff_exists'.mp (socket_of_own secondOwn)
  have apart : otherFd ≠ fd := by
    rintro rfl
    exact different (fetched.separate.sockets _ _ _ _ _ _ _ waits otherWaits
      socket otherSocket)
  obtain ⟨answers, answersEq⟩ : ∃ answers, answers =
    Answers.contended fd (s.rt.buffers buf).remain room := ⟨_, rfl⟩
  have answered : answers.answer s.rt op.operation = .oneByte := by
    rw [answer_of_socket socket named, answersEq]
    simp only [Answers.contended, if_true]
  have otherAnswered : answers.answer s.rt otherOp.operation = .reset := by
    rw [answer_of_socket otherSocket otherNamed, answersEq]
    simp only [Answers.contended, if_true, if_neg apart]
  have partway := fetched.good.partway (enabled_of_perm same allowed)
  have standing := fetched.standing waits (event :: second :: rest)
  have otherStanding := fetched.standing otherWaits (event :: second :: rest)
  -- the first operation transfers a byte
  obtain ⟨between, taken, turned, partwayBetween⟩ :=
    partway.turn fetched.separate answers
  obtain ⟨concerns, woke⟩ := turned.woke (partway.targets_own fetched
    (same.mem_iff.mp List.mem_cons_self) waits standing own) standing.waits
  have running := partway.running standing.waits rfl serves.unreached
  have clock := partway.clock_of_own standing.waits concerns own woke
  have kept := partway.kept standing.waits concerns .oneByte
  rw [fetch_rt] at woke running kept
  rw [answered] at woke
  have less : (between.rt.buffers buf).remain ≠
      (s.rt.buffers buf).remain := by
    obtain ⟨inRange, bounded⟩ := within frame op buf waits named
    obtain ⟨reads, writes⟩ :=
      Buffer.remain_of_oneByte inRange bounded room
    rw [woke.rt, fetch_rt]
    rcases Operation.wake_moves kept serves.quiet running named with
      moved | moved
    · rw [moved]
      exact reads
    · rw [moved]
      exact writes
  -- and the second one asks for another number of bytes
  have still := otherStanding.spared (partway.spares fetched standing.waits
    concerns woke otherWaits (Ne.symm different))
  obtain ⟨next, takenNext, turnedNext, partwayNext⟩ :=
    partwayBetween.turn fetched.separate answers
  have secondInside : second ∈ evs :=
    same.mem_iff.mp (List.mem_cons_of_mem event List.mem_cons_self)
  obtain ⟨otherConcerns, otherWoke⟩ := turnedNext.woke
    (partwayBetween.targets_own fetched secondInside otherWaits still
      secondOwn) still.waits
  have late : answers.answer between.rt otherOp.operation = .timedOut := by
    rw [answer_of_socket otherSocket otherNamed, answersEq]
    simp only [Answers.contended, if_neg less]
  rw [late] at otherWoke
  obtain ⟨result, served, timedOut⟩ :=
    Operation.serve_timedOut otherNamed otherOp.total between.rt
  have returned : (otherOp.operation.wake other .timedOut otherOp.total
      between.rt).returned = some result := by
    rw [Operation.wake_returned
      (partwayBetween.kept still.waits otherConcerns .timedOut),
      Operation.resumeOnce_serves, served]
    · rw [partwayBetween.flagged_eq]
      exact otherServes.quiet
    · intro _
      exact partwayBetween.running still.waits clock otherServes.unreached
  have ended := partwayBetween.ended fetched still.waits otherWoke returned
  have drained : drain answers 2 (s.fetch (event :: second :: rest)) =
      some next := by
    rw [drain, taken, Option.bind_some, drain_one, takenNext]
  have finished := resolves.class_of_ended fetched allowed same
    (Nat.add_comm _ 2) drained partwayNext otherWaits ended
  rw [otherServes.verdict_of_reset otherAnswered, timedOut] at finished
  cases finished

/-- In a batch that resolves, two operations that make a transfer share a
buffer only if it has no room. -/
theorem Resolves.apart (resolves : Resolves s evs) (fetched : Fetched s evs)
    (within : Within s) (allowed : s.enabled (.epollWait evs) = true)
    (waits : s.pending frame = some op)
    (otherWaits : s.pending other = some otherOp) (different : frame ≠ other)
    (named : op.operation.buf? = some buf)
    (otherNamed : otherOp.operation.buf? = some buf)
    (serves : s.Served evs op) (otherServes : s.Served evs otherOp) :
    (s.rt.buffers buf).remain = 0 := by
  obtain ⟨event, inside, own⟩ := List.any_eq_true.mp serves.ready
  obtain ⟨second, secondInside, secondOwn⟩ :=
    List.any_eq_true.mp otherServes.ready
  have later : second ∈ evs.erase event := by
    refine (List.mem_erase_of_ne ?_).mpr secondInside
    rintro rfl
    exact different (fetched.frame_of_own otherWaits secondOwn waits own)
  have same : (event :: second :: (evs.erase event).erase second).Perm evs :=
    ((List.perm_cons_erase later).symm.cons event).trans
      (List.perm_cons_erase inside).symm
  exact resolves.full_of_order fetched within allowed waits otherWaits
    different named otherNamed serves otherServes same own secondOwn

end System

end AsyncFrame
