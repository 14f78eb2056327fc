import AsyncFrame.Draining
import AsyncFrame.Effects

/-!
# What wake-ups are for

The loop does not spin: a wake-up that leaves its operation suspended has
moved bytes, or was told by `send` to wait.  Over a whole run the wake-ups are
paid for by the operations that were started and by what the system calls
moved.
-/

namespace AsyncFrame

open Lib

variable {queues : TimerQueue} {rt next : Runtime queues}

/-- The bytes that a system call moved; a `send` that would block counts for
one. -/
def SocketCall.progress : SocketCall → Nat
  | .recv _ _ _ (.received bytes) => bytes.length
  | .recv _ _ _ (.failed _) => 0
  | .send _ _ _ (.sent count) => count
  | .send _ _ _ (.failed errno) =>
      if errno = EWOULDBLOCK ∨ errno = EAGAIN then 1 else 0

namespace Runtime

/-- What all system calls so far moved. -/
def progress (rt : Runtime queues) : Nat :=
  (rt.calls.map SocketCall.progress).sum

/-- At most one system call was made in between. -/
def Grows (rt next : Runtime queues) : Prop :=
  next.calls = rt.calls ∨ ∃ call, next.calls = call :: rt.calls

private theorem progress_of_cons {call : SocketCall}
    (made : next.calls = call :: rt.calls) :
    next.progress = call.progress + rt.progress := by
  simp [progress, made]

private theorem Grows.progress_le (grows : rt.Grows next) :
    rt.progress ≤ next.progress := by
  rcases grows with same | ⟨call, made⟩
  · exact Nat.le_of_eq (by simp [progress, same])
  · rw [progress_of_cons made]
    exact Nat.le_add_left _ _

end Runtime

private theorem Confined.grows {operation : Operation} {io : Io}
    (confined : Confined operation io rt next) : rt.Grows next := by
  rcases confined.calls with same | ⟨call, _, _, made⟩
  · exact Or.inl same
  · exact Or.inr ⟨call, made⟩

private theorem RecvOutcome.progress_of_leavesRoom {buffer : Buffer}
    {outcome : RecvOutcome} (fd : Fd) (offset length : Nat)
    (room : outcome.leavesRoom buffer = true) :
    0 < (SocketCall.recv fd offset length outcome).progress := by
  cases outcome with
  | received bytes =>
      simp only [leavesRoom, Bool.and_eq_true, decide_eq_true_eq] at room
      exact Nat.pos_of_ne_zero room.1
  | failed errno => cases room

private theorem SendOutcome.progress_of_leavesRest {buffer : Buffer}
    {outcome : SendOutcome} (fd : Fd) (offset length : Nat)
    (rest : outcome.leavesRest buffer = true) :
    0 < (SocketCall.send fd offset length outcome).progress := by
  cases outcome with
  | sent count =>
      simp only [leavesRest, Bool.and_eq_true, decide_eq_true_eq] at rest
      exact Nat.pos_of_ne_zero rest.1
  | failed errno =>
      have blocks : errno = EWOULDBLOCK ∨ errno = EAGAIN := by
        simpa [leavesRest] using rest
      simp [SocketCall.progress, blocks]

namespace Operation

variable {operation : Operation} {self : Addr} {io : Io} {total : Nat}

/-- A resumption that goes round has moved something. -/
theorem progress_of_goesRound
    (goesRound : operation.goesRound self io rt = true) :
    rt.progress < (operation.resumeOnce self io total rt).rt.progress := by
  unfold Operation.goesRound at goesRound
  split at goesRound
  · rename_i base reads
    obtain ⟨received, room⟩ := Bool.and_eq_true_iff.mp goesRound
    have made := (resumeOnce_receives self io total reads received).1
    rw [Runtime.progress_of_cons made.calls]
    have moved := RecvOutcome.progress_of_leavesRoom base.conn
      (rt.buffers base.buf).offset (rt.buffers base.buf).remain room
    omega
  · rename_i base _ writes
    obtain ⟨sent, rest⟩ := Bool.and_eq_true_iff.mp goesRound
    have made := (resumeOnce_sends self io total writes sent).1
    rw [Runtime.progress_of_cons made.calls]
    have moved := SendOutcome.progress_of_leavesRest base.conn
      (rt.buffers base.buf).offset (rt.buffers base.buf).remain rest
    omega
  · cases goesRound

private theorem wake_grows
    (kept : FilesKept rt (operation.resumeOnce self io total rt).rt) :
    rt.Grows (operation.wake self io total rt).rt :=
  (wake_confined kept).grows

private theorem wake_progress
    (kept : FilesKept rt (operation.resumeOnce self io total rt).rt)
    (goesRound : operation.goesRound self io rt = true) :
    rt.progress < (operation.wake self io total rt).rt.progress := by
  have waits : (operation.resumeOnce self io total rt).returned = none := by
    rw [← Option.isNone_iff_eq_none, resumeOnce_isNone, goesRound]
  have silent := awaitSuspend_silent operation self
    (operation.resumeOnce self io total rt).rt
  have moved : rt.progress <
      (operation.resumeOnce self io total rt).rt.progress :=
    progress_of_goesRound goesRound
  rw [wake_eq kept, waits]
  simp only [Runtime.progress, silent.calls]
  exact moved

/-- A start makes a system call only if its token was cancelled before. -/
theorem start_grows (operation : Operation) (self : Addr) (io : Io)
    (rt : Runtime queues) : rt.Grows (operation.start self io rt).rt := by
  have entered : rt.Grows (loop self operation 1 0 rt).rt := by
    rw [loop_succ]
    split
    · exact (resumeOnce_confined operation self {} 0 rt).grows
    · exact Or.inl (awaitSuspend_silent operation self rt).calls
  cases operation with
  | asyncConnect conn =>
      simp only [start]
      split
      · exact Or.inl rfl
      · exact Or.inl rfl
      · exact entered
  | _ => exact entered

end Operation

namespace System

variable {s next : System queues} {action : Action}
variable {timerFd : Fd} {uptime : Nat} {buffers : BufferRef → Buffer}
variable {actions : List Action}

/-! ## One step -/

/-- One for a step that resumes an operation. -/
def wakes (s : System queues) (action : Action) : Nat :=
  if (s.completes action).isSome then 1 else 0

/-- One for a step that starts an operation. -/
def begins (_ : System queues) (action : Action) : Nat :=
  if action.starts?.isSome then 1 else 0

theorem complete_rt {pointer : OpPtr} {op : OpFrame} (io : Io)
    (linked : Linked s.frames) (waits : s.pending pointer.frame = some op) :
    (s.complete pointer io).rt =
      (op.operation.wake pointer.frame io op.total s.rt).rt := by
  have found := pendingIn_eq_some.mp waits
  unfold complete
  rw [waits]
  dsimp only
  split
  · rfl
  · split
    · rcases linked.outer _ _ found with outer | ⟨number, outer⟩ <;>
        simp only [resumeOuter, outer]
    · rfl

/-- A step that resumes an operation makes at most one system call, and one
that moves something if the operation stays suspended. -/
theorem Good.grows_of_completes (good : Good s) {pointer : OpPtr}
    {op : OpFrame} (taken : s.step action = some next)
    (woken : s.completes action = some pointer)
    (waits : s.pending pointer.frame = some op) :
    s.rt.Grows next.rt ∧
      ∀ io, action.io? = some io →
        op.operation.goesRound pointer.frame io s.rt = true →
          s.rt.progress < next.rt.progress := by
  obtain ⟨control, io, answers, rfl⟩ := step_completes taken woken
  have linked : Linked (s.withMarks control (s.marks action)).frames :=
    good.linked
  have here : (s.withMarks control (s.marks action)).pending pointer.frame =
      some op := waits
  have kept := (good.resumeOnce_leaves io woken waits).files
  rw [complete_rt io linked here]
  refine ⟨Operation.wake_grows kept, fun other given goesRound => ?_⟩
  rw [answers] at given
  cases given
  exact Operation.wake_progress kept goesRound

/-- A step that resumes nothing makes at most one system call, and that when
it starts an operation. -/
theorem grows_of_asleep (taken : s.step action = some next)
    (asleep : s.completes action = none) : s.rt.Grows next.rt := by
  obtain ⟨allowed, rfl⟩ := step_eq_some taken
  cases action with
  | await frame operation io =>
      obtain ⟨⟨caller, below, stack, _⟩, _⟩ := enabled_await allowed
      have grows := operation.start_grows frame io s.rt
      simp only [perform, System.await, stack]
      cases (operation.start frame io s.rt).returned with
      | none => exact grows
      | some result => exact grows
  | awaitWithTimeout impl frame wrapped delay io =>
      obtain ⟨⟨caller, below, stack, _⟩, _, _, _, operation, timeout, _⟩ :=
        enabled_awaitWithTimeout allowed
      have grows := operation.start_grows frame io s.rt
      simp only [perform, System.awaitWithTimeout, timeout, stack]
      cases (operation.start frame io s.rt).returned with
      | none => exact grows
      | some result => exact grows
  | dispatch io =>
      obtain ⟨_, event, evs, fetched, batch⟩ := enabled_dispatch allowed
      obtain ⟨control, _, performed⟩ := dispatch_cases io batch
      rw [performed, asleep]
      exact Or.inl rfl
  | dispatchWrite io =>
      obtain ⟨_, writeOp, evs, fetched, half⟩ := enabled_dispatchWrite allowed
      simp [completes, half] at asleep
  | requestCancel token =>
      simp only [perform, Runtime.requestCancel]
      split
      · exact Or.inl rfl
      · left
        unfold Runtime.signalCancelled Runtime.setCancelled
        split <;> split <;> rfl
  | _ => exact Or.inl rfl

private theorem waiting_congr (pending : next.pending = s.pending) :
    next.waiting = s.waiting := by
  ext frame
  rw [mem_waiting, mem_waiting, pending]

/-- One more operation is suspended. -/
theorem card_waiting_of_suspends {frame : Addr} {op : OpFrame}
    (pending : next.pending = Function.update s.pending frame (some op)) :
    next.waiting.card ≤ s.waiting.card + 1 := by
  have inside : next.waiting ⊆ insert frame s.waiting := by
    intro other
    rw [mem_waiting, pending, Finset.mem_insert, mem_waiting]
    by_cases same : other = frame
    · exact fun _ => Or.inl same
    · rw [Function.update_of_ne same]
      exact Or.inr
  exact (Finset.card_le_card inside).trans (Finset.card_insert_le _ _)

private theorem wakes_of_completes {pointer : OpPtr}
    (woken : s.completes action = some pointer) : s.wakes action = 1 := by
  rw [wakes, woken]
  rfl

theorem completes_of_starts {operation : Operation}
    (starting : action.starts? = some operation) :
    s.completes action = none := by
  cases action <;> first | rfl | cases starting

/-- A step that starts an operation resumes none. -/
theorem wakes_of_starts {operation : Operation}
    (starting : action.starts? = some operation) :
    s.wakes action = 0 ∧ s.begins action = 1 := by
  rw [wakes, begins, completes_of_starts starting, starting]
  exact ⟨rfl, rfl⟩

/-- What one step pays: a wake-up ends its operation, or moves something. -/
theorem step_pays (good : Good s) (keeps : KeepsPending s action)
    (taken : s.step action = some next) :
    s.wakes action + next.waiting.card + s.rt.progress ≤
      s.waiting.card + next.rt.progress + s.begins action := by
  have move := (step_move good keeps taken).1
  cases move with
  | calm nothing asleep pending =>
      have grows := (grows_of_asleep taken asleep).progress_le
      have silent : s.wakes action = 0 := by
        rw [wakes, asleep]
        rfl
      rw [waiting_congr pending]
      omega
  | suspends frame op _ starting _ _ _ _ pending =>
      have asleep := completes_of_starts (s := s) starting
      have grows := (grows_of_asleep taken asleep).progress_le
      have counted := wakes_of_starts (s := s) starting
      have more := card_waiting_of_suspends pending
      omega
  | passes _ _ _ _ _ starting _ _ _ pending =>
      have asleep := completes_of_starts (s := s) starting
      have grows := (grows_of_asleep taken asleep).progress_le
      have counted := wakes_of_starts (s := s) starting
      rw [waiting_congr pending]
      omega
  | ends pointer op result woken waits pending =>
      have grows :=
        (good.grows_of_completes taken woken waits).1.progress_le
      have fewer := Finset.card_lt_card (waiting_lt waits pending)
      have once := wakes_of_completes woken
      omega
  | rounds pointer op again middle woken waits _ _ _ _ pending =>
      have once := wakes_of_completes woken
      have nothing : action.starts? = none := by
        cases action <;> first | rfl | cases woken
      have same := Finset.card_le_card
        ((step_move good keeps taken).1.waiting_subset nothing)
      obtain ⟨io, answers, changed⟩ := good.completed taken woken waits
      have goesRound : op.operation.goesRound pointer.frame io s.rt =
          true := by
        by_contra beyond
        rw [if_neg beyond, pending] at changed
        have here := congrFun changed pointer.frame
        rw [Function.update_self, Function.update_self] at here
        cases here
      have moved := (good.grows_of_completes taken woken waits).2 io answers
        goesRound
      omega

/-! ## Whole runs -/

/-- In every run the wake-ups, with the operations still suspended, are no
more than the operations that were started and the bytes that were moved,
where a `send` that would block counts for one. -/
theorem wakes_le_progress
    (reached : Reaches KeepsPending timerFd uptime buffers actions s) :
    total step wakes (initial queues timerFd uptime buffers) actions +
        s.waiting.card ≤
      total step begins (initial queues timerFd uptime buffers) actions +
        s.rt.progress := by
  have idle : (initial queues timerFd uptime buffers).waiting.card = 0 := rfl
  have unmoved : (initial queues timerFd uptime buffers).rt.progress = 0 :=
    rfl
  have accounts := total_le_of_run System.step Good wakes begins
    (fun state : System queues => state.waiting.card)
    (fun state => state.rt.progress)
    (fun good keeps taken => (step_move good keeps taken).2)
    (fun good keeps taken => step_pays good keeps taken)
    (good_initial queues timerFd uptime buffers) reached.1 reached.2
  rw [idle, unmoved] at accounts
  rwa [Nat.add_zero, Nat.zero_add, Nat.add_comm s.rt.progress] at accounts

/-- Three wake-ups of a write: two bytes, a `send` that would block, and the
last byte. -/
theorem wakes_le_progress_sample :
    ∃ s : System TimerQueue.sorted,
      Reaches KeepsPending 3 100 (fun _ => ⟨[1, 2, 3], 0⟩)
        [.openFd 5 .socket, .spawn 1,
          .await 10 (.asyncWrite ⟨5, 0, none⟩) {}, .run,
          .epollWait [⟨EPOLLOUT, 5⟩], .dispatch {},
          .dispatchWrite { send := .sent 2 }, .batchEnd,
          .epollWait [⟨EPOLLOUT, 5⟩], .dispatch {},
          .dispatchWrite { send := .failed EAGAIN }, .batchEnd,
          .epollWait [⟨EPOLLOUT, 5⟩], .dispatch {},
          .dispatchWrite { send := .sent 1 }] s ∧
      s.rt.progress = 4 ∧
      3 + s.waiting.card ≤ 1 + s.rt.progress := by
  refine (exists_reaches (fun s => s.rt.progress = 4) ?_ ?_).imp
    fun s ⟨reached, moved⟩ => ⟨reached, of_decide_eq_true moved, ?_⟩
  · decide +kernel
  · decide +kernel
  · exact wakes_le_progress reached

end System

end AsyncFrame
