import AsyncFrame.CancelBroadcast
import AsyncFrame.Draining
import AsyncFrame.Threads

/-!
# Cancellations arrive

When the compare-exchange falls between two actions of the scheduler's thread,
an operation suspended with the token ends from then on with
`operation_canceled`, or still has its wake-up to come: the eventfd can be
read, or one thread is about to write to it.
-/

namespace AsyncFrame

open AsyncFrame.Lib

namespace System

variable {queues : TimerQueue} {s next : System queues} {action : Action}
variable {token : Fd} {frame : Addr} {op : OpFrame}

/-- The operation has ended with `operation_canceled`. -/
def Cancelled (number : Nat) (s : System queues) : Prop :=
  ∃ result, .finished number result ∈ s.trace ∧
    result.ec = operationCancelledError

/-- With its token cancelled an operation ends as such in the step that wakes
it. -/
theorem Move.cancelled (move : Move action s next)
    (waits : s.pending frame = some op)
    (named : op.operation.token? = some token)
    (flag : s.rt.tokenFlag token = true) {pointer : OpPtr}
    (woken : s.completes action = some pointer) (own : pointer.frame = frame) :
    Cancelled op.number next := by
  subst own
  cases move with
  | calm _ asleep => simp [woken] at asleep
  | suspends _ _ _ starting =>
      simp [completes_of_starts starting] at woken
  | passes _ _ _ _ _ starting =>
      simp [completes_of_starts starting] at woken
  | ends other ended result wakes here pending leaves cancelled goesOn
      counted trace =>
      rw [woken] at wakes
      cases wakes
      rw [waits] at here
      cases here
      refine ⟨result, ?_, cancelled (requested_of_flag flag named)⟩
      rw [trace]
      simp
  | rounds other ended again middle wakes here operation outer number quiet =>
      rw [woken] at wakes
      cases wakes
      rw [waits] at here
      cases here
      rw [requested_of_flag flag named] at quiet
      cases quiet

/-- Until then it stays suspended, and its token cancelled. -/
theorem Move.awaits (move : Move action s next)
    (taken : s.step action = some next) (waits : s.pending frame = some op)
    (named : op.operation.token? = some token)
    (flag : s.rt.tokenFlag token = true) :
    Cancelled op.number next ∨
      next.pending frame = some op ∧ next.rt.tokenFlag token = true := by
  by_cases own : ∃ pointer, s.completes action = some pointer ∧
      pointer.frame = frame
  · obtain ⟨pointer, woken, same⟩ := own
    exact Or.inl (move.cancelled waits named flag woken same)
  · have stays : action ≠ .closeFd token := by
      rintro rfl
      obtain ⟨allowed, _⟩ := step_eq_some taken
      simp only [enabled, Bool.and_eq_true, Bool.not_eq_true'] at allowed
      have untouched := anyPending_eq_false allowed.2 waits
      rw [Operation.touches_iff.mpr (Or.inr named)] at untouched
      cases untouched
    refine Or.inr ⟨?_, move.tokenFlag stays flag⟩
    have free : ∀ {other : Addr}, s.frames.lookup other = none →
        frame ≠ other := by
      rintro other free rfl
      rw [System.pending, pendingIn_of_free free] at waits
      cases waits
    cases move with
    | calm _ _ pending => rwa [pending]
    | suspends other _ _ _ _ absent _ _ pending =>
        rwa [pending, Function.update_of_ne (free absent)]
    | passes _ _ _ _ _ _ _ _ _ pending => rwa [pending]
    | ends pointer _ _ woken _ pending =>
        rwa [pending, Function.update_of_ne]
        exact fun same => own ⟨pointer, woken, same.symm⟩
    | rounds pointer _ _ _ woken _ _ _ _ _ pending =>
        rwa [pending, Function.update_of_ne]
        exact fun same => own ⟨pointer, woken, same.symm⟩

end System

namespace Threads

variable {queues : TimerQueue} {t next final : Threads queues}
variable {thread : Nat} {token : Fd} {frame : Addr} {op : OpFrame}
variable {timerFd : Fd} {uptime : Nat} {buffers : BufferRef → Buffer}
variable {before after : List Action}

/-- The program, the calls and the slots of the tokens are in order. -/
structure Mailed (t : Threads queues) : Prop where
  running : Running t
  tokens : System.Filed .cancel t.program

private theorem Mailed.step (mailed : Mailed t) {action : Action}
    (holders : Meeting System.OneHolder t action)
    (taken : t.step action = some next) : Mailed next := by
  have keeps : Meeting System.KeepsPending t action := by
    cases action with
    | program act => exact holders.1
    | _ => trivial
  refine ⟨mailed.running.step keeps taken,
    filed_step mailed.running mailed.tokens keeps ?_ taken⟩
  cases action with
  | program act => exact holders.2
  | _ => trivial

/-- The operation waits with its token cancelled. -/
structure Awaits (token : Fd) (frame : Addr) (op : OpFrame)
    (t : Threads queues) : Prop where
  waits : t.program.pending frame = some op
  flag : t.program.rt.tokenFlag token = true

/-- The operation has ended as cancelled, or waits for that. -/
def Owed (token : Fd) (frame : Addr) (op : OpFrame)
    (t : Threads queues) : Prop :=
  System.Cancelled op.number t.program ∨ Awaits token frame op t

private theorem Mailed.owed (mailed : Mailed t) {action : Action}
    (holders : Meeting System.OneHolder t action)
    (taken : t.step action = some next)
    (named : op.operation.token? = some token)
    (owed : Owed token frame op t) : Owed token frame op next := by
  have others : (∀ act, action ≠ .program act) →
      Owed token frame op next := by
    intro other
    obtain ⟨_, frames, trace, flags⟩ := step_others other taken
    rcases owed with cancelled | ⟨waits, flag⟩
    · left
      simpa only [System.Cancelled, trace] using cancelled
    · refine Or.inr ⟨?_, flags token flag⟩
      simpa only [System.pending, frames] using waits
  cases action with
  | program act =>
      obtain ⟨_, moved, _⟩ := step_program taken
      obtain ⟨move, _⟩ :=
        System.step_move mailed.running.good holders.1 moved
      rcases owed with ⟨result, done, error⟩ | ⟨waits, flag⟩
      · exact Or.inl ⟨result, move.mem_trace done, error⟩
      · exact (move.awaits moved waits named flag).imp_right
          fun both => ⟨both.1, both.2⟩
  | requestCancel thread held => exact others (by simp)
  | advance thread => exact others (by simp)

/-- What waits with a cancelled token has its wake-up to come. -/
theorem Mailed.reports (mailed : Mailed t)
    (named : op.operation.token? = some token)
    (awaits : Awaits token frame op t) :
    (∃ thread, t.calls.lookup thread = some (token, .write)) ∨
      t.program.reports ⟨EPOLLIN, token⟩ = true := by
  have registered := mailed.tokens frame op token .read awaits.waits
    (Operation.slot?_cancel.mpr ⟨named, rfl⟩)
  refine (mailed.running.arrives token _ awaits.flag registered).imp_right
    fun written => ?_
  exact mailed.running.good.reports_of_registered registered
    (Or.inr (Or.inr ⟨true, 0, written⟩))

/-- The eventfd's event ends it. -/
theorem Mailed.cancelled_of_dispatch (mailed : Mailed t)
    (named : op.operation.token? = some token)
    (awaits : Awaits token frame op t) {evs : List EpollEvent}
    {fetched : Nat} {io : Io} {program : System queues}
    (batch : t.program.control = .batch (⟨EPOLLIN, token⟩ :: evs) fetched)
    (taken : t.program.step (.dispatch io) = some program) :
    System.Cancelled op.number program := by
  have registered := mailed.tokens frame op token .read awaits.waits
    (Operation.slot?_cancel.mpr ⟨named, rfl⟩)
  have woken : t.program.completes (.dispatch io) = some ⟨frame, .cancel⟩ := by
    have ready : readReady EPOLLIN = true := by decide
    simp only [System.completes, batch, ready, if_true, registered]
  obtain ⟨move, _⟩ := System.step_move mailed.running.good rfl taken
  exact move.cancelled awaits.waits named awaits.flag woken rfl

private theorem mailed_initial (queues : TimerQueue) (timerFd : Fd)
    (uptime : Nat) (buffers : BufferRef → Buffer) :
    Mailed (initial queues timerFd uptime buffers) :=
  ⟨running_initial queues timerFd uptime buffers,
    System.filed_initial queues .cancel timerFd uptime buffers⟩

/-- Let an operation be suspended whose token was cancelled between two actions
of the scheduler's thread, by one of any number of threads.  In whatever order
their steps and its actions follow, it ends with `operation_canceled` or stays
suspended; while it does, the eventfd can be read, or one thread is about to
write to it, and the event of the eventfd ends the operation with
`operation_canceled`. -/
theorem cancellation_arrives
    (reached : Reaches System.OneHolder timerFd uptime buffers before t)
    (waits : t.program.pending frame = some op)
    (named : op.operation.token? = some token)
    (flag : t.program.rt.tokenFlag token = true)
    (meets : Meets step (Meeting System.OneHolder) t after)
    (run : runFrom step t after = some final) :
    System.Cancelled op.number final.program ∨
      final.program.pending frame = some op ∧
      ((∃ thread, final.calls.lookup thread = some (token, .write) ∧
          ∀ other, final.calls.lookup other = some (token, .write) →
            other = thread) ∨
        final.program.reports ⟨EPOLLIN, token⟩ = true) ∧
      ∀ evs fetched io program,
        final.program.control = .batch (⟨EPOLLIN, token⟩ :: evs) fetched →
        final.program.step (.dispatch io) = some program →
          System.Cancelled op.number program := by
  have mailed : Mailed t := invariant_of_run Mailed
    (fun mailed holders taken => mailed.step holders taken)
    (mailed_initial queues timerFd uptime buffers) reached.1 reached.2
  obtain ⟨kept, owed⟩ : Mailed final ∧ Owed token frame op final :=
    invariant_of_run (fun t => Mailed t ∧ Owed token frame op t)
      (fun both holders taken => ⟨both.1.step holders taken,
        both.1.owed holders taken named both.2⟩)
      ⟨mailed, Or.inr ⟨waits, flag⟩⟩ meets run
  refine owed.imp_right fun awaits => ⟨awaits.waits, ?_, ?_⟩
  · refine (kept.reports named awaits).imp_left ?_
    rintro ⟨thread, writes⟩
    exact ⟨thread, writes, fun other again =>
      kept.running.alone other thread token again writes⟩
  · intro evs fetched io program batch taken
    exact kept.cancelled_of_dispatch named awaits batch taken

/-- The token of a read is cancelled by one thread, which then writes to the
eventfd while another one finds the flag set. -/
theorem cancellation_arrives_sample :
    ∃ (t final : Threads TimerQueue.sorted) (op : OpFrame),
      Reaches System.OneHolder 3 100 (fun _ => ⟨[0, 0], 0⟩)
        [.program (.openFd 5 .socket),
          .program (.openFd 7 (.eventFd false 0)), .program (.spawn 1),
          .program (.await 10 (.asyncRead ⟨5, 0, some 7⟩) {}),
          .requestCancel 1 7, .requestCancel 2 7, .advance 1] t ∧
      runFrom step t [.advance 2, .program .run, .advance 1] = some final ∧
      op.operation.token? = some 7 ∧
      t.program.rt.tokenFlag 7 = true ∧
      (System.Cancelled op.number final.program ∨
        final.program.pending 10 = some op ∧
        ((∃ thread, final.calls.lookup thread = some (7, .write) ∧
            ∀ other, final.calls.lookup other = some (7, .write) →
              other = thread) ∨
          final.program.reports ⟨EPOLLIN, 7⟩ = true) ∧
        ∀ evs fetched io program,
          final.program.control = .batch (⟨EPOLLIN, 7⟩ :: evs) fetched →
          final.program.step (.dispatch io) = some program →
            System.Cancelled op.number program) := by
  obtain ⟨t, reached, passed⟩ := @exists_reaches TimerQueue.sorted
    System.OneHolder 3 100 (fun _ => ⟨[0, 0], 0⟩)
    [.program (.openFd 5 .socket),
      .program (.openFd 7 (.eventFd false 0)), .program (.spawn 1),
      .program (.await 10 (.asyncRead ⟨5, 0, some 7⟩) {}),
      .requestCancel 1 7, .requestCancel 2 7, .advance 1]
    (fun t => t.program.pending 10 =
        some ⟨.asyncRead ⟨5, 0, some 7⟩, 1, 0, 0, none⟩ &&
      t.program.rt.tokenFlag 7 &&
      Meets step (Meeting System.OneHolder) t
        [.advance 2, .program .run, .advance 1] &&
      (runFrom step t [.advance 2, .program .run, .advance 1]).isSome)
    (by decide +kernel) (by decide +kernel)
  simp only [Bool.and_eq_true, decide_eq_true_eq] at passed
  obtain ⟨⟨⟨waits, flag⟩, meets⟩, runs⟩ := passed
  obtain ⟨final, run⟩ := Option.isSome_iff_exists.mp runs
  exact ⟨t, final, _, reached, run, rfl, flag,
    cancellation_arrives reached waits rfl flag meets run⟩

end Threads

end AsyncFrame
