import AsyncFrame.Deadlines
import AsyncFrame.Outcomes
import AsyncFrame.TimerEvents
import AsyncFrame.WakeAccounts

/-!
# wait_for

`wait_for` never wakes its coroutine early, although an event of the timerfd
can be left over from a timer that is gone: `TimerEvent::consume()` blocks
until the current timer has expired.  It ends without an error, and while it
waits no other deadline is passed over.
-/

namespace AsyncFrame

open Lib

variable {queues : TimerQueue} {rt : Runtime queues}

/-- Reading the timerfd waits for its expiration. -/
theorem Runtime.clock_of_consume {deadline : Int}
    (unread : rt.timer.timerFd.consumed = false)
    (set : rt.timer.timerFd.setting = some deadline) :
    rt.consumeTimer.clock = max rt.clock deadline := by
  cases readable : rt.timer.timerFd.isReadable rt.clock with
  | true =>
      obtain ⟨_, _, same, reached⟩ := TimerFd.isReadable_iff.mp readable
      rw [set] at same
      cases same
      rw [Runtime.clock_consumeTimer readable, max_eq_left reached]
  | false =>
      simp only [Runtime.consumeTimer, readable, Bool.false_eq_true,
        if_false, unread, set]

namespace Operation

variable {self : Addr} {io : Io} {total : Nat} {delay : Int}

/-- A resumed `wait_for` ends, at the time of the current timer or later. -/
theorem wake_waitFor {deadline : Int}
    (unread : rt.timer.timerFd.consumed = false)
    (set : rt.timer.timerFd.setting = some deadline) :
    ((waitFor delay).wake self io total rt).returned = some (.waited 0) ∧
      ((waitFor delay).wake self io total rt).rt.clock =
        max rt.clock deadline := by
  refine ⟨rfl, ?_⟩
  rw [← Runtime.clock_of_consume unread set]
  simp only [wake, resumeOnce, TimerAwaiter.awaitResume,
    Runtime.clock_refresh]
  rfl

end Operation

namespace System

variable {s next final : System queues} {action : Action}
variable {timerFd : Fd} {uptime : Nat} {buffers : BufferRef → Buffer}
variable {before actions : List Action} {number : Nat} {delay limit : Int}

/-- An operation that a step leaves suspended went round its loop. -/
theorem Good.goesRound_of_waits (good : Good s) {pointer : OpPtr}
    {op again : OpFrame} (taken : s.step action = some next)
    (woken : s.completes action = some pointer)
    (waits : s.pending pointer.frame = some op)
    (still : next.pending pointer.frame = some again) :
    ∃ io, action.io? = some io ∧
      op.operation.goesRound pointer.frame io s.rt = true := by
  obtain ⟨io, answers, pending⟩ := good.completed taken woken waits
  refine ⟨io, answers, ?_⟩
  by_contra beyond
  rw [if_neg beyond] at pending
  rw [pending, Function.update_self] at still
  cases still

/-- A `wait_for` with this number waits for the limit, or has ended without an
error and not before the limit. -/
structure Asleep (number : Nat) (delay limit : Int) (s : System queues) :
    Prop where
  underway : Underway number (.waitFor delay) s
  dated : ∀ frame op, s.pending frame = some op → op.number = number →
    op.deadline = some limit
  ended : ∀ result, .finished number result ∈ s.trace →
    result = .waited 0 ∧ limit ≤ s.rt.clock

/-- The deadline of a `wait_for` stays what it was. -/
theorem Asleep.waited (asleep : Asleep number delay limit s)
    (keeps : KeepsPending s action) (taken : s.step action = some next)
    {frame : Addr} {op : OpFrame} (waits : next.pending frame = some op)
    (named : op.number = number) : s.pending frame = some op := by
  have good := asleep.underway.good
  cases woken : s.completes action with
  | none => exact asleep.underway.waited keeps taken woken waits named
  | some pointer =>
      obtain ⟨woke, was⟩ := good.waits_of_completes woken
      obtain ⟨io, answers, pending⟩ := good.completed taken woken was
      by_cases here : frame = pointer.frame
      · subst here
        obtain ⟨again, given, goesRound⟩ :=
          good.goesRound_of_waits taken woken was waits
        rw [answers] at given
        cases given
        rw [if_pos goesRound] at pending
        obtain ⟨counted, pending⟩ := pending
        rw [pending, Function.update_self] at waits
        cases waits
        have ends : woke.operation.goesRound pointer.frame io s.rt =
            false := by
          rw [asleep.underway.same pointer.frame woke was named]
          rfl
        rw [ends] at goesRound
        cases goesRound
      · split at pending
        · obtain ⟨_, pending⟩ := pending
          rwa [pending, Function.update_of_ne here] at waits
        · rwa [pending, Function.update_of_ne here] at waits

/-- When a step ends it, no suspended operation has an earlier deadline, and
the limit is reached. -/
theorem Asleep.ends (asleep : Asleep number delay limit s)
    (taken : s.step action = some next) {result : OpResult}
    (ended : .finished number result ∈ next.trace)
    (open_ : .finished number result ∉ s.trace) :
    result = .waited 0 ∧ limit ≤ next.rt.clock ∧
      ∀ other later deadline, s.pending other = some later →
        later.deadline = some deadline → limit ≤ deadline := by
  have good := asleep.underway.good
  have settled := good.sound.inOrder.settled
  obtain ⟨entries, trace, told⟩ := step_records taken
  rw [trace, List.mem_append] at ended
  rcases told number result (ended.resolve_right open_) with
    ⟨pointer, op, io, woken, answers, waits, named, returned⟩ |
      ⟨_, _, _, _, _, above, _⟩
  · have operation := asleep.underway.same pointer.frame op waits named
    have set := asleep.dated pointer.frame op waits named
    have current := good.current_of_completes woken waits delay operation
    obtain ⟨frame, held, same, heldWaits, heldSet, least⟩ :=
      good.current (settled.wellFormed.nonempty_of_read current)
    rw [current] at same
    cases same
    rw [waits] at heldWaits
    cases heldWaits
    rw [set] at heldSet
    cases heldSet
    obtain ⟨control, given, answered, rfl⟩ := step_completes taken woken
    rw [answers] at answered
    cases answered
    have linked : Linked (s.withMarks control (s.marks action)).frames :=
      good.linked
    have here : (s.withMarks control (s.marks action)).pending
        pointer.frame = some op := waits
    have woke :=
      @Operation.wake_waitFor queues _ pointer.frame io op.total delay
        _ settled.armed.unread (settled.setting_of_current current)
    rw [operation, woke.1] at returned
    cases returned
    refine ⟨rfl, ?_, least⟩
    rw [complete_rt io linked here, operation]
    exact woke.2 ▸ le_max_right _ _
  · have given := asleep.underway.given
    omega

private theorem Asleep.step (asleep : Asleep number delay limit s)
    (keeps : KeepsPending s action) (taken : s.step action = some next) :
    Asleep number delay limit next where
  underway := asleep.underway.move keeps taken
  dated frame op waits named :=
    asleep.dated frame op (asleep.waited keeps taken waits named) named
  ended result member := by
    have order := (step_move asleep.underway.good keeps taken).1.rearmed.2.1
    by_cases before : .finished number result ∈ s.trace
    · obtain ⟨plain, reached⟩ := asleep.ended result before
      exact ⟨plain, reached.trans order⟩
    · obtain ⟨plain, reached, _⟩ := asleep.ends taken member before
      exact ⟨plain, reached⟩

/-- A `wait_for` that has just been suspended. -/
theorem asleep_of_await {frame : Addr} {io : Io} (good : Good s)
    (ledger : Ledger s)
    (taken : s.step (.await frame (.waitFor delay) io) = some next) :
    Asleep s.nextNumber delay (s.rt.clock + delay) next := by
  have keeps : KeepsPending s (.await frame (.waitFor delay) io) := rfl
  obtain ⟨move, goodNext⟩ := step_move good keeps taken
  have older : ∀ other op, s.pending other = some op →
      op.number ≠ s.nextNumber := by
    intro other op waits
    have given := ledger.number_lt waits
    omega
  have opens : s.nextNumber < next.nextNumber ∧
      ∀ other op, next.pending other = some op →
        op.number = s.nextNumber → s.pending other = none := by
    cases move with
    | suspends fresh op _ _ opening free _ _ pending =>
        refine ⟨opening.number_le.trans_lt opening.number_lt, ?_⟩
        intro other held waits named
        by_cases here : other = fresh
        · rw [here]
          exact pendingIn_of_free free
        · rw [pending, Function.update_of_ne here] at waits
          exact absurd named (older other held waits)
    | passes _ _ _ _ _ _ opening _ _ pending =>
        refine ⟨opening.number_le.trans_lt opening.number_lt, ?_⟩
        intro other held waits named
        rw [pending] at waits
        exact absurd named (older other held waits)
    | calm nothing => cases nothing
    | ends _ _ _ woken => cases woken
    | rounds _ _ _ _ woken => cases woken
  have suspended : ∀ other op, next.pending other = some op →
      op.number = s.nextNumber → op.operation = .waitFor delay ∧
        op.deadline = some (s.rt.clock + delay) := by
    intro other op waits named
    obtain ⟨operation, deadline⟩ := step_suspends rfl taken
      (opens.2 other op waits named) waits
    refine ⟨operation, deadline.trans ?_⟩
    rw [Int.add_comm]
    rfl
  refine ⟨⟨goodNext, ledger.move move, opens.1, ?_⟩, ?_, ?_⟩
  · exact fun other op waits named => (suspended other op waits named).1
  · exact fun other op waits named => (suspended other op waits named).2
  · intro result member
    exfalso
    obtain ⟨entries, trace, told⟩ := step_records taken
    rw [trace, List.mem_append] at member
    rcases member with fresh | old
    · rcases told _ result fresh with
        ⟨_, _, _, woken, _⟩ | ⟨_, _, _, starts, _, _, returned⟩
      · cases woken
      · cases starts
        cases returned
    · have given := ledger.number_lt_of_mem old rfl
      omega

/-- A `wait_for` that is awaited at `s.rt.clock` ends without an error, not
before its delay has passed, and only while no suspended operation has an
earlier deadline, in every run and whatever batches `epoll_wait` returns. -/
theorem waitFor_sleeps {frame : Addr} {io : Io}
    (reached : Reaches KeepsPending timerFd uptime buffers before s)
    (taken : s.step (.await frame (.waitFor delay) io) = some next)
    (run : Leads KeepsPending next actions final) :
    (∀ result, .finished s.nextNumber result ∈ final.trace →
      result = .waited 0 ∧ s.rt.clock + delay ≤ final.rt.clock) ∧
    ∀ action after result, KeepsPending final action →
      final.step action = some after →
      .finished s.nextNumber result ∈ after.trace →
      .finished s.nextNumber result ∉ final.trace →
      ∀ other later deadline, final.pending other = some later →
        later.deadline = some deadline → s.rt.clock + delay ≤ deadline := by
  have good := reached.good fun _ _ keeps => keeps
  have asleep := invariant_of_run
    (Asleep s.nextNumber delay (s.rt.clock + delay))
    (fun asleep keeps taken => asleep.step keeps taken)
    (asleep_of_await good (ledger_of_run reached) taken) run.1 run.2
  refine ⟨asleep.ended, ?_⟩
  intro action after result keeps stepped ended unended
  exact (asleep.ends stepped ended unended).2.2

/-- The read in the same batch ends before the event of the timerfd, which was
for it, resumes the `wait_for`: that sleeps on until its own deadline. -/
theorem waitFor_sleeps_sample :
    ∃ s : System TimerQueue.sorted,
      Reaches KeepsPending 3 100 (fun _ => ⟨[0], 0⟩)
        [.openFd 5 .socket, .spawn 1,
          .await 10 (.asyncReadTimeout ⟨5, 0, none⟩ 50) {}, .spawn 2] s ∧
      ∃ next final,
        s.step (.await 20 (.waitFor 80) {}) = some next ∧
        Leads KeepsPending next
          [.run, .tick 50, .epollWait [⟨EPOLLIN, 5⟩, ⟨EPOLLIN, 3⟩],
            .dispatch .reset, .finish, .dispatch {}] final ∧
        s.rt.clock + 80 ≤ final.rt.clock := by
  refine (exists_reaches (fun s =>
    (s.step (.await 20 (.waitFor 80) {})).any fun next =>
      Meets step KeepsPending next
          [.run, .tick 50, .epollWait [⟨EPOLLIN, 5⟩, ⟨EPOLLIN, 3⟩],
            .dispatch .reset, .finish, .dispatch {}] &&
        (runFrom step next
          [.run, .tick 50, .epollWait [⟨EPOLLIN, 5⟩, ⟨EPOLLIN, 3⟩],
            .dispatch .reset, .finish, .dispatch {}]).any fun final =>
          .finished s.nextNumber (.waited 0) ∈ final.trace) ?_ ?_).imp
    fun s ⟨reached, passed⟩ => ⟨reached, ?_⟩
  · decide +kernel
  · decide +kernel
  · obtain ⟨next, taken, passed⟩ := (Option.any_eq_true _ _).mp passed
    obtain ⟨keeps, passed⟩ := Bool.and_eq_true_iff.mp passed
    obtain ⟨final, runs, ended⟩ := (Option.any_eq_true _ _).mp passed
    have leads : Leads KeepsPending next
        [.run, .tick 50, .epollWait [⟨EPOLLIN, 5⟩, ⟨EPOLLIN, 3⟩],
          .dispatch .reset, .finish, .dispatch {}] final :=
      ⟨of_decide_eq_true keeps, runs⟩
    obtain ⟨sleeps, _⟩ := waitFor_sleeps reached taken leads
    exact ⟨next, final, taken, leads,
      (sleeps _ (of_decide_eq_true ended)).2⟩

end System

end AsyncFrame
