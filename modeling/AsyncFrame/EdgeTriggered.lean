import AsyncFrame.Sleeping

/-!
# The edge-triggered timerfd

`submit_timer` registers the timerfd with `EPOLLET`: the kernel reports an
expiration once, and the next report comes after `timerfd_settime` was called
again.  A monitor that refuses every other report never refuses one.
-/

namespace AsyncFrame

open AsyncFrame.Lib

variable {queues : TimerQueue}

namespace TimerEvent.Settled

variable {timer : TimerEvent queues} {deadlines : OpPtr → Option Int}
variable {read : OpPtr} {clock : Int}

/-- Cancelling the current task sets the timerfd for the next one. -/
theorem sets_cancelRefresh (settled : timer.Settled deadlines)
    (named : timer.cur.state.read = some read) :
    timer.timerFd.settimes <
      (timer.cancel read).refreshCurrentTimer.timerFd.settimes :=
  (cancelRefresh_of_current settled.wellFormed settled.represents
    named).2.2.1

private theorem sets_cancelRefresh_afterRead (settled : timer.Settled deadlines)
    (named : timer.cur.state.read = some read) :
    timer.timerFd.settimes <
      ((timer.afterRead clock).cancel
        read).refreshCurrentTimer.timerFd.settimes := by
  obtain ⟨wellFormed, represents, _⟩ := settled.afterRead clock
  have rearmed := (cancelRefresh_of_current wellFormed represents named).2.2
  exact rearmed.1

private theorem sets_advance_afterRead (settled : timer.Settled deadlines)
    (named : timer.cur.state.read = some read) :
    timer.timerFd.settimes <
      (timer.afterRead
        clock).advance.refreshCurrentTimer.timerFd.settimes := by
  obtain ⟨wellFormed, represents, _⟩ := settled.afterRead clock
  obtain ⟨advanced, _, rearmed⟩ := advance_spec wellFormed represents named
  have since := (refreshCurrentTimer_spec advanced).2.2
  exact (TimerFd.Rearmed.trans_since rearmed since).1

end TimerEvent.Settled

namespace Operation

variable {rt : Runtime queues} {deadlines : OpPtr → Option Int}
variable {operation : Operation} {self : Addr} {io : Io} {total : Nat}

/-- With an expiration there the read does not wait. -/
theorem timer_consumeTimer
    (readable : rt.timer.timerFd.isReadable rt.clock = true) :
    rt.consumeTimer.timer = rt.timer.afterRead rt.clock := by
  simp only [Runtime.consumeTimer, readable, if_true, TimerEvent.afterRead]

/-- Resumed after the timerfd has expired, a read or a write with a timeout
takes its timer out, with the timerfd read first if it timed out. -/
theorem resumeOnce_cancels (timed : operation.timedTransfer = true)
    (readable : rt.timer.timerFd.isReadable rt.clock = true) :
    (operation.resumeOnce self io total rt).rt.timer =
        (rt.timer.cancel ⟨self, .timer⟩).refreshCurrentTimer ∨
      (operation.resumeOnce self io total rt).rt.timer =
        ((rt.timer.afterRead rt.clock).cancel
          ⟨self, .timer⟩).refreshCurrentTimer := by
  by_cases expired : timedOut self rt = true
  · cases operation with
    | asyncReadTimeout base delay =>
        have read : (CancelSlot.remove base.cancelToken
            rt).consumeTimer.timer = rt.timer.afterRead rt.clock := by
          rw [timer_consumeTimer] <;> simp [readable]
        simp only [resumeOnce, InnerRecvTimeoutAwaiter.awaitResume,
          timedOut_remove, expired, if_true]
        split
        · left
          simp [Runtime.removeRead, Runtime.cancelTimer]
        · right
          simp [Runtime.removeRead, Runtime.cancelTimer, read]
    | asyncWriteTimeout base delay =>
        have read : (CancelSlot.remove base.cancelToken
            rt).consumeTimer.timer = rt.timer.afterRead rt.clock := by
          rw [timer_consumeTimer] <;> simp [readable]
        simp only [resumeOnce, InnerSendTimeoutAwaiter.awaitResume,
          timedOut_remove, expired, if_true]
        split
        · left
          simp [Runtime.removeWrite, Runtime.cancelTimer]
        · right
          simp [Runtime.removeWrite, Runtime.cancelTimer, read]
    | _ => cases timed
  · left
    have runs : ¬operation.Waits self rt := by
      rintro (⟨_, here⟩ | ⟨delay, rfl⟩)
      · exact expired here
      · cases timed
    rw [operation.resumeOnce_timer self io total rt runs, if_pos timed]

/-- Resumed while its own timer is the expired one, an operation sets the
timerfd for the next one. -/
theorem resumeOnce_sets (settled : rt.timer.Settled deadlines)
    (named : rt.timer.cur.state.read = some ⟨self, .timer⟩)
    (readable : rt.timer.timerFd.isReadable rt.clock = true)
    (delayed : operation.delay?.isSome = true) :
    rt.timer.timerFd.settimes <
      (operation.resumeOnce self io total rt).rt.timer.timerFd.settimes := by
  by_cases timed : operation.timedTransfer = true
  · rcases @resumeOnce_cancels _ rt operation self io total timed readable
      with same | same
    · rw [same]
      exact settled.sets_cancelRefresh named
    · rw [same]
      exact settled.sets_cancelRefresh_afterRead named
  · cases operation with
    | waitFor delay =>
        simp only [resumeOnce, TimerAwaiter.awaitResume,
          Runtime.timer_refresh, Runtime.advanceTimer,
          timer_consumeTimer readable]
        exact settled.sets_advance_afterRead named
    | asyncReadTimeout _ _ => exact absurd rfl timed
    | asyncWriteTimeout _ _ => exact absurd rfl timed
    | _ => cases delayed

/-- Such an operation ends. -/
theorem goesRound_of_expired (settled : rt.timer.Settled deadlines)
    (named : rt.timer.cur.state.read = some ⟨self, .timer⟩)
    (readable : rt.timer.timerFd.isReadable rt.clock = true)
    (delayed : operation.delay?.isSome = true) :
    operation.goesRound self io rt = false := by
  have expired : timedOut self rt = true := by
    obtain ⟨_, deadline, setting, reached⟩ :=
      TimerFd.isReadable_iff.mp readable
    rw [settled.setting_of_current named] at setting
    cases setting
    exact (timedOut_iff settled self).mpr ⟨named, reached⟩
  cases operation with
  | asyncReadTimeout base delay =>
      simp [goesRound, reads?, receives, expired]
  | asyncWriteTimeout base delay =>
      simp [goesRound, reads?, writes?, sends, expired]
  | waitFor delay => rfl
  | _ => cases delayed

end Operation

namespace System

variable {s next final : System queues} {action : Action}
variable {timerFd : Fd} {uptime : Nat} {buffers : BufferRef → Buffer}
variable {actions : List Action} {mark : Option Nat}

/-- The event is the timerfd's, and `running` takes it for a readable one. -/
def isExpiry (s : System queues) (event : EpollEvent) : Bool :=
  event.fd = s.rt.timer.fd && readReady event.events

/-- The kernel's side of `EPOLLET`, which remembers the setting whose
expiration it reported last, and does not report this one again. -/
def edge (mark : Option Nat) (s : System queues) :
    Action → Option (Option Nat)
  | .epollWait evs =>
      if evs.any s.isExpiry then
        if mark = some s.rt.timer.timerFd.settimes then none
        else some (some s.rt.timer.timerFd.settimes)
      else some mark
  | _ => some mark

/-- A reported setting is over, or the report is still among what is left of
the batch. -/
def Caught (mark : Option Nat) (s : System queues) : Prop :=
  ∀ set, mark = some set →
    set < s.rt.timer.timerFd.settimes ∨
      set = s.rt.timer.timerFd.settimes ∧
        ∃ evs, s.control.rest? = some (evs, set) ∧
          evs.any s.isExpiry = true

/-- An event of the expired timerfd resumes the operation of the current
task. -/
theorem Good.wakes_of_expiry (good : Good s) (io : Io) {event : EpollEvent}
    {evs : List EpollEvent} {fetched : Nat}
    (batch : s.control = .batch (event :: evs) fetched)
    (expiry : s.isExpiry event = true)
    (readable : s.rt.timer.timerFd.isReadable s.rt.clock = true) :
    ∃ frame op, s.rt.timer.cur.state.read = some ⟨frame, .timer⟩ ∧
      s.completes (.dispatch io) = some ⟨frame, .timer⟩ ∧
      s.pending frame = some op ∧
      op.deadline = some s.rt.timer.cur.timePoint ∧
      op.operation.delay?.isSome = true := by
  have inOrder := good.sound.inOrder
  simp only [isExpiry, Bool.and_eq_true, decide_eq_true_eq] at expiry
  have nonempty : s.rt.timer.currentEmpty = false := by
    obtain ⟨_, deadline, setting, _⟩ := TimerFd.isReadable_iff.mp readable
    rw [inOrder.settled.armed.setting] at setting
    split at setting
    · cases setting
    · rename_i current
      exact eq_false_of_ne_true current
  obtain ⟨frame, op, named, waits, set, _⟩ := good.current nonempty
  refine ⟨frame, op, named, ?_, waits, set, ?_⟩
  · simp only [completes, batch, expiry.2, if_true]
    rw [expiry.1, inOrder.slot]
    exact named
  · obtain ⟨now, _, dated, _⟩ := good.sound.dated frame op waits
    rw [set, Operation.deadlineAt] at dated
    obtain ⟨delay, here, _⟩ := Option.map_eq_some_iff.mp dated.symm
    rw [here]
    rfl

/-- It sets the timerfd for the next task. -/
theorem Good.sets_of_expiry (good : Good s) {io : Io} {event : EpollEvent}
    {evs : List EpollEvent} {fetched : Nat}
    (taken : s.step (.dispatch io) = some next)
    (batch : s.control = .batch (event :: evs) fetched)
    (expiry : s.isExpiry event = true)
    (readable : s.rt.timer.timerFd.isReadable s.rt.clock = true) :
    s.rt.timer.timerFd.settimes < next.rt.timer.timerFd.settimes := by
  have settled := good.sound.inOrder.settled
  obtain ⟨frame, op, named, woken, waits, _, delayed⟩ :=
    good.wakes_of_expiry io batch expiry readable
  obtain ⟨control, given, _, rfl⟩ := step_completes taken woken
  have linked : Linked (s.withMarks control
      (s.marks (.dispatch io))).frames := good.linked
  have here : (s.withMarks control (s.marks (.dispatch io))).pending
      frame = some op := waits
  have kept := (good.resumeOnce_leaves given woken waits).files
  have ended : ((op.operation.wake frame given op.total
      s.rt).returned).isNone = false :=
    (Operation.wake_isNone kept).trans
      (Operation.goesRound_of_expired settled named readable delayed)
  have woke := Operation.wake_eq kept
  rw [Operation.wake_returned kept] at ended
  rw [complete_rt given linked here]
  change _ < (op.operation.wake frame given op.total
    s.rt).rt.timer.timerFd.settimes
  split at woke
  · rw [woke]
    exact Operation.resumeOnce_sets settled named readable delayed
  · rename_i waits
    rw [waits] at ended
    cases ended

/-- What is left of a batch is left after the step too, but for the event that
the step dispatches. -/
theorem step_keeps_rest (taken : s.step action = some next)
    {evs : List EpollEvent} {fetched : Nat}
    (rest : s.control.rest? = some (evs, fetched)) (unread : evs ≠ []) :
    next.control.rest? = some (evs, fetched) ∨
      ∃ io event left, action = .dispatch io ∧ evs = event :: left ∧
        s.control = .batch evs fetched ∧
        next.control.rest? = some (left, fetched) := by
  obtain ⟨allowed, rfl⟩ := step_eq_some taken
  have stays : (s.perform action).control = s.control →
      (s.perform action).control.rest? = some (evs, fetched) :=
    fun same => same ▸ rest
  cases action with
  | dispatch io =>
      obtain ⟨_, event, left, since, batch⟩ := enabled_dispatch allowed
      obtain ⟨control, shape, performed⟩ := dispatch_cases io batch
      have same : (s.perform (.dispatch io)).control = control := by
        rw [performed]
        split
        · rfl
        · exact (Linked.complete_rest _ _ _).2
      have inside : control.rest? = some (left, since) := by
        rcases shape with rfl | ⟨writeOp, rfl, _⟩ <;> rfl
      rw [batch] at rest
      cases rest
      exact Or.inr ⟨io, event, left, rfl, rfl, batch, same ▸ inside⟩
  | dispatchWrite io =>
      obtain ⟨_, writeOp, left, since, half⟩ := enabled_dispatchWrite allowed
      rw [half] at rest
      cases rest
      left
      rw [dispatchWrite_eq io half, (Linked.complete_rest _ _ _).2]
      rfl
  | batchEnd =>
      simp only [enabled, Bool.and_eq_true] at allowed
      cases here : s.control with
      | batch evs fetched =>
          rw [here] at rest allowed
          cases rest
          cases evs with
          | nil => exact absurd rfl unread
          | cons event left => cases allowed.2
      | _ =>
          rw [here] at allowed
          cases allowed.2
  | run =>
      simp only [enabled, Bool.and_eq_true, decide_eq_true_eq] at allowed
      rw [allowed.1] at rest
      cases rest
  | epollWait batch =>
      simp only [enabled, Bool.and_eq_true, decide_eq_true_eq] at allowed
      rw [allowed.1.1.1.1.1] at rest
      cases rest
  | exit =>
      simp only [enabled, Bool.and_eq_true, decide_eq_true_eq] at allowed
      rw [allowed.1.1] at rest
      cases rest
  | await frame operation io =>
      obtain ⟨⟨caller, below, stack, _⟩, _⟩ := enabled_await allowed
      refine Or.inl (stays ?_)
      simp only [perform, System.await, stack]
      split <;> rfl
  | awaitWithTimeout impl frame wrapped delay io =>
      obtain ⟨⟨caller, below, stack, _⟩, _, _, _, operation, timeout, _⟩ :=
        enabled_awaitWithTimeout allowed
      refine Or.inl (stays ?_)
      simp only [perform, System.awaitWithTimeout, timeout, stack]
      split <;> rfl
  | tick _ => exact Or.inl (stays rfl)
  | requestCancel _ => exact Or.inl (stays rfl)
  | openFd _ _ => exact Or.inl (stays rfl)
  | closeFd _ => exact Or.inl (stays rfl)
  | setBuffer _ _ => exact Or.inl (stays rfl)
  | spawn _ => exact Or.inl (stays rfl)
  | finish => exact Or.inl (stays rfl)
  | destroy _ => exact Or.inl (stays rfl)

/-- The monitor accepts every step. -/
theorem Caught.step (caught : Caught mark s) (good : Good s)
    (punctual : Punctual s) (move : Move action s next)
    (taken : s.step action = some next) :
    ∃ changed, edge mark s action = some changed ∧ Caught changed next := by
  obtain ⟨sameFd, _, rearmed⟩ := move.rearmed
  have expires : next.isExpiry = s.isExpiry := by
    funext event
    rw [isExpiry, isExpiry, sameFd]
  have carried : (∀ evs, action ≠ .epollWait evs) → Caught mark next := by
    intro other set marked
    rcases rearmed with same | more
    · rcases caught set marked with below | ⟨here, evs, rest, due⟩
      · exact Or.inl (same ▸ below)
      · have unread : evs ≠ [] := by
          rintro rfl
          cases due
        rcases step_keeps_rest taken rest unread with
          kept | ⟨io, event, left, rfl, rfl, batch, kept⟩
        · exact Or.inr ⟨same ▸ here, evs, kept, expires ▸ due⟩
        · rw [List.any_cons, Bool.or_eq_true] at due
          rcases due with due | due
          · have ready : s.rt.timer.timerFd.isReadable s.rt.clock = true :=
              (punctual _ _ rest).2 event List.mem_cons_self
                (of_decide_eq_true (Bool.and_eq_true_iff.mp due).1) here.symm
            have more := good.sets_of_expiry taken batch due ready
            exact Or.inl (here ▸ more)
          · exact Or.inr ⟨same ▸ here, left, kept, expires ▸ due⟩
    · rcases caught set marked with below | ⟨here, _⟩
      · exact Or.inl (below.trans more)
      · exact Or.inl (here ▸ more)
  cases action with
  | epollWait evs =>
      obtain ⟨allowed, rfl⟩ := step_eq_some taken
      simp only [enabled, Bool.and_eq_true, decide_eq_true_eq] at allowed
      have gone : ∀ set, mark = some set →
          set < s.rt.timer.timerFd.settimes := by
        intro set marked
        rcases caught set marked with below | ⟨_, left, rest, _⟩
        · exact below
        · rw [allowed.1.1.1.1.1] at rest
          cases rest
      have fresh : mark ≠ some s.rt.timer.timerFd.settimes :=
        fun marked => absurd (gone _ marked) (lt_irrefl _)
      cases due : evs.any s.isExpiry with
      | true =>
          refine ⟨some s.rt.timer.timerFd.settimes, ?_, ?_⟩
          · rw [edge, due, if_pos rfl, if_neg fresh]
          · intro set marked
            cases marked
            exact Or.inr ⟨rfl, evs, rfl, due⟩
      | false =>
          refine ⟨mark, ?_, fun set marked => Or.inl (gone set marked)⟩
          rw [edge, due, if_neg Bool.false_ne_true]
  | _ =>
      refine ⟨mark, rfl, carried ?_⟩
      intro evs same
      cases same

/-- Registering the timerfd with `EPOLLET` makes no difference: a kernel that
reports each expiration once allows the same runs as one that reports the
timerfd as long as it is readable. -/
theorem edges_iff_levels (timerFd : Fd) (uptime : Nat)
    (buffers : BufferRef → Buffer) (actions : List Action)
    (final : System queues)
    (keeps : Meets step KeepsPending (initial queues timerFd uptime buffers)
      actions) :
    (∃ mark, runFrom (monitored step edge)
        (none, initial queues timerFd uptime buffers) actions =
          some (mark, final)) ↔
      runFrom step (initial queues timerFd uptime buffers) actions =
        some final := by
  refine monitored_run_iff
    (fun mark s => Good s ∧ Punctual s ∧ Caught mark s) ?_ ?_ keeps
  · rintro mark s action next ⟨good, punctual, caught⟩ keeps taken
    obtain ⟨move, goodNext⟩ := step_move good keeps taken
    obtain ⟨changed, accepted, held⟩ :=
      caught.step good punctual move taken
    exact ⟨changed, accepted, goodNext, punctual.step good move taken, held⟩
  · refine ⟨good_initial queues timerFd uptime buffers, ?_, ?_⟩
    · rintro evs fetched ⟨⟩
    · rintro set ⟨⟩

theorem edges_iff_levels_sample :
    ∃ mark, ∃ final : System TimerQueue.sorted,
      runFrom (monitored step edge)
        (none, initial TimerQueue.sorted 3 100 fun _ => ⟨[0, 0], 0⟩)
        [.openFd 5 .socket, .spawn 1, .await 10 (.waitFor 80) {}, .spawn 2,
          .await 20 (.asyncReadTimeout ⟨5, 0, none⟩ 50) {}, .run, .tick 50,
          .epollWait [⟨EPOLLIN, 3⟩, ⟨EPOLLIN, 5⟩], .dispatch {}, .finish,
          .dispatch {}, .batchEnd, .tick 30, .epollWait [⟨EPOLLIN, 3⟩]] =
            some (mark, final) := by
  have reached : ∃ s : System TimerQueue.sorted,
      Reaches KeepsPending 3 100 (fun _ => ⟨[0, 0], 0⟩)
        [.openFd 5 .socket, .spawn 1, .await 10 (.waitFor 80) {}, .spawn 2,
          .await 20 (.asyncReadTimeout ⟨5, 0, none⟩ 50) {}, .run, .tick 50,
          .epollWait [⟨EPOLLIN, 3⟩, ⟨EPOLLIN, 5⟩], .dispatch {}, .finish,
          .dispatch {}, .batchEnd, .tick 30, .epollWait [⟨EPOLLIN, 3⟩]] s ∧
        true = true := by
    refine exists_reaches (fun _ => true) ?_ ?_
    · decide +kernel
    · decide +kernel
  obtain ⟨final, ⟨keeps, run⟩, _⟩ := reached
  obtain ⟨mark, edges⟩ := (edges_iff_levels 3 100 _ _ final keeps).mpr run
  exact ⟨mark, final, edges⟩

end System

end AsyncFrame
