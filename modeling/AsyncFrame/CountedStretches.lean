import AsyncFrame.Effects
import AsyncFrame.TimePoints

/-!
# The awaiters in 64 bits

The awaiters that use the timer, over the arithmetic of `TimerEvent` and its
exception.  The clock and the delays are read as 64-bit counts.  A stretch of
an operation's coroutine does what it does over unbounded time points, unless
it sets a deadline that leaves the range.
-/

namespace AsyncFrame

open Lib

namespace Operation

variable {queues : TimerQueue}

/-- The deadline that the coroutine passes to `set_timer` from its start. -/
def startSets (rt : Runtime queues) (operation : Operation) : Option Int :=
  if rt.cancelRequested operation.token? then none
  else operation.deadlineAt rt.clock

/-- The deadline that the coroutine passes to `set_timer` from a
resumption. -/
def wakeSets (self : Addr) (io : Io) (rt : Runtime queues)
    (operation : Operation) : Option Int :=
  if operation.goesRound self io rt then operation.deadlineAt rt.clock
  else none

end Operation

namespace Counted

variable {queues : TimerQueue}

/-- `get_timer`; the kernel hands out the time that is left as a
`timespec`. -/
def getTimer (timer : TimerEvent queues) (clock : Int) : Int64 :=
  let left := timer.timerFd.gettime clock
  let tv : Timespec :=
    ⟨Int64.ofInt (left / 1000000000), Int64.ofInt (left % 1000000000)⟩
  tv.tvNsec + tv.tvSec * 1000000000

/-- A call of the process-wide `TimerEvent`. -/
def withTimer (rt : Runtime queues)
    (call : TimerEvent queues → Except RuntimeError (TimerEvent queues)) :
    Except RuntimeError (Runtime queues) := do
  let timer ← call rt.timer
  return { rt with timer := timer }

/-- `set_timer`, with the clock that it reads. -/
def armTimer (rt : Runtime queues) (state : FdOps) (delay : Int) :
    Except RuntimeError (Runtime queues) :=
  withTimer rt fun timer =>
    setTimer timer (Int64.ofInt rt.clock) state (Int64.ofInt delay)

/-- `refresh_timer_registration`. -/
def refreshTimerRegistration (rt : Runtime queues) :
    Except RuntimeError (Runtime queues) := do
  let rt ← withTimer rt refreshCurrentTimer
  if rt.timer.currentEmpty then
    return rt.removeTimer rt.timer.fd
  else
    return rt.submitTimer rt.timer.fd rt.timer.cur.state

/-- The test of the two timeout awaiters. -/
def timedOut (self : Addr) (rt : Runtime queues) : Bool :=
  rt.timer.isCurrent ⟨self, .timer⟩ && getTimer rt.timer rt.clock = 0

/-! ## The three awaiters -/

namespace InnerRecvTimeoutAwaiter

def awaitSuspend (self : Addr) (base : Base) (delay : Int)
    (rt : Runtime queues) : Except RuntimeError (Runtime queues × Bool) :=
  if rt.cancelRequested base.cancelToken then
    return (rt, false)
  else do
    let rt := rt.submitRead base.conn
      { fd := base.conn, read := some ⟨self, .socket⟩ }
    let rt ← armTimer rt
      { fd := rt.timer.fd, read := some ⟨self, .timer⟩ } delay
    let rt ← refreshTimerRegistration rt
    return (CancelSlot.submit self base.cancelToken rt, true)

def awaitResume (self : Addr) (base : Base) (io : Io)
    (rt : Runtime queues) : Except RuntimeError (Runtime queues × ReadRet) :=
  if CancelSlot.isCancelEvent base.cancelToken rt then do
    let rt := CancelSlot.consume base.cancelToken rt
    let rt := rt.cancelTimer ⟨self, .timer⟩
    let rt := rt.removeRead base.conn
    let rt := CancelSlot.remove base.cancelToken rt
    let rt ← refreshTimerRegistration rt
    return (rt, (operationCancelledError, (rt.buffers base.buf).readCount))
  else
    let rt := CancelSlot.remove base.cancelToken rt
    if timedOut self rt then do
      let rt := rt.consumeTimer
      let rt := rt.cancelTimer ⟨self, .timer⟩
      let rt := rt.removeRead base.conn
      let rt ← refreshTimerRegistration rt
      return (rt, (timeoutError, (rt.buffers base.buf).readCount))
    else do
      let rt := rt.cancelTimer ⟨self, .timer⟩
      let rt ← refreshTimerRegistration rt
      let (rt, awaited) := rt.tryRead base.conn base.buf io.recv
      return (rt.removeRead base.conn, awaited)

end InnerRecvTimeoutAwaiter

namespace InnerSendTimeoutAwaiter

def awaitSuspend (self : Addr) (base : Base) (delay : Int)
    (rt : Runtime queues) : Except RuntimeError (Runtime queues × Bool) :=
  if rt.cancelRequested base.cancelToken then
    return (rt, false)
  else do
    let rt := rt.submitWrite base.conn
      { fd := base.conn, write := some ⟨self, .socket⟩ }
    let rt ← armTimer rt
      { fd := rt.timer.fd, read := some ⟨self, .timer⟩ } delay
    let rt ← refreshTimerRegistration rt
    return (CancelSlot.submit self base.cancelToken rt, true)

def awaitResume (self : Addr) (base : Base) (io : Io)
    (rt : Runtime queues) :
    Except RuntimeError (Runtime queues × WriteRet) :=
  if CancelSlot.isCancelEvent base.cancelToken rt then do
    let rt := CancelSlot.consume base.cancelToken rt
    let rt := rt.cancelTimer ⟨self, .timer⟩
    let rt := rt.removeWrite base.conn
    let rt := CancelSlot.remove base.cancelToken rt
    let rt ← refreshTimerRegistration rt
    return (rt, ⟨operationCancelledError, 0, .cancelled⟩)
  else
    let rt := CancelSlot.remove base.cancelToken rt
    if timedOut self rt then do
      let rt := rt.consumeTimer
      let rt := rt.cancelTimer ⟨self, .timer⟩
      let rt := rt.removeWrite base.conn
      let rt ← refreshTimerRegistration rt
      return (rt, ⟨timeoutError, 0, .timeout⟩)
    else do
      let rt := rt.cancelTimer ⟨self, .timer⟩
      let rt ← refreshTimerRegistration rt
      let (rt, awaited) := rt.tryWrite base.conn base.buf io.send
      return (rt.removeWrite base.conn, awaited)

end InnerSendTimeoutAwaiter

namespace TimerAwaiter

def awaitSuspend (self : Addr) (delay : Int) (rt : Runtime queues) :
    Except RuntimeError (Runtime queues) := do
  let rt ← armTimer rt { read := some ⟨self, .timer⟩ } delay
  return rt.submitTimer rt.timer.fd rt.timer.cur.state

def awaitResume (rt : Runtime queues) :
    Except RuntimeError (Runtime queues × OpResult) := do
  let rt := rt.consumeTimer
  let rt ← withTimer rt advance
  let rt ← refreshTimerRegistration rt
  return (rt, .waited 0)

end TimerAwaiter

/-! ## The coroutines -/

/-- `await_suspend`; without a delay there is nothing to count. -/
def awaitSuspend (self : Addr) (rt : Runtime queues) :
    Operation → Except RuntimeError (Runtime queues × Bool)
  | .asyncReadTimeout base delay =>
      InnerRecvTimeoutAwaiter.awaitSuspend self base delay rt
  | .asyncWriteTimeout base delay =>
      InnerSendTimeoutAwaiter.awaitSuspend self base delay rt
  | .waitFor delay => do
      let rt ← TimerAwaiter.awaitSuspend self delay rt
      return (rt, true)
  | operation => return operation.awaitSuspend self rt

def resumeOnce (self : Addr) (io : Io) (total : Nat) (rt : Runtime queues) :
    Operation → Except RuntimeError (Stretch queues)
  | .asyncReadTimeout base _ => do
      let (rt, awaited) ← InnerRecvTimeoutAwaiter.awaitResume self base io rt
      return ⟨rt, total,
        (readBody (rt.buffers base.buf) awaited).map OpResult.ofPair⟩
  | .asyncWriteTimeout base _ => do
      let (rt, awaited) ← InnerSendTimeoutAwaiter.awaitResume self base io rt
      let (total, returned) := writeBody total awaited
      return ⟨rt, total, returned.map OpResult.ofPair⟩
  | .waitFor _ => do
      let (rt, awaited) ← TimerAwaiter.awaitResume rt
      return ⟨rt, total, some awaited⟩
  | operation => return operation.resumeOnce self io total rt

def loop (self : Addr) (operation : Operation) :
    Nat → Nat → Runtime queues → Except RuntimeError (Stretch queues)
  | 0, total, rt => return ⟨rt, total, none⟩
  | turns + 1, total, rt => do
      let (rt, suspended) ← awaitSuspend self rt operation
      if suspended then
        return ⟨rt, total, none⟩
      else
        let stretch ← resumeOnce self {} total rt operation
        if stretch.returned.isSome then
          return stretch
        else
          loop self operation turns stretch.total stretch.rt

def start (self : Addr) (io : Io) (rt : Runtime queues)
    (operation : Operation) : Except RuntimeError (Stretch queues) :=
  match operation with
  | .asyncConnect _ =>
      match tryConnect io.connect with
      | .connected => return ⟨rt, 0, some (.connected 0)⟩
      | .error => return ⟨rt, 0, some (.connected io.connect)⟩
      | .inProgress => loop self operation 1 0 rt
  | _ => loop self operation 1 0 rt

def wake (self : Addr) (io : Io) (total : Nat) (rt : Runtime queues)
    (operation : Operation) : Except RuntimeError (Stretch queues) := do
  let stretch ← resumeOnce self io total rt operation
  if stretch.returned.isSome then
    return stretch
  else
    loop self operation 1 stretch.total stretch.rt

/-! ## The calls of the timer -/

/-- The clock and a delay are 64-bit counts, and the deadline is positive. -/
structure Representable (now delay : Int) : Prop where
  running : 0 < now
  nowHigh : now < 2 ^ 63
  delayLow : -2 ^ 63 ≤ delay
  delayHigh : delay < 2 ^ 63
  positive : 0 < TimerEvent.toTimePoint now delay

/-- The time points that the timer holds, and what the timerfd is set to, are
64-bit counts. -/
structure Ranged (rt : Runtime queues) : Prop where
  timely : Timely rt.timer
  running : 0 < rt.clock
  setting : ∀ deadline, rt.timer.timerFd.setting = some deadline →
    deadline < 2 ^ 63

/-- What a call comes to that passes this deadline to `set_timer`. -/
def checked {α : Type} (deadline : Option Int) (value : α) :
    Except RuntimeError α :=
  if deadline.all fun deadline => deadline < 2 ^ 63 then .ok value
  else .error ⟨"update_timer", EINVAL⟩

section Checks

variable {α : Type} {deadline : Option Int}

theorem checked_of_fits (value : α)
    (fits : ∀ count, deadline = some count → count < 2 ^ 63) :
    checked deadline value = .ok value := by
  cases deadline with
  | none => rfl
  | some count => exact if_pos (decide_eq_true (fits count rfl))

theorem checked_of_overflow {count : Int} (value : α)
    (overflow : ¬count < 2 ^ 63) :
    checked (some count) value = .error ⟨"update_timer", EINVAL⟩ :=
  if_neg fun fits => overflow (of_decide_eq_true fits)

/-- What follows the call of `set_timer`. -/
theorem checked_bind {β : Type} {value : α} {result : β}
    {rest : α → Except RuntimeError β}
    (goesOn : (∀ count, deadline = some count → count < 2 ^ 63) →
      rest value = .ok result) :
    checked deadline value >>= rest = checked deadline result := by
  by_cases fits : ∀ count, deadline = some count → count < 2 ^ 63
  · rw [checked_of_fits value fits, checked_of_fits result fits]
    exact goesOn fits
  · push Not at fits
    obtain ⟨count, rfl, above⟩ := fits
    rw [checked_of_overflow value above.not_gt,
      checked_of_overflow result above.not_gt]
    rfl

end Checks

section Timer

variable {rt : Runtime queues} {now delay : Int}

private theorem toInt_of_representable (represents : Representable now delay) :
    (Int64.ofInt now).toInt = now ∧ (Int64.ofInt delay).toInt = delay := by
  obtain ⟨running, nowHigh, delayLow, delayHigh, _⟩ := represents
  constructor
  · apply Int64.toInt_ofInt_of_le
    · omega
    · exact nowHigh
  · exact Int64.toInt_ofInt_of_le delayLow delayHigh

/-- A deadline that fits is the sum that the machine computes. -/
theorem toInt_sum (represents : Representable now delay)
    (fits : TimerEvent.toTimePoint now delay < 2 ^ 63) :
    (toTimePoint (Int64.ofInt now) (Int64.ofInt delay)).toInt =
      now + delay := by
  obtain ⟨nowCount, delayCount⟩ := toInt_of_representable represents
  have positive : 0 < delay + now := represents.positive
  have below : delay + now < 2 ^ 63 := fits
  rw [toTimePoint, Int64.toInt_add, nowCount, delayCount, Int.add_comm]
  apply bmod_of_range
  · omega
  · omega

/-- One that does not fit wraps below zero. -/
theorem negative_sum (represents : Representable now delay)
    (overflow : ¬TimerEvent.toTimePoint now delay < 2 ^ 63) :
    (toTimePoint (Int64.ofInt now) (Int64.ofInt delay)).toInt < 0 := by
  obtain ⟨nowCount, delayCount⟩ := toInt_of_representable represents
  obtain ⟨running, nowHigh, delayLow, delayHigh, _⟩ := represents
  have above : ¬delay + now < 2 ^ 63 := overflow
  rw [toTimePoint, Int64.toInt_add, nowCount, delayCount, Int.bmod_def]
  omega

/-- A deadline that fits is set as over unbounded time points. -/
theorem setTimer_of_fits (timely : Timely rt.timer)
    (represents : Representable rt.clock delay) (state : FdOps)
    (fits : TimerEvent.toTimePoint rt.clock delay < 2 ^ 63) :
    armTimer rt state delay = .ok (rt.setTimer state delay) ∧
      Timely (rt.setTimer state delay).timer := by
  obtain ⟨nowCount, delayCount⟩ := toInt_of_representable represents
  have positive : 0 < delay + rt.clock := represents.positive
  have below : delay + rt.clock < 2 ^ 63 := fits
  have inRange : InRange ((Int64.ofInt rt.clock).toInt +
      (Int64.ofInt delay).toInt) := by
    rw [nowCount, delayCount]
    exact ⟨by omega, by omega⟩
  obtain ⟨set, kept⟩ := setTimer_of_inRange timely state
    (by rw [toInt_sum represents fits, nowCount, delayCount]) inRange
  rw [nowCount, delayCount] at set kept
  rw [armTimer, withTimer, set]
  exact ⟨rfl, kept⟩

/-- `set_timer` does what it does over unbounded time points, or throws. -/
theorem armTimer_eq (timely : Timely rt.timer)
    (represents : Representable rt.clock delay) (state : FdOps) :
    armTimer rt state delay =
      checked (some (TimerEvent.toTimePoint rt.clock delay))
        (rt.setTimer state delay) := by
  by_cases fits : TimerEvent.toTimePoint rt.clock delay < 2 ^ 63
  · rw [(setTimer_of_fits timely represents state fits).1]
    exact (if_pos (decide_eq_true fits)).symm
  · have thrown := setTimer_of_negative timely state
      (negative_sum represents fits)
    rw [armTimer, withTimer, thrown, checked_of_overflow _ fits]
    rfl

private theorem refresh_eq (timely : Timely rt.timer) :
    refreshTimerRegistration rt = .ok rt.refreshTimerRegistration := by
  have refreshed := (refreshCurrentTimer_spec timely).1
  simp only [refreshTimerRegistration, withTimer, refreshed, bind,
    Except.bind, pure, Except.pure, Runtime.refreshTimerRegistration]
  split <;> rfl

private theorem Timely.refresh (timely : Timely rt.timer) :
    Timely rt.refreshTimerRegistration.timer := by
  rw [Runtime.timer_refresh]
  exact (refreshCurrentTimer_spec timely).2

private theorem toInt_getTimer (ranged : Ranged rt) :
    (getTimer rt.timer rt.clock).toInt = rt.timer.getTimer rt.clock := by
  have low : 0 ≤ rt.timer.getTimer rt.clock := by
    unfold TimerEvent.getTimer TimerFd.gettime
    split
    · exact le_refl _
    · exact le_max_right _ _
  have high : rt.timer.getTimer rt.clock < 2 ^ 63 := by
    have running := ranged.running
    unfold TimerEvent.getTimer TimerFd.gettime
    split
    · omega
    · rename_i deadline set
      have fits := ranged.setting deadline set
      omega
  have counted : getTimer rt.timer rt.clock =
      Int64.ofInt (rt.timer.getTimer rt.clock % 1000000000) +
        Int64.ofInt (rt.timer.getTimer rt.clock / 1000000000) *
          1000000000 := rfl
  generalize rt.timer.getTimer rt.clock = left at low high counted ⊢
  have nanoseconds : (Int64.ofInt (left % 1000000000)).toInt =
      left % 1000000000 := by
    apply Int64.toInt_ofInt_of_le
    · omega
    · omega
  have seconds : (Int64.ofInt (left / 1000000000)).toInt =
      left / 1000000000 := by
    apply Int64.toInt_ofInt_of_le
    · omega
    · omega
  have product : (Int64.ofInt (left / 1000000000) * 1000000000).toInt =
      left / 1000000000 * 1000000000 := by
    rw [Int64.toInt_mul, seconds, toInt_billion]
    apply bmod_of_range
    · omega
    · omega
  rw [counted, Int64.toInt_add, nanoseconds, product]
  rw [bmod_of_range (by omega) (by omega)]
  omega

private theorem timedOut_eq (ranged : Ranged rt) (self : Addr) :
    timedOut self rt = AsyncFrame.timedOut self rt := by
  have left := toInt_getTimer ranged
  have zero : getTimer rt.timer rt.clock = 0 ↔
      rt.timer.getTimer rt.clock = 0 := by
    rw [← left, ← Int64.toInt_zero, Int64.toInt_inj]
  simp only [timedOut, AsyncFrame.timedOut, zero]

end Timer

/-! ## Suspensions and resumptions -/

section Awaiters

variable {rt : Runtime queues} {operation : Operation} {self : Addr}
variable {io : Io} {total : Nat}

/-- The range of what an operation counts. -/
def Counts (operation : Operation) (rt : Runtime queues) : Prop :=
  ∀ delay, operation.delay? = some delay → Representable rt.clock delay

/-- A suspension that is not cancelled sets its deadline. -/
theorem awaitSuspend_eq (operation : Operation) (self : Addr)
    (timely : Timely rt.timer) (counts : Counts operation rt)
    (quiet : rt.cancelRequested operation.token? = false) :
    awaitSuspend self rt operation =
      checked (operation.deadlineAt rt.clock)
        (operation.awaitSuspend self rt) := by
  have suspends : ∀ {middle : Runtime queues} {delay : Int} (state : FdOps),
      middle.timer = rt.timer → middle.clock = rt.clock →
        operation.delay? = some delay →
          armTimer middle state delay =
              checked (operation.deadlineAt rt.clock)
                (middle.setTimer state delay) ∧
            ((∀ count, operation.deadlineAt rt.clock = some count →
                count < 2 ^ 63) →
              Timely (middle.setTimer state delay).timer) := by
    intro middle delay state timer clock timed
    have represents := counts delay timed
    rw [← clock] at represents
    rw [← timer] at timely
    rw [Operation.deadlineAt, timed, Option.map_some, ← clock]
    exact ⟨armTimer_eq timely represents state, fun fits =>
      (setTimer_of_fits timely represents state (fits _ rfl)).2⟩
  cases operation with
  | asyncReadTimeout base delay =>
      have uncancelled : rt.cancelRequested base.cancelToken = false := quiet
      obtain ⟨armed, kept⟩ := @suspends
        (rt.submitRead base.conn
          { fd := base.conn, read := some ⟨self, .socket⟩ }) delay
        { fd := _, read := some ⟨self, .timer⟩ }
        (Runtime.timer_settle _ _) (Runtime.clock_settle _ _) rfl
      simp only [awaitSuspend, InnerRecvTimeoutAwaiter.awaitSuspend,
        Operation.awaitSuspend,
        AsyncFrame.InnerRecvTimeoutAwaiter.awaitSuspend, uncancelled,
        Bool.false_eq_true, if_false]
      rw [armed]
      refine checked_bind fun fits => ?_
      rw [refresh_eq (kept fits)]
      rfl
  | asyncWriteTimeout base delay =>
      have uncancelled : rt.cancelRequested base.cancelToken = false := quiet
      obtain ⟨armed, kept⟩ := @suspends
        (rt.submitWrite base.conn
          { fd := base.conn, write := some ⟨self, .socket⟩ }) delay
        { fd := _, read := some ⟨self, .timer⟩ }
        (Runtime.timer_settle _ _) (Runtime.clock_settle _ _) rfl
      simp only [awaitSuspend, InnerSendTimeoutAwaiter.awaitSuspend,
        Operation.awaitSuspend,
        AsyncFrame.InnerSendTimeoutAwaiter.awaitSuspend, uncancelled,
        Bool.false_eq_true, if_false]
      rw [armed]
      refine checked_bind fun fits => ?_
      rw [refresh_eq (kept fits)]
      rfl
  | waitFor delay =>
      obtain ⟨armed, _⟩ := @suspends rt delay
        { read := some ⟨self, .timer⟩ } rfl rfl rfl
      simp only [awaitSuspend, TimerAwaiter.awaitSuspend, bind_assoc]
      rw [armed]
      exact checked_bind fun _ => rfl
  | asyncRead base => rfl
  | asyncReadSome conn buf => rfl
  | asyncWrite base => rfl
  | asyncAccept conn => rfl
  | asyncConnect conn => rfl

/-- A suspension whose deadline fits leaves time points in range. -/
theorem Timely.awaitSuspend (timely : Timely rt.timer)
    (counts : Counts operation rt)
    (quiet : rt.cancelRequested operation.token? = false)
    (fits : ∀ count, operation.deadlineAt rt.clock = some count →
      count < 2 ^ 63) :
    Timely (operation.awaitSuspend self rt).1.timer := by
  have sets : ∀ (state : FdOps) {delay : Int},
      operation.delay? = some delay →
        Timely (rt.timer.setTimer rt.clock state delay) := by
    intro state delay timed
    refine (setTimer_of_fits timely (counts delay timed) state ?_).2
    apply fits
    rw [Operation.deadlineAt, timed]
    rfl
  by_cases waits : ∃ delay, operation = .waitFor delay
  · obtain ⟨delay, rfl⟩ := waits
    simp only [Operation.awaitSuspend, AsyncFrame.TimerAwaiter.awaitSuspend,
      Runtime.submitTimer, Runtime.timer_settle]
    exact sets _ rfl
  · rw [Operation.awaitSuspend_timer operation self rt quiet
      fun delay same => waits ⟨delay, same⟩]
    split
    · rename_i delay timed
      exact (refreshCurrentTimer_spec (sets _ timed)).2
    · exact timely

/-- Reading the timerfd leaves the time points. -/
theorem Timely.consumeTimer (timely : Timely rt.timer) :
    Timely rt.consumeTimer.timer := by
  simp only [Runtime.consumeTimer]
  split
  · exact ⟨timely.cur, timely.queued⟩
  · split <;> exact ⟨timely.cur, timely.queued⟩

private theorem Ranged.remove (ranged : Ranged rt) (token : Option Fd) :
    Ranged (CancelSlot.remove token rt) where
  timely := by
    rw [Runtime.timer_removeToken]
    exact ranged.timely
  running := by
    rw [Runtime.clock_removeToken]
    exact ranged.running
  setting := by
    rw [Runtime.timer_removeToken]
    exact ranged.setting

/-- A resumption counts nothing that is out of range. -/
theorem resumeOnce_spec (operation : Operation) (self : Addr) (io : Io)
    (total : Nat) (ranged : Ranged rt) :
    resumeOnce self io total rt operation =
        .ok (operation.resumeOnce self io total rt) ∧
      Timely (operation.resumeOnce self io total rt).rt.timer := by
  have timely := ranged.timely
  have calm : operation.timedTransfer = false →
      (∀ delay, operation ≠ .waitFor delay) →
        Timely (operation.resumeOnce self io total rt).rt.timer := by
    intro untimed other
    rw [Operation.resumeOnce_timer, untimed]
    · exact timely
    · rintro (⟨timed, _⟩ | ⟨delay, same⟩)
      · rw [untimed] at timed
        cases timed
      · exact other delay same
  cases operation with
  | asyncReadTimeout base delay =>
      simp only [resumeOnce, Operation.resumeOnce,
        InnerRecvTimeoutAwaiter.awaitResume,
        AsyncFrame.InnerRecvTimeoutAwaiter.awaitResume,
        timedOut_eq (ranged.remove base.cancelToken)]
      split
      · have cancelled : Timely (CancelSlot.remove base.cancelToken
            (((CancelSlot.consume base.cancelToken rt).cancelTimer
              ⟨self, .timer⟩).removeRead base.conn)).timer := by
          simpa [Runtime.removeRead, Runtime.cancelTimer] using
            timely.cancel ⟨self, .timer⟩
        rw [refresh_eq cancelled]
        exact ⟨rfl, cancelled.refresh⟩
      · have removed := (ranged.remove base.cancelToken).timely
        split
        · have expired : Timely (((CancelSlot.remove base.cancelToken
              rt).consumeTimer.cancelTimer ⟨self, .timer⟩).removeRead
                base.conn).timer := by
            simpa [Runtime.removeRead, Runtime.cancelTimer] using
              removed.consumeTimer.cancel ⟨self, .timer⟩
          rw [refresh_eq expired]
          exact ⟨rfl, expired.refresh⟩
        · have cancelled : Timely ((CancelSlot.remove base.cancelToken
              rt).cancelTimer ⟨self, .timer⟩).timer :=
            removed.cancel ⟨self, .timer⟩
          rw [refresh_eq cancelled]
          refine ⟨rfl, ?_⟩
          simpa [Runtime.removeRead, Runtime.tryRead] using
            cancelled.refresh
  | asyncWriteTimeout base delay =>
      simp only [resumeOnce, Operation.resumeOnce,
        InnerSendTimeoutAwaiter.awaitResume,
        AsyncFrame.InnerSendTimeoutAwaiter.awaitResume,
        timedOut_eq (ranged.remove base.cancelToken)]
      split
      · have cancelled : Timely (CancelSlot.remove base.cancelToken
            (((CancelSlot.consume base.cancelToken rt).cancelTimer
              ⟨self, .timer⟩).removeWrite base.conn)).timer := by
          simpa [Runtime.removeWrite, Runtime.cancelTimer] using
            timely.cancel ⟨self, .timer⟩
        rw [refresh_eq cancelled]
        exact ⟨rfl, cancelled.refresh⟩
      · have removed := (ranged.remove base.cancelToken).timely
        split
        · have expired : Timely (((CancelSlot.remove base.cancelToken
              rt).consumeTimer.cancelTimer ⟨self, .timer⟩).removeWrite
                base.conn).timer := by
            simpa [Runtime.removeWrite, Runtime.cancelTimer] using
              removed.consumeTimer.cancel ⟨self, .timer⟩
          rw [refresh_eq expired]
          exact ⟨rfl, expired.refresh⟩
        · have cancelled : Timely ((CancelSlot.remove base.cancelToken
              rt).cancelTimer ⟨self, .timer⟩).timer :=
            removed.cancel ⟨self, .timer⟩
          rw [refresh_eq cancelled]
          refine ⟨rfl, ?_⟩
          simpa [Runtime.removeWrite, Runtime.tryWrite] using
            cancelled.refresh
  | waitFor delay =>
      obtain ⟨advanced, kept⟩ := advance_spec timely.consumeTimer
      have refreshed : Timely rt.consumeTimer.advanceTimer.timer := kept
      have steps : withTimer rt.consumeTimer advance =
          .ok rt.consumeTimer.advanceTimer := by
        rw [withTimer, advanced]
        rfl
      simp only [resumeOnce, TimerAwaiter.awaitResume]
      rw [steps]
      simp only [bind, Except.bind]
      rw [refresh_eq refreshed]
      exact ⟨rfl, refreshed.refresh⟩
  | asyncRead base => exact ⟨rfl, calm rfl fun _ same => by cases same⟩
  | asyncReadSome conn buf =>
      exact ⟨rfl, calm rfl fun _ same => by cases same⟩
  | asyncWrite base => exact ⟨rfl, calm rfl fun _ same => by cases same⟩
  | asyncAccept conn => exact ⟨rfl, calm rfl fun _ same => by cases same⟩
  | asyncConnect conn => exact ⟨rfl, calm rfl fun _ same => by cases same⟩

end Awaiters

/-! ## Stretches -/

section Stretches

variable {rt : Runtime queues} {operation : Operation} {self : Addr}
variable {io : Io} {turns total : Nat}

private theorem awaitSuspend_of_cancelled
    (cancelled : rt.cancelRequested operation.token? = true) :
    awaitSuspend self rt operation = .ok (rt, false) := by
  have untimed : ∀ {suspended}, operation.awaitSuspend self rt = suspended →
      suspended = (rt, false) := by
    rintro _ rfl
    exact Operation.awaitSuspend_of_cancelled self cancelled
  cases operation with
  | asyncReadTimeout base delay => exact if_pos cancelled
  | asyncWriteTimeout base delay => exact if_pos cancelled
  | waitFor delay => cases cancelled
  | asyncRead base => exact congrArg Except.ok (untimed rfl)
  | asyncWrite base => exact congrArg Except.ok (untimed rfl)
  | asyncReadSome conn buf => cases cancelled
  | asyncAccept conn => cases cancelled
  | asyncConnect conn => cases cancelled

private theorem loop_of_cancelled (ranged : Ranged rt)
    (cancelled : rt.cancelRequested operation.token? = true) :
    loop self operation (turns + 1) total rt =
      .ok (operation.resumeOnce self {} total rt) := by
  obtain ⟨result, returned, _⟩ :=
    Operation.returned_of_cancelled self {} total cancelled
  have resumed := (resumeOnce_spec operation self {} total ranged).1
  rw [loop, awaitSuspend_of_cancelled cancelled]
  simp only [bind, Except.bind, Bool.false_eq_true, if_false, resumed,
    returned, Option.isSome_some, if_true]
  rfl

private theorem loop_of_quiet (timely : Timely rt.timer)
    (counts : Counts operation rt)
    (quiet : rt.cancelRequested operation.token? = false) :
    loop self operation (turns + 1) total rt =
      checked (operation.deadlineAt rt.clock)
        ⟨(operation.awaitSuspend self rt).1, total, none⟩ := by
  rw [loop, awaitSuspend_eq operation self timely counts quiet]
  refine checked_bind fun _ => ?_
  have suspends : operation.awaitSuspend self rt =
      ((operation.awaitSuspend self rt).1, true) :=
    Prod.ext rfl (operation.awaitSuspend_of_quiet self quiet)
  rw [suspends]
  rfl

/-- The loop at its `co_await`. -/
theorem loop_spec (ranged : Ranged rt) (counts : Counts operation rt) :
    loop self operation (turns + 1) total rt =
        checked (operation.startSets rt)
          (Operation.loop self operation (turns + 1) total rt) ∧
      ((∀ count, operation.startSets rt = some count → count < 2 ^ 63) →
        Timely (Operation.loop self operation (turns + 1) total
          rt).rt.timer) := by
  rw [Operation.loop_succ, Operation.startSets]
  cases cancelled : rt.cancelRequested operation.token? with
  | true =>
      simp only [if_true]
      exact ⟨loop_of_cancelled ranged cancelled,
        fun _ => (resumeOnce_spec operation self {} total ranged).2⟩
  | false =>
      simp only [Bool.false_eq_true, if_false]
      exact ⟨loop_of_quiet ranged.timely counts cancelled,
        ranged.timely.awaitSuspend counts cancelled⟩

/-- From its start the coroutine does what it does over unbounded time points,
or `set_timer` throws. -/
theorem start_spec (ranged : Ranged rt) (counts : Counts operation rt) :
    start self io rt operation =
        checked (operation.startSets rt) (operation.start self io rt) ∧
      ((∀ count, operation.startSets rt = some count → count < 2 ^ 63) →
        Timely (operation.start self io rt).rt.timer) := by
  have looped := @loop_spec queues rt operation self 0 0 ranged counts
  cases operation with
  | asyncConnect conn =>
      simp only [start, Operation.start]
      cases tryConnect io.connect with
      | connected => exact ⟨rfl, fun _ => ranged.timely⟩
      | error => exact ⟨rfl, fun _ => ranged.timely⟩
      | inProgress => exact looped
  | _ => exact looped

/-- And so from a resumption. -/
theorem wake_spec (ranged : Ranged rt) (counts : Counts operation rt)
    (kept : FilesKept rt (operation.resumeOnce self io total rt).rt) :
    wake self io total rt operation =
        checked (operation.wakeSets self io rt)
          (operation.wake self io total rt) ∧
      ((∀ count, operation.wakeSets self io rt = some count →
        count < 2 ^ 63) →
          Timely (operation.wake self io total rt).rt.timer) := by
  obtain ⟨resumed, timely⟩ := resumeOnce_spec operation self io total ranged
  have rounds := operation.resumeOnce_isNone self io total rt
  rw [wake, resumed, Operation.wake_eq kept, Operation.wakeSets]
  cases returned : (operation.resumeOnce self io total rt).returned with
  | some result =>
      have ends : operation.goesRound self io rt = false := by
        rw [← rounds, returned]
        rfl
      simp only [bind, Except.bind, returned, ends, Option.isSome_some,
        if_true, Bool.false_eq_true, if_false]
      exact ⟨rfl, fun _ => timely⟩
  | none =>
      have goesRound : operation.goesRound self io rt = true := by
        rw [← rounds, returned]
        rfl
      have clock : (operation.resumeOnce self io total rt).rt.clock =
          rt.clock := Operation.resumeOnce_clock goesRound
      have quiet : (operation.resumeOnce self io total
          rt).rt.cancelRequested operation.token? = false := by
        rw [kept.cancelRequested]
        exact Operation.quiet_of_pending returned
      have again : Counts operation
          (operation.resumeOnce self io total rt).rt := by
        intro delay timed
        rw [clock]
        exact counts delay timed
      simp only [bind, Except.bind, returned, goesRound, Option.isSome_none,
        Bool.false_eq_true, if_false, if_true]
      rw [loop_of_quiet timely again quiet, clock]
      refine ⟨rfl, fun fits => timely.awaitSuspend again quiet ?_⟩
      rw [clock]
      exact fits

end Stretches

end Counted

end AsyncFrame
