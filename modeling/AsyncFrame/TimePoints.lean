import AsyncFrame.Scheduler
import AsyncFrame.TimerRefinement

/-!
# Time points in 64 bits

`TimerEvent` counts nanoseconds in a signed 64-bit integer, hands them to the
kernel as a `timespec`, and throws when the kernel refuses that.  Its functions
are given here with this arithmetic and this exception, over the same state;
the time point of a task stands for its 64-bit count.  As long as no deadline
leaves the range, they are the functions over unbounded time points.
-/

namespace AsyncFrame

open Lib

/-- `struct timespec`. -/
structure Timespec where
  tvSec : Int64
  tvNsec : Int64
  deriving DecidableEq, Repr

namespace Timespec

/-- The nanoseconds that the kernel reads. -/
def count (time : Timespec) : Int :=
  time.tvSec.toInt * 1000000000 + time.tvNsec.toInt

/-- What `timerfd_settime` does not answer with `EINVAL`. -/
def valid (time : Timespec) : Bool :=
  0 ≤ time.tvSec && 0 ≤ time.tvNsec && time.tvNsec < 1000000000

end Timespec

/-- `TimerTaskComp`: the queue releases `rhs` before `lhs`. -/
def timerTaskComp (lhs rhs : TimerTask) : Bool :=
  lhs.timePoint ≥ rhs.timePoint

namespace Counted

variable {queues : TimerQueue}

/-- `to_time_point`.  A sum that leaves the range is undefined behaviour; the
addition of the machine wraps. -/
def toTimePoint (now delay : Int64) : Int64 :=
  delay + now

/-- `to_timespec`; `time_point_cast` to seconds truncates towards zero. -/
def toTimespec (time : Int64) : Timespec :=
  let second := time / 1000000000
  let nsecond := time - second * 1000000000
  ⟨second, nsecond⟩

def updateTimer (timer : TimerEvent queues) (tp : Int64) :
    Except RuntimeError (TimerEvent queues) :=
  let value := toTimespec tp
  if value.valid then .ok (timer.updateTimer value.count)
  else .error ⟨"update_timer", EINVAL⟩

/-- The loop of `activate_next_timer`. -/
def activateLoop : Nat → TimerEvent queues →
    Except RuntimeError (TimerEvent queues)
  | 0, timer => .ok (TimerEvent.clearTimer { timer with cur := {} })
  | turns + 1, timer =>
      match queues.pop timer.waitingQueue with
      | none => .ok (TimerEvent.clearTimer { timer with cur := {} })
      | some (task, rest) =>
          let (timer, cancelled) :=
            TimerEvent.consumeCancelled { timer with waitingQueue := rest }
              task
          if cancelled then
            activateLoop turns (timer.forgetActive task)
          else
            updateTimer { timer with cur := task }
              (Int64.ofInt task.timePoint)

def activateNextTimer (timer : TimerEvent queues) :
    Except RuntimeError (TimerEvent queues) :=
  activateLoop (queues.elems timer.waitingQueue).card timer

/-- `operator++`. -/
def advance (timer : TimerEvent queues) :
    Except RuntimeError (TimerEvent queues) :=
  activateNextTimer (timer.forgetActive timer.cur)

def refreshCurrentTimer (timer : TimerEvent queues) :
    Except RuntimeError (TimerEvent queues) :=
  if TimerEvent.emptyTask timer.cur then
    activateNextTimer (timer.forgetActive timer.cur)
  else
    let (timer, cancelled) := timer.consumeCancelled timer.cur
    if cancelled then
      activateNextTimer (timer.forgetActive timer.cur)
    else
      .ok timer

/-- `set_timer`, which is `noexcept`: an exception ends the process. -/
def setTimer (timer : TimerEvent queues) (now : Int64) (state : FdOps)
    (delay : Int64) : Except RuntimeError (TimerEvent queues) := do
  let timer ← refreshCurrentTimer timer
  let finalTime := toTimePoint now delay
  let task : TimerTask :=
    { state := state, timePoint := finalTime.toInt, id := timer.nextTimerId }
  let timer := TimerEvent.rememberActive
    { timer with nextTimerId := timer.nextTimerId + 1 } task
  if timer.cur.timePoint = 0 then
    updateTimer { timer with cur := task } finalTime
  else if finalTime.toInt < timer.cur.timePoint then
    updateTimer
      { timer with
        waitingQueue := queues.push timer.cur timer.waitingQueue
        cur := task }
      finalTime
  else
    .ok { timer with waitingQueue := queues.push task timer.waitingQueue }

/-! ## One time point -/

section Arithmetic

variable {now delay time : Int64}

theorem bmod_of_range {count : Int} (low : -2 ^ 63 ≤ count)
    (high : count < 2 ^ 63) : count.bmod (2 ^ 64) = count := by
  apply Int.bmod_eq_of_le
  · omega
  · omega

theorem toInt_billion : (1000000000 : Int64).toInt = 1000000000 := by
  decide

private theorem toInt_second (time : Int64) :
    (time / 1000000000).toInt = time.toInt.tdiv 1000000000 := by
  apply Int64.toInt_div_of_ne_right
  decide

/-- A count of no less than zero is split into whole seconds and the rest. -/
theorem toTimespec_of_nonneg (nonneg : 0 ≤ time.toInt) :
    (toTimespec time).tvSec.toInt = time.toInt / 1000000000 ∧
      (toTimespec time).tvNsec.toInt = time.toInt % 1000000000 := by
  have high := time.toInt_lt
  have second : (time / 1000000000).toInt = time.toInt / 1000000000 := by
    rw [toInt_second, Int.tdiv_eq_ediv_of_nonneg nonneg]
  have whole : (time / 1000000000 * 1000000000).toInt =
      time.toInt / 1000000000 * 1000000000 := by
    rw [Int64.toInt_mul, second, toInt_billion]
    apply bmod_of_range
    · omega
    · omega
  refine ⟨second, ?_⟩
  simp only [toTimespec, Int64.toInt_sub, whole]
  rw [bmod_of_range (by omega) (by omega)]
  omega

private theorem valid_of_nonneg (nonneg : 0 ≤ time.toInt) :
    (toTimespec time).valid = true ∧
      (toTimespec time).count = time.toInt := by
  obtain ⟨second, nsecond⟩ := toTimespec_of_nonneg nonneg
  constructor
  · simp only [Timespec.valid, Bool.and_eq_true, decide_eq_true_eq,
      Int64.le_iff_toInt_le, Int64.lt_iff_toInt_lt, second, nsecond,
      Int64.toInt_zero, toInt_billion]
    omega
  · simp only [Timespec.count, second, nsecond]
    omega

/-- The seconds or the nanoseconds of a negative count are negative. -/
theorem not_valid_of_negative (negative : time.toInt < 0) :
    (toTimespec time).valid = false := by
  have low := time.le_toInt
  have second : (time / 1000000000).toInt =
      -(-time.toInt / 1000000000) := by
    rw [toInt_second, ← Int.tdiv_eq_ediv_of_nonneg (by omega),
      Int.neg_tdiv, Int.neg_neg]
  apply Bool.eq_false_iff.mpr
  intro valid
  simp only [Timespec.valid, Bool.and_eq_true, decide_eq_true_eq,
    Int64.le_iff_toInt_le, Int64.toInt_zero, toTimespec] at valid
  obtain ⟨⟨seconds, nanoseconds⟩, _⟩ := valid
  -- truncation leaves no whole second, so the rest is the count itself
  have none : time / 1000000000 = 0 := by
    apply Int64.toInt_inj.mp
    rw [second, Int64.toInt_zero]
    omega
  rw [none, Int64.zero_mul, Int64.sub_zero] at nanoseconds
  omega

/-- The sum of two counts of no less than zero either is in range or wraps
below zero. -/
theorem toInt_toTimePoint (running : 0 ≤ now.toInt)
    (waits : 0 ≤ delay.toInt) :
    (toTimePoint now delay).toInt =
      if now.toInt + delay.toInt < 2 ^ 63 then now.toInt + delay.toInt
      else now.toInt + delay.toInt - 2 ^ 64 := by
  have nowHigh := now.toInt_lt
  have delayHigh := delay.toInt_lt
  simp only [toTimePoint, Int64.toInt_add]
  split
  · rw [Int.bmod_eq_of_le (by omega) (by omega)]
    omega
  · rw [Int.bmod_def]
    omega

end Arithmetic

/-! ## What the timer holds -/

/-- The range of the time points of tasks: 64-bit counts past the zero time
point. -/
def InRange (timePoint : Int) : Prop :=
  0 < timePoint ∧ timePoint < 2 ^ 63

/-- Every task has a time point in range; only an empty `cur` has the zero
one. -/
structure Timely (timer : TimerEvent queues) : Prop where
  cur : timer.cur.timePoint = 0 ∨ InRange timer.cur.timePoint
  queued : ∀ task ∈ queues.elems timer.waitingQueue, InRange task.timePoint

variable {timer : TimerEvent queues}

private theorem updateTimer_of_nonneg (timer : TimerEvent queues) {time : Int64}
    (nonneg : 0 ≤ time.toInt) :
    updateTimer timer time = .ok (timer.updateTimer time.toInt) := by
  obtain ⟨valid, counts⟩ := valid_of_nonneg nonneg
  simp only [updateTimer, valid, if_true, counts]

private theorem updateTimer_of_negative (timer : TimerEvent queues)
    {time : Int64} (negative : time.toInt < 0) :
    updateTimer timer time = .error ⟨"update_timer", EINVAL⟩ := by
  simp [updateTimer, not_valid_of_negative negative]

private theorem updateTimer_of_inRange (timer : TimerEvent queues)
    {timePoint : Int} (inRange : InRange timePoint) :
    updateTimer timer (Int64.ofInt timePoint) =
      .ok (timer.updateTimer timePoint) := by
  obtain ⟨low, high⟩ := inRange
  have same : (Int64.ofInt timePoint).toInt = timePoint := by
    apply Int64.toInt_ofInt_of_le
    · omega
    · exact high
  rw [updateTimer_of_nonneg, same]
  omega

@[simp]
theorem waitingQueue_forgetActive (timer : TimerEvent queues)
    (task : TimerTask) :
    (timer.forgetActive task).waitingQueue = timer.waitingQueue := by
  unfold TimerEvent.forgetActive
  split
  · rfl
  · split <;> rfl

@[simp]
theorem waitingQueue_consumeCancelled (timer : TimerEvent queues)
    (task : TimerTask) :
    (timer.consumeCancelled task).1.waitingQueue = timer.waitingQueue := by
  unfold TimerEvent.consumeCancelled
  split <;> rfl

@[simp]
theorem cur_consumeCancelled (timer : TimerEvent queues)
    (task : TimerTask) : (timer.consumeCancelled task).1.cur = timer.cur := by
  unfold TimerEvent.consumeCancelled
  split <;> rfl

/-- With the time points in range the loop does not throw, and does what it
does over unbounded ones. -/
theorem activateLoop_spec (turns : Nat) (timer : TimerEvent queues)
    (queued : ∀ task ∈ queues.elems timer.waitingQueue,
      InRange task.timePoint) :
    activateLoop turns timer = .ok (TimerEvent.activateLoop turns timer) ∧
      Timely (TimerEvent.activateLoop turns timer) := by
  induction turns generalizing timer with
  | zero => exact ⟨rfl, Or.inl rfl, queued⟩
  | succ turns inductionHypothesis =>
      cases popped : queues.pop timer.waitingQueue with
      | none =>
          rw [activateLoop, TimerEvent.activateLoop, popped]
          exact ⟨rfl, Or.inl rfl, queued⟩
      | some released =>
          obtain ⟨task, rest⟩ := released
          have shape := queues.elems_of_pop_some popped
          have first : InRange task.timePoint := by
            apply queued
            rw [shape]
            exact Multiset.mem_cons_self _ _
          have others : ∀ other ∈ queues.elems rest,
              InRange other.timePoint := by
            intro other member
            apply queued
            rw [shape]
            exact Multiset.mem_cons_of_mem member
          rw [activateLoop, TimerEvent.activateLoop, popped]
          dsimp only
          split
          · apply inductionHypothesis
            rw [waitingQueue_forgetActive, waitingQueue_consumeCancelled]
            exact others
          · rw [updateTimer_of_inRange _ first]
            refine ⟨rfl, Or.inr first, ?_⟩
            intro other member
            apply others
            simpa [TimerEvent.updateTimer] using member

theorem advance_spec (timely : Timely timer) :
    advance timer = .ok timer.advance ∧ Timely timer.advance := by
  apply activateLoop_spec
  rw [waitingQueue_forgetActive]
  exact timely.queued

theorem refreshCurrentTimer_spec (timely : Timely timer) :
    refreshCurrentTimer timer = .ok timer.refreshCurrentTimer ∧
      Timely timer.refreshCurrentTimer := by
  unfold refreshCurrentTimer TimerEvent.refreshCurrentTimer
  split
  · exact advance_spec timely
  · dsimp only
    split
    · apply activateLoop_spec
      rw [waitingQueue_forgetActive, waitingQueue_consumeCancelled]
      exact timely.queued
    · refine ⟨rfl, ?_, ?_⟩
      · rw [cur_consumeCancelled]
        exact timely.cur
      · rw [waitingQueue_consumeCancelled]
        exact timely.queued

theorem Timely.cancel (timely : Timely timer) (read : OpPtr) :
    Timely (timer.cancel read) := by
  unfold TimerEvent.cancel
  split
  · exact timely
  · exact ⟨timely.cur, timely.queued⟩

@[simp]
theorem cur_rememberActive (timer : TimerEvent queues) (task : TimerTask) :
    (timer.rememberActive task).cur = timer.cur := by
  unfold TimerEvent.rememberActive
  split <;> rfl

@[simp]
theorem waitingQueue_rememberActive (timer : TimerEvent queues)
    (task : TimerTask) :
    (timer.rememberActive task).waitingQueue = timer.waitingQueue := by
  unfold TimerEvent.rememberActive
  split <;> rfl

section Setting

variable {now delay : Int64}

/-- A deadline in range is set as over unbounded time points. -/
theorem setTimer_of_inRange (timely : Timely timer) (state : FdOps)
    (sum : (toTimePoint now delay).toInt = now.toInt + delay.toInt)
    (inRange : InRange (now.toInt + delay.toInt)) :
    setTimer timer now state delay =
        .ok (timer.setTimer now.toInt state delay.toInt) ∧
      Timely (timer.setTimer now.toInt state delay.toInt) := by
  obtain ⟨refreshed, timelyNext⟩ := refreshCurrentTimer_spec timely
  have exact : TimerEvent.toTimePoint now.toInt delay.toInt =
      now.toInt + delay.toInt := Int.add_comm _ _
  have updates : ∀ timer : TimerEvent queues,
      updateTimer timer (toTimePoint now delay) =
        .ok (timer.updateTimer (now.toInt + delay.toInt)) := by
    intro timer
    rw [updateTimer_of_nonneg, sum]
    rw [sum]
    exact le_of_lt inRange.1
  simp only [setTimer, refreshed, bind, Except.bind, TimerEvent.setTimer, exact,
    sum, updates, cur_rememberActive, waitingQueue_rememberActive]
  generalize timer.refreshCurrentTimer = refreshed at *
  split
  · refine ⟨rfl, Or.inr inRange, ?_⟩
    simpa [TimerEvent.updateTimer] using timelyNext.queued
  · rename_i occupied
    have current := timelyNext.cur.resolve_left occupied
    split
    · refine ⟨rfl, Or.inr inRange, ?_⟩
      simpa [TimerEvent.updateTimer] using
        And.intro current timelyNext.queued
    · refine ⟨rfl, Or.inr ?_, ?_⟩
      · simpa using current
      · simpa using And.intro inRange timelyNext.queued

/-- A deadline that has wrapped is earlier than any task, and the kernel
refuses it. -/
theorem setTimer_of_negative (timely : Timely timer) (state : FdOps)
    (negative : (toTimePoint now delay).toInt < 0) :
    setTimer timer now state delay = .error ⟨"update_timer", EINVAL⟩ := by
  obtain ⟨refreshed, timelyNext⟩ := refreshCurrentTimer_spec timely
  simp only [setTimer, refreshed, bind, Except.bind, cur_rememberActive]
  generalize timer.refreshCurrentTimer = refreshed at *
  split
  · exact updateTimer_of_negative _ negative
  · rename_i occupied
    have current := timelyNext.cur.resolve_left occupied
    rw [if_pos (lt_trans negative current.1)]
    exact updateTimer_of_negative _ negative

end Setting

/-! ## Runs -/

/-- A call of a member of `TimerEvent`; `now` is the reading of the steady
clock inside `set_timer`. -/
inductive Call where
  | setTimer (now : Int64) (state : FdOps) (delay : Int64)
  | cancel (read : OpPtr)
  | refreshCurrentTimer
  | advance
  deriving DecidableEq

/-- One call, with a positive reading of the clock and a delay of no less than
zero.  After an exception there is no step. -/
def step (timer : TimerEvent queues) : Call → Option (TimerEvent queues)
  | .setTimer now state delay =>
      if 0 < now ∧ 0 ≤ delay then
        (setTimer timer now state delay).toOption
      else none
  | .cancel read => some (timer.cancel read)
  | .refreshCurrentTimer => (refreshCurrentTimer timer).toOption
  | .advance => (advance timer).toOption

private theorem toInt_pos {now : Int64} (running : 0 < now) :
    0 < now.toInt := by
  have order := Int64.lt_iff_toInt_lt.mp running
  rw [Int64.toInt_zero] at order
  exact order

private theorem toInt_nonneg {delay : Int64} (waits : 0 ≤ delay) :
    0 ≤ delay.toInt := by
  have order := Int64.le_iff_toInt_le.mp waits
  rw [Int64.toInt_zero] at order
  exact order

/-- A deadline that does not fit wraps below zero. -/
theorem negative_of_overflow {now delay : Int64} (running : 0 < now)
    (waits : 0 ≤ delay) (overflow : ¬now.toInt + delay.toInt < 2 ^ 63) :
    (toTimePoint now delay).toInt < 0 := by
  have nowHigh := now.toInt_lt
  have delayHigh := delay.toInt_lt
  have nowLow := toInt_pos running
  have delayLow := toInt_nonneg waits
  rw [toInt_toTimePoint (by omega) delayLow, if_neg overflow]
  omega

/-- A step keeps the time points in range: the deadline that would leave the
range ends the process. -/
theorem Timely.step {call : Call} {next : TimerEvent queues}
    (timely : Timely timer) (taken : step timer call = some next) :
    Timely next := by
  cases call with
  | setTimer now state delay =>
      simp only [Counted.step] at taken
      split at taken
      · rename_i allowed
        obtain ⟨running, waits⟩ := allowed
        have nowLow := toInt_pos running
        have delayLow := toInt_nonneg waits
        by_cases fits : now.toInt + delay.toInt < 2 ^ 63
        · have sum := toInt_toTimePoint (le_of_lt nowLow) delayLow
          rw [if_pos fits] at sum
          obtain ⟨set, kept⟩ :=
            setTimer_of_inRange timely state sum ⟨by omega, fits⟩
          rw [set] at taken
          cases taken
          exact kept
        · rw [setTimer_of_negative timely state
            (negative_of_overflow running waits fits)] at taken
          cases taken
      · cases taken
  | cancel read =>
      cases taken
      exact timely.cancel read
  | refreshCurrentTimer =>
      obtain ⟨refreshed, kept⟩ := refreshCurrentTimer_spec timely
      simp only [Counted.step, refreshed] at taken
      cases taken
      exact kept
  | advance =>
      obtain ⟨advanced, kept⟩ := advance_spec timely
      simp only [Counted.step, advanced] at taken
      cases taken
      exact kept

theorem timely_initial (fd : Fd) :
    Timely (TimerEvent.initial queues fd) where
  cur := Or.inl rfl
  queued task member := by
    simp [TimerEvent.initial] at member

private theorem timely_of_run {fd : Fd} {calls : List Call}
    (run : runFrom step (TimerEvent.initial queues fd) calls = some timer) :
    Timely timer := by
  apply invariant_of_run Timely
    (fun timely (_ : True) taken => Timely.step timely taken)
    (timely_initial fd) _ run
  exact meets_of_forall_mem fun _ _ _ => trivial

/-- What the arithmetic of `set_timer` at time `now` must give: the exact
deadline, not the mark of an empty task, as a `timespec` that the kernel takes
and reads as that deadline, later than every task with an earlier one; so that
`set_timer` does what it does over unbounded time points. -/
structure SafeDeadline (timer : TimerEvent queues) (now delay : Int64) :
    Prop where
  sum : (toTimePoint now delay).toInt = now.toInt + delay.toInt
  occupied : toTimePoint now delay ≠ 0
  seconds : 0 ≤ (toTimespec (toTimePoint now delay)).tvSec
  nanoseconds : 0 ≤ (toTimespec (toTimePoint now delay)).tvNsec ∧
    (toTimespec (toTimePoint now delay)).tvNsec < 1000000000
  counts : (toTimespec (toTimePoint now delay)).count =
    now.toInt + delay.toInt
  sets : ∀ state, setTimer timer now state delay =
    .ok (timer.setTimer now.toInt state delay.toInt)
  later : ∀ state id (task : TimerTask),
    task.timePoint < now.toInt + delay.toInt →
      timerTaskComp ⟨state, (toTimePoint now delay).toInt, id⟩ task =
          true ∧
        timerTaskComp task ⟨state, (toTimePoint now delay).toInt, id⟩ =
          false

/-- After every sequence of calls, the arithmetic of a further `set_timer` is
safe exactly if the deadline is at most `INT64_MAX`. -/
theorem safeDeadline_iff {fd : Fd} {calls : List Call} {now delay : Int64}
    (run : runFrom step (TimerEvent.initial queues fd) calls = some timer)
    (running : 0 < now) (waits : 0 ≤ delay) :
    SafeDeadline timer now delay ↔ now.toInt + delay.toInt < 2 ^ 63 := by
  have timely := timely_of_run run
  have nowLow := toInt_pos running
  have delayLow := toInt_nonneg waits
  constructor
  · intro safe
    by_contra overflow
    have set := safe.sets {}
    rw [setTimer_of_negative timely {}
      (negative_of_overflow running waits overflow)] at set
    cases set
  · intro fits
    have sum := toInt_toTimePoint (le_of_lt nowLow) delayLow
    rw [if_pos fits] at sum
    have positive : 0 < (toTimePoint now delay).toInt := by
      rw [sum]
      omega
    obtain ⟨valid, counts⟩ := valid_of_nonneg (le_of_lt positive)
    simp only [Timespec.valid, Bool.and_eq_true, decide_eq_true_eq] at valid
    obtain ⟨⟨seconds, nanoseconds⟩, second⟩ := valid
    refine ⟨sum, ?_, seconds, ⟨nanoseconds, second⟩, counts.trans sum, ?_,
      ?_⟩
    · intro zero
      rw [zero, Int64.toInt_zero] at positive
      omega
    · intro state
      apply (setTimer_of_inRange timely state sum ⟨?_, fits⟩).1
      omega
    · intro state id task earlier
      simp only [timerTaskComp, sum, ge_iff_le, decide_eq_true_eq,
        decide_eq_false_iff_not, not_le]
      exact ⟨le_of_lt earlier, earlier⟩

/-- A timer of a second is set after another one was cancelled. -/
theorem safeDeadline_iff_sample :
    ∃ timer : TimerEvent TimerQueue.sorted,
      runFrom step (TimerEvent.initial TimerQueue.sorted 3)
        [.setTimer 100 { read := some ⟨10, .timer⟩ } 50,
          .setTimer 110 { read := some ⟨20, .timer⟩ } 90,
          .cancel ⟨10, .timer⟩, .refreshCurrentTimer] = some timer ∧
      timer.cur.timePoint = 200 ∧
      SafeDeadline timer 120 1000000000 := by
  have ends : (runFrom step (TimerEvent.initial TimerQueue.sorted 3)
      [.setTimer 100 { read := some ⟨10, .timer⟩ } 50,
        .setTimer 110 { read := some ⟨20, .timer⟩ } 90,
        .cancel ⟨10, .timer⟩, .refreshCurrentTimer]).any
          (fun timer => timer.cur.timePoint = 200) = true := by
    decide +kernel
  obtain ⟨timer, run, passed⟩ := (Option.any_eq_true _ _).mp ends
  exact ⟨timer, run, of_decide_eq_true passed,
    (safeDeadline_iff run (by decide) (by decide)).mpr (by decide)⟩

/-- A delay of `nanoseconds::max()` at the first nanosecond of the clock: the
deadline wraps to the least time point, and `update_timer` throws. -/
theorem safeDeadline_counterexample :
    (toTimePoint 1 Int64.maxValue).toInt = -2 ^ 63 ∧
      (toTimespec (toTimePoint 1 Int64.maxValue)).valid = false ∧
      (∀ state, setTimer (TimerEvent.initial TimerQueue.sorted 3) 1 state
        Int64.maxValue = .error ⟨"update_timer", EINVAL⟩) ∧
      ¬SafeDeadline (TimerEvent.initial TimerQueue.sorted 3) 1
        Int64.maxValue := by
  have least : (toTimePoint 1 Int64.maxValue).toInt = -2 ^ 63 := by decide
  have negative : (toTimePoint 1 Int64.maxValue).toInt < 0 := by
    rw [least]
    decide
  refine ⟨least, not_valid_of_negative negative, ?_, ?_⟩
  · intro state
    exact setTimer_of_negative (timely_initial 3) state negative
  · intro safe
    have sum := safe.sum
    rw [least] at sum
    revert sum
    decide

end Counted

end AsyncFrame
