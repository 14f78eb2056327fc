import AsyncFrame.Lib.MinQueue
import AsyncFrame.Events

/-!
# TimerEvent

`timer.h`: one timerfd drives every timer of the process.  The task in `cur`
is the one the timerfd is set for; the others wait in a priority queue, where
a cancelled task stays under a tombstone until it is popped.

Time points are nanoseconds of the steady clock, and the zero time point marks
an empty task.  Timer ids are counted without a bound, which stands for fewer
than `2 ^ 64` calls of `set_timer`.
-/

namespace AsyncFrame

open Lib

/-- `TimerEvent::TimerTask`; the default is the empty task. -/
structure TimerTask where
  state : FdOps := {}
  timePoint : Int := 0
  id : Nat := 0
  deriving DecidableEq, Repr

/-- `std::priority_queue<TimerTask, ...>` under `TimerTaskComp`: the entry
released first is one of least time point. -/
abbrev TimerQueue := MinQueue TimerTask TimerTask.timePoint

/-- The container that concrete runs are computed with. -/
abbrev TimerQueue.sorted : TimerQueue := MinQueue.sorted TimerTask.timePoint

/-- The kernel's side of the timerfd: what it was last set to, whether it was
read since, how often it was set, and for every read so far whether an
expiration was there when the read began. -/
structure TimerFd where
  setting : Option Int := none
  consumed : Bool := false
  settimes : Nat := 0
  reads : List Bool := []
  deriving DecidableEq, Repr

namespace TimerFd

/-- `timerfd_settime` with an absolute time, or with zero to disarm.  Unread
expirations are cleared. -/
def settime (timer : TimerFd) (timePoint : Int) : TimerFd :=
  { timer with
    setting := if timePoint = 0 then none else some timePoint
    consumed := false
    settimes := timer.settimes + 1 }

/-- An expiration is there to be read. -/
def Readable (timer : TimerFd) (clock : Int) : Prop :=
  timer.consumed = false ∧ ∃ deadline, timer.setting = some deadline ∧
    deadline ≤ clock

/-- The timerfd was set in between, and not read. -/
def Rearmed (old new : TimerFd) : Prop :=
  old.settimes < new.settimes ∧ new.reads = old.reads

/-- The timerfd is untouched, or was set in between. -/
def Since (old new : TimerFd) : Prop :=
  new = old ∨ Rearmed old new

theorem rearmed_settime (timer : TimerFd) (timePoint : Int) :
    timer.Rearmed (timer.settime timePoint) :=
  ⟨Nat.lt_succ_self _, rfl⟩

theorem Since.refl (timer : TimerFd) : timer.Since timer :=
  Or.inl rfl

theorem Rearmed.since {old new : TimerFd} (rearmed : old.Rearmed new) :
    old.Since new :=
  Or.inr rearmed

private theorem Since.trans_rearmed {old middle new : TimerFd}
    (first : old.Since middle) (second : middle.Rearmed new) :
    old.Rearmed new := by
  rcases first with rfl | rearmed
  · exact second
  · exact ⟨rearmed.1.trans second.1, second.2.trans rearmed.2⟩

theorem Rearmed.trans_since {old middle new : TimerFd}
    (first : old.Rearmed middle) (second : middle.Since new) :
    old.Rearmed new := by
  rcases second with rfl | rearmed
  · exact first
  · exact first.since.trans_rearmed rearmed

theorem Since.trans {old middle new : TimerFd}
    (first : old.Since middle) (second : middle.Since new) :
    old.Since new := by
  rcases second with rfl | rearmed
  · exact first
  · exact Or.inr (first.trans_rearmed rearmed)

/-- `timerfd_gettime`: the time left, zero when disarmed or expired. -/
def gettime (timer : TimerFd) (clock : Int) : Int :=
  match timer.setting with
  | none => 0
  | some deadline => max (deadline - clock) 0

def isReadable (timer : TimerFd) (clock : Int) : Bool :=
  !timer.consumed &&
    match timer.setting with
    | none => false
    | some deadline => decide (deadline ≤ clock)

theorem isReadable_iff {timer : TimerFd} {clock : Int} :
    timer.isReadable clock = true ↔ timer.Readable clock := by
  unfold isReadable Readable
  cases timer.setting <;> simp

/-- An expiration is there until the timerfd is set or read. -/
theorem isReadable_later {timer : TimerFd} {clock later : Int}
    (readable : timer.isReadable clock = true) (order : clock ≤ later) :
    timer.isReadable later = true := by
  obtain ⟨unread, deadline, set, reached⟩ := isReadable_iff.mp readable
  exact isReadable_iff.mpr ⟨unread, deadline, set, reached.trans order⟩

end TimerFd

/-- `TimerEvent`. -/
structure TimerEvent (queues : TimerQueue) where
  cur : TimerTask
  fd : Fd
  timerFd : TimerFd
  waitingQueue : queues.Carrier
  nextTimerId : Nat
  activeTimerIds : Finmap fun _ : OpPtr => Nat
  cancelledTimerIds : Finset Nat

namespace TimerEvent

variable {queues : TimerQueue}

/-- The instance before its first use. -/
def initial (queues : TimerQueue) (fd : Fd) : TimerEvent queues where
  cur := {}
  fd := fd
  timerFd := {}
  waitingQueue := queues.empty
  nextTimerId := 1
  activeTimerIds := ∅
  cancelledTimerIds := ∅

def emptyTask (task : TimerTask) : Bool :=
  task.timePoint = 0

def rememberActive (timer : TimerEvent queues) (task : TimerTask) :
    TimerEvent queues :=
  match task.state.read with
  | none => timer
  | some read =>
      { timer with
        activeTimerIds := timer.activeTimerIds.insert read task.id }

def forgetActive (timer : TimerEvent queues) (task : TimerTask) :
    TimerEvent queues :=
  match task.state.read with
  | none => timer
  | some read =>
      if timer.activeTimerIds.lookup read = some task.id then
        { timer with activeTimerIds := timer.activeTimerIds.erase read }
      else
        timer

/-- The returned flag says whether the task had been cancelled. -/
def consumeCancelled (timer : TimerEvent queues) (task : TimerTask) :
    TimerEvent queues × Bool :=
  if task.id = 0 then
    (timer, false)
  else
    ({ timer with
        cancelledTimerIds := timer.cancelledTimerIds.erase task.id },
      task.id ∈ timer.cancelledTimerIds)

def updateTimer (timer : TimerEvent queues) (timePoint : Int) :
    TimerEvent queues :=
  { timer with timerFd := timer.timerFd.settime timePoint }

def clearTimer (timer : TimerEvent queues) : TimerEvent queues :=
  { timer with timerFd := timer.timerFd.settime 0 }

/-- The loop of `activate_next_timer`, with the number of queued tasks as the
bound on its turns. -/
def activateLoop : Nat → TimerEvent queues → TimerEvent queues
  | 0, timer => clearTimer { timer with cur := {} }
  | turns + 1, timer =>
      match queues.pop timer.waitingQueue with
      | none => clearTimer { timer with cur := {} }
      | some (task, rest) =>
          let (timer, cancelled) :=
            consumeCancelled { timer with waitingQueue := rest } task
          if cancelled then
            activateLoop turns (timer.forgetActive task)
          else
            updateTimer { timer with cur := task } task.timePoint

def activateNextTimer (timer : TimerEvent queues) : TimerEvent queues :=
  activateLoop (queues.elems timer.waitingQueue).card timer

/-- `to_time_point`. -/
def toTimePoint (now delay : Int) : Int := delay + now

/-- `operator++`. -/
def advance (timer : TimerEvent queues) : TimerEvent queues :=
  (timer.forgetActive timer.cur).activateNextTimer

def refreshCurrentTimer (timer : TimerEvent queues) : TimerEvent queues :=
  if emptyTask timer.cur then
    (timer.forgetActive timer.cur).activateNextTimer
  else
    let (timer, cancelled) := timer.consumeCancelled timer.cur
    if cancelled then
      (timer.forgetActive timer.cur).activateNextTimer
    else
      timer

def currentEmpty (timer : TimerEvent queues) : Bool :=
  emptyTask timer.cur

def isCurrent (timer : TimerEvent queues) (read : OpPtr) : Bool :=
  timer.cur.state.read = some read

def cancel (timer : TimerEvent queues) (read : OpPtr) : TimerEvent queues :=
  match timer.activeTimerIds.lookup read with
  | none => timer
  | some id =>
      { timer with
        cancelledTimerIds := insert id timer.cancelledTimerIds
        activeTimerIds := timer.activeTimerIds.erase read }

def setTimer (timer : TimerEvent queues) (now : Int) (state : FdOps)
    (delay : Int) : TimerEvent queues :=
  let timer := timer.refreshCurrentTimer
  let finalTime := toTimePoint now delay
  let task : TimerTask :=
    { state := state, timePoint := finalTime, id := timer.nextTimerId }
  let timer := rememberActive
    { timer with nextTimerId := timer.nextTimerId + 1 } task
  if timer.cur.timePoint = 0 then
    updateTimer { timer with cur := task } finalTime
  else if finalTime < timer.cur.timePoint then
    updateTimer
      { timer with
        waitingQueue := queues.push timer.cur timer.waitingQueue
        cur := task }
      finalTime
  else
    { timer with waitingQueue := queues.push task timer.waitingQueue }

/-- `get_timer`. -/
def getTimer (timer : TimerEvent queues) (clock : Int) : Int :=
  timer.timerFd.gettime clock

end TimerEvent

end AsyncFrame
