import AsyncFrame.Lib.LazyQueue
import AsyncFrame.Timer

/-!
# Settled timers

The invariant of `TimerEvent` between two calls, and one lemma for each
operation.  A settled timer stands for a queue of deadlines that removes a
cancelled timer at once; every lemma says what its operation does to that
queue, so that nothing above this module looks at tombstones again.
-/

namespace AsyncFrame

open Lib

namespace TimerEvent

variable {queues : TimerQueue}

/-! ## What a settled timer is -/

/-- A task read as an entry of a lazily cancelled queue. -/
def taskView : EntryView TimerTask OpPtr Int where
  handle task := task.state.read
  stamp := TimerTask.id
  deadline := TimerTask.timePoint

/-- The scheduled tasks: the current one, if there is one, and the queue. -/
def tasks (timer : TimerEvent queues) : Multiset TimerTask :=
  if timer.currentEmpty then queues.elems timer.waitingQueue
  else timer.cur ::ₘ queues.elems timer.waitingQueue

/-- The tasks without a tombstone. -/
def liveTasks (timer : TimerEvent queues) : Multiset TimerTask :=
  timer.tasks.filter fun task => task.id ∉ timer.cancelledTimerIds

/-- The part of the invariant that does not speak of `cur`, for the given
scheduled tasks. -/
structure Booked (timer : TimerEvent queues)
    (scheduled : Multiset TimerTask) : Prop where
  ledger : Ledger taskView scheduled
    (fun read => timer.activeTimerIds.lookup read)
    timer.cancelledTimerIds timer.nextTimerId
  timed : ∀ task ∈ scheduled,
    task.timePoint ≠ 0 ∧ ∃ read, task.state.read = some read
  nextPositive : 0 < timer.nextTimerId

/-- The tasks are booked, `cur` is live and least, and it is empty only when
nothing is scheduled. -/
structure WellFormed (timer : TimerEvent queues) : Prop where
  booked : Booked timer timer.tasks
  idle : timer.currentEmpty = true →
    timer.cur = {} ∧ queues.elems timer.waitingQueue = 0
  live : timer.currentEmpty = false →
    timer.cur.id ∉ timer.cancelledTimerIds
  least : timer.currentEmpty = false →
    ∀ task ∈ queues.elems timer.waitingQueue,
      timer.cur.timePoint ≤ task.timePoint

/-- The timerfd is set for `cur`, and that setting was not consumed. -/
structure Armed (timer : TimerEvent queues) : Prop where
  setting : timer.timerFd.setting =
    if timer.currentEmpty then none else some timer.cur.timePoint
  unread : timer.timerFd.consumed = false

/-- The timer stands for `deadlines`, a queue that forgets at once. -/
structure Settled (timer : TimerEvent queues)
    (deadlines : OpPtr → Option Int) : Prop where
  wellFormed : WellFormed timer
  represents : Represents taskView timer.tasks
    timer.cancelledTimerIds deadlines
  armed : Armed timer

variable {timer : TimerEvent queues} {deadlines : OpPtr → Option Int}

theorem tasks_of_empty (empty : timer.currentEmpty = true) :
    timer.tasks = queues.elems timer.waitingQueue := by
  simp [tasks, empty]

theorem tasks_of_nonempty (nonempty : timer.currentEmpty = false) :
    timer.tasks = timer.cur ::ₘ queues.elems timer.waitingQueue := by
  simp [tasks, nonempty]

private theorem WellFormed.id_ne_zero (wellFormed : WellFormed timer)
    (nonempty : timer.currentEmpty = false) : timer.cur.id ≠ 0 := by
  have range := wellFormed.booked.ledger.stampsRange timer.cur (by
    rw [tasks_of_nonempty nonempty]
    exact Multiset.mem_cons_self _ _)
  have positive : 0 < timer.cur.id := range.1
  omega

/-- A current task is active under its own id. -/
theorem WellFormed.active_cur (wellFormed : WellFormed timer) {read : OpPtr}
    (nonempty : timer.currentEmpty = false)
    (named : timer.cur.state.read = some read) :
    timer.activeTimerIds.lookup read = some timer.cur.id :=
  wellFormed.booked.ledger.active_of_live
    (by
      rw [tasks_of_nonempty nonempty]
      exact Multiset.mem_cons_self _ _)
    (wellFormed.live nonempty) named

theorem WellFormed.nonempty_of_read (wellFormed : WellFormed timer)
    {read : OpPtr} (named : timer.cur.state.read = some read) :
    timer.currentEmpty = false := by
  cases empty : timer.currentEmpty with
  | false => rfl
  | true =>
      rw [(wellFormed.idle empty).1] at named
      cases named

/-- A settled timer without a current task stands for the empty queue. -/
theorem Settled.deadlines_of_empty (settled : Settled timer deadlines)
    (empty : timer.currentEmpty = true) (read : OpPtr) :
    deadlines read = none := by
  have idle := settled.wellFormed.idle empty
  cases found : deadlines read with
  | none => rfl
  | some deadline =>
      obtain ⟨task, member, _⟩ := (settled.represents read deadline).mp found
      rw [tasks_of_empty empty, idle.2] at member
      simp at member

/-- The current task is the one whose deadline is least. -/
theorem Settled.current_least (settled : Settled timer deadlines)
    (nonempty : timer.currentEmpty = false) {read : OpPtr} {deadline : Int}
    (present : deadlines read = some deadline) :
    timer.cur.timePoint ≤ deadline := by
  obtain ⟨task, member, _, _, rfl⟩ :=
    (settled.represents read deadline).mp present
  rw [tasks_of_nonempty nonempty] at member
  rcases Multiset.mem_cons.mp member with rfl | queued
  · exact le_refl _
  · exact settled.wellFormed.least nonempty task queued

/-- The current task has a pointer, which stands for its deadline. -/
theorem Settled.current_present (settled : Settled timer deadlines)
    (nonempty : timer.currentEmpty = false) :
    ∃ read, timer.cur.state.read = some read ∧
      deadlines read = some timer.cur.timePoint := by
  have member : timer.cur ∈ timer.tasks := by
    rw [tasks_of_nonempty nonempty]
    exact Multiset.mem_cons_self _ _
  obtain ⟨read, named⟩ := (settled.wellFormed.booked.timed _ member).2
  exact ⟨read, named, (settled.represents read _).mpr
    ⟨timer.cur, member, settled.wellFormed.live nonempty, named, rfl⟩⟩

theorem settled_initial (fd : Fd) :
    Settled (initial queues fd) fun _ => none where
  wellFormed :=
    { booked :=
        { ledger := by
            simpa [tasks, currentEmpty, emptyTask, initial] using
              Ledger.empty taskView 1
          timed := by simp [tasks, currentEmpty, emptyTask, initial]
          nextPositive := by simp [initial] }
      idle := by simp [initial]
      live := by simp [currentEmpty, emptyTask, initial]
      least := by simp [initial] }
  represents := by
    simpa [tasks, currentEmpty, emptyTask, initial] using
      Represents.empty taskView
  armed := by constructor <;> simp [currentEmpty, emptyTask, initial]

/-! ## Ids are not used again -/

/-- No id that was not active before becomes active, except new ones. -/
def Retires (old new : TimerEvent queues) : Prop :=
  old.nextTimerId ≤ new.nextTimerId ∧
    ∀ read id, new.activeTimerIds.lookup read = some id →
      old.activeTimerIds.lookup read = some id ∨ old.nextTimerId ≤ id

namespace Retires

variable {old middle new : TimerEvent queues}

theorem refl (timer : TimerEvent queues) : Retires timer timer :=
  ⟨le_refl _, fun _ _ active => Or.inl active⟩

theorem trans (first : Retires old middle) (second : Retires middle new) :
    Retires old new := by
  refine ⟨first.1.trans second.1, fun read id active => ?_⟩
  rcases second.2 read id active with older | fresh
  · exact first.2 read id older
  · exact Or.inr (first.1.trans fresh)

private theorem of_erase (next : old.nextTimerId = new.nextTimerId)
    {handle : OpPtr}
    (erased : new.activeTimerIds = old.activeTimerIds.erase handle) :
    Retires old new := by
  refine ⟨next.le, fun read id active => Or.inl ?_⟩
  rw [erased] at active
  by_cases same : read = handle
  · rw [same, Finmap.lookup_erase] at active
    cases active
  · rw [Finmap.lookup_erase_ne same] at active
    exact active

end Retires

private theorem forgetActive_retires (timer : TimerEvent queues)
    (task : TimerTask) :
    Retires timer (timer.forgetActive task) := by
  unfold forgetActive
  split
  · exact Retires.refl timer
  · split
    · exact Retires.of_erase rfl rfl
    · exact Retires.refl timer

private theorem activateLoop_retires :
    ∀ (turns : Nat) (timer : TimerEvent queues),
      Retires timer (activateLoop turns timer) := by
  intro turns
  induction turns with
  | zero => exact fun timer => Retires.refl timer
  | succ turns inductionHypothesis =>
      intro timer
      unfold activateLoop consumeCancelled
      cases queues.pop timer.waitingQueue with
      | none => exact Retires.refl timer
      | some released =>
          obtain ⟨task, rest⟩ := released
          by_cases unstamped : task.id = 0
          · simp only [unstamped, if_true, Bool.false_eq_true, if_false]
            exact Retires.refl timer
          · simp only [unstamped, if_false]
            split
            · have forgets := forgetActive_retires
                { timer with
                  waitingQueue := rest
                  cancelledTimerIds :=
                    timer.cancelledTimerIds.erase task.id } task
              exact Retires.trans ⟨forgets.1, forgets.2⟩
                (inductionHypothesis _)
            · exact Retires.refl timer

private theorem activateNextTimer_retires (timer : TimerEvent queues) :
    Retires timer timer.activateNextTimer :=
  activateLoop_retires _ timer

theorem advance_retires (timer : TimerEvent queues) :
    Retires timer timer.advance :=
  (forgetActive_retires timer timer.cur).trans (activateNextTimer_retires _)

theorem cancel_retires (timer : TimerEvent queues) (read : OpPtr) :
    Retires timer (timer.cancel read) := by
  unfold cancel
  split
  · exact Retires.refl timer
  · exact Retires.of_erase rfl rfl

theorem refreshCurrentTimer_retires (timer : TimerEvent queues) :
    Retires timer timer.refreshCurrentTimer := by
  unfold refreshCurrentTimer consumeCancelled
  split
  · exact (forgetActive_retires timer _).trans (activateNextTimer_retires _)
  · by_cases unstamped : timer.cur.id = 0
    · simp only [unstamped, if_true, Bool.false_eq_true, if_false]
      exact Retires.refl timer
    · simp only [unstamped, if_false]
      split
      · have forgets := forgetActive_retires
          { timer with
            cancelledTimerIds :=
              timer.cancelledTimerIds.erase timer.cur.id } timer.cur
        exact Retires.trans ⟨forgets.1, forgets.2⟩
          (activateNextTimer_retires _)
      · exact Retires.refl timer

theorem setTimer_retires (timer : TimerEvent queues) (now : Int)
    (state : FdOps) (delay : Int) :
    Retires timer (timer.setTimer now state delay) := by
  refine (refreshCurrentTimer_retires timer).trans ?_
  have remembered : Retires timer.refreshCurrentTimer
      (rememberActive
        { timer.refreshCurrentTimer with
          nextTimerId := timer.refreshCurrentTimer.nextTimerId + 1 }
        { state := state, timePoint := toTimePoint now delay
          id := timer.refreshCurrentTimer.nextTimerId }) := by
    unfold rememberActive
    cases state.read with
    | none => exact ⟨Nat.le_succ _, fun _ _ active => Or.inl active⟩
    | some handle =>
        refine ⟨Nat.le_succ _, fun read id active => ?_⟩
        by_cases same : read = handle
        · subst same
          have stamped := (Finmap.lookup_insert _).symm.trans active
          exact Or.inr (Option.some.inj stamped).le
        · exact Or.inl ((Finmap.lookup_insert_of_ne _ same).symm.trans active)
  simp only [setTimer]
  split
  · exact remembered
  · split
    · exact remembered
    · exact remembered

/-! ## One lemma for each operation -/

theorem forgetActive_of_stale (task : TimerTask)
    (stale : ∀ read, task.state.read = some read →
      timer.activeTimerIds.lookup read ≠ some task.id) :
    timer.forgetActive task = timer := by
  unfold forgetActive
  cases named : task.state.read with
  | none => rfl
  | some read => simp [stale read named]

private theorem forgetActive_of_active {task : TimerTask} {read : OpPtr}
    (named : task.state.read = some read)
    (active : timer.activeTimerIds.lookup read = some task.id) :
    timer.forgetActive task =
      { timer with activeTimerIds := timer.activeTimerIds.erase read } := by
  simp [forgetActive, named, active]

/-- A buried task is not the active one of its pointer. -/
theorem Booked.stale_of_buried {scheduled : Multiset TimerTask}
    (booked : Booked timer scheduled) {task : TimerTask}
    (dead : task.id ∈ timer.cancelledTimerIds) (read : OpPtr) :
    timer.activeTimerIds.lookup read ≠ some task.id := by
  intro active
  obtain ⟨entry, _, live, _, same⟩ :=
    (booked.ledger.activeExact read task.id).mp active
  exact live (same ▸ dead)

/-! ## Activating the next task -/

/-- With an empty queue the timer is disarmed. -/
theorem settled_of_drained
    (drained : queues.elems timer.waitingQueue = 0)
    (booked : Booked timer (queues.elems timer.waitingQueue))
    (represents : Represents taskView (queues.elems timer.waitingQueue)
      timer.cancelledTimerIds deadlines) :
    Settled (clearTimer { timer with cur := {} }) deadlines where
  wellFormed :=
    { booked := ⟨booked.ledger, booked.timed, booked.nextPositive⟩
      idle := fun _ => ⟨rfl, drained⟩
      live := by intro nonempty; cases nonempty
      least := by intro nonempty; cases nonempty }
  represents := represents
  armed := ⟨rfl, rfl⟩

/-- A live task of least time point becomes current. -/
theorem settled_of_activated (timer : TimerEvent queues)
    {task : TimerTask} {rest : queues.Carrier}
    (booked : Booked timer (task ::ₘ queues.elems rest))
    (represents : Represents taskView (task ::ₘ queues.elems rest)
      timer.cancelledTimerIds deadlines)
    (live : task.id ∉ timer.cancelledTimerIds)
    (least : ∀ other ∈ queues.elems rest,
      task.timePoint ≤ other.timePoint) :
    Settled
      (updateTimer { timer with waitingQueue := rest, cur := task }
        task.timePoint) deadlines := by
  have timed : task.timePoint ≠ 0 :=
    (booked.timed task (Multiset.mem_cons_self _ _)).1
  have nonempty :
      (updateTimer { timer with waitingQueue := rest, cur := task }
        task.timePoint).currentEmpty = false := by
    simp [currentEmpty, emptyTask, updateTimer, timed]
  have scheduled :
      (updateTimer { timer with waitingQueue := rest, cur := task }
        task.timePoint).tasks = task ::ₘ queues.elems rest :=
    tasks_of_nonempty nonempty
  constructor
  · constructor
    · rw [scheduled]
      exact ⟨booked.ledger, booked.timed, booked.nextPositive⟩
    · intro empty
      rw [nonempty] at empty
      cases empty
    · intro _
      exact live
    · intro _
      exact least
  · rw [scheduled]
    exact represents
  · constructor
    · rw [nonempty]
      simp [updateTimer, TimerFd.settime, timed]
    · rfl

/-- The loop leaves a settled timer that stands for what the queue stood for,
and sets the timerfd once. -/
theorem activateLoop_spec :
    ∀ (turns : Nat) (timer : TimerEvent queues),
      (queues.elems timer.waitingQueue).card ≤ turns →
      Booked timer (queues.elems timer.waitingQueue) →
      Represents taskView (queues.elems timer.waitingQueue)
        timer.cancelledTimerIds deadlines →
      Settled (activateLoop turns timer) deadlines ∧
        (activateLoop turns timer).fd = timer.fd ∧
        timer.timerFd.Rearmed (activateLoop turns timer).timerFd := by
  intro turns
  induction turns with
  | zero =>
      intro timer bound booked represents
      have drained : queues.elems timer.waitingQueue = 0 :=
        Multiset.card_eq_zero.mp (Nat.le_zero.mp bound)
      exact ⟨settled_of_drained drained booked represents, rfl,
        TimerFd.rearmed_settime _ _⟩
  | succ turns inductionHypothesis =>
      intro timer bound booked represents
      cases popped : queues.pop timer.waitingQueue with
      | none =>
          have drained := queues.elems_of_pop_none popped
          rw [activateLoop, popped]
          exact ⟨settled_of_drained drained booked represents, rfl,
        TimerFd.rearmed_settime _ _⟩
      | some released =>
          obtain ⟨task, rest⟩ := released
          have shape := queues.elems_of_pop_some popped
          rw [shape] at bound booked represents
          have stamped : task.id ≠ 0 := by
            have range := booked.ledger.stampsRange task
              (Multiset.mem_cons_self _ _)
            have positive : 0 < task.id := range.1
            omega
          rw [activateLoop, popped]
          simp only [consumeCancelled, stamped, if_false]
          by_cases dead : task.id ∈ timer.cancelledTimerIds
          · -- a tombstone: the entry and its tombstone go together
            simp only [dead, decide_true, if_true]
            rw [forgetActive_of_stale task]
            swap
            · exact fun read _ => booked.stale_of_buried dead read
            refine inductionHypothesis _ ?_ ?_ ?_
            · simpa using bound
            · exact
                { ledger := booked.ledger.dropBuried dead
                  timed := fun other member =>
                    booked.timed other (Multiset.mem_cons_of_mem member)
                  nextPositive := booked.nextPositive }
            · exact represents.dropBuried booked.ledger dead
          · simp only [dead, decide_false, Bool.false_eq_true, if_false]
            have kept :
                timer.cancelledTimerIds.erase task.id =
                  timer.cancelledTimerIds :=
              Finset.erase_eq_of_notMem dead
            rw [kept]
            exact ⟨settled_of_activated _ booked represents dead
              (queues.least_of_pop_some popped), rfl,
              TimerFd.rearmed_settime _ _⟩

/-- More turns than queued tasks make no difference. -/
theorem activateNextTimer_spec
    (booked : Booked timer (queues.elems timer.waitingQueue))
    (represents : Represents taskView (queues.elems timer.waitingQueue)
      timer.cancelledTimerIds deadlines) :
    Settled timer.activateNextTimer deadlines ∧
      timer.activateNextTimer.fd = timer.fd ∧
      timer.timerFd.Rearmed timer.activateNextTimer.timerFd :=
  activateLoop_spec _ timer (le_refl _) booked represents

/-! ## Advancing past the current task -/

/-- `operator++` takes the current task out. -/
theorem advance_spec (wellFormed : WellFormed timer)
    (represents : Represents taskView timer.tasks
      timer.cancelledTimerIds deadlines)
    {read : OpPtr} (named : timer.cur.state.read = some read) :
    Settled timer.advance (Function.update deadlines read none) ∧
      timer.advance.fd = timer.fd ∧
      timer.timerFd.Rearmed timer.advance.timerFd := by
  have nonempty := wellFormed.nonempty_of_read named
  have active := wellFormed.active_cur nonempty named
  have live := wellFormed.live nonempty
  have booked := wellFormed.booked
  rw [tasks_of_nonempty nonempty] at booked represents
  have dropped := booked.ledger.dropLive live named
  rw [← lookup_erase_eq_update] at dropped
  unfold advance
  rw [forgetActive_of_active named active]
  exact activateNextTimer_spec
    { ledger := dropped
      timed := fun task member =>
        booked.timed task (Multiset.mem_cons_of_mem member)
      nextPositive := booked.nextPositive }
    (represents.dropLive booked.ledger live named)

/-- Without a current task `operator++` only disarms again. -/
theorem advance_of_idle (settled : Settled timer deadlines)
    (empty : timer.currentEmpty = true) :
    Settled timer.advance deadlines := by
  have idle := settled.wellFormed.idle empty
  have booked := settled.wellFormed.booked
  have represents := settled.represents
  rw [tasks_of_empty empty] at booked represents
  unfold advance
  rw [forgetActive_of_stale _ (by rw [idle.1]; rintro read ⟨⟩)]
  exact (activateNextTimer_spec booked represents).1

/-! ## Refreshing -/

/-- With a live current task there is nothing to refresh. -/
theorem refreshCurrentTimer_of_live (wellFormed : WellFormed timer)
    (nonempty : timer.currentEmpty = false) :
    timer.refreshCurrentTimer = timer := by
  have live := wellFormed.live nonempty
  have occupied : emptyTask timer.cur = false := nonempty
  simp [refreshCurrentTimer, occupied, consumeCancelled,
    wellFormed.id_ne_zero nonempty, live]

/-- Refreshing a settled timer changes at most how often the timerfd was
set. -/
theorem refreshCurrentTimer_spec (settled : Settled timer deadlines) :
    Settled timer.refreshCurrentTimer deadlines ∧
      timer.refreshCurrentTimer.fd = timer.fd ∧
      timer.timerFd.Since timer.refreshCurrentTimer.timerFd := by
  cases empty : timer.currentEmpty with
  | false =>
      rw [refreshCurrentTimer_of_live settled.wellFormed empty]
      exact ⟨settled, rfl, TimerFd.Since.refl _⟩
  | true =>
      have idle := settled.wellFormed.idle empty
      have booked := settled.wellFormed.booked
      have represents := settled.represents
      rw [tasks_of_empty empty] at booked represents
      have occupied : emptyTask timer.cur = true := empty
      rw [refreshCurrentTimer, if_pos occupied,
        forgetActive_of_stale _ (by rw [idle.1]; rintro read ⟨⟩)]
      obtain ⟨next, fd, set⟩ := activateNextTimer_spec booked represents
      exact ⟨next, fd, set.since⟩

/-! ## Cancelling -/

theorem cancel_of_inactive {read : OpPtr}
    (inactive : timer.activeTimerIds.lookup read = none) :
    timer.cancel read = timer := by
  simp [cancel, inactive]

theorem cancel_of_active {read : OpPtr} {id : Nat}
    (active : timer.activeTimerIds.lookup read = some id) :
    timer.cancel read =
      { timer with
        cancelledTimerIds := insert id timer.cancelledTimerIds
        activeTimerIds := timer.activeTimerIds.erase read } := by
  simp [cancel, active]

theorem fd_cancel (timer : TimerEvent queues) (read : OpPtr) :
    (timer.cancel read).fd = timer.fd := by
  unfold cancel
  split <;> rfl

/-- Cancelling the current task and refreshing moves on to the next one, and
re-arms the timerfd whether or not its expiration was read before. -/
theorem cancelRefresh_of_current (wellFormed : WellFormed timer)
    (represents : Represents taskView timer.tasks
      timer.cancelledTimerIds deadlines)
    {read : OpPtr} (named : timer.cur.state.read = some read) :
    Settled (timer.cancel read).refreshCurrentTimer
        (Function.update deadlines read none) ∧
      (timer.cancel read).refreshCurrentTimer.fd = timer.fd ∧
      timer.timerFd.Rearmed
        (timer.cancel read).refreshCurrentTimer.timerFd := by
  have nonempty := wellFormed.nonempty_of_read named
  have active := wellFormed.active_cur nonempty named
  have live := wellFormed.live nonempty
  have occupied : emptyTask timer.cur = false := nonempty
  have booked := wellFormed.booked
  rw [tasks_of_nonempty nonempty] at booked represents
  rw [cancel_of_active active]
  have unburied :
      (insert timer.cur.id timer.cancelledTimerIds).erase timer.cur.id =
        timer.cancelledTimerIds :=
    Finset.erase_insert live
  have refreshed :
      refreshCurrentTimer
          { timer with
            cancelledTimerIds :=
              insert timer.cur.id timer.cancelledTimerIds
            activeTimerIds := timer.activeTimerIds.erase read } =
        activateNextTimer
          { timer with
            activeTimerIds := timer.activeTimerIds.erase read } := by
    simp only [refreshCurrentTimer, occupied, consumeCancelled,
      wellFormed.id_ne_zero nonempty, if_false, Bool.false_eq_true,
      Finset.mem_insert_self, decide_true, if_true, unburied]
    rw [forgetActive_of_stale]
    intro other otherNamed
    rw [named] at otherNamed
    cases otherNamed
    simp
  rw [refreshed]
  have dropped := booked.ledger.dropLive live named
  rw [← lookup_erase_eq_update] at dropped
  exact activateNextTimer_spec
    { ledger := dropped
      timed := fun task member =>
        booked.timed task (Multiset.mem_cons_of_mem member)
      nextPositive := booked.nextPositive }
    (represents.dropLive booked.ledger live named)

/-- Cancelling a queued task leaves a tombstone, and the current task and the
timerfd alone. -/
theorem cancel_of_queued (settled : Settled timer deadlines)
    {read : OpPtr} {id : Nat}
    (active : timer.activeTimerIds.lookup read = some id)
    (queued : timer.cur.state.read ≠ some read) :
    Settled (timer.cancel read) (Function.update deadlines read none) := by
  obtain ⟨wellFormed, represents, armed⟩ := settled
  have booked := wellFormed.booked
  have buried := booked.ledger.bury active
  rw [← lookup_erase_eq_update] at buried
  rw [cancel_of_active active]
  refine ⟨⟨?_, wellFormed.idle, ?_, wellFormed.least⟩, ?_, ?_⟩
  · exact
      { ledger := buried
        timed := booked.timed
        nextPositive := booked.nextPositive }
  · intro nonempty
    obtain ⟨victim, victimMember, _, victimNamed, victimStamp⟩ :=
      (booked.ledger.activeExact read id).mp active
    change timer.cur.id ∉ insert id timer.cancelledTimerIds
    rw [Finset.mem_insert, not_or]
    refine ⟨fun same => queued ?_, wellFormed.live nonempty⟩
    have curMember : timer.cur ∈ timer.tasks := by
      have shape : timer.tasks = timer.cur ::ₘ _ :=
        tasks_of_nonempty nonempty
      rw [shape]
      exact Multiset.mem_cons_self _ _
    have isVictim := booked.ledger.entry_unique curMember victimMember
      (same.trans victimStamp.symm)
    rw [isVictim]
    exact victimNamed
  · exact represents.bury booked.ledger active
  · exact ⟨armed.setting, armed.unread⟩

/-- `cancel` followed by `refresh_current_timer`, in any case. -/
theorem cancelRefresh_spec (settled : Settled timer deadlines)
    (read : OpPtr) :
    Settled (timer.cancel read).refreshCurrentTimer
        (Function.update deadlines read none) ∧
      (timer.cancel read).refreshCurrentTimer.fd = timer.fd ∧
      timer.timerFd.Since
        (timer.cancel read).refreshCurrentTimer.timerFd := by
  cases active : timer.activeTimerIds.lookup read with
  | none =>
      have absent : deadlines read = none :=
        (settled.represents.inactive_iff
          settled.wellFormed.booked.ledger read).mp active
      have same : Function.update deadlines read none = deadlines := by
        rw [← absent]
        exact Function.update_eq_self read deadlines
      rw [cancel_of_inactive active, same]
      exact refreshCurrentTimer_spec settled
  | some id =>
      by_cases current : timer.cur.state.read = some read
      · obtain ⟨next, fd, set⟩ := cancelRefresh_of_current
          settled.wellFormed settled.represents current
        exact ⟨next, fd, set.since⟩
      · have buried := cancel_of_queued settled active current
        obtain ⟨next, fd, set⟩ := refreshCurrentTimer_spec buried
        have sameFd := timer.fd_cancel read
        have sameTimerFd : (timer.cancel read).timerFd = timer.timerFd := by
          rw [cancel_of_active active]
        rw [sameFd] at fd
        rw [sameTimerFd] at set
        exact ⟨next, fd, set⟩

/-! ## Setting -/

/-- The task that `set_timer` schedules. -/
def newTask (timer : TimerEvent queues) (now : Int) (state : FdOps)
    (delay : Int) : TimerTask :=
  { state := state, timePoint := toTimePoint now delay
    id := timer.nextTimerId }

/-- `set_timer` after its refresh: where the new task goes. -/
def place (timer : TimerEvent queues) (task : TimerTask) (read : OpPtr) :
    TimerEvent queues :=
  let timer : TimerEvent queues :=
    { timer with
      nextTimerId := timer.nextTimerId + 1
      activeTimerIds := timer.activeTimerIds.insert read task.id }
  if timer.cur.timePoint = 0 then
    updateTimer { timer with cur := task } task.timePoint
  else if task.timePoint < timer.cur.timePoint then
    updateTimer
      { timer with
        waitingQueue := queues.push timer.cur timer.waitingQueue
        cur := task }
      task.timePoint
  else
    { timer with waitingQueue := queues.push task timer.waitingQueue }

theorem setTimer_eq_place {now delay : Int} {state : FdOps} {read : OpPtr}
    (named : state.read = some read) :
    timer.setTimer now state delay =
      timer.refreshCurrentTimer.place
        (timer.refreshCurrentTimer.newTask now state delay) read := by
  simp only [setTimer, place, newTask, rememberActive, named]
  rfl

/-- The timer after `remember_active`, with the next id taken. -/
def remember (timer : TimerEvent queues) (task : TimerTask) (read : OpPtr) :
    TimerEvent queues :=
  { timer with
    nextTimerId := timer.nextTimerId + 1
    activeTimerIds := timer.activeTimerIds.insert read task.id }

section Remember

variable {task : TimerTask} {read : OpPtr}

private theorem Settled.remember (settled : Settled timer deadlines)
    (named : task.state.read = some read)
    (stamped : task.id = timer.nextTimerId) (timed : task.timePoint ≠ 0)
    (inactive : deadlines read = none) :
    Booked (timer.remember task read) (task ::ₘ timer.tasks) ∧
      Represents taskView (task ::ₘ timer.tasks) timer.cancelledTimerIds
        (Function.update deadlines read (some task.timePoint)) := by
  have booked := settled.wellFormed.booked
  have unmapped : timer.activeTimerIds.lookup read = none :=
    (settled.represents.inactive_iff booked.ledger read).mpr inactive
  refine ⟨⟨?_, ?_, Nat.succ_pos _⟩, ?_⟩
  · have scheduled := booked.ledger.schedule task named stamped
      booked.nextPositive unmapped
    rw [← lookup_insert_eq_update] at scheduled
    simp only [TimerEvent.remember, stamped]
    exact scheduled
  · intro other member
    rcases Multiset.mem_cons.mp member with rfl | older
    · exact ⟨timed, read, named⟩
    · exact booked.timed other older
  · exact settled.represents.schedule booked.ledger task named stamped
      unmapped

/-- A new task before all others becomes the current one. -/
theorem Settled.overtaken (settled : Settled timer deadlines)
    (named : task.state.read = some read)
    (stamped : task.id = timer.nextTimerId) (timed : task.timePoint ≠ 0)
    (inactive : deadlines read = none) {rest : queues.Carrier}
    (others : queues.elems rest = timer.tasks)
    (least : ∀ other ∈ timer.tasks, task.timePoint ≤ other.timePoint) :
    Settled
      (updateTimer
        { timer.remember task read with waitingQueue := rest, cur := task }
        task.timePoint)
      (Function.update deadlines read (some task.timePoint)) := by
  obtain ⟨booked, represents⟩ :=
    settled.remember named stamped timed inactive
  have alive : task.id ∉ timer.cancelledTimerIds :=
    stamped ▸ settled.wellFormed.booked.ledger.nextStamp_notBuried
  rw [← others] at booked represents least
  exact settled_of_activated (timer.remember task read) booked represents
    alive least

/-- A new task behind the current one joins the queue. -/
theorem Settled.queued (settled : Settled timer deadlines)
    (named : task.state.read = some read)
    (stamped : task.id = timer.nextTimerId) (timed : task.timePoint ≠ 0)
    (inactive : deadlines read = none)
    (nonempty : timer.currentEmpty = false)
    (behind : timer.cur.timePoint ≤ task.timePoint) :
    Settled
      { timer.remember task read with
        waitingQueue := queues.push task timer.waitingQueue }
      (Function.update deadlines read (some task.timePoint)) := by
  obtain ⟨booked, represents⟩ :=
    settled.remember named stamped timed inactive
  rw [tasks_of_nonempty nonempty, Multiset.cons_swap, ← queues.elems_push]
    at booked represents
  have pushed :
      tasks
        { timer.remember task read with
          waitingQueue := queues.push task timer.waitingQueue } =
        timer.cur ::ₘ queues.elems (queues.push task timer.waitingQueue) :=
    tasks_of_nonempty nonempty
  refine ⟨⟨?_, ?_, ?_, ?_⟩, ?_,
    ⟨settled.armed.setting, settled.armed.unread⟩⟩
  · rw [pushed]
    exact ⟨booked.ledger, booked.timed, booked.nextPositive⟩
  · intro idle
    exact absurd (nonempty.symm.trans idle) (by simp)
  · intro _
    exact settled.wellFormed.live nonempty
  · intro _ other member
    rw [queues.elems_push] at member
    rcases Multiset.mem_cons.mp member with rfl | older
    · exact behind
    · exact settled.wellFormed.least nonempty other older
  · rw [pushed]
    exact represents

end Remember

/-- Placing a new task keeps the timer settled: it becomes current exactly if
it is earlier than the current one. -/
theorem place_spec (settled : Settled timer deadlines) (task : TimerTask)
    {read : OpPtr} (named : task.state.read = some read)
    (stamped : task.id = timer.nextTimerId) (timed : task.timePoint ≠ 0)
    (inactive : deadlines read = none) :
    Settled (timer.place task read)
        (Function.update deadlines read (some task.timePoint)) ∧
      (timer.place task read).fd = timer.fd ∧
      timer.timerFd.Since (timer.place task read).timerFd := by
  cases empty : timer.currentEmpty with
  | true =>
      -- no current task: the new one takes its place
      have idle := settled.wellFormed.idle empty
      have zero : timer.cur.timePoint = 0 := by rw [idle.1]
      have unfolded : timer.place task read =
          updateTimer { timer.remember task read with cur := task }
            task.timePoint := by
        simp [place, remember, zero]
      have others := (tasks_of_empty empty).symm
      rw [unfolded]
      refine ⟨?_, rfl, (TimerFd.rearmed_settime _ _).since⟩
      apply settled.overtaken named stamped timed inactive others
      rw [← others, idle.2]
      simp
  | false =>
      have occupied : timer.cur.timePoint ≠ 0 := by
        simpa [currentEmpty, emptyTask] using empty
      by_cases earlier : task.timePoint < timer.cur.timePoint
      · -- the new task is earlier: the current one goes back to the queue
        have unfolded : timer.place task read =
            updateTimer
              { timer.remember task read with
                waitingQueue := queues.push timer.cur timer.waitingQueue
                cur := task }
              task.timePoint := by
          simp [place, remember, occupied, earlier]
        rw [unfolded]
        refine ⟨?_, rfl, (TimerFd.rearmed_settime _ _).since⟩
        apply settled.overtaken named stamped timed inactive
        · rw [queues.elems_push, tasks_of_nonempty empty]
        · intro other member
          rw [tasks_of_nonempty empty] at member
          rcases Multiset.mem_cons.mp member with rfl | older
          · exact le_of_lt earlier
          · exact le_trans (le_of_lt earlier)
              (settled.wellFormed.least empty other older)
      · have unfolded : timer.place task read =
            { timer.remember task read with
              waitingQueue := queues.push task timer.waitingQueue } := by
          simp [place, remember, occupied, earlier]
        rw [unfolded]
        exact ⟨settled.queued named stamped timed inactive empty
          (le_of_not_gt earlier), rfl, TimerFd.Since.refl _⟩

/-- `set_timer` schedules its pointer at the deadline it computes. -/
theorem setTimer_spec (settled : Settled timer deadlines)
    {now delay : Int} {state : FdOps} {read : OpPtr}
    (named : state.read = some read)
    (timed : toTimePoint now delay ≠ 0)
    (inactive : deadlines read = none) :
    Settled (timer.setTimer now state delay)
        (Function.update deadlines read
          (some (toTimePoint now delay))) ∧
      (timer.setTimer now state delay).fd = timer.fd ∧
      timer.timerFd.Since (timer.setTimer now state delay).timerFd := by
  obtain ⟨refreshed, sameFd, refreshedFd⟩ := refreshCurrentTimer_spec settled
  rw [setTimer_eq_place named]
  obtain ⟨placed, placedFd, placedTimerFd⟩ := place_spec refreshed
    (timer.refreshCurrentTimer.newTask now state delay)
    named rfl timed inactive
  exact ⟨placed, placedFd.trans sameFd,
    refreshedFd.trans placedTimerFd⟩

end TimerEvent

end AsyncFrame
