import AsyncFrame.Registrations

/-!
# Events of the timerfd

A batch is a snapshot, and an operation dispatched earlier in it may set the
timerfd anew.  An event of the timerfd that comes after that resumes an
operation before its deadline, unless the new deadline is reached as well.
-/

namespace AsyncFrame

open Lib

/-- What is left of a batch, and how often the timerfd had been set when
`epoll_wait` returned it. -/
def Control.rest? : Control → Option (List EpollEvent × Nat)
  | .batch evs fetched => some (evs, fetched)
  | .half _ evs fetched => some (evs, fetched)
  | _ => none

namespace System

variable {queues : TimerQueue} {s next : System queues} {action : Action}

/-- Every event of the timerfd resumed an operation whose deadline was reached,
and every read of the timerfd found an expiration. -/
structure OnTime (s : System queues) : Prop where
  events : ∀ number deadline clock,
    .timerEvent number deadline clock ∈ s.trace →
      ∃ set, deadline = some set ∧ set ≤ clock
  reads : ∀ ready ∈ s.rt.timer.timerFd.reads, ready = true

/-- An event of the timerfd is dispatched to an operation only if the timerfd
was not set since `epoll_wait` returned the batch, or has expired again. -/
def timerFresh (s : System queues) : Action → Bool
  | .dispatch _ =>
      match s.control with
      | .batch (event :: _) fetched =>
          (s.timerWakes event).isNone ||
            s.rt.timer.timerFd.settimes = fetched ||
            s.rt.timer.timerFd.isReadable s.rt.clock
      | _ => true
  | _ => true

def TimerFresh (s : System queues) (action : Action) : Prop :=
  s.timerFresh action = true

instance : DecidableRel (@TimerFresh queues) :=
  fun s action => inferInstanceAs (Decidable (s.timerFresh action = true))

/-! ## The timerfd over one step -/

/-- The timerfd over one step: untouched, or set once more; and the clock does
not go back. -/
theorem Move.rearmed (move : Move action s next) :
    next.rt.timer.fd = s.rt.timer.fd ∧ s.rt.clock ≤ next.rt.clock ∧
      (next.rt.timer.timerFd = s.rt.timer.timerFd ∨
        s.rt.timer.timerFd.settimes < next.rt.timer.timerFd.settimes) := by
  cases move with
  | calm _ _ _ _ timer clock =>
      rw [timer]
      exact ⟨rfl, clock, Or.inl rfl⟩
  | suspends _ _ _ _ _ _ _ _ _ leaves =>
      exact ⟨leaves.timerFd, leaves.clock, leaves.rearmed⟩
  | passes _ _ _ _ _ _ _ _ _ _ leaves =>
      rcases leaves with ⟨_, same⟩ | ⟨_, _, leaves⟩
      · rw [same]
        exact ⟨rfl, le_refl _, Or.inl rfl⟩
      · exact ⟨leaves.timerFd, leaves.clock, leaves.rearmed⟩
  | ends _ _ _ _ _ _ leaves =>
      exact ⟨leaves.timerFd, leaves.clock, leaves.rearmed⟩
  | rounds _ _ _ _ _ _ _ _ _ _ _ left leaves =>
      refine ⟨leaves.timerFd.trans left.timerFd,
        left.clock.trans leaves.clock, ?_⟩
      rcases left.rearmed with same | more
      · rw [← same]
        exact leaves.rearmed
      · rcases leaves.rearmed with same | again
        · rw [same]
          exact Or.inr more
        · exact Or.inr (more.trans again)

/-- What a step leaves of a batch was left of it before, unless the step is
`epoll_wait`. -/
theorem step_rest (taken : s.step action = some next)
    {evs : List EpollEvent} {fetched : Nat}
    (rest : next.control.rest? = some (evs, fetched)) :
    (∃ before, s.control.rest? = some (before, fetched) ∧ evs ⊆ before) ∨
      fetched = s.rt.timer.timerFd.settimes ∧ next.rt = s.rt ∧
        ∀ event ∈ evs, s.reports event = true := by
  obtain ⟨allowed, rfl⟩ := step_eq_some taken
  have stays : (s.perform action).control = s.control →
      ∃ before, s.control.rest? = some (before, fetched) ∧ evs ⊆ before :=
    fun same => ⟨evs, same ▸ rest, List.Subset.refl _⟩
  cases action with
  | epollWait batch =>
      simp only [enabled, Bool.and_eq_true] at allowed
      simp only [perform, Control.rest?, Option.some.injEq,
        Prod.mk.injEq] at rest
      obtain ⟨rfl, rfl⟩ := rest
      exact Or.inr ⟨rfl, rfl, List.all_eq_true.mp allowed.2⟩
  | dispatch io =>
      obtain ⟨_, event, left, since, batch⟩ := enabled_dispatch allowed
      obtain ⟨control, shape, performed⟩ := dispatch_cases io batch
      have same : (s.perform (.dispatch io)).control = control := by
        rw [performed]
        split
        · rfl
        · exact (Linked.complete_rest _ _ _).2
      have inside : control.rest? = some (left, since) := by
        rcases shape with rfl | ⟨writeOp, rfl, _⟩ <;> rfl
      rw [same, inside] at rest
      cases rest
      left
      refine ⟨event :: evs, ?_, List.subset_cons_self _ _⟩
      rw [batch]
      rfl
  | dispatchWrite io =>
      obtain ⟨_, writeOp, left, since, half⟩ := enabled_dispatchWrite allowed
      have same : (s.perform (.dispatchWrite io)).control =
          .batch left since := by
        rw [dispatchWrite_eq io half]
        exact (Linked.complete_rest _ _ _).2
      rw [same] at rest
      cases rest
      left
      refine ⟨evs, ?_, List.Subset.refl _⟩
      rw [half]
      rfl
  | await frame operation io =>
      obtain ⟨⟨caller, below, stack, _⟩, _⟩ := enabled_await allowed
      refine Or.inl (stays ?_)
      simp only [perform, System.await, stack]
      split <;> rfl
  | awaitWithTimeout impl frame wrapped delay io =>
      obtain ⟨⟨caller, below, stack, _⟩, _, _, _, operation, timeout, _⟩ :=
        enabled_awaitWithTimeout allowed
      refine Or.inl (stays ?_)
      simp only [perform, System.awaitWithTimeout, timeout, stack]
      split <;> rfl
  | run => cases rest
  | batchEnd => cases rest
  | exit => cases rest
  | tick _ => exact Or.inl (stays rfl)
  | requestCancel _ => exact Or.inl (stays rfl)
  | openFd _ _ => exact Or.inl (stays rfl)
  | closeFd _ => exact Or.inl (stays rfl)
  | setBuffer _ _ => exact Or.inl (stays rfl)
  | spawn _ => exact Or.inl (stays rfl)
  | finish => exact Or.inl (stays rfl)
  | destroy _ => exact Or.inl (stays rfl)

/-- What a batch says of the timerfd stays true while the timerfd is not set
again. -/
def Punctual (s : System queues) : Prop :=
  ∀ evs fetched, s.control.rest? = some (evs, fetched) →
    fetched ≤ s.rt.timer.timerFd.settimes ∧
      ∀ event ∈ evs, event.fd = s.rt.timer.fd →
        s.rt.timer.timerFd.settimes = fetched →
          s.rt.timer.timerFd.isReadable s.rt.clock = true

theorem isReadable_of_reports (good : Good s) {event : EpollEvent}
    (reported : s.reports event = true)
    (timer : event.fd = s.rt.timer.fd) :
    s.rt.timer.timerFd.isReadable s.rt.clock = true := by
  unfold reports at reported
  split at reported
  · cases reported
  · rw [Bool.and_eq_true, timer, good.sound.inOrder.timerFile] at reported
    exact reported.2

theorem Punctual.step (punctual : Punctual s) (good : Good s)
    (move : Move action s next) (taken : s.step action = some next) :
    Punctual next := by
  intro evs fetched rest
  obtain ⟨timer, order, rearmed⟩ := move.rearmed
  rcases step_rest taken rest with
    ⟨before, was, inside⟩ | ⟨rfl, same, reported⟩
  · obtain ⟨below, ready⟩ := punctual before fetched was
    constructor
    · rcases rearmed with same | more
      · rw [same]
        exact below
      · omega
    · intro event member own unset
      rcases rearmed with same | more
      · rw [same] at unset ⊢
        refine TimerFd.isReadable_later ?_ order
        exact ready event (inside member) (own.trans timer) unset
      · omega
  · rw [same]
    exact ⟨le_refl _, fun event member own _ =>
      isReadable_of_reports good (reported event member) own⟩

/-! ## The law -/

/-- What the timerfd's event resumes is the operation of the current task. -/
theorem Good.timerWakes_spec (good : Good s) {event : EpollEvent}
    {op : OpFrame} (wakes : s.timerWakes event = some op) :
    event.fd = s.rt.timer.fd ∧
      op.deadline = some s.rt.timer.cur.timePoint ∧
      (s.rt.timer.timerFd.isReadable s.rt.clock = true ↔
        s.rt.timer.cur.timePoint ≤ s.rt.clock) := by
  unfold timerWakes at wakes
  split at wakes
  · rename_i timer
    obtain ⟨pointer, found, waits⟩ := Option.bind_eq_some_iff.mp wakes
    have settled := good.sound.inOrder.settled
    rw [timer.1, good.sound.inOrder.slot] at found
    obtain ⟨frame, current, named, currentWaits, set, _⟩ :=
      good.current (settled.wellFormed.nonempty_of_read found)
    rw [found] at named
    cases named
    rw [waits] at currentWaits
    cases currentWaits
    refine ⟨timer.1, set, fun readable => ?_,
      isReadable_of_reached settled found⟩
    obtain ⟨_, deadline, setting, reached⟩ :=
      TimerFd.isReadable_iff.mp readable
    rw [settled.setting_of_current found] at setting
    cases setting
    exact reached
  · cases wakes

/-- A `wait_for` is resumed only through the timerfd. -/
theorem Good.timerWakes_of_waitFor (good : Good s) {pointer : OpPtr}
    {op : OpFrame} {delay : Int} (woken : s.completes action = some pointer)
    (waits : s.pending pointer.frame = some op)
    (operation : op.operation = .waitFor delay) :
    ∃ io event evs fetched, action = .dispatch io ∧
      s.control = .batch (event :: evs) fetched ∧
      s.timerWakes event = some op := by
  unfold completes at woken
  split at woken
  · split at woken
    · rename_i event evs fetched batch
      split at woken
      · rename_i ready
        have timer : event.fd = s.rt.timer.fd := by
          rcases good.sound.held _ _ _ woken with
            ⟨same, _⟩ | ⟨other, otherWaits, holds⟩
          · exact same
          · rw [waits] at otherWaits
            cases otherWaits
            rcases holds with ⟨_, socket⟩ | ⟨_, token, _⟩
            · rw [operation] at socket
              cases socket
            · rw [operation] at token
              cases token
        refine ⟨_, event, evs, fetched, rfl, batch, ?_⟩
        simp only [timerWakes, timer, ready, and_self, if_true]
        rw [← timer, woken]
        exact waits
      · cases woken
    · cases woken
  · split at woken
    · rename_i writeOp evs fetched half
      cases woken
      obtain ⟨other, fd, otherWaits, socket⟩ := good.fetched _ _ _ half
      rw [waits] at otherWaits
      cases otherWaits
      rw [operation] at socket
      cases socket
    · cases woken
  · cases woken

/-- Under the condition the timerfd's event finds an expiration. -/
theorem TimerFresh.readable (fresh : TimerFresh s action)
    (punctual : Punctual s) (good : Good s) {io : Io} {event : EpollEvent}
    {evs : List EpollEvent} {fetched : Nat} {op : OpFrame}
    (dispatches : action = .dispatch io)
    (batch : s.control = .batch (event :: evs) fetched)
    (wakes : s.timerWakes event = some op) :
    s.rt.timer.timerFd.isReadable s.rt.clock = true := by
  subst dispatches
  simp only [TimerFresh, timerFresh, batch, wakes, Option.isNone_some,
    Bool.false_or, Bool.or_eq_true, decide_eq_true_eq] at fresh
  rcases fresh with unset | readable
  · refine (punctual (event :: evs) fetched ?_).2 event
      List.mem_cons_self (good.timerWakes_spec wakes).1 unset
    rw [batch]
    rfl
  · exact readable

private theorem mem_marks_timerEvent {number : Nat} {deadline : Option Int}
    {clock : Int} :
    .timerEvent number deadline clock ∈ s.marks action ↔
      ∃ io event evs fetched op, action = .dispatch io ∧
        s.control = .batch (event :: evs) fetched ∧
        s.timerWakes event = some op ∧ number = op.number ∧
        deadline = op.deadline ∧ clock = s.rt.clock := by
  constructor
  · intro member
    unfold marks at member
    split at member
    · split at member
      · rename_i event evs fetched batch
        unfold timerMarks at member
        split at member
        · rename_i op wakes
          rw [List.mem_singleton] at member
          cases member
          exact ⟨_, event, evs, fetched, op, rfl, batch, wakes, rfl, rfl,
            rfl⟩
        · cases member
      · cases member
    · rw [List.mem_singleton] at member
      cases member
    · cases member
  · rintro ⟨io, event, evs, fetched, op, rfl, batch, wakes, rfl, rfl, rfl⟩
    simp [marks, batch, timerMarks, wakes]

/-- What a step records of the timerfd is what its marks say. -/
theorem Move.timerEvents (move : Move action s next) {number : Nat}
    {deadline : Option Int} {clock : Int} :
    .timerEvent number deadline clock ∈ next.trace ↔
      .timerEvent number deadline clock ∈ s.marks action ∨
        .timerEvent number deadline clock ∈ s.trace := by
  have opened : ∀ {opened after : Nat} {prelude : List Obs},
      Opening s opened prelude after →
        Obs.timerEvent number deadline clock ∉ prelude := by
    intro opened after prelude opening member
    obtain ⟨_, _, same⟩ := opening.prelude_spec member
    cases same
  have unmarked : ∀ {operation : Operation},
      action.starts? = some operation → s.marks action = [] := by
    intro operation starting
    cases action <;> first | rfl | cases starting
  cases move with
  | calm _ _ _ _ _ _ _ _ _ _ _ trace => simp [trace]
  | suspends _ _ _ starting opening _ _ _ _ _ _ trace =>
      simp [trace, unmarked starting, opened opening]
  | passes _ _ _ _ _ starting opening _ _ _ _ trace =>
      simp [trace, unmarked starting, opened opening]
  | ends _ _ _ _ _ _ _ _ _ _ trace => simp [trace]
  | rounds _ _ _ _ _ _ _ _ _ _ _ _ _ _ _ trace => simp [trace]

/-- The reads of the timerfd over one stretch. -/
theorem reads_of_leaves {rt next : Runtime queues} {frame : Addr}
    {holder : Option Addr} {operation : Operation} {deadline : Option Int}
    {queue : OpPtr → Option Int}
    (leaves : Leaves frame holder operation deadline rt next queue) :
    (∀ ready ∈ rt.timer.timerFd.reads, ready ∈ next.timer.timerFd.reads) ∧
      ∀ ready ∈ next.timer.timerFd.reads,
        ready ∈ rt.timer.timerFd.reads ∨ ready = true ∨
          (holder = none ∧ ∃ delay, operation = .waitFor delay) ∧
            ready = rt.timer.timerFd.isReadable rt.clock := by
  rcases leaves.reads with same | same | ⟨waits, same⟩
  · rw [same]
    exact ⟨fun _ member => member, fun _ member => Or.inl member⟩
  · rw [same]
    refine ⟨fun _ member => List.mem_cons_of_mem _ member, ?_⟩
    intro ready member
    rcases List.mem_cons.mp member with new | older
    · exact Or.inr (Or.inl new)
    · exact Or.inl older
  · rw [same]
    refine ⟨fun _ member => List.mem_cons_of_mem _ member, ?_⟩
    intro ready member
    rcases List.mem_cons.mp member with new | older
    · exact Or.inr (Or.inr ⟨waits, new⟩)
    · exact Or.inl older

/-- The reads of the timerfd over one step: only a `wait_for` reads it
untested. -/
theorem Move.reads (move : Move action s next) :
    (∀ ready ∈ s.rt.timer.timerFd.reads,
      ready ∈ next.rt.timer.timerFd.reads) ∧
    ∀ ready ∈ next.rt.timer.timerFd.reads,
      ready ∈ s.rt.timer.timerFd.reads ∨ ready = true ∨
        ∃ pointer op delay, s.completes action = some pointer ∧
          s.pending pointer.frame = some op ∧
          op.operation = .waitFor delay ∧
          ready = s.rt.timer.timerFd.isReadable s.rt.clock := by
  cases move with
  | calm _ _ _ _ timer =>
      rw [timer]
      exact ⟨fun _ member => member, fun _ member => Or.inl member⟩
  | suspends _ _ _ _ _ _ _ _ _ leaves =>
      obtain ⟨kept, added⟩ := reads_of_leaves leaves
      refine ⟨kept, fun ready member => ?_⟩
      rcases added ready member with older | set | ⟨⟨held, _⟩, _⟩
      · exact Or.inl older
      · exact Or.inr (Or.inl set)
      · cases held
  | passes _ _ _ _ _ _ _ _ _ _ leaves =>
      rcases leaves with ⟨_, same⟩ | ⟨cancelled, _, leaves⟩
      · rw [same]
        exact ⟨fun _ member => member, fun _ member => Or.inl member⟩
      · obtain ⟨kept, added⟩ := reads_of_leaves leaves
        refine ⟨kept, fun ready member => ?_⟩
        rcases added ready member with older | set | ⟨⟨_, delay, waits⟩, _⟩
        · exact Or.inl older
        · exact Or.inr (Or.inl set)
        · rw [waits] at cancelled
          cases cancelled
  | ends pointer op _ woken waits _ leaves =>
      obtain ⟨kept, added⟩ := reads_of_leaves leaves
      refine ⟨kept, fun ready member => ?_⟩
      rcases added ready member with older | set | ⟨⟨_, delay, same⟩, new⟩
      · exact Or.inl older
      · exact Or.inr (Or.inl set)
      · exact Or.inr (Or.inr ⟨pointer, op, delay, woken, waits, same, new⟩)
  | rounds pointer op _ middle woken waits _ _ _ _ _ left leaves =>
      obtain ⟨leftKept, leftAdded⟩ := reads_of_leaves left
      obtain ⟨kept, added⟩ := reads_of_leaves leaves
      refine ⟨fun ready member => kept ready (leftKept ready member), ?_⟩
      intro ready member
      rcases added ready member with between | set | ⟨⟨held, _⟩, _⟩
      · rcases leftAdded ready between with
          older | set | ⟨⟨_, delay, same⟩, new⟩
        · exact Or.inl older
        · exact Or.inr (Or.inl set)
        · exact Or.inr (Or.inr
            ⟨pointer, op, delay, woken, waits, same, new⟩)
      · exact Or.inr (Or.inl set)
      · cases held

/-- One step keeps the law exactly if it meets the condition. -/
theorem onTime_step (good : Good s) (punctual : Punctual s)
    (move : Move action s next) :
    OnTime next ↔ OnTime s ∧ TimerFresh s action := by
  obtain ⟨kept, added⟩ := move.reads
  constructor
  · intro law
    refine ⟨⟨fun number deadline clock member => ?_, fun ready member => ?_⟩,
      ?_⟩
    · exact law.events number deadline clock
        (move.timerEvents.mpr (Or.inr member))
    · exact law.reads ready (kept ready member)
    · cases action with
      | dispatch io =>
          simp only [TimerFresh, timerFresh]
          split
          · rename_i event evs fetched batch
            cases wakes : s.timerWakes event with
            | none => rfl
            | some op =>
                obtain ⟨_, set, readable⟩ := good.timerWakes_spec wakes
                have marked := mem_marks_timerEvent.mpr
                  ⟨io, event, evs, fetched, op, rfl, batch, wakes, rfl, rfl,
                    rfl⟩
                obtain ⟨deadline, same, reached⟩ := law.events _ _ _
                  (move.timerEvents.mpr (Or.inl marked))
                rw [set] at same
                cases same
                rw [readable.mpr reached, Bool.or_true]
          · rfl
      | _ => rfl
  · rintro ⟨law, fresh⟩
    refine ⟨fun number deadline clock member => ?_, fun ready member => ?_⟩
    · rcases move.timerEvents.mp member with marked | older
      · obtain ⟨io, event, evs, fetched, op, dispatches, batch, wakes, rfl,
          rfl, rfl⟩ := mem_marks_timerEvent.mp marked
        obtain ⟨_, set, readable⟩ := good.timerWakes_spec wakes
        exact ⟨_, set, readable.mp
          (fresh.readable punctual good dispatches batch wakes)⟩
      · exact law.events number deadline clock older
    · rcases added ready member with
        older | set | ⟨pointer, op, delay, woken, waits, operation, rfl⟩
      · exact law.reads ready older
      · exact set
      · obtain ⟨io, event, evs, fetched, dispatches, batch, wakes⟩ :=
          good.timerWakes_of_waitFor woken waits operation
        exact fresh.readable punctual good dispatches batch wakes

/-- In every run, every operation that the timerfd's event resumed had reached
its deadline, and every read of the timerfd found an expiration, exactly if
each such event was dispatched either before the timerfd was set again or
after it had expired again. -/
theorem timerEvents_onTime_iff {timerFd : Fd} {uptime : Nat}
    {buffers : BufferRef → Buffer} {actions : List Action}
    (reached : Reaches KeepsPending timerFd uptime buffers actions s) :
    OnTime s ↔
      Meets step TimerFresh (initial queues timerFd uptime buffers)
        actions := by
  refine law_iff_meets_of_run (fun state => Good state ∧ Punctual state)
    OnTime TimerFresh ?_ ?_ ?_ ?_ reached.1 reached.2
  · rintro state action after ⟨good, punctual⟩ keeps taken
    obtain ⟨move, goodAfter⟩ := step_move good keeps taken
    exact ⟨goodAfter, punctual.step good move taken⟩
  · rintro state action after ⟨good, punctual⟩ keeps taken
    exact onTime_step good punctual (step_move good keeps taken).1
  · refine ⟨good_initial queues timerFd uptime buffers, ?_⟩
    rintro evs fetched ⟨⟩
  · constructor
    · intro number deadline clock member
      cases member
    · intro ready member
      cases member

theorem timerEvents_onTime_iff_sample :
    ∃ s : System TimerQueue.sorted,
      Reaches KeepsPending 3 100 (fun _ => ⟨[0, 0], 0⟩)
        [.openFd 5 .socket, .spawn 1, .await 10 (.waitFor 80) {}, .spawn 2,
          .await 20 (.asyncReadTimeout ⟨5, 0, none⟩ 50) {}, .run, .tick 50,
          .epollWait [⟨EPOLLIN, 3⟩, ⟨EPOLLIN, 5⟩], .dispatch {}, .finish,
          .dispatch {}, .batchEnd, .tick 30, .epollWait [⟨EPOLLIN, 3⟩],
          .dispatch {}] s ∧
      OnTime s := by
  refine (exists_reaches (fun _ => true) ?_ ?_).imp
    fun s ⟨reached, _⟩ => ⟨reached, (timerEvents_onTime_iff reached).mpr ?_⟩
  · decide +kernel
  · decide +kernel
  · decide +kernel

/-- The socket's event comes first and ends the expired read, which sets the
timerfd for the `wait_for`; the timerfd's event of the same batch then resumes
the `wait_for` thirty nanoseconds early. -/
theorem timerEvents_counterexample :
    ∃ s : System TimerQueue.sorted,
      runFrom step (initial _ 3 100 (fun _ => ⟨[0, 0], 0⟩))
        [.openFd 5 .socket, .spawn 1, .await 10 (.waitFor 80) {}, .spawn 2,
          .await 20 (.asyncReadTimeout ⟨5, 0, none⟩ 50) {}, .run, .tick 50,
          .epollWait [⟨EPOLLIN, 5⟩, ⟨EPOLLIN, 3⟩], .dispatch {}, .finish,
          .dispatch {}] = some s ∧
      .timerEvent 0 (some 181) 151 ∈ s.trace ∧
      s.rt.timer.timerFd.reads = [false, true] := by
  have computed : ((runFrom step
      (initial TimerQueue.sorted 3 100 (fun _ => ⟨[0, 0], 0⟩))
      [.openFd 5 .socket, .spawn 1, .await 10 (.waitFor 80) {}, .spawn 2,
        .await 20 (.asyncReadTimeout ⟨5, 0, none⟩ 50) {}, .run, .tick 50,
        .epollWait [⟨EPOLLIN, 5⟩, ⟨EPOLLIN, 3⟩], .dispatch {}, .finish,
        .dispatch {}]).any fun s =>
      .timerEvent 0 (some 181) 151 ∈ s.trace ∧
        s.rt.timer.timerFd.reads = [false, true]) = true := by
    decide +kernel
  obtain ⟨s, run, passed⟩ := (Option.any_eq_true _ _).mp computed
  exact ⟨s, run, of_decide_eq_true passed⟩

end System

end AsyncFrame
