import AsyncFrame.Moves
import AsyncFrame.Views

/-!
# The timers of several schedulers

What one step does to the schedulers, and what holds in every run in which
timed operations are started only while no other scheduler has one suspended.
-/

namespace AsyncFrame

open Lib

variable {queues : TimerQueue}

namespace Process

variable {p next : Process queues} {call : Call} {home scheduler : Nat}

/-! ## Every step -/

/-- What one step does to the schedulers. -/
inductive Turn (home : Nat) (call : Call) (p next : Process queues) : Prop
  | calm
      (asleep : p.worksFor call = none)
      (timer : next.program.rt.timer = p.program.rt.timer)
      (tables : next.tables = p.tables)
      (pending : next.pending = p.pending)
      (owner : next.owner = p.owner)
  | works
      (scheduler : Nat)
      (here : p.worksFor call = some scheduler)
      (worked : Worked home scheduler p next)

/-- A step that neither starts nor resumes an operation. -/
theorem Apart.stays (apart : p.Apart home)
    (asleep : p.worksFor call = none)
    (tables : next.tables = p.tables)
    (owner : next.owner = p.owner)
    (pending : next.pending = p.pending)
    (timer : next.program.rt.timer = p.program.rt.timer)
    (clock : p.program.rt.clock ≤ next.program.rt.clock)
    (fault : next.program.rt.fault = p.program.rt.fault)
    (kept : ∀ frame op, p.pending frame = some op → ∀ fd,
      op.operation.touches fd = true →
        next.program.rt.files fd = p.program.rt.files fd ∨
          (next.program.rt.files fd).isEventFd = true ∧
            (p.program.rt.files fd).isEventFd = true)
    (timerFile : next.program.rt.files p.program.rt.timer.fd =
      p.program.rt.files p.program.rt.timer.fd)
    (linked : Linked next.program.frames)
    (fetched : ∀ writeOp evs fetched,
      next.program.control = .half writeOp evs fetched →
        p.program.control = .half writeOp evs fetched ∧
          next.running = p.running) :
    Turn home call p next ∧ next.Apart home := by
  have same : ∀ other, next.pendingOn other = p.pendingOn other := by
    intro other
    unfold pendingOn
    rw [owner, pending]
  refine ⟨.calm asleep timer tables pending owner, ?_, linked, ?_⟩
  · intro other
    have sound := apart.sound other
    have timed : next.timerOn home other = p.timerOn home other := by
      unfold timerOn
      rw [timer]
    have timerFd : (p.view home other).timer.fd = p.program.rt.timer.fd :=
      p.timerOn_fd home other
    rw [same]
    refine sound.carried (congrFun tables other) timed clock fault ?_ ?_
    · intro frame op waits
      exact (sound.fits frame op waits).refiled
        (kept frame op (pendingOn_eq_some.mp waits).2)
    · rw [timerFd]
      exact timerFile
  · intro writeOp evs since half
    obtain ⟨before, running⟩ := fetched writeOp evs since half
    rw [running, same]
    exact apart.fetched writeOp evs since before

/-- The same for a step that leaves the runtime alone. -/
theorem Apart.stays_of_same (apart : p.Apart home) (action : Action)
    (running : Nat) (asleep : p.worksFor ⟨scheduler, action⟩ = none)
    (rt : ((p.focus scheduler).perform action).rt = (p.focus scheduler).rt)
    (pending : ((p.focus scheduler).perform action).pending = p.pending)
    (linked : Linked ((p.focus scheduler).perform action).frames)
    (fetched : ∀ writeOp evs fetched,
      ((p.focus scheduler).perform action).control =
        .half writeOp evs fetched →
        p.program.control = .half writeOp evs fetched ∧
          running = p.running) :
    Turn home ⟨scheduler, action⟩ p
        { p.store scheduler ((p.focus scheduler).perform action) with
          running := running } ∧
      Apart
        { p.store scheduler ((p.focus scheduler).perform action) with
          running := running } home := by
  refine apart.stays asleep ?_ rfl pending ?_ ?_ ?_ ?_ ?_ linked fetched
  · change Function.update p.tables scheduler
      ((p.focus scheduler).perform action).rt.scheduler = _
    rw [rt]
    exact Function.update_eq_self _ _
  · change ((p.focus scheduler).perform action).rt.timer = _
    rw [rt]
    rfl
  · change _ ≤ ((p.focus scheduler).perform action).rt.clock
    rw [rt]
    exact le_refl _
  · change ((p.focus scheduler).perform action).rt.fault = _
    rw [rt]
    rfl
  · intro frame op waits fd touched
    left
    change ((p.focus scheduler).perform action).rt.files fd = _
    rw [rt]
    rfl
  · change ((p.focus scheduler).perform action).rt.files _ = _
    rw [rt]
    rfl

/-- Starting an operation on one scheduler. -/
theorem Apart.starts (apart : p.Apart home) {operation : Operation}
    {frame : Addr} {op : OpFrame} {io : Io} {program : System queues}
    (homed : operation.delay?.isSome = true → scheduler = home)
    (free : p.pending frame = none)
    (admitted : (p.focus scheduler).admits operation = true)
    (rt : program.rt =
      (operation.start frame io (p.focus scheduler).rt).rt)
    (starting : op.operation = operation)
    (pending : program.pending = Function.update p.pending frame
      (op.after (operation.start frame io (p.focus scheduler).rt)))
    (control : program.control = p.program.control)
    (linked : Linked program.frames) :
    Worked home scheduler p
        { p.store scheduler program with
          owner := Function.update p.owner frame scheduler } ∧
      Apart
        { p.store scheduler program with
          owner := Function.update p.owner frame scheduler } home := by
  subst starting
  obtain ⟨fits, timed⟩ := System.admits_iff.mp admitted
  have absent : p.pendingOn scheduler frame = none := by
    unfold pendingOn
    rw [free, ite_self]
  have done := (apart.sound scheduler).started io absent
    (fits.refiled fun _ _ => Or.inl rfl) timed
  have timerFree : scheduler ≠ home →
      ∀ (rt : Runtime queues) (timer : TimerEvent queues),
        op.operation.start frame io (rt.retimed timer) =
          (op.operation.start frame io rt).retimed timer := by
    intro away rt timer
    refine Operation.start_retimed ?_ frame io timer
    cases isTimed : op.operation.delay? with
    | none => rfl
    | some delay => exact absurd (homed (by rw [isTimed]; rfl)) away
  have worked : Worked home scheduler p
      { p.store scheduler program with
        owner := Function.update p.owner frame scheduler } :=
    apart.works (fun rt => op.operation.start frame io rt) timerFree done rt
      rfl pending rfl (Or.inr free)
  refine ⟨worked, worked.sound, linked, ?_⟩
  intro writeOp evs since half
  obtain ⟨other, fd, waits, socket⟩ :=
    apart.fetched writeOp evs since (control.symm.trans half)
  obtain ⟨own, pends⟩ := pendingOn_eq_some.mp waits
  have different : writeOp.frame ≠ frame := by
    intro same
    rw [same, free] at pends
    cases pends
  refine ⟨other, fd, pendingOn_eq_some.mpr ⟨?_, ?_⟩, socket⟩
  · exact (Function.update_of_ne different _ _).trans own
  · exact (congrFun pending writeOp.frame).trans
      ((Function.update_of_ne different _ _).trans pends)

/-- One event, up to its write half. -/
theorem Apart.dispatch (apart : p.Apart home) {event : EpollEvent}
    {evs : List EpollEvent} {fetched : Nat} (io : Io)
    (batch : p.program.control = .batch (event :: evs) fetched) :
    Turn home ⟨scheduler, .dispatch io⟩ p
        (p.perform ⟨scheduler, .dispatch io⟩) ∧
      (p.perform ⟨scheduler, .dispatch io⟩).Apart home := by
  obtain ⟨control, left, reads, performed⟩ := dispatch_cases io batch
  have running := apart.sound p.running
  have writes : ∀ writeOp rest since, control = .half writeOp rest since →
      (p.view home p.running).scheduler.registry event.fd .write =
        some writeOp := by
    rintro writeOp rest since rfl
    rcases left with batched | ⟨other, here, registered⟩
    · cases batched
    · cases here
      exact registered
  cases woken : p.completes ⟨scheduler, .dispatch io⟩ with
  | none =>
      rw [woken] at performed
      rw [performed]
      refine ⟨.calm ?_ rfl rfl rfl rfl, apart.sound, apart.linked, ?_⟩
      · change (p.completes ⟨scheduler, .dispatch io⟩).map _ = none
        rw [woken]
        rfl
      · intro writeOp rest since half
        obtain ⟨op, waits, socket⟩ :=
          running.writes_of_registered (writes writeOp rest since half)
        exact ⟨op, event.fd, waits, socket⟩
  | some readOp =>
      rw [woken] at performed
      have read := reads readOp woken
      obtain ⟨op, waits, current⟩ := running.waits_of_registered read
      obtain ⟨worked, linked, kept, elsewhere⟩ :=
        apart.complete io control _ waits current
      rw [performed]
      refine ⟨.works p.running ?_ worked, worked.sound, linked, ?_⟩
      · change (p.completes ⟨scheduler, .dispatch io⟩).map _ = some p.running
        rw [woken]
        exact congrArg some (pendingOn_eq_some.mp waits).1
      · intro writeOp rest since half
        have write := writes writeOp rest since (kept.symm.trans half)
        obtain ⟨other, otherWaits, socket⟩ :=
          running.writes_of_registered write
        obtain ⟨own, pends⟩ := pendingOn_eq_some.mp otherWaits
        refine ⟨other, event.fd, pendingOn_eq_some.mpr ⟨own, ?_⟩, socket⟩
        exact (elsewhere _ (running.frame_ne read write)).trans pends

/-- Its write half. -/
theorem Apart.dispatchWrite (apart : p.Apart home) {writeOp : OpPtr}
    {evs : List EpollEvent} {fetched : Nat} (io : Io)
    (half : p.program.control = .half writeOp evs fetched) :
    Turn home ⟨scheduler, .dispatchWrite io⟩ p
        (p.perform ⟨scheduler, .dispatchWrite io⟩) ∧
      (p.perform ⟨scheduler, .dispatchWrite io⟩).Apart home := by
  obtain ⟨op, fd, waits, socket⟩ := apart.fetched writeOp evs fetched half
  have current : ∀ delay, op.operation = .waitFor delay →
      (p.view home p.running).timer.cur.state.read =
        some ⟨writeOp.frame, .timer⟩ := by
    intro delay same
    rw [same] at socket
    cases socket
  have woken : p.completes ⟨scheduler, .dispatchWrite io⟩ =
      some writeOp := by
    have focused : (p.focus p.running).control =
        .half writeOp evs fetched := half
    simp only [completes, System.completes, focused]
  have performed : p.perform ⟨scheduler, .dispatchWrite io⟩ =
      (p.withMarks (.batch evs fetched) []).complete writeOp io := by
    simp only [perform, half]
  obtain ⟨worked, linked, kept, _⟩ :=
    apart.complete io (.batch evs fetched) [] waits current
  rw [performed]
  refine ⟨.works p.running ?_ worked, worked.sound, linked, ?_⟩
  · change (p.completes ⟨scheduler, .dispatchWrite io⟩).map _ =
      some p.running
    rw [woken]
    exact congrArg some (pendingOn_eq_some.mp waits).1
  · intro other rest since here
    rw [kept] at here
    cases here

private theorem enabled_iff : p.enabled call = true ↔
    (p.focus call.scheduler).enabled call.action = true ∧
      (call.action.inRunning = true → call.scheduler = p.running) := by
  unfold enabled
  rw [Bool.and_eq_true, Bool.or_eq_true, decide_eq_true_iff]
  cases call.action.inRunning with
  | true => simp
  | false => simp

/-! ## Steps that change the files -/

/-- The timerfd's file is what it was at the start. -/
theorem Apart.timerFile (apart : p.Apart home) :
    p.program.rt.files p.program.rt.timer.fd = .timerFd := by
  have file := (apart.sound home).inOrder.timerFile
  have fd : (p.view home home).timer.fd = p.program.rt.timer.fd :=
    p.timerOn_fd home home
  rw [fd] at file
  exact file

/-- A descriptor of a suspended operation is a socket or an eventfd. -/
theorem Apart.file_of_touched (apart : p.Apart home) {frame : Addr}
    {op : OpFrame} {fd : Fd} (waits : p.pending frame = some op)
    (touches : op.operation.touches fd = true) :
    p.program.rt.files fd = .socket ∨
      (p.program.rt.files fd).isEventFd = true :=
  (apart.sound (p.owner frame)).file_of_touched
    ((p.pendingOn_owner frame).trans waits) touches

/-- In every step the frames change as in one of the program alone. -/
theorem Apart.performed_linked (apart : p.Apart home)
    {action : AsyncFrame.Action}
    (permitted : (p.focus scheduler).enabled action = true) :
    Linked ((p.focus scheduler).perform action).frames := by
  have healthy : (p.focus scheduler).rt.fault = none :=
    (apart.sound scheduler).healthy
  have taken : (p.focus scheduler).step action =
      some ((p.focus scheduler).perform action) :=
    if_pos ⟨healthy, permitted⟩
  exact System.step_linked (s := p.focus scheduler) apart.linked taken

private theorem Apart.requestCancel (apart : p.Apart home) {token : Fd}
    (permitted : (p.focus scheduler).enabled (.requestCancel token) = true) :
    Turn home ⟨scheduler, .requestCancel token⟩ p
        (p.perform ⟨scheduler, .requestCancel token⟩) ∧
      (p.perform ⟨scheduler, .requestCancel token⟩).Apart home := by
  have linked := apart.performed_linked permitted
  obtain ⟨counter, called⟩ := System.requestCancel_files
    (p.focus scheduler).rt token permitted
  have files : ((p.focus scheduler).rt.requestCancel token).files =
      Function.update p.program.rt.files token
        (.eventFd true counter) := congrArg Runtime.files called
  refine apart.stays rfl ?_ rfl rfl ?_ ?_ ?_ ?_ ?_ linked
    (fun _ _ _ half => ⟨half, rfl⟩)
  · change Function.update p.tables scheduler
      ((p.focus scheduler).rt.requestCancel token).scheduler = _
    rw [called]
    exact Function.update_eq_self _ _
  · change ((p.focus scheduler).rt.requestCancel token).timer = _
    rw [called]
    rfl
  · change _ ≤ ((p.focus scheduler).rt.requestCancel token).clock
    rw [called]
    exact le_refl _
  · change ((p.focus scheduler).rt.requestCancel token).fault = _
    rw [called]
    rfl
  · intro frame op waits fd touches
    change ((p.focus scheduler).rt.requestCancel token).files fd = _ ∨ _
    rw [files]
    by_cases same : fd = token
    · subst same
      right
      refine ⟨?_, permitted⟩
      change ((p.focus scheduler).rt.requestCancel fd).files fd |>.isEventFd
      rw [files, Function.update_self]
      rfl
    · exact Or.inl (Function.update_of_ne same _ _)
  · change ((p.focus scheduler).rt.requestCancel token).files _ = _
    rw [files]
    refine Function.update_of_ne ?_ _ _
    intro same
    have eventFd : (p.program.rt.files token).isEventFd = true := permitted
    rw [← same, apart.timerFile] at eventFd
    cases eventFd

private theorem Apart.openFd (apart : p.Apart home) {fd : Fd} {file : File}
    (permitted : (p.focus scheduler).enabled (.openFd fd file) = true) :
    Turn home ⟨scheduler, .openFd fd file⟩ p
        (p.perform ⟨scheduler, .openFd fd file⟩) ∧
      (p.perform ⟨scheduler, .openFd fd file⟩).Apart home := by
  have linked := apart.performed_linked permitted
  simp only [System.enabled, Bool.and_eq_true, decide_eq_true_eq]
    at permitted
  have closed : p.program.rt.files fd = .closed := permitted.1.2
  refine apart.stays rfl (Function.update_eq_self _ _) rfl rfl rfl
    (le_refl _) rfl ?_ ?_ linked (fun _ _ _ half => ⟨half, rfl⟩)
  · intro frame op waits other touches
    refine Or.inl (Function.update_of_ne ?_ _ _)
    rintro rfl
    have inUse := apart.file_of_touched waits touches
    simp [closed, File.isEventFd] at inUse
  · refine Function.update_of_ne ?_ _ _
    intro same
    rw [← same, apart.timerFile] at closed
    cases closed

private theorem Apart.closeFd (apart : p.Apart home) {fd : Fd}
    (permitted : (p.focus scheduler).enabled (.closeFd fd) = true) :
    Turn home ⟨scheduler, .closeFd fd⟩ p
        (p.perform ⟨scheduler, .closeFd fd⟩) ∧
      (p.perform ⟨scheduler, .closeFd fd⟩).Apart home := by
  have linked := apart.performed_linked permitted
  simp only [System.enabled, Bool.and_eq_true, decide_eq_true_eq,
    Bool.not_eq_true'] at permitted
  obtain ⟨⟨_, notTimer⟩, unused⟩ := permitted
  have plain : fd ≠ p.program.rt.timer.fd := by
    rintro rfl
    exact notTimer apart.timerFile
  have erased : ∀ other,
      ((p.focus other).rt.closeFd fd).scheduler = p.tables other := by
    intro other
    have sound := apart.sound other
    have viewed : fd ≠ (p.view home other).timer.fd := by
      have timerFd := p.timerOn_fd home other
      intro same
      exact plain (same.trans timerFd)
    have kept := Scheduler.erase_interest_of_unused
      sound.inOrder.agrees (sound.unregistered viewed
        fun frame op waits => System.anyPending_eq_false unused
          (pendingOn_eq_some.mp waits).2)
    exact congrArg (fun interest => (⟨⟨interest⟩,
      (p.tables other).fdToOp⟩ : Scheduler)) kept
  refine apart.stays rfl (funext erased) rfl rfl rfl (le_refl _) rfl ?_
    ?_ linked (fun _ _ _ half => ⟨half, rfl⟩)
  · intro frame op waits other touches
    refine Or.inl (Function.update_of_ne ?_ _ _)
    rintro rfl
    rw [System.anyPending_eq_false unused waits] at touches
    cases touches
  · exact Function.update_of_ne plain.symm _ _

/-- Every step that destroys no suspended operation and starts a timed one only
at home. -/
theorem Apart.perform (apart : p.Apart home) (keeps : p.KeepsPending call)
    (homed : ∀ operation, call.action.starts? = some operation →
      operation.delay?.isSome = true → call.scheduler = home)
    (allowed : p.enabled call = true) :
    Turn home call p (p.perform call) ∧ (p.perform call).Apart home := by
  obtain ⟨scheduler, action⟩ := call
  have permitted := (enabled_iff.mp allowed).1
  have linked := apart.performed_linked permitted
  have unmoved : ∀ frame op, p.pending frame = some op → ∀ fd,
      op.operation.touches fd = true →
        p.program.rt.files fd = p.program.rt.files fd ∨
          (p.program.rt.files fd).isEventFd = true ∧
            (p.program.rt.files fd).isEventFd = true :=
    fun _ _ _ _ _ => Or.inl rfl
  have sameControl : ∀ writeOp evs fetched,
      p.program.control = .half writeOp evs fetched →
        p.program.control = .half writeOp evs fetched ∧
          p.running = p.running := fun _ _ _ half => ⟨half, rfl⟩
  cases action with
  | tick elapsed =>
      refine apart.stays rfl (Function.update_eq_self _ _) rfl rfl rfl ?_ rfl
        unmoved rfl linked sameControl
      exact Int.le_add_of_nonneg_right (Int.natCast_nonneg elapsed)
  | requestCancel token => exact apart.requestCancel permitted
  | openFd fd file => exact apart.openFd permitted
  | closeFd fd => exact apart.closeFd permitted
  | setBuffer buf buffer =>
      exact apart.stays rfl (Function.update_eq_self _ _) rfl rfl rfl
        (le_refl _) rfl unmoved rfl linked sameControl
  | spawn frame =>
      simp only [System.enabled, Bool.and_eq_true, decide_eq_true_eq]
        at permitted
      have pending : ((p.focus scheduler).perform (.spawn frame)).pending =
          p.pending :=
        pendingIn_insert_silent rfl (pendingIn_of_free permitted.2)
      exact apart.stays_of_same (.spawn frame) p.running rfl rfl pending
        linked sameControl
  | finish =>
      exact apart.stays_of_same .finish p.running rfl rfl rfl linked
        sameControl
  | destroy frame =>
      refine apart.stays_of_same (.destroy frame) p.running rfl rfl ?_ linked
        sameControl
      funext other
      simp only [System.pending, System.perform, pendingIn,
        lookup_erase_frames]
      split
      · rename_i inside
        have gone := List.all_eq_true.mp keeps other inside
        exact (Option.isNone_iff_eq_none.mp gone).symm
      · rfl
  | await frame operation io =>
      obtain ⟨⟨caller, below, stack, awake⟩, free, admitted⟩ :=
        System.enabled_await permitted
      obtain ⟨rt, control, op, starting, pending⟩ :=
        System.await_spec io stack awake free
      obtain ⟨worked, kept⟩ := apart.starts (homed operation rfl)
        (pendingIn_of_free free) admitted rt starting pending control linked
      exact ⟨.works scheduler rfl worked, kept⟩
  | awaitWithTimeout impl frame wrapped delay io =>
      obtain ⟨⟨caller, below, stack, awake⟩, implFree, free, different,
        operation, timeout, admitted⟩ :=
          System.enabled_awaitWithTimeout permitted
      obtain ⟨rt, control, op, starting, pending⟩ :=
        System.awaitWithTimeout_spec io stack awake implFree free different
          timeout
      obtain ⟨worked, kept⟩ := apart.starts (homed operation timeout)
        (pendingIn_of_free free) admitted rt starting pending control linked
      refine ⟨.works scheduler ?_ worked, kept⟩
      simp only [worksFor, Action.starts?, timeout]
  | run =>
      refine apart.stays_of_same .run scheduler rfl rfl rfl linked ?_
      rintro _ _ _ ⟨⟩
  | epollWait evs =>
      refine apart.stays_of_same (.epollWait evs) p.running rfl rfl rfl
        linked ?_
      rintro _ _ _ ⟨⟩
  | dispatch io =>
      obtain ⟨_, event, evs, fetched, batch⟩ :=
        System.enabled_dispatch permitted
      exact apart.dispatch io batch
  | dispatchWrite io =>
      obtain ⟨_, writeOp, evs, fetched, half⟩ :=
        System.enabled_dispatchWrite permitted
      exact apart.dispatchWrite io half
  | batchEnd =>
      refine apart.stays_of_same .batchEnd p.running rfl rfl rfl linked ?_
      rintro _ _ _ ⟨⟩
  | exit =>
      refine apart.stays_of_same .exit p.running rfl rfl rfl linked ?_
      rintro _ _ _ ⟨⟩

/-! ## Whole runs -/

private theorem apart_initial (queues : TimerQueue) (timerFd : Fd)
    (uptime : Nat) (buffers : BufferRef → Buffer) :
    (initial queues timerFd uptime buffers).Apart 0 where
  sound scheduler := by
    have good := System.good_initial queues timerFd uptime buffers
    have timer : (initial queues timerFd uptime buffers).timerOn 0 scheduler =
        TimerEvent.initial queues timerFd := by
      unfold timerOn
      split
      · rfl
      · rfl
    have pending :
        (initial queues timerFd uptime buffers).pendingOn scheduler =
          (System.initial queues timerFd uptime buffers).pending := by
      funext frame
      exact ite_self _
    rw [view, timer, pending]
    exact good.sound
  linked := System.linked_initial queues timerFd uptime buffers
  fetched := by
    rintro writeOp evs fetched ⟨⟩

/-- A timed operation may start where the timed operations are, or anywhere
when there are none. -/
theorem Apart.step (apart : p.Apart home) (keeps : p.KeepsPending call)
    (timers : p.TimersApart call) (taken : p.step call = some next) :
    ∃ home, p.Apart home ∧ Turn home call p next ∧ next.Apart home := by
  obtain ⟨allowed, rfl⟩ := step_eq_some taken
  have homed : ∃ home, p.Apart home ∧
      ∀ operation, call.action.starts? = some operation →
        operation.delay?.isSome = true → call.scheduler = home := by
    cases timed : call.action.starts?.any
        (fun operation => operation.delay?.isSome) with
    | false =>
        refine ⟨home, apart, fun operation starts isTimed => ?_⟩
        rw [starts, Option.any_some, isTimed] at timed
        cases timed
    | true =>
        by_cases same : call.scheduler = home
        · exact ⟨home, apart, fun _ _ _ => same⟩
        · refine ⟨call.scheduler, apart.rehome ?_ _, fun _ _ _ => rfl⟩
          intro frame op waits
          cases delay : op.operation.delay? with
          | none => rfl
          | some elapsed =>
              have isTimed : op.operation.delay?.isSome = true := by
                rw [delay]
                rfl
              have here :=
                timedElsewhere_eq_false (timers timed) waits isTimed
              exact absurd (here.symm.trans (apart.timed_home waits isTimed))
                same
  obtain ⟨home, here, starts⟩ := homed
  exact ⟨home, here, here.perform keeps starts allowed⟩

/-- No timed operation has lost its timer, and a scheduler without operations
lets `running` return. -/
structure TimersKept (p : Process queues) : Prop where
  queued : ∀ frame op deadline, p.pending frame = some op →
    op.deadline = some deadline →
      ∃ task ∈ p.program.rt.timer.liveTasks,
        task.state.read = some ⟨frame, .timer⟩ ∧ task.timePoint = deadline
  drained : ∀ scheduler,
    (∀ frame op, p.pending frame = some op → p.owner frame ≠ scheduler) →
      (p.tables scheduler).fdToOp = ∅ ∧
        (p.program.control = .head → p.program.stack = [] →
          p.running = scheduler →
            (p.step ⟨scheduler, .exit⟩).isSome = true)

/-- An operation is resumed from within `running` of its own scheduler, and
what is done for another scheduler leaves it with its timer, its table and
`TimerEvent` as they were. -/
structure TimersLeft (p : Process queues) (call : Call)
    (next : Process queues) : Prop where
  resumed : ∀ pointer, p.completes call = some pointer →
    p.owner pointer.frame = p.running
  undisturbed : ∀ frame op, p.pending frame = some op →
    op.operation.delay?.isSome = true →
      p.worksFor call ≠ some (p.owner frame) →
        next.pending frame = some op ∧
          next.program.rt.timer = p.program.rt.timer ∧
          next.tables (p.owner frame) = p.tables (p.owner frame)

private theorem Apart.timersKept (apart : p.Apart home) : p.TimersKept where
  queued frame op deadline waits set := by
    obtain ⟨now, _, dated, _⟩ :=
      (apart.sound (p.owner frame)).dated frame op
        ((p.pendingOn_owner frame).trans waits)
    have timed : op.operation.delay?.isSome = true := by
      rw [set, Operation.deadlineAt] at dated
      obtain ⟨delay, here, _⟩ := Option.map_eq_some_iff.mp dated.symm
      rw [here]
      rfl
    have atHome := apart.timed_home waits timed
    have settled := (apart.sound home).inOrder.settled
    have present : deadlines (p.pendingOn home) ⟨frame, .timer⟩ =
        some deadline := by
      rw [deadlines_timer, pendingOn_eq_some.mpr ⟨atHome, waits⟩]
      exact set
    have real : (p.view home home).timer = p.program.rt.timer :=
      p.timerOn_home home
    rw [real] at settled
    obtain ⟨task, member, live, named, same⟩ :=
      (settled.represents _ _).mp present
    exact ⟨task, Multiset.mem_filter.mpr ⟨member, live⟩, named, same⟩
  drained scheduler quiet := by
    have sound := apart.sound scheduler
    have empty : (p.tables scheduler).fdToOp = ∅ := by
      refine (Scheduler.fdToOp_eq_empty_iff sound.inOrder.agrees).mpr ?_
      intro fd direction
      cases found :
          (p.view home scheduler).scheduler.registry fd direction with
      | none => rfl
      | some pointer =>
          obtain ⟨op, waits, _⟩ := sound.waits_of_registered found
          obtain ⟨own, pends⟩ := pendingOn_eq_some.mp waits
          exact absurd own (quiet pointer.frame op pends)
    refine ⟨empty, fun head idle running => ?_⟩
    have exits : (p.focus scheduler).enabled .exit = true := by
      simp only [System.enabled, System.idle, Bool.and_eq_true,
        decide_eq_true_eq]
      exact ⟨⟨head, idle⟩, empty⟩
    have allowed : p.enabled ⟨scheduler, .exit⟩ = true :=
      enabled_iff.mpr ⟨exits, fun _ => running.symm⟩
    have healthy : p.program.rt.fault = none := sound.healthy
    rw [Process.step, if_pos ⟨healthy, allowed⟩]
    rfl

/-- What a step resumes is suspended, on the scheduler that is running. -/
theorem Apart.own_of_completes (apart : p.Apart home) {pointer : OpPtr}
    (woken : p.completes call = some pointer) :
    ∃ op, p.pendingOn p.running pointer.frame = some op := by
  unfold completes System.completes at woken
  split at woken
  · split at woken
    · split at woken
      · obtain ⟨op, waits, _⟩ :=
          (apart.sound p.running).waits_of_registered woken
        exact ⟨op, waits⟩
      · cases woken
    · cases woken
  · split at woken
    · rename_i half
      cases woken
      obtain ⟨op, _, waits, _⟩ := apart.fetched _ _ _ half
      exact ⟨op, waits⟩
    · cases woken
  · cases woken

private theorem Apart.timersLeft (apart : p.Apart home)
    (turn : Turn home call p next) : p.TimersLeft call next where
  resumed pointer woken := by
    obtain ⟨op, waits⟩ := apart.own_of_completes woken
    exact (pendingOn_eq_some.mp waits).1
  undisturbed frame op waits timed other := by
    have atHome := apart.timed_home waits timed
    cases turn with
    | calm _ timer tables pending owner =>
        exact ⟨(congrFun pending frame).trans waits, timer,
          congrFun tables _⟩
    | works scheduler here worked =>
        rw [atHome] at other ⊢
        have away : home ≠ scheduler := by
          rintro rfl
          exact other here
        have kept := congrFun (worked.others home away) frame
        rw [pendingOn_eq_some.mpr ⟨atHome, waits⟩] at kept
        exact ⟨(pendingOn_eq_some.mp kept).2, worked.timer away.symm,
          worked.tables home away⟩

/-- In every run in which timed operations are started only while no other
scheduler has one suspended: each operation is resumed by `running` of its own
scheduler, no timed operation loses its timer or has it touched for another
scheduler, and a scheduler without operations has an empty table. -/
theorem timers_apart {timerFd : Fd} {uptime : Nat}
    {buffers : BufferRef → Buffer} {calls : List Call}
    (keeps : Meets step KeepsPending
      (initial queues timerFd uptime buffers) calls)
    (timers : Meets step TimersApart
      (initial queues timerFd uptime buffers) calls)
    (run : runFrom step (initial queues timerFd uptime buffers) calls =
      some p) :
    p.TimersKept ∧ ∀ call next, p.KeepsPending call → p.TimersApart call →
      p.step call = some next → p.TimersLeft call next := by
  have both : Meets step (fun p call => p.KeepsPending call ∧
      p.TimersApart call) (initial queues timerFd uptime buffers) calls :=
    keeps.and timers
  obtain ⟨home, apart⟩ := invariant_of_run
    (fun p : Process queues => ∃ home, p.Apart home)
    (fun ⟨_, apart⟩ meets taken =>
      (apart.step meets.1 meets.2 taken).imp fun _ stepped => stepped.2.2)
    ⟨0, apart_initial queues timerFd uptime buffers⟩ both run
  refine ⟨apart.timersKept, fun call next kept starts taken => ?_⟩
  obtain ⟨_, here, turn, _⟩ := apart.step kept starts taken
  exact here.timersLeft turn

theorem timers_apart_sample :
    ∃ p : Process TimerQueue.sorted,
      runFrom step (initial TimerQueue.sorted 3 100 fun _ => ⟨[0], 0⟩)
        [⟨0, .spawn 1⟩, ⟨0, .await 2 (.waitFor 20) {}⟩, ⟨0, .tick 20⟩,
          ⟨0, .run⟩, ⟨0, .epollWait [⟨EPOLLIN, 3⟩]⟩, ⟨0, .dispatch {}⟩,
          ⟨1, .await 4 (.waitFor 10) {}⟩] = some p ∧
      ∃ task ∈ p.program.rt.timer.liveTasks,
        task.state.read = some ⟨4, .timer⟩ ∧ task.timePoint = 131 := by
  have passes : (runFrom step
      (initial TimerQueue.sorted 3 100 fun _ => ⟨[0], 0⟩)
      [⟨0, .spawn 1⟩, ⟨0, .await 2 (.waitFor 20) {}⟩, ⟨0, .tick 20⟩,
        ⟨0, .run⟩, ⟨0, .epollWait [⟨EPOLLIN, 3⟩]⟩, ⟨0, .dispatch {}⟩,
        ⟨1, .await 4 (.waitFor 10) {}⟩]).any (fun p =>
          (p.pending 4).any fun op => op.deadline = some 131) = true := by
    decide +kernel
  obtain ⟨p, run, waiting⟩ := (Option.any_eq_true _ _).mp passes
  obtain ⟨op, waits, set⟩ := (Option.any_eq_true _ _).mp waiting
  obtain ⟨kept, _⟩ :=
    timers_apart (by decide +kernel) (by decide +kernel) run
  exact ⟨p, run, kept.queued 4 op 131 waits (of_decide_eq_true set)⟩

/-- A `wait_for` on one scheduler and a shorter one on another: the first
scheduler resumes its own operation at the deadline of the other one, and drops
the other one's timer. -/
theorem timers_apart_counterexample :
    ∃ (calls : List Call) (p : Process TimerQueue.sorted),
      Meets step KeepsPending
        (initial TimerQueue.sorted 3 100 fun _ => ⟨[0], 0⟩) calls ∧
      runFrom step (initial TimerQueue.sorted 3 100 fun _ => ⟨[0], 0⟩)
        calls = some p ∧
      .timerEvent 0 (some 121) 111 ∈ p.program.trace ∧ ¬ p.TimersKept := by
  let calls : List Call :=
    [⟨0, .spawn 1⟩, ⟨0, .await 2 (.waitFor 20) {}⟩, ⟨0, .spawn 3⟩,
      ⟨1, .await 4 (.waitFor 10) {}⟩, ⟨0, .tick 10⟩, ⟨0, .run⟩,
      ⟨0, .epollWait [⟨EPOLLIN, 3⟩]⟩, ⟨0, .dispatch {}⟩]
  let lost (p : Process TimerQueue.sorted) : Bool :=
    ((p.pending 4).any fun op => op.deadline = some 111) &&
      decide (∀ task ∈ p.program.rt.timer.liveTasks,
        task.state.read ≠ some ⟨4, .timer⟩)
  have passes : (runFrom step
      (initial TimerQueue.sorted 3 100 fun _ => ⟨[0], 0⟩) calls).any
        (fun p => decide (.timerEvent 0 (some 121) 111 ∈ p.program.trace) &&
          lost p) = true := by
    decide +kernel
  obtain ⟨p, run, found⟩ := (Option.any_eq_true _ _).mp passes
  obtain ⟨early, gone⟩ := Bool.and_eq_true_iff.mp found
  obtain ⟨waiting, absent⟩ := Bool.and_eq_true_iff.mp gone
  obtain ⟨op, waits, set⟩ := (Option.any_eq_true _ _).mp waiting
  refine ⟨calls, p, by decide +kernel, run, of_decide_eq_true early, ?_⟩
  intro kept
  obtain ⟨task, member, named, _⟩ :=
    kept.queued 4 op 111 waits (of_decide_eq_true set)
  exact of_decide_eq_true absent task member named

end Process

end AsyncFrame
