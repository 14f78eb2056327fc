import AsyncFrame.Lib.Runs
import AsyncFrame.Steps
import AsyncFrame.Registered

/-!
# What one step can do

Every step of a program does one of five things to the suspended operations:
nothing, one more is suspended, one starts and ends without being suspended,
one ends and its awaiting coroutine goes on, or one goes round its loop.  All
invariants are derived from this.
-/

namespace AsyncFrame

variable {queues : TimerQueue}

namespace System

/-! ## The moves -/

/-- How a `co_await` gets its number: at once, or behind the one of
`with_timeout`. -/
inductive Opening (s : System queues) : Nat → List Obs → Nat → Prop
  | plain : Opening s s.nextNumber [] (s.nextNumber + 1)
  | wrapped (operation : Operation) (delay : Int) :
      Opening s (s.nextNumber + 1)
        [.startedWithTimeout s.nextNumber operation delay]
        (s.nextNumber + 2)

theorem Opening.prelude_spec {s : System queues} {number after : Nat}
    {prelude : List Obs} (opening : Opening s number prelude after)
    {mark : Obs} (member : mark ∈ prelude) :
    ∃ wrapped delay,
      mark = .startedWithTimeout s.nextNumber wrapped delay := by
  cases opening with
  | plain => cases member
  | wrapped operation delay =>
      exact ⟨operation, delay, List.mem_singleton.mp member⟩

/-- The coroutine at `outer`, which awaits the operation in `frame`, goes on
with its result: one of the program runs, and `with_timeout_impl` returns. -/
inductive GoesOn (s next : System queues) (frame outer : Addr)
    (result : OpResult) : Prop
  | user
      (awaits : s.frames.lookup outer = some (.user (some frame)))
      (awake : next.frames.lookup outer = some (.user none))
      (runs : next.stack = outer :: s.stack)
  | withTimeoutImpl (number : Nat)
      (awaits : s.frames.lookup outer =
        some (.withTimeoutImpl number (some frame) none))
      (returned : next.frames.lookup outer =
        some (.withTimeoutImpl number none (some result)))
      (stays : next.stack = s.stack)

/-- What one step does to the suspended operations. -/
inductive Move (action : Action) (s next : System queues) : Prop
  | calm
      (nothing : action.starts? = none)
      (asleep : s.completes action = none)
      (pending : next.pending = s.pending)
      (table : next.rt.scheduler = s.rt.scheduler)
      (timer : next.rt.timer = s.rt.timer)
      (clock : s.rt.clock ≤ next.rt.clock)
      (fault : next.rt.fault = s.rt.fault)
      (fits : ∀ frame op, s.pending frame = some op →
        op.operation.Fits next.rt)
      (timerFile : next.rt.files s.rt.timer.fd = s.rt.files s.rt.timer.fd)
      (flags : ∀ token, action ≠ .closeFd token →
        s.rt.tokenFlag token = true → next.rt.tokenFlag token = true)
      (counted : next.nextNumber = s.nextNumber)
      (trace : next.trace = s.marks action ++ s.trace)
  | suspends
      (frame : Addr) (op : OpFrame) (prelude : List Obs)
      (starting : action.starts? = some op.operation)
      (opening : Opening s op.number prelude next.nextNumber)
      (free : s.frames.lookup frame = none)
      (fits : op.operation.Fits s.rt)
      (quiet : s.rt.cancelRequested op.operation.token? = false)
      (pending : next.pending =
        Function.update s.pending frame (some op))
      (leaves : Leaves frame (some frame) op.operation op.deadline
        s.rt next.rt (deadlines s.pending))
      (dated : op.Dated next.rt.clock)
      (trace : next.trace =
        .started op.number op.operation :: (prelude ++ s.trace))
  | passes
      (frame : Addr) (operation : Operation) (number : Nat)
      (result : OpResult) (prelude : List Obs)
      (starting : action.starts? = some operation)
      (opening : Opening s number prelude next.nextNumber)
      (free : s.frames.lookup frame = none)
      (fits : operation.Fits s.rt)
      (pending : next.pending = s.pending)
      (leaves : (∃ conn, operation = .asyncConnect conn) ∧ next.rt = s.rt ∨
        s.rt.cancelRequested operation.token? = true ∧
          result.ec = operationCancelledError ∧
          Leaves frame none operation none s.rt next.rt
            (deadlines s.pending))
      (trace : next.trace =
        .wentOn number result :: .finished number result ::
          .started number operation :: (prelude ++ s.trace))
  | ends
      (pointer : OpPtr) (op : OpFrame) (result : OpResult)
      (woken : s.completes action = some pointer)
      (waits : s.pending pointer.frame = some op)
      (pending : next.pending =
        Function.update s.pending pointer.frame none)
      (leaves : Leaves pointer.frame none op.operation none s.rt next.rt
        (deadlines s.pending))
      (cancelled : s.rt.cancelRequested op.operation.token? = true →
        result.ec = operationCancelledError)
      (goesOn : GoesOn s next pointer.frame op.outer result)
      (counted : next.nextNumber = s.nextNumber)
      (trace : next.trace =
        .resumed op.number result :: .finished op.number result ::
          (s.marks action ++ s.trace))
  | rounds
      (pointer : OpPtr) (op again : OpFrame) (middle : Runtime queues)
      (woken : s.completes action = some pointer)
      (waits : s.pending pointer.frame = some op)
      (operation : again.operation = op.operation)
      (outer : again.outer = op.outer)
      (number : again.number = op.number)
      (quiet : s.rt.cancelRequested op.operation.token? = false)
      (pending : next.pending =
        Function.update s.pending pointer.frame (some again))
      (left : Leaves pointer.frame none op.operation none s.rt middle
        (deadlines s.pending))
      (leaves : Leaves pointer.frame (some pointer.frame) again.operation
        again.deadline middle next.rt
        (Function.update (deadlines s.pending) ⟨pointer.frame, .timer⟩ none))
      (dated : again.Dated next.rt.clock)
      (counted : next.nextNumber = s.nextNumber)
      (trace : next.trace = s.marks action ++ s.trace)

variable {s next : System queues} {action : Action}

/-- A move keeps the invariant. -/
theorem Move.sound (move : Move action s next) (sound : Sound s.rt s.pending) :
    Sound next.rt next.pending := by
  cases move with
  | calm _ _ pending table timer clock fault fits timerFile =>
      rw [pending]
      exact sound.carried table timer clock fault fits timerFile
  | suspends frame op _ _ _ free fits _ pending leaves dated =>
      rw [pending]
      exact sound.suspend (pendingIn_of_free free) fits leaves dated
  | passes frame operation _ _ _ _ _ free fits pending leaves =>
      have absent : s.pending frame = none := pendingIn_of_free free
      rw [pending]
      rcases leaves with ⟨_, same⟩ | ⟨_, _, leaves⟩
      · rw [same]
        exact sound
      · have left := sound.resume
          (fun op waits => by rw [absent] at waits; cases waits) fits leaves
        rw [← absent, Function.update_eq_self] at left
        exact left
  | ends pointer op _ _ waits pending leaves =>
      rw [pending]
      refine sound.resume (fun other here => ?_)
        (sound.fits pointer.frame op waits) leaves
      rw [waits] at here
      cases here
      rfl
  | rounds pointer op again middle _ waits operation _ _ _ pending left leaves
      dated =>
      have fits := sound.fits pointer.frame op waits
      have out := sound.resume (fun other here => by
        rw [waits] at here
        cases here
        rfl) fits left
      have queue : deadlines (Function.update s.pending pointer.frame none) =
          Function.update (deadlines s.pending) ⟨pointer.frame, .timer⟩
            none :=
        deadlines_update pointer.frame none
      rw [← queue] at leaves
      have back := out.suspend (Function.update_self _ _ _)
        (operation ▸ fits.kept left.files) leaves dated
      rw [Function.update_idem] at back
      rw [pending]
      exact back

/-! ## Each action is a move -/

/-- What holds in every state of a run in which no `Task` is destroyed while
an operation inside its frame is suspended. -/
structure Good (s : System queues) : Prop where
  sound : Sound s.rt s.pending
  linked : Linked s.frames
  fetched : ∀ writeOp evs fetched, s.control = .half writeOp evs fetched →
    ∃ op fd, s.pending writeOp.frame = some op ∧
      op.operation.socket? = some (fd, .write)

theorem admits_iff {operation : Operation} :
    s.admits operation = true ↔
      operation.Fits s.rt ∧
        ∀ deadline, operation.deadlineAt s.rt.clock = some deadline →
          0 < deadline := by
  unfold admits
  rw [Bool.and_eq_true, Operation.fits_iff, Option.all_eq_true]
  simp

/-- The ways a start can go, with its frame still free. -/
theorem start_cases (good : Good s) {frame : Addr} {operation : Operation}
    (io : Io) (free : s.frames.lookup frame = none)
    (admitted : s.admits operation = true) :
    ((operation.start frame io s.rt).returned = none ∧
      s.rt.cancelRequested operation.token? = false ∧
      Leaves frame (some frame) operation
        (operation.deadlineAt (operation.start frame io s.rt).rt.clock)
        s.rt (operation.start frame io s.rt).rt (deadlines s.pending)) ∨
    ∃ result, (operation.start frame io s.rt).returned = some result ∧
      ((∃ conn, operation = .asyncConnect conn) ∧
          (operation.start frame io s.rt).rt = s.rt ∨
        s.rt.cancelRequested operation.token? = true ∧
          result.ec = operationCancelledError ∧
          Leaves frame none operation none s.rt
            (operation.start frame io s.rt).rt (deadlines s.pending)) := by
  obtain ⟨fits, timed⟩ := admits_iff.mp admitted
  have absent : deadlines s.pending ⟨frame, .timer⟩ = none := by
    rw [deadlines_timer, pending, pendingIn_of_free free]
    rfl
  rcases operation.start_spec frame io good.sound.inOrder fits absent
      (fun deadline here => (timed deadline here).ne') with
    suspends | ⟨cancelled, result, returns⟩ | ⟨connects, same, returned⟩
  · exact Or.inl ⟨suspends.pending, suspends.quiet, suspends.leaves⟩
  · exact Or.inr ⟨result, returns.returned,
      Or.inr ⟨cancelled, returns.cancelled cancelled, returns.leaves⟩⟩
  · obtain ⟨result, here⟩ := Option.isSome_iff_exists.mp returned
    exact Or.inr ⟨result, here, Or.inl ⟨connects, same⟩⟩

/-- A new operation leaves the others suspended. -/
theorem update_keeps {frame other : Addr} {changed : Option OpFrame}
    {op : OpFrame} (free : s.frames.lookup frame = none)
    (waits : s.pending other = some op) :
    Function.update s.pending frame changed other = some op := by
  rw [Function.update_of_ne _ _ _]
  · exact waits
  · rintro rfl
    rw [pending, pendingIn_of_free free] at waits
    cases waits

private theorem await_move (good : Good s) {caller frame : Addr}
    {below : List Addr} {operation : Operation} (io : Io)
    (stack : s.stack = caller :: below)
    (awake : s.frames.lookup caller = some (.user none))
    (free : s.frames.lookup frame = none)
    (admitted : s.admits operation = true) :
    Move (.await frame operation io) s (s.await frame operation io) ∧
      (s.await frame operation io).control = s.control ∧
      ∀ other op, s.pending other = some op →
        (s.await frame operation io).pending other = some op := by
  obtain ⟨fits, timed⟩ := admits_iff.mp admitted
  rcases start_cases good io free admitted with
    ⟨suspended, quiet, leaves⟩ | ⟨result, returned, leaves⟩
  · let op : OpFrame :=
      { operation := operation
        outer := caller
        total := (operation.start frame io s.rt).total
        number := s.nextNumber
        deadline :=
          operation.deadlineAt (operation.start frame io s.rt).rt.clock }
    have pending : pendingIn ((s.frames.insert frame (.op op)).insert caller
        (.user (some frame))) =
        Function.update s.pending frame (some op) :=
      pendingIn_suspend awake free
    simp only [await, suspended, stack]
    refine ⟨?_, trivial, ?_⟩
    · exact Move.suspends frame op [] rfl .plain free fits quiet pending
        leaves (OpFrame.dated_now leaves.clock timed rfl) rfl
    · intro other otherOp waits
      exact (congrFun pending other).trans (update_keeps free waits)
  · simp only [await, returned]
    exact ⟨Move.passes frame operation s.nextNumber result [] rfl .plain free
      fits rfl leaves rfl, trivial, fun _ _ waits => waits⟩

private theorem awaitWithTimeout_move (good : Good s) {caller impl frame : Addr}
    {below : List Addr} {wrapped operation : Operation} {delay : Int}
    (io : Io) (stack : s.stack = caller :: below)
    (awake : s.frames.lookup caller = some (.user none))
    (implFree : s.frames.lookup impl = none)
    (free : s.frames.lookup frame = none) (different : impl ≠ frame)
    (timeout : wrapped.withTimeout delay = some operation)
    (admitted : s.admits operation = true) :
    Move (.awaitWithTimeout impl frame wrapped delay io) s
        (s.awaitWithTimeout impl frame wrapped delay io) ∧
      (s.awaitWithTimeout impl frame wrapped delay io).control = s.control ∧
      ∀ other op, s.pending other = some op →
        (s.awaitWithTimeout impl frame wrapped delay io).pending other =
          some op := by
  obtain ⟨fits, timed⟩ := admits_iff.mp admitted
  have callerFrame : caller ≠ frame := by
    rintro rfl
    rw [free] at awake
    cases awake
  have callerImpl : caller ≠ impl := by
    rintro rfl
    rw [implFree] at awake
    cases awake
  rcases start_cases good io free admitted with
    ⟨suspended, quiet, leaves⟩ | ⟨result, returned, leaves⟩
  · let op : OpFrame :=
      { operation := operation
        outer := impl
        total := (operation.start frame io s.rt).total
        number := s.nextNumber + 1
        deadline :=
          operation.deadlineAt (operation.start frame io s.rt).rt.clock }
    have pending : pendingIn (((s.frames.insert frame (.op op)).insert impl
        (.withTimeoutImpl s.nextNumber (some frame) none)).insert caller
          (.user (some impl))) =
        Function.update s.pending frame (some op) := by
      rw [pendingIn_insert_silent rfl, pendingIn_insert_silent rfl,
        pendingIn_insert]
      · rfl
      · rw [pendingIn_insert, Function.update_of_ne different]
        exact pendingIn_of_free implFree
      · rw [pendingIn_insert, Function.update_of_ne callerImpl,
          pendingIn_insert, Function.update_of_ne callerFrame]
        exact pendingIn_of_user awake
    simp only [awaitWithTimeout, timeout, suspended, stack]
    refine ⟨?_, trivial, ?_⟩
    · exact Move.suspends frame op
        [.startedWithTimeout s.nextNumber wrapped delay] timeout
        (.wrapped wrapped delay) free fits quiet pending leaves
        (OpFrame.dated_now leaves.clock timed rfl) rfl
    · intro other otherOp waits
      exact (congrFun pending other).trans (update_keeps free waits)
  · have pending : pendingIn ((s.frames.insert impl
        (.withTimeoutImpl s.nextNumber none (some result))).insert caller
          (.user (some impl))) = s.pending := by
      rw [pendingIn_insert_silent rfl, pendingIn_insert_silent rfl]
      · rfl
      · exact pendingIn_of_free implFree
      · rw [pendingIn_insert, Function.update_of_ne callerImpl]
        exact pendingIn_of_user awake
    simp only [awaitWithTimeout, timeout, returned, stack]
    refine ⟨?_, trivial, ?_⟩
    · exact Move.passes frame operation (s.nextNumber + 1) result
        [.startedWithTimeout s.nextNumber wrapped delay] timeout
        (.wrapped wrapped delay) free fits pending leaves rfl
    · intro other otherOp waits
      exact (congrFun pending other).trans waits

theorem wake_cases (good : Good s) {frame : Addr} {op : OpFrame} (io : Io)
    (waits : s.pending frame = some op)
    (current : ∀ delay, op.operation = .waitFor delay →
      s.rt.timer.cur.state.read = some ⟨frame, .timer⟩) :
    (∃ result, op.operation.Returns frame s.rt
      (op.operation.wake frame io op.total s.rt) result
        (deadlines s.pending)) ∨
    ∃ middle, Leaves frame none op.operation none s.rt middle
        (deadlines s.pending) ∧
      op.operation.Suspends frame middle
        (op.operation.wake frame io op.total s.rt)
        (Function.update (deadlines s.pending) ⟨frame, .timer⟩ none) ∧
      s.rt.cancelRequested op.operation.token? = false :=
  good.sound.wake_cases io op.total waits current

/-- Completing a suspended operation is a move, from the state before the
dispatch to the state after it. -/
theorem complete_move (good : Good s) (control : Control) {action : Action}
    {pointer : OpPtr} {op : OpFrame} (io : Io)
    (woken : s.completes action = some pointer)
    (waits : s.pending pointer.frame = some op)
    (current : ∀ delay, op.operation = .waitFor delay →
      s.rt.timer.cur.state.read = some ⟨pointer.frame, .timer⟩) :
    Move action s
        ((s.withMarks control (s.marks action)).complete pointer io) ∧
      ((s.withMarks control (s.marks action)).complete pointer io).control =
        control ∧
      ∃ changed,
        ((s.withMarks control (s.marks action)).complete pointer
          io).pending = Function.update s.pending pointer.frame changed := by
  have found := pendingIn_eq_some.mp waits
  have here : (s.withMarks control (s.marks action)).pending pointer.frame =
      some op := waits
  unfold complete
  rw [here]
  rcases wake_cases good io waits current with
    ⟨result, returns⟩ | ⟨middle, left, suspends, quiet⟩
  · have healthy := returns.leaves.fault.trans good.sound.healthy
    simp only [withMarks, healthy, returns.returned, Option.isSome_none,
      Bool.false_eq_true, if_false]
    have ends : ∀ next : System queues,
        next.pending = Function.update s.pending pointer.frame none →
        next.rt = (op.operation.wake pointer.frame io op.total s.rt).rt →
        GoesOn s next pointer.frame op.outer result →
        next.nextNumber = s.nextNumber →
        next.trace = .resumed op.number result ::
          .finished op.number result :: (s.marks action ++ s.trace) →
        Move action s next := by
      intro next pending rt goesOn counted trace
      exact Move.ends pointer op result woken waits pending
        (rt ▸ returns.leaves) returns.cancelled goesOn counted trace
    rcases good.linked.outer _ _ found with outer | ⟨number, outer⟩
    · have pending : pendingIn ((s.frames.erase pointer.frame).insert
          op.outer (.user none)) =
          Function.update s.pending pointer.frame none :=
        pendingIn_resume rfl (pendingIn_of_user outer)
      simp only [resumeOuter, outer]
      refine ⟨ends _ pending rfl (.user outer ?_ rfl) rfl rfl, trivial, none,
        pending⟩
      exact Finmap.lookup_insert _
    · have pending : pendingIn ((s.frames.erase pointer.frame).insert
          op.outer (.withTimeoutImpl number none (some result))) =
          Function.update s.pending pointer.frame none :=
        pendingIn_resume rfl (pendingIn_of_impl outer)
      simp only [resumeOuter, outer]
      refine ⟨ends _ pending rfl (.withTimeoutImpl number outer ?_ rfl) rfl
        rfl, trivial, none, pending⟩
      exact Finmap.lookup_insert _
  · have healthy := suspends.leaves.fault.trans
      (left.fault.trans good.sound.healthy)
    simp only [withMarks, healthy, suspends.pending, Option.isSome_none,
      Bool.false_eq_true, if_false]
    let again : OpFrame :=
      { op with
        total := (op.operation.wake pointer.frame io op.total s.rt).total
        deadline := op.operation.deadlineAt
          (op.operation.wake pointer.frame io op.total s.rt).rt.clock }
    have changed : pendingIn (s.frames.insert pointer.frame (.op again)) =
        Function.update s.pending pointer.frame (some again) :=
      pendingIn_insert _ _
    refine ⟨?_, trivial, _, changed⟩
    refine Move.rounds pointer op again middle woken waits rfl rfl rfl quiet
      changed left suspends.leaves ?_ rfl rfl
    obtain ⟨now, past, set, positive⟩ :=
      good.sound.dated pointer.frame op waits
    exact OpFrame.dated_now
      (past.trans (left.clock.trans suspends.leaves.clock))
      (fun deadline here => positive deadline (set.trans here)) rfl

/-! ## Steps that do not concern the operations -/

private theorem calm_of_same (good : Good s) (nothing : action.starts? = none)
    (asleep : s.completes action = none)
    (rt : next.rt = s.rt) (pending : next.pending = s.pending)
    (counted : next.nextNumber = s.nextNumber)
    (trace : next.trace = s.marks action ++ s.trace) :
    Move action s next := by
  refine Move.calm nothing asleep pending ?_ ?_ ?_ ?_ ?_ ?_ ?_ counted trace
  · rw [rt]
  · rw [rt]
  · rw [rt]
  · rw [rt]
  · intro frame op waits
    rw [rt]
    exact good.sound.fits frame op waits
  · rw [rt]
  · intro token _ flag
    rw [rt]
    exact flag

/-- The kernel's files change, but not under a suspended operation. -/
theorem calm_of_files (good : Good s) (files : Fd → File)
    (nothing : action.starts? = none) (asleep : s.completes action = none)
    (unmarked : s.marks action = [])
    (kept : ∀ frame op, s.pending frame = some op → ∀ fd,
      op.operation.touches fd = true →
        files fd = s.rt.files fd ∨ (files fd).isEventFd = true ∧
          (s.rt.files fd).isEventFd = true)
    (timerFile : files s.rt.timer.fd = s.rt.files s.rt.timer.fd)
    (flags : ∀ token, action ≠ .closeFd token →
      s.rt.tokenFlag token = true →
        Runtime.tokenFlag { s.rt with files := files } token = true) :
    Move action s { s with rt := { s.rt with files := files } } :=
  Move.calm nothing asleep rfl rfl rfl (le_refl _) rfl
    (fun frame op waits =>
      (good.sound.fits frame op waits).refiled (kept frame op waits))
    timerFile flags rfl (by rw [unmarked]; rfl)

theorem requestCancel_files (rt : Runtime queues) (token : Fd)
    (eventFd : (rt.files token).isEventFd = true) :
    ∃ counter, rt.requestCancel token =
      { rt with
        files := Function.update rt.files token
          (.eventFd true counter) } := by
  obtain ⟨cancelled, counter, file⟩ := File.isEventFd_iff.mp eventFd
  cases cancelled with
  | true =>
      refine ⟨counter, ?_⟩
      rw [← file, Function.update_eq_self]
      simp [Runtime.requestCancel, Runtime.tokenFlag, file]
  | false =>
      refine ⟨counter + 1, ?_⟩
      simp [Runtime.requestCancel, Runtime.tokenFlag, file,
        Runtime.setCancelled, Runtime.signalCancelled]

theorem tokenFlag_update (rt : Runtime queues) {fd token : Fd} (file : File)
    (other : token ≠ fd) :
    Runtime.tokenFlag { rt with files := Function.update rt.files fd file }
      token = rt.tokenFlag token := by
  simp only [Runtime.tokenFlag, Function.update_of_ne other]

theorem anyPending_eq_false {test : OpFrame → Bool}
    (noneMeets : s.anyPending test = false) {frame : Addr} {op : OpFrame}
    (waits : s.pending frame = some op) : test op = false := by
  by_contra meets
  have member : frame ∈ s.frames.keys :=
    Finmap.mem_keys.mpr (Finmap.mem_of_lookup_eq_some
      (pendingIn_eq_some.mp waits))
  have found : s.anyPending test = true := by
    refine decide_eq_true ⟨frame, member, ?_⟩
    rw [waits]
    simpa using meets
  rw [noneMeets] at found
  cases found

/-! ## Every step -/

/-- A step that changes neither frames nor what was fetched. -/
theorem Good.calm (good : Good s) (move : Move action s next)
    (frames : next.frames = s.frames)
    (control : ∀ writeOp evs fetched,
      next.control = .half writeOp evs fetched →
        s.control = .half writeOp evs fetched) :
    Move action s next ∧
      ∀ writeOp evs fetched, next.control = .half writeOp evs fetched →
        ∃ op fd, next.pending writeOp.frame = some op ∧
          op.operation.socket? = some (fd, .write) := by
  refine ⟨move, ?_⟩
  intro writeOp evs fetched half
  have same : next.pending = s.pending := congrArg pendingIn frames
  rw [same]
  exact good.fetched writeOp evs fetched (control _ _ _ half)

/-- A start changes frames, but drops no suspended operation. -/
theorem Good.starts (good : Good s) (move : Move action s next)
    (control : next.control = s.control)
    (kept : ∀ other op, s.pending other = some op →
      next.pending other = some op) :
    Move action s next ∧
      ∀ writeOp evs fetched, next.control = .half writeOp evs fetched →
        ∃ op fd, next.pending writeOp.frame = some op ∧
          op.operation.socket? = some (fd, .write) := by
  refine ⟨move, ?_⟩
  intro writeOp evs fetched half
  obtain ⟨op, fd, waits, socket⟩ :=
    good.fetched writeOp evs fetched (control.symm.trans half)
  exact ⟨op, fd, kept writeOp.frame op waits, socket⟩

/-- One event, up to its write half. -/
theorem dispatch_move (good : Good s) {event : EpollEvent}
    {evs : List EpollEvent} {fetched : Nat} (io : Io)
    (batch : s.control = .batch (event :: evs) fetched) :
    Move (.dispatch io) s (s.perform (.dispatch io)) ∧
      ∀ writeOp rest since,
        (s.perform (.dispatch io)).control = .half writeOp rest since →
        ∃ op fd,
          (s.perform (.dispatch io)).pending writeOp.frame = some op ∧
            op.operation.socket? = some (fd, .write) := by
  obtain ⟨control, left, performed⟩ := dispatch_cases io batch
  have writes : ∀ writeOp rest since, control = .half writeOp rest since →
      s.rt.scheduler.registry event.fd .write = some writeOp := by
    rintro writeOp rest since rfl
    rcases left with batched | ⟨other, here, registered⟩
    · cases batched
    · cases here
      exact registered
  cases woken : s.completes (.dispatch io) with
  | none =>
      simp only [woken] at performed
      rw [performed]
      refine ⟨calm_of_same good rfl woken rfl rfl rfl rfl, ?_⟩
      intro writeOp rest since half
      obtain ⟨op, waits, socket⟩ :=
        good.sound.writes_of_registered (writes writeOp rest since half)
      exact ⟨op, event.fd, waits, socket⟩
  | some readOp =>
      simp only [woken] at performed
      have reads : s.rt.scheduler.registry event.fd .read = some readOp := by
        simp only [completes, batch] at woken
        split at woken
        · exact woken
        · cases woken
      obtain ⟨op, waits, current⟩ := good.sound.waits_of_registered reads
      obtain ⟨move, kept, changed, pending⟩ :=
        complete_move good control io woken waits current
      rw [performed]
      refine ⟨move, ?_⟩
      intro writeOp rest since half
      have write := writes writeOp rest since (kept.symm.trans half)
      obtain ⟨other, otherWaits, socket⟩ :=
        good.sound.writes_of_registered write
      refine ⟨other, event.fd, ?_, socket⟩
      rw [pending, Function.update_of_ne (good.sound.frame_ne reads write)]
      exact otherWaits

private theorem dispatchWrite_move (good : Good s) {writeOp : OpPtr}
    {evs : List EpollEvent} {fetched : Nat} (io : Io)
    (half : s.control = .half writeOp evs fetched) :
    Move (.dispatchWrite io) s (s.perform (.dispatchWrite io)) ∧
      (s.perform (.dispatchWrite io)).control = .batch evs fetched := by
  obtain ⟨op, fd, waits, socket⟩ := good.fetched writeOp evs fetched half
  have current : ∀ delay, op.operation = .waitFor delay →
      s.rt.timer.cur.state.read = some ⟨writeOp.frame, .timer⟩ := by
    intro delay same
    rw [same] at socket
    cases socket
  have woken : s.completes (.dispatchWrite io) = some writeOp := by
    simp only [completes, half]
  obtain ⟨move, kept, _⟩ :=
    complete_move good (.batch evs fetched) io woken waits current
  rw [dispatchWrite_eq io half]
  exact ⟨move, kept⟩

private theorem requestCancel_move (good : Good s) {token : Fd}
    (eventFd : (s.rt.files token).isEventFd = true) :
    Move (.requestCancel token) s (s.perform (.requestCancel token)) ∧
      ∀ writeOp evs fetched,
        (s.perform (.requestCancel token)).control =
          .half writeOp evs fetched →
        ∃ op socket,
          (s.perform (.requestCancel token)).pending writeOp.frame =
              some op ∧
            op.operation.socket? = some (socket, .write) := by
  obtain ⟨counter, called⟩ := requestCancel_files s.rt token eventFd
  refine good.calm ?_ rfl (fun _ _ _ half => half)
  simp only [perform, called]
  refine calm_of_files good _ rfl rfl rfl ?_ ?_ ?_
  · intro frame op waits fd touched
    by_cases same : fd = token
    · subst same
      rw [Function.update_self]
      exact Or.inr ⟨rfl, eventFd⟩
    · exact Or.inl (Function.update_of_ne same _ _)
  · refine Function.update_of_ne ?_ _ _
    rintro rfl
    rw [good.sound.inOrder.timerFile] at eventFd
    cases eventFd
  · intro other _ flag
    by_cases same : other = token
    · subst same
      simp [Runtime.tokenFlag]
    · rw [tokenFlag_update _ _ same]
      exact flag

/-- Opening a descriptor that is not in use. -/
theorem openFd_move (good : Good s) {fd : Fd}
    (closed : s.rt.files fd = .closed) (file : File) :
    Move (.openFd fd file) s (s.perform (.openFd fd file)) ∧
      ∀ writeOp evs fetched,
        (s.perform (.openFd fd file)).control = .half writeOp evs fetched →
        ∃ op socket,
          (s.perform (.openFd fd file)).pending writeOp.frame = some op ∧
            op.operation.socket? = some (socket, .write) := by
  refine good.calm ?_ rfl (fun _ _ _ half => half)
  refine calm_of_files good _ rfl rfl rfl ?_ ?_ ?_
  · intro frame op waits other touched
    refine Or.inl (Function.update_of_ne ?_ _ _)
    rintro rfl
    have file := good.sound.file_of_touched waits touched
    simp [closed, File.isEventFd] at file
  · refine Function.update_of_ne ?_ _ _
    rintro rfl
    rw [good.sound.inOrder.timerFile] at closed
    cases closed
  · intro other _ flag
    rw [tokenFlag_update]
    · exact flag
    · rintro rfl
      simp [Runtime.tokenFlag, closed] at flag

/-- Closing a descriptor that no suspended operation uses. -/
theorem closeFd_move (good : Good s) {fd : Fd} (plain : fd ≠ s.rt.timer.fd)
    (unused : ∀ frame op, s.pending frame = some op →
      op.operation.touches fd = false) :
    Move (.closeFd fd) s (s.perform (.closeFd fd)) ∧
      ∀ writeOp evs fetched,
        (s.perform (.closeFd fd)).control = .half writeOp evs fetched →
        ∃ op socket,
          (s.perform (.closeFd fd)).pending writeOp.frame = some op ∧
            op.operation.socket? = some (socket, .write) := by
  have erased := Scheduler.erase_interest_of_unused
    good.sound.inOrder.agrees (good.sound.unregistered plain unused)
  refine good.calm ?_ rfl (fun _ _ _ half => half)
  simp only [perform, Runtime.closeFd, erased]
  refine calm_of_files good _ rfl rfl rfl ?_ ?_ ?_
  · intro frame op waits other touched
    refine Or.inl (Function.update_of_ne ?_ _ _)
    rintro rfl
    rw [unused frame op waits] at touched
    cases touched
  · exact Function.update_of_ne plain.symm _ _
  · intro other open_ flag
    rw [tokenFlag_update]
    · exact flag
    · rintro rfl
      exact open_ rfl

/-- Every action that drops no suspended operation is a move, and leaves a
write half only for a suspended operation. -/
theorem perform_move {action : Action} (good : Good s)
    (keeps : s.keepsPending action = true)
    (allowed : s.enabled action = true) :
    Move action s (s.perform action) ∧
      ∀ writeOp evs fetched,
        (s.perform action).control = .half writeOp evs fetched →
        ∃ op fd, (s.perform action).pending writeOp.frame = some op ∧
          op.operation.socket? = some (fd, .write) := by
  cases action with
  | tick elapsed =>
      refine good.calm ?_ rfl (fun _ _ _ half => half)
      refine Move.calm rfl rfl rfl rfl rfl ?_ rfl ?_ rfl
        (fun _ _ flag => flag) rfl rfl
      · simp [perform]
      · exact fun frame op waits =>
          (good.sound.fits frame op waits).refiled fun _ _ => Or.inl rfl
  | requestCancel token => exact requestCancel_move good allowed
  | openFd fd file =>
      simp only [enabled, Bool.and_eq_true, decide_eq_true_eq] at allowed
      exact openFd_move good allowed.1.2 file
  | closeFd fd =>
      simp only [enabled, Bool.and_eq_true, decide_eq_true_eq,
        Bool.not_eq_true'] at allowed
      obtain ⟨⟨_, notTimer⟩, unused⟩ := allowed
      have plain : fd ≠ s.rt.timer.fd := by
        rintro rfl
        exact notTimer good.sound.inOrder.timerFile
      exact closeFd_move good plain
        fun frame op waits => anyPending_eq_false unused waits
  | setBuffer buf buffer =>
      refine good.calm ?_ rfl (fun _ _ _ half => half)
      exact Move.calm rfl rfl rfl rfl rfl (le_refl _) rfl
        (fun frame op waits =>
          (good.sound.fits frame op waits).refiled fun _ _ => Or.inl rfl)
        rfl (fun _ _ flag => flag) rfl rfl
  | spawn frame =>
      simp only [enabled, Bool.and_eq_true, decide_eq_true_eq] at allowed
      have pending : (s.perform (.spawn frame)).pending = s.pending :=
        pendingIn_insert_silent rfl (pendingIn_of_free allowed.2)
      refine good.starts (calm_of_same good rfl rfl rfl pending rfl rfl) rfl ?_
      intro other op waits
      rw [pending]
      exact waits
  | finish =>
      exact good.calm (calm_of_same good rfl rfl rfl rfl rfl rfl) rfl
        (fun _ _ _ half => half)
  | destroy frame =>
      have pending : (s.perform (.destroy frame)).pending = s.pending := by
        funext other
        simp only [System.pending, perform, pendingIn, lookup_erase_frames]
        split
        · rename_i inside
          have gone := List.all_eq_true.mp keeps other inside
          exact (Option.isNone_iff_eq_none.mp gone).symm
        · rfl
      refine good.starts (calm_of_same good rfl rfl rfl pending rfl rfl) rfl ?_
      intro other op waits
      rw [pending]
      exact waits
  | await frame operation io =>
      obtain ⟨⟨caller, below, stack, awake⟩, free, admitted⟩ :=
        enabled_await allowed
      obtain ⟨move, control, kept⟩ :=
        await_move good io stack awake free admitted
      exact good.starts move control kept
  | awaitWithTimeout impl frame wrapped delay io =>
      obtain ⟨⟨caller, below, stack, awake⟩, implFree, free, different,
        operation, timeout, admitted⟩ := enabled_awaitWithTimeout allowed
      obtain ⟨move, control, kept⟩ :=
        awaitWithTimeout_move good io stack awake implFree free different
          timeout admitted
      exact good.starts move control kept
  | run =>
      refine good.calm (calm_of_same good rfl rfl rfl rfl rfl rfl) rfl ?_
      rintro _ _ _ ⟨⟩
  | epollWait evs =>
      refine good.calm (calm_of_same good rfl rfl rfl rfl rfl rfl) rfl ?_
      rintro _ _ _ ⟨⟩
  | dispatch io =>
      obtain ⟨_, event, evs, fetched, batch⟩ := enabled_dispatch allowed
      exact dispatch_move good io batch
  | dispatchWrite io =>
      obtain ⟨_, writeOp, evs, fetched, half⟩ := enabled_dispatchWrite allowed
      obtain ⟨move, control⟩ := dispatchWrite_move good io half
      refine ⟨move, ?_⟩
      intro other rest since here
      rw [control] at here
      cases here
  | batchEnd =>
      refine good.calm (calm_of_same good rfl rfl rfl rfl rfl rfl) rfl ?_
      rintro _ _ _ ⟨⟩
  | exit =>
      refine good.calm (calm_of_same good rfl rfl rfl rfl rfl rfl) rfl ?_
      rintro _ _ _ ⟨⟩

/-- Every step that drops no suspended operation is a move and keeps the
invariant. -/
theorem step_move {action : Action} (good : Good s)
    (keeps : s.keepsPending action = true)
    (taken : s.step action = some next) : Move action s next ∧ Good next := by
  have linked := step_linked good.linked taken
  obtain ⟨allowed, rfl⟩ := step_eq_some taken
  obtain ⟨move, fetched⟩ := perform_move good keeps allowed
  exact ⟨move, move.sound good.sound, linked, fetched⟩

/-! ## Whole runs -/

theorem good_initial (queues : TimerQueue) (timerFd : Fd) (uptime : Nat)
    (buffers : BufferRef → Buffer) :
    Good (initial queues timerFd uptime buffers) where
  sound :=
    { inOrder :=
        { agrees := Scheduler.agrees_initial
          settled := by
            have empty : deadlines (pendingIn ∅) = fun _ => none := by
              funext pointer
              simp [deadlines, pendingIn]
            change TimerEvent.Settled _ (deadlines (pendingIn ∅))
            rw [empty]
            exact TimerEvent.settled_initial timerFd
          slot := by
            change Scheduler.initial.registry _ _ = _
            rw [Scheduler.registry_initial]
            rfl
          timerFile := by simp [initial, TimerEvent.initial] }
      held := by
        intro fd direction pointer found
        change Scheduler.initial.registry fd direction = _ at found
        rw [Scheduler.registry_initial] at found
        cases found
      fits := by
        intro frame op waits
        simp [pending, initial, pendingIn] at waits
      dated := by
        intro frame op waits
        simp [pending, initial, pendingIn] at waits
      clock := by
        simp only [initial]
        omega
      healthy := rfl }
  linked := linked_initial queues timerFd uptime buffers
  fetched := by
    rintro writeOp evs fetched ⟨⟩

/-- The side condition of a run in which nothing suspended is destroyed. -/
def KeepsPending (s : System queues) (action : Action) : Prop :=
  s.keepsPending action = true

instance : DecidableRel (@KeepsPending queues) :=
  fun s action => inferInstanceAs (Decidable (s.keepsPending action = true))

theorem good_of_run {timerFd : Fd} {uptime : Nat}
    {buffers : BufferRef → Buffer} {actions : List Action}
    (keeps : Lib.Meets step KeepsPending
      (initial queues timerFd uptime buffers) actions)
    (run : Lib.runFrom step (initial queues timerFd uptime buffers) actions =
      some s) : Good s :=
  Lib.invariant_of_run Good
    (fun good kept taken => (step_move good kept taken).2)
    (good_initial queues timerFd uptime buffers) keeps run

end System

end AsyncFrame
