import AsyncFrame.Effects

/-!
# One event of a batch

With distinct sockets an event resumes at most one operation: one that has it
for an event of its own, or the one with the current timer.
-/

namespace AsyncFrame

open Lib

variable {queues : TimerQueue}

namespace System

variable {s next : System queues} {event : EpollEvent}
variable {evs : List EpollEvent} {fetched : Nat} {answers : Answers}

/-- The op struct that an event resumes. -/
def target (s : System queues) (event : EpollEvent) : Option OpPtr :=
  (if readReady event.events then s.rt.scheduler.registry event.fd .read
    else none).or
  (if writeReady event.events then s.rt.scheduler.registry event.fd .write
    else none)

/-- The event is one of the operation's own, or the timerfd's while the
operation has the current timer. -/
def Concerns (s : System queues) (event : EpollEvent) (frame : Addr)
    (op : OpFrame) : Prop :=
  op.ownEvent event = true ∨
    s.timerEvent event = true ∧ s.current frame = true

theorem current_iff {frame : Addr} :
    s.current frame = true ↔
      s.rt.timer.cur.state.read = some ⟨frame, .timer⟩ := by
  simp [current, TimerEvent.isCurrent]

/-- What an event resumes is a suspended operation that it concerns. -/
theorem Good.target_cases (good : Good s) {pointer : OpPtr}
    (found : s.target event = some pointer) :
    ∃ op, s.pending pointer.frame = some op ∧
      s.Concerns event pointer.frame op := by
  have owns : ∀ {direction : Direction} {op : OpFrame},
      op.Holds pointer.member event.fd direction →
      (direction = .read → readReady event.events = true) →
      (direction = .write → writeReady event.events = true) →
      op.ownEvent event = true := by
    rintro direction op (⟨_, socket⟩ | ⟨_, token, rfl⟩) reads writes
    · cases direction with
      | read => simp [OpFrame.ownEvent, OpFrame.socketEvent, socket, reads]
      | write => simp [OpFrame.ownEvent, OpFrame.socketEvent, socket, writes]
    · simp [OpFrame.ownEvent, OpFrame.cancelEvent, token, reads]
  unfold target at found
  rcases Option.or_eq_some_iff.mp found with reads | ⟨_, writes⟩
  · split at reads
    · rename_i ready
      rcases good.sound.held _ _ _ reads with
        ⟨timer, _⟩ | ⟨op, waits, holds⟩
      · have slot := good.sound.inOrder.slot
        rw [← timer, reads] at slot
        obtain ⟨frame, op, named, waits, _⟩ := good.current
          (good.sound.inOrder.settled.wellFormed.nonempty_of_read slot.symm)
        rw [← slot] at named
        cases named
        refine ⟨op, waits, Or.inr ⟨?_, current_iff.mpr slot.symm⟩⟩
        simp [timerEvent, timer, ready]
      · exact ⟨op, waits, Or.inl (owns holds (fun _ => ready) (by simp))⟩
    · cases reads
  · split at writes
    · rename_i ready
      rcases good.sound.held _ _ _ writes with
        ⟨_, same⟩ | ⟨op, waits, holds⟩
      · cases same
      · exact ⟨op, waits, Or.inl (owns holds (by simp) fun _ => ready)⟩
    · cases writes

/-- On distinct sockets nobody waits for both directions of one. -/
theorem Separate.write_unregistered (separate : Separate s) (good : Good s)
    {fd : Fd} {reads : OpPtr}
    (found : s.rt.scheduler.registry fd .read = some reads) :
    s.rt.scheduler.registry fd .write = none := by
  cases writeFound : s.rt.scheduler.registry fd .write with
  | none => rfl
  | some writes =>
      exfalso
      obtain ⟨op, waits, socket⟩ :=
        good.sound.writes_of_registered writeFound
      have fits := good.sound.fits _ op waits
      have different := good.sound.frame_ne found writeFound
      rcases good.sound.held _ _ _ found with
        ⟨timer, _⟩ | ⟨other, otherWaits, ⟨_, again⟩ | ⟨_, token, _⟩⟩
      · exact fits.socket_plain good.sound.inOrder socket timer
      · exact different (separate.sockets _ _ _ _ _ _ _ waits otherWaits
          socket again)
      · obtain ⟨cancelled, counter, file⟩ :=
          (good.sound.fits _ other otherWaits).token fd token
        rw [fits.socket fd _ socket] at file
        cases file

/-! ## Results -/

theorem resultOf_numbered {obs : Obs} {number : Nat} {result : OpResult}
    (found : obs.resultOf number = some result) :
    obs.number? = some number := by
  cases obs with
  | finished other here =>
      simp only [Obs.resultOf] at found
      split at found
      · rename_i same
        rw [← same]
        rfl
      · cases found
  | _ => cases found

private theorem resultOf_of_trace (entries : List Obs) {number : Nat}
    (trace : next.trace = entries ++ s.trace) :
    next.resultOf number =
      (entries.findSome? (Obs.resultOf number)).or (s.resultOf number) := by
  rw [resultOf, trace, List.findSome?_append]
  rfl

/-- What is recorded without a number is no result. -/
theorem resultOf_withMarks (control : Control) (action : Action)
    (number : Nat) :
    (s.withMarks control (s.marks action)).resultOf number =
      s.resultOf number := by
  have noResult : (s.marks action).findSome? (Obs.resultOf number) =
      none := by
    rw [List.findSome?_eq_none_iff]
    intro mark member
    cases found : mark.resultOf number with
    | none => rfl
    | some result =>
        have unnumbered := marks_unnumbered member
        rw [resultOf_numbered found] at unnumbered
        cases unnumbered
  rw [resultOf_of_trace (s.marks action) rfl, noResult]
  rfl

/-- What completing a suspended operation records, and who runs then. -/
theorem complete_results (linked : Linked s.frames) {pointer : OpPtr}
    {op : OpFrame} (io : Io) (waits : s.pending pointer.frame = some op)
    (healthy : (op.operation.wake pointer.frame io op.total s.rt).rt.fault =
      none) :
    (∀ number, (s.complete pointer io).resultOf number =
      (if number = op.number then
        (op.operation.wake pointer.frame io op.total s.rt).returned
      else none).or (s.resultOf number)) ∧
    ((s.complete pointer io).stack = s.stack ∨
      ∃ outer, (s.complete pointer io).stack = outer :: s.stack ∧
        (s.complete pointer io).frames.lookup outer =
          some (.user none)) := by
  have found := pendingIn_eq_some.mp waits
  unfold complete
  rw [waits]
  simp only [healthy, Option.isSome_none, Bool.false_eq_true, if_false]
  cases (op.operation.wake pointer.frame io op.total s.rt).returned with
  | none =>
      refine ⟨fun number => ?_, Or.inl rfl⟩
      rw [ite_self]
      rfl
  | some result =>
      have recorded : ∀ number,
          [Obs.resumed op.number result,
            .finished op.number result].findSome? (Obs.resultOf number) =
            if number = op.number then some result else none := by
        intro number
        simp only [List.findSome?, Obs.resultOf]
        by_cases same : op.number = number
        · rw [if_pos same, if_pos same.symm]
        · rw [if_neg same, if_neg (Ne.symm same)]
      rcases linked.outer _ _ found with outer | ⟨number, outer⟩
      · simp only [resumeOuter, outer]
        refine ⟨fun number => ?_, Or.inr ⟨op.outer, rfl, ?_⟩⟩
        · rw [← recorded]
          exact resultOf_of_trace _ rfl
        · exact Finmap.lookup_insert _
      · simp only [resumeOuter, outer]
        refine ⟨fun number => ?_, Or.inl trivial⟩
        rw [← recorded]
        exact resultOf_of_trace _ rfl

/-! ## One turn -/

theorem step_of_enabled (good : Good s) {action : Action}
    (allowed : s.enabled action = true) :
    s.step action = some (s.perform action) :=
  if_pos ⟨good.sound.healthy, allowed⟩

/-- The coroutine that was resumed returns. -/
theorem goOn_spec (good : Good s)
    (resumed : s.stack = [] ∨
      ∃ outer, s.stack = [outer] ∧
        s.frames.lookup outer = some (.user none)) :
    s.goOn = some { s with stack := [] } ∧ Good { s with stack := [] } := by
  rcases resumed with idle | ⟨outer, stack, awake⟩
  · have same : s = { s with stack := [] } := by
      rw [← idle]
    rw [goOn, if_pos idle, ← same]
    exact ⟨rfl, good⟩
  · have allowed : s.enabled .finish = true := by
      simp [enabled, runningFrame, stack, awake]
    have taken := step_of_enabled good allowed
    have same : s.perform .finish = { s with stack := [] } := by
      simp [perform, stack]
    rw [same] at taken
    have working : s.stack ≠ [] := by simp [stack]
    rw [goOn, if_neg working]
    exact ⟨taken, (step_move good rfl taken).2⟩

/-- The turn resumed nothing. -/
structure Passed (s next : System queues) : Prop where
  rt : next.rt = s.rt
  pending : next.pending = s.pending
  results : ∀ number, next.resultOf number = s.resultOf number

/-- The turn resumed this operation. -/
structure Woke (s next : System queues) (frame : Addr) (op : OpFrame)
    (io : Io) : Prop where
  rt : next.rt = (op.operation.wake frame io op.total s.rt).rt
  pending : next.pending = Function.update s.pending frame
    (op.after (op.operation.wake frame io op.total s.rt))
  results : ∀ number, next.resultOf number =
    (if number = op.number then
      (op.operation.wake frame io op.total s.rt).returned
    else none).or (s.resultOf number)

/-- Completing a pointer of an idle program, and what then goes on. -/
theorem completed_spec (good : Good s) (idle : s.stack = [])
    {pointer : OpPtr} {op : OpFrame} (io : Io)
    (waits : s.pending pointer.frame = some op)
    (current : ∀ delay, op.operation = .waitFor delay →
      s.rt.timer.cur.state.read = some ⟨pointer.frame, .timer⟩)
    (next : Good (s.complete pointer io)) :
    ∃ final, (s.complete pointer io).goOn = some final ∧ Good final ∧
      final.stack = [] ∧ final.control = s.control ∧
      Woke s final pointer.frame op io := by
  have spared := (good.sound.woken io waits current).2
  have healthy := spared.fault.trans good.sound.healthy
  obtain ⟨rt, pending⟩ := complete_spec good.linked io waits healthy
  obtain ⟨results, running⟩ :=
    complete_results good.linked io waits healthy
  rw [idle] at running
  obtain ⟨went, later⟩ := goOn_spec next running
  refine ⟨_, went, later, rfl, ?_, rt, pending, results⟩
  exact (Linked.complete_rest s pointer io).2

private theorem Good.withMarks (good : Good s) (marks : List Obs) :
    Good (s.withMarks (.batch evs fetched) marks) where
  sound := good.sound
  linked := good.linked
  fetched := by
    rintro writeOp rest since ⟨⟩

/-- What is recorded of an event resumes nothing by itself. -/
theorem Woke.of_marks {control : Control} {action : Action} {frame : Addr}
    {op : OpFrame} {io : Io}
    (woke : Woke (s.withMarks control (s.marks action)) next frame op io) :
    Woke s next frame op io where
  rt := woke.rt
  pending := woke.pending
  results number := by
    rw [woke.results, resultOf_withMarks]
    rfl

/-- The write half that an event leaves. -/
theorem dispatch_control (io : Io)
    (batch : s.control = .batch (event :: evs) fetched) :
    (s.perform (.dispatch io)).control =
      writeHalf event (s.rt.scheduler.registry event.fd .write) evs
        fetched := by
  have recorded := record_eq io batch
  cases found : s.rt.scheduler.fdToOp.lookup event.fd with
  | none =>
      simp [perform, batch, dispatchEvent, recorded, found,
        Scheduler.registry, writeHalf]
  | some state =>
      have registered : s.rt.scheduler.registry event.fd .write =
          state.write := Scheduler.registry_of_lookup found .write
      simp only [perform, batch, dispatchEvent, recorded, found, registered]
      cases state.read with
      | none => rfl
      | some readOp =>
          dsimp only
          split
          · rw [(Linked.complete_rest _ readOp io).2]
          · rfl

/-- What one turn does. -/
structure Turned (s next : System queues) (answers : Answers)
    (event : EpollEvent) (evs : List EpollEvent) (fetched : Nat) : Prop where
  good : Good next
  idle : next.stack = []
  control : next.control = .batch evs fetched
  effect : s.target event = none ∧ Passed s next ∨
    ∃ pointer op, s.target event = some pointer ∧
      s.pending pointer.frame = some op ∧
      s.Concerns event pointer.frame op ∧
      Woke s next pointer.frame op (answers.answer s.rt op.operation)

private theorem answered_of_waits {pointer : OpPtr} {op : OpFrame}
    (waits : s.pending pointer.frame = some op) :
    s.answered answers (some pointer) =
      answers.answer s.rt op.operation := by
  simp [answered, waits]

/-- What an operation that is about to be resumed needs of the timer. -/
theorem Concerns.current {frame : Addr} {op : OpFrame}
    (concerns : s.Concerns event frame op) {delay : Int}
    (operation : op.operation = .waitFor delay) :
    s.rt.timer.cur.state.read = some ⟨frame, .timer⟩ := by
  rcases concerns with own | ⟨_, current⟩
  · simp [OpFrame.ownEvent, OpFrame.socketEvent, OpFrame.cancelEvent,
      operation, Operation.socket?, Operation.token?] at own
  · exact current_iff.mp current

/-- The write half of an event whose read half resumed nothing. -/
theorem writeTurn_spec (answers : Answers) (good : Good s)
    (idle : s.stack = []) {writeOp : OpPtr}
    (half : s.control = .half writeOp evs fetched) :
    ∃ next op, s.writeTurn answers = some next ∧ Good next ∧
      next.stack = [] ∧ next.control = .batch evs fetched ∧
      s.pending writeOp.frame = some op ∧
      Woke s next writeOp.frame op (answers.answer s.rt op.operation) := by
  obtain ⟨op, fd, waits, socket⟩ := good.fetched writeOp evs fetched half
  have woken : s.completes (.dispatchWrite {}) = some writeOp := by
    simp only [completes, half]
  have allowed : ∀ io, s.enabled (.dispatchWrite io) = true := by
    intro io
    simp [enabled, System.idle, idle, half]
  have taken := step_of_enabled good
    (allowed (answers.answer s.rt op.operation))
  have later := (step_move good rfl taken).2
  have performed := dispatchWrite_eq (s := s)
    (answers.answer s.rt op.operation) half
  rw [performed] at taken later
  have current : ∀ delay, op.operation = .waitFor delay →
      s.rt.timer.cur.state.read = some ⟨writeOp.frame, .timer⟩ := by
    intro delay same
    rw [same] at socket
    cases socket
  have between : Good (s.withMarks (.batch evs fetched) []) :=
    good.withMarks []
  obtain ⟨next, went, goodNext, idleNext, control, woke⟩ :=
    completed_spec between idle (answers.answer s.rt op.operation) waits
      current later
  refine ⟨next, op, ?_, goodNext, idleNext, control, waits, woke.rt,
    woke.pending, woke.results⟩
  simp only [writeTurn, half, woken, answered_of_waits waits, taken]
  exact went

theorem enabled_of_batch (idle : s.stack = [])
    (batch : s.control = .batch (event :: evs) fetched) (io : Io) :
    s.enabled (.dispatch io) = true := by
  simp [enabled, System.idle, idle, batch]

private theorem completes_of_batch
    (batch : s.control = .batch (event :: evs) fetched) :
    s.completes (.dispatch {}) =
      if readReady event.events then s.rt.scheduler.registry event.fd .read
      else none := by
  simp only [completes, batch]

/-- The event resumes the operation that waits to read. -/
theorem readTurn_spec (answers : Answers) (good : Good s)
    (separate : Separate s) (idle : s.stack = [])
    (batch : s.control = .batch (event :: evs) fetched) {readOp : OpPtr}
    (reads : s.completes (.dispatch {}) = some readOp) :
    ∃ next, s.turn answers = some next ∧
      Turned s next answers event evs fetched := by
  have woken := completes_of_batch batch
  have found : s.target event = some readOp := by
    rw [target, ← woken, reads]
    rfl
  have registered :
      s.rt.scheduler.registry event.fd .read = some readOp := by
    rw [reads] at woken
    split at woken
    · exact woken.symm
    · cases woken
  obtain ⟨op, waits, concerns⟩ := good.target_cases found
  have taken := step_of_enabled good
    (enabled_of_batch idle batch (answers.answer s.rt op.operation))
  have later := (step_move good rfl taken).2
  have control := dispatch_control
    (answers.answer s.rt op.operation) batch
  obtain ⟨between, _, performed⟩ := dispatch_cases
    (answers.answer s.rt op.operation) batch
  have reads' : s.completes
      (.dispatch (answers.answer s.rt op.operation)) =
        some readOp := reads
  simp only [reads'] at performed
  have same : between = .batch evs fetched := by
    rw [performed, (Linked.complete_rest _ readOp _).2] at control
    rw [separate.write_unregistered good registered] at control
    exact control
  subst same
  rw [performed] at taken later
  obtain ⟨next, went, goodNext, idleNext, controlNext, woke⟩ :=
    completed_spec (good.withMarks _) idle
      (answers.answer s.rt op.operation) waits
      (fun delay operation => concerns.current operation) later
  refine ⟨next, ?_, goodNext, idleNext, controlNext,
    Or.inr ⟨readOp, op, found, waits, concerns, woke.of_marks⟩⟩
  simp only [turn, readTurn, reads, answered_of_waits waits, taken]
  change (goOn _).bind _ = _
  rw [went]
  change writeTurn answers next = _
  simp only [writeTurn, controlNext]
  rfl

/-- The event resumes no operation that waits to read. -/
theorem unreadTurn_spec (answers : Answers) (good : Good s)
    (idle : s.stack = [])
    (batch : s.control = .batch (event :: evs) fetched)
    (reads : s.completes (.dispatch {}) = none) :
    ∃ next, s.turn answers = some next ∧
      Turned s next answers event evs fetched := by
  have woken := completes_of_batch batch
  have taken := step_of_enabled good (enabled_of_batch idle batch {})
  have later := (step_move good rfl taken).2
  have control := dispatch_control (s := s) {} batch
  obtain ⟨between, left, performed⟩ := dispatch_cases (s := s) {} batch
  simp only [reads] at performed
  rw [performed] at taken later control
  have started : s.readTurn answers =
      some (s.withMarks between (s.marks (.dispatch {}))) := by
    simp only [readTurn, reads]
    change (s.step (.dispatch {})).bind goOn = _
    rw [taken]
    change goOn (s.withMarks between _) = _
    exact if_pos idle
  have found : s.target event =
      if writeReady event.events then
        s.rt.scheduler.registry event.fd .write
      else none := by
    rw [target, ← woken, reads]
    rfl
  change between = _ at control
  cases writes : s.target event with
  | none =>
      have same : between = .batch evs fetched := by
        rw [control]
        rw [writes] at found
        cases registered : s.rt.scheduler.registry event.fd .write with
        | none => rfl
        | some writeOp =>
            rw [registered] at found
            split at found
            · cases found
            · rename_i unready
              exact if_neg unready
      subst same
      refine ⟨_, ?_, later, idle, rfl, Or.inl ⟨writes, rfl, rfl,
        fun number => resultOf_withMarks _ _ number⟩⟩
      rw [turn, started]
      rfl
  | some writeOp =>
      have same : between = .half writeOp evs fetched := by
        rw [writes] at found
        split at found
        · rename_i ready
          rw [control, ← found, writeHalf, if_pos ready]
        · cases found
      subst same
      obtain ⟨op, waits, concerns⟩ := good.target_cases writes
      obtain ⟨next, same, went, goodNext, idleNext, controlNext,
        sameWaits, woke⟩ := writeTurn_spec answers later idle rfl
      have here : s.pending writeOp.frame = some same := sameWaits
      rw [waits] at here
      cases here
      refine ⟨next, ?_, goodNext, idleNext, controlNext,
        Or.inr ⟨writeOp, op, writes, waits, concerns, woke.of_marks⟩⟩
      rw [turn, started]
      exact went

/-- On distinct sockets one turn resumes at most one operation. -/
theorem turn_spec (answers : Answers) (good : Good s)
    (separate : Separate s) (idle : s.stack = [])
    (batch : s.control = .batch (event :: evs) fetched) :
    ∃ next, s.turn answers = some next ∧
      Turned s next answers event evs fetched := by
  cases reads : s.completes (.dispatch {}) with
  | some readOp =>
      exact readTurn_spec answers good separate idle batch reads
  | none => exact unreadTurn_spec answers good idle batch reads

end System

end AsyncFrame
