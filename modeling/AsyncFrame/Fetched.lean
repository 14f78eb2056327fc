import AsyncFrame.Slots
import AsyncFrame.Turns

/-!
# When a batch is fetched

The kernel reports an event only for what is registered, so that an operation
with an event of its own is registered for it; a token that is not cancelled
has no event; and with an event of the timerfd the operation with the current
timer is expired.
-/

namespace AsyncFrame

open Lib

variable {queues : TimerQueue}

namespace System

variable {s t next : System queues} {action : Action} {event : EpollEvent}
variable {evs rest : List EpollEvent} {fetched : Nat} {answers : Answers}
variable {timerFd : Fd} {uptime : Nat} {buffers : BufferRef → Buffer}
variable {actions : List Action} {frame : Addr} {op : OpFrame}

/-! ## Tokens that are not cancelled -/

/-- The eventfd of a token that is not cancelled has nothing to read. -/
def Unsignalled (rt : Runtime queues) : Prop :=
  ∀ token counter, rt.files token = .eventFd false counter → counter = 0

private theorem Unsignalled.kept {rt after : Runtime queues}
    (unsignalled : Unsignalled rt) (kept : FilesKept rt after) :
    Unsignalled after := by
  intro token counter file
  rcases kept token with same | ⟨cancelled, old, before, now⟩
  · exact unsignalled token counter (same.symm.trans file)
  · rw [file] at now
    cases now
    rfl

theorem Unsignalled.update {rt : Runtime queues}
    (unsignalled : Unsignalled rt) {fd : Fd} {file : File}
    (fresh : ∀ counter, file = .eventFd false counter → counter = 0) :
    Unsignalled { rt with files := Function.update rt.files fd file } := by
  intro token counter here
  by_cases same : token = fd
  · subst same
    exact fresh counter ((Function.update_self _ _ _).symm.trans here)
  · exact unsignalled token counter
      ((Function.update_of_ne same _ _).symm.trans here)

/-- A step that is not about the operations signals a token only with its
flag. -/
theorem Unsignalled.calm (unsignalled : Unsignalled s.rt)
    (allowed : s.enabled action = true) (nothing : action.starts? = none)
    (asleep : s.completes action = none) :
    Unsignalled (s.perform action).rt := by
  cases action with
  | requestCancel token =>
      obtain ⟨counter, called⟩ := requestCancel_files s.rt token allowed
      simp only [perform, called]
      exact unsignalled.update (by simp)
  | openFd fd file =>
      simp only [enabled, Bool.and_eq_true, Bool.or_eq_true,
        decide_eq_true_eq] at allowed
      refine unsignalled.update fun counter here => ?_
      rcases allowed.2 with rfl | rfl
      · cases here
      · cases here
        rfl
  | closeFd fd =>
      intro token counter file
      by_cases same : token = fd
      · subst same
        simp [perform, Runtime.closeFd] at file
      · simp only [perform, Runtime.closeFd,
          Function.update_of_ne same] at file
        exact unsignalled token counter file
  | await frame operation io => cases nothing
  | awaitWithTimeout impl frame wrapped delay io =>
      obtain ⟨_, _, _, _, operation, timeout, _⟩ :=
        enabled_awaitWithTimeout allowed
      rw [Action.starts?, timeout] at nothing
      cases nothing
  | dispatch io =>
      obtain ⟨_, event, evs, fetched, batch⟩ := enabled_dispatch allowed
      obtain ⟨control, _, performed⟩ := dispatch_cases io batch
      simp only [asleep] at performed
      rw [performed]
      exact unsignalled
  | dispatchWrite io =>
      obtain ⟨_, writeOp, evs, fetched, half⟩ := enabled_dispatchWrite allowed
      simp only [completes, half] at asleep
      cases asleep
  | _ => exact unsignalled

private theorem Unsignalled.step (unsignalled : Unsignalled s.rt)
    (good : Good s)
    (keeps : KeepsPending s action) (taken : s.step action = some next) :
    Unsignalled next.rt := by
  cases (step_move good keeps taken).1 with
  | calm nothing asleep =>
      obtain ⟨allowed, rfl⟩ := step_eq_some taken
      exact unsignalled.calm allowed nothing asleep
  | suspends _ _ _ _ _ _ _ _ _ leaves => exact unsignalled.kept leaves.files
  | passes _ _ _ _ _ _ _ _ _ _ leaves =>
      rcases leaves with ⟨_, untouched⟩ | ⟨_, _, leaves⟩
      · rw [untouched]
        exact unsignalled
      · exact unsignalled.kept leaves.files
  | ends _ _ _ _ _ _ leaves => exact unsignalled.kept leaves.files
  | rounds _ _ _ _ _ _ _ _ _ _ _ left leaves =>
      exact unsignalled.kept (left.files.trans leaves.files)

theorem unsignalled_of_run
    (reached : Reaches KeepsPending timerFd uptime buffers actions s) :
    Unsignalled s.rt := by
  have kept : Good s ∧ Unsignalled s.rt := by
    refine invariant_of_run (fun s => Good s ∧ Unsignalled s.rt) ?_ ?_
      reached.1 reached.2
    · rintro state action next ⟨good, unsignalled⟩ keeps taken
      exact ⟨(step_move good keeps taken).2,
        unsignalled.step good keeps taken⟩
    · refine ⟨good_initial queues timerFd uptime buffers, ?_⟩
      intro token counter file
      by_cases same : token = timerFd
      · subst same
        simp [initial] at file
      · simp [initial, same] at file
  exact kept.2

/-! ## Where a batch starts -/

/-- What is known when `epoll_wait` returns. -/
structure Fetched (s : System queues) (evs : List EpollEvent) : Prop where
  good : Good s
  ledger : Ledger s
  unsignalled : Unsignalled s.rt
  separate : Separate s
  reports : ∀ event ∈ evs, s.reports event = true
  nodup : (evs.map EpollEvent.fd).Nodup

/-- The kernel reports only descriptors with a registration. -/
theorem Good.registered_of_reports (good : Good s)
    (reported : s.reports event = true) :
    ∃ direction pointer,
      s.rt.scheduler.registry event.fd direction = some pointer := by
  unfold reports at reported
  have agrees := good.sound.inOrder.agrees
  cases found : s.rt.scheduler.fdToOp.lookup event.fd with
  | none =>
      rw [agrees.mirror, found] at reported
      cases reported
  | some state =>
      have registered := Scheduler.registry_of_lookup found
      rcases (agrees.sound event.fd state found).used with reads | writes
      · obtain ⟨pointer, here⟩ := Option.isSome_iff_exists.mp reads
        exact ⟨.read, pointer, (registered .read).trans here⟩
      · obtain ⟨pointer, here⟩ := Option.isSome_iff_exists.mp writes
        exact ⟨.write, pointer, (registered .write).trans here⟩

theorem ownEvent_cases (own : op.ownEvent event = true) :
    ∃ member direction,
      op.operation.slot? member = some (event.fd, direction) ∧
      (direction = .read → readReady event.events = true) ∧
      (direction = .write → writeReady event.events = true) := by
  unfold OpFrame.ownEvent at own
  rcases Bool.or_eq_true_iff.mp own with socket | cancel
  · unfold OpFrame.socketEvent at socket
    split at socket
    · rename_i fd here
      rw [Bool.and_eq_true, decide_eq_true_eq] at socket
      refine ⟨.socket, .read, here.trans (by rw [socket.1]), ?_, by simp⟩
      exact fun _ => socket.2
    · rename_i fd here
      rw [Bool.and_eq_true, decide_eq_true_eq] at socket
      refine ⟨.socket, .write, here.trans (by rw [socket.1]), by simp, ?_⟩
      exact fun _ => socket.2
    · cases socket
  · unfold OpFrame.cancelEvent at cancel
    rw [Bool.and_eq_true, decide_eq_true_eq] at cancel
    refine ⟨.cancel, .read, Operation.slot?_cancel.mpr ⟨cancel.1, rfl⟩, ?_,
      by simp⟩
    exact fun _ => cancel.2

theorem target_of_registered {direction : Direction} {pointer : OpPtr}
    (reads : direction = .read → readReady event.events = true)
    (writes : direction = .write → writeReady event.events = true)
    (found : s.rt.scheduler.registry event.fd direction = some pointer) :
    s.target event ≠ none := by
  unfold target
  cases direction with
  | read => simp [reads rfl, found]
  | write => simp [writes rfl, found]

/-- A descriptor is a socket or a token, and not both. -/
theorem Good.slot_member (good : Good s) {other : Addr} {otherOp : OpFrame}
    {first second : OpMember} {fd : Fd} {direction way : Direction}
    (waits : s.pending frame = some op)
    (otherWaits : s.pending other = some otherOp)
    (slot : op.operation.slot? first = some (fd, direction))
    (otherSlot : otherOp.operation.slot? second = some (fd, way)) :
    first = second := by
  have mixed : ∀ {socketOp tokenOp : OpFrame} {here there : Addr}
      {along : Direction}, s.pending here = some socketOp →
      s.pending there = some tokenOp →
      socketOp.operation.socket? = some (fd, along) →
      tokenOp.operation.token? = some fd → False := by
    intro socketOp tokenOp here there along hereWaits thereWaits socket token
    obtain ⟨cancelled, counter, file⟩ :=
      (good.sound.fits there tokenOp thereWaits).token fd token
    rw [(good.sound.fits here socketOp hereWaits).socket fd along socket]
      at file
    cases file
  cases first with
  | socket =>
      cases second with
      | socket => rfl
      | cancel =>
          exact (mixed waits otherWaits slot
            (Operation.slot?_cancel.mp otherSlot).1).elim
      | timer => cases otherSlot
  | cancel =>
      cases second with
      | socket =>
          exact (mixed otherWaits waits otherSlot
            (Operation.slot?_cancel.mp slot).1).elim
      | cancel => rfl
      | timer => cases otherSlot
  | timer => cases slot

/-- No descriptor is waited for by two operations. -/
theorem Separate.same_frame (separate : Separate s) (good : Good s)
    {other : Addr} {otherOp : OpFrame} {first second : OpMember} {fd : Fd}
    {direction way : Direction} (waits : s.pending frame = some op)
    (otherWaits : s.pending other = some otherOp)
    (slot : op.operation.slot? first = some (fd, direction))
    (otherSlot : otherOp.operation.slot? second = some (fd, way)) :
    frame = other := by
  have same := good.slot_member waits otherWaits slot otherSlot
  subst same
  cases first with
  | socket =>
      exact separate.sockets _ _ _ _ _ _ _ waits otherWaits slot otherSlot
  | cancel =>
      exact separate.tokens _ _ _ _ _ waits otherWaits
        (Operation.slot?_cancel.mp slot).1
        (Operation.slot?_cancel.mp otherSlot).1
  | timer => cases slot

/-- An operation with an event of its own is registered for it. -/
theorem Fetched.filed (fetched : Fetched s evs) (inside : event ∈ evs)
    (waits : s.pending frame = some op) {member : OpMember}
    {direction : Direction}
    (slot : op.operation.slot? member = some (event.fd, direction)) :
    ∃ pointer,
      s.rt.scheduler.registry event.fd direction = some pointer := by
  have good := fetched.good
  obtain ⟨way, pointer, found⟩ :=
    good.registered_of_reports (fetched.reports event inside)
  rcases good.sound.held _ _ _ found with ⟨timer, _⟩ | ⟨other, here, holds⟩
  · have plain := (good.sound.fits frame op waits).slot_plain
      good.sound.inOrder slot
    exact absurd timer plain
  · have held : ∃ second,
        other.operation.slot? second = some (event.fd, way) := by
      rcases holds with ⟨_, socket⟩ | ⟨_, token, rfl⟩
      · exact ⟨.socket, socket⟩
      · exact ⟨.cancel, Operation.slot?_cancel.mpr ⟨token, rfl⟩⟩
    obtain ⟨second, otherSlot⟩ := held
    have same := fetched.separate.same_frame good waits here slot otherSlot
    rw [← same, waits] at here
    cases here
    have sameMember := good.slot_member waits waits slot otherSlot
    rw [← sameMember, slot] at otherSlot
    cases otherSlot
    exact ⟨pointer, found⟩

/-- With an event of its token the operation is cancelled. -/
theorem Fetched.flagged_of_cancelEvent (fetched : Fetched s evs)
    (inside : event ∈ evs) (waits : s.pending frame = some op)
    (cancel : op.cancelEvent event = true) : s.flagged op = true := by
  have good := fetched.good
  rw [OpFrame.cancelEvent, Bool.and_eq_true, decide_eq_true_eq] at cancel
  obtain ⟨cancelled, counter, file⟩ :=
    (good.sound.fits frame op waits).token event.fd cancel.1
  have reported := fetched.reports event inside
  unfold System.reports at reported
  split at reported
  · cases reported
  · rw [file, Bool.and_eq_true, decide_eq_true_eq] at reported
    cases cancelled with
    | true =>
        simp [flagged, Runtime.cancelRequested, cancel.1, Runtime.tokenFlag,
          file]
    | false =>
        have unread := fetched.unsignalled event.fd counter file
        have signalled := reported.2
        dsimp only at signalled
        rw [unread] at signalled
        simp at signalled

/-! ## Deadlines against the clock -/

theorem reached_iff {clock : Int} :
    op.reached clock = true ↔
      ∃ deadline, op.deadline = some deadline ∧ deadline ≤ clock := by
  simp [OpFrame.reached, Option.any_eq_true]

theorem Good.deadline_of_current (good : Good s)
    (current : s.current frame = true) (waits : s.pending frame = some op) :
    op.deadline = some s.rt.timer.cur.timePoint := by
  have named := current_iff.mp current
  obtain ⟨holder, held, same, holds, set, _⟩ := good.current
    (good.sound.inOrder.settled.wellFormed.nonempty_of_read named)
  rw [named] at same
  cases same
  rw [waits] at holds
  cases holds
  exact set

/-- The test of the timeout awaiters, for a suspended operation. -/
theorem Good.timedOut_iff_reached (good : Good s)
    (waits : s.pending frame = some op) :
    timedOut frame s.rt = true ↔
      s.current frame = true ∧ op.reached s.rt.clock = true := by
  rw [timedOut_iff good.sound.inOrder.settled, current_iff]
  refine and_congr_right fun named => ?_
  rw [reached_iff,
    good.deadline_of_current (current_iff.mpr named) waits]
  simp

/-- Only one operation has the current timer. -/
theorem current_unique {other : Addr} (current : s.current frame = true)
    (otherCurrent : s.current other = true) : frame = other := by
  have first := current_iff.mp current
  rw [current_iff.mp otherCurrent] at first
  cases first
  rfl

/-- The operation with the current timer is timed. -/
theorem Good.timed_of_current (good : Good s)
    (current : s.current frame = true) (waits : s.pending frame = some op) :
    op.operation.delay?.isSome = true := by
  have set := good.deadline_of_current current waits
  obtain ⟨now, _, dated, _⟩ := good.sound.dated frame op waits
  rw [set] at dated
  obtain ⟨delay, delayed, _⟩ := Option.map_eq_some_iff.mp dated.symm
  rw [delayed]
  rfl

/-- When the timerfd is reported, the operation with the current timer is
expired. -/
theorem Fetched.expired (fetched : Fetched s evs)
    (timer : s.timerReady evs = true) :
    ∃ holder held, s.pending holder = some held ∧
      s.current holder = true ∧ held.reached s.rt.clock = true := by
  have good := fetched.good
  have settled := good.sound.inOrder.settled
  obtain ⟨event, inside, here⟩ := List.any_eq_true.mp timer
  rw [timerEvent, Bool.and_eq_true, decide_eq_true_eq] at here
  have readable := isReadable_of_reports good
    (fetched.reports event inside) here.1
  obtain ⟨_, deadline, setting, passed⟩ :=
    TimerFd.isReadable_iff.mp readable
  have armed := settled.armed.setting
  rw [setting] at armed
  split at armed
  · cases armed
  · rename_i occupied
    cases armed
    have nonempty : s.rt.timer.currentEmpty = false := by
      simpa using occupied
    obtain ⟨holder, held, named, waits, set, _⟩ := good.current nonempty
    exact ⟨holder, held, waits, current_iff.mpr named,
      reached_iff.mpr ⟨_, set, passed⟩⟩

/-- An operation whose deadline is not reached would set one that is not
reached either. -/
theorem unreached_again {clock : Int} (dated : op.Dated clock)
    (unreached : op.reached clock = false) {deadline : Int}
    (set : op.operation.deadlineAt clock = some deadline) :
    clock < deadline := by
  obtain ⟨now, past, here, _⟩ := dated
  obtain ⟨delay, delayed, rfl⟩ := Option.map_eq_some_iff.mp set
  rw [Operation.deadlineAt, delayed, Option.map_some] at here
  have future : ¬TimerEvent.toTimePoint now delay ≤ clock := by
    intro passed
    have reached := reached_iff.mpr ⟨_, here, passed⟩
    rw [unreached] at reached
    cases reached
  simp only [TimerEvent.toTimePoint] at future ⊢
  omega

/-- An expired operation does not outlast the batch that wakes it. -/
theorem verdict_of_reached (good : Good s)
    (waits : s.pending frame = some op)
    (reached : op.reached s.rt.clock = true)
    (woken : (op.ready evs || op.reached s.rt.clock && s.timerReady evs) =
      true) :
    s.verdict answers evs op ≠ .pending := by
  rw [verdict, woken, if_pos rfl, reached, Bool.true_and]
  split
  · simp
  · split
    · simp
    · rename_i untimed
      obtain ⟨deadline, set, _⟩ := reached_iff.mp reached
      obtain ⟨now, _, dated, _⟩ := good.sound.dated frame op waits
      rw [dated, Operation.deadlineAt] at set
      cases same : op.operation with
      | waitFor delay => exact fun impossible => by cases impossible
      | asyncReadTimeout base delay =>
          rw [same] at untimed
          exact absurd rfl untimed
      | asyncWriteTimeout base delay =>
          rw [same] at untimed
          exact absurd rfl untimed
      | _ =>
          rw [same] at set
          cases set

theorem verdict_of_expired (good : Good s)
    (waits : s.pending frame = some op)
    (reached : op.reached s.rt.clock = true)
    (timer : s.timerReady evs = true) :
    s.verdict answers evs op ≠ .pending :=
  verdict_of_reached good waits reached
    (by rw [reached, timer, Bool.and_true, Bool.or_true])

end System

/-- A wake-up leaves the slots of another operation alone. -/
theorem Sound.registry_of_wake {rt : Runtime queues}
    {pending : Addr → Option OpFrame} (sound : Sound rt pending)
    {frame : Addr} {op : OpFrame} (io : Io)
    (waits : pending frame = some op)
    (current : ∀ delay, op.operation = .waitFor delay →
      rt.timer.cur.state.read = some ⟨frame, .timer⟩)
    {other : Operation} (otherFits : other.Fits rt) {member : OpMember}
    {fd : Fd} {direction : Direction}
    (slot : other.slot? member = some (fd, direction))
    (different : op.operation.slot? member ≠ some (fd, direction)) :
    (op.operation.wake frame io op.total rt).rt.scheduler.registry fd
        direction = rt.scheduler.registry fd direction := by
  have fits := sound.fits frame op waits
  rcases sound.wake_cases io op.total waits current with
    ⟨result, returns⟩ | ⟨middle, left, suspends, _⟩
  · exact System.registry_of_other returns.leaves fits otherFits
      sound.inOrder slot different
  · rw [System.registry_of_other suspends.leaves (fits.kept left.files)
        (otherFits.kept left.files) left.inOrder slot different,
      System.registry_of_other left fits otherFits sound.inOrder slot
        different]

/-! ## The class of a wake-up -/

namespace Operation

variable {operation : Operation} {rt now : Runtime queues}

private theorem asks_congr (buffer : ∀ buf, operation.buf? = some buf →
    now.buffers buf = rt.buffers buf) :
    operation.asks now = operation.asks rt := by
  unfold asks
  cases named : operation.buf? with
  | none => rw [Option.map_none, Option.map_none]
  | some buf => rw [Option.map_some, Option.map_some, buffer buf named]

/-- What an operation returns depends on its own buffer only. -/
theorem serve_congr (io : Io) (total : Nat)
    (buffer : ∀ buf, operation.buf? = some buf →
      now.buffers buf = rt.buffers buf) :
    operation.serve io total now = operation.serve io total rt := by
  cases operation with
  | asyncRead base => simp only [serve, buffer base.buf rfl]
  | asyncReadTimeout base delay => simp only [serve, buffer base.buf rfl]
  | asyncReadSome conn buf => simp only [serve, buffer buf rfl]
  | asyncWrite base => simp only [serve, buffer base.buf rfl]
  | asyncWriteTimeout base delay => simp only [serve, buffer base.buf rfl]
  | asyncAccept conn => rfl
  | asyncConnect conn => rfl
  | waitFor delay => rfl

/-- The answers depend on its own buffer and on the transfers made on its own
socket. -/
theorem answer_congr (answers : Answers)
    (buffer : ∀ buf, operation.buf? = some buf →
      now.buffers buf = rt.buffers buf)
    (transfers : ∀ fd direction, operation.socket? = some (fd, direction) →
      now.transfers fd = rt.transfers fd) :
    answers.answer now operation = answers.answer rt operation := by
  unfold Answers.answer
  cases socket : operation.socket? with
  | none => rfl
  | some key =>
      obtain ⟨fd, direction⟩ := key
      simp only [transfers fd direction socket, asks_congr buffer]

end Operation

/-- What a socket answers is possible. -/
theorem Answers.possible (answers : Answers) (rt : Runtime queues)
    (operation : Operation) :
    (answers.answer rt operation).recv.possible (operation.asks rt) = true ∧
      (answers.answer rt operation).send.possible (operation.asks rt) =
        true := by
  unfold Answers.answer
  cases socket : operation.socket? with
  | some key => exact ⟨answers.recv _ _ _, answers.send _ _ _⟩
  | none =>
      obtain ⟨delay, rfl⟩ := Operation.waitFor_of_no_socket socket
      exact ⟨rfl, rfl⟩

end AsyncFrame
