import AsyncFrame.Stretches
import AsyncFrame.System

/-!
# Registrations belong to suspended operations

The invariant between the runtime and the suspended operations: table, timer
and the timerfd's slot agree, every registered struct is a member of a
suspended operation that waits for just that, and the scheduled deadlines are
theirs.  A suspension adds its operation, a resumption takes it out.
-/

namespace AsyncFrame

variable {queues : TimerQueue} {rt next : Runtime queues}
variable {pending : Addr → Option OpFrame}

/-- The deadlines of the suspended operations, by their timer structs. -/
def deadlines (pending : Addr → Option OpFrame) : OpPtr → Option Int :=
  fun pointer =>
    if pointer.member = .timer then
      (pending pointer.frame).bind OpFrame.deadline
    else none

theorem deadlines_timer (pending : Addr → Option OpFrame) (frame : Addr) :
    deadlines pending ⟨frame, .timer⟩ =
      (pending frame).bind OpFrame.deadline :=
  if_pos rfl

theorem deadlines_eq_some {pointer : OpPtr} {deadline : Int}
    (present : deadlines pending pointer = some deadline) :
    pointer.member = .timer ∧
      ∃ op, pending pointer.frame = some op ∧
        op.deadline = some deadline := by
  unfold deadlines at present
  split at present
  · rename_i timer
    exact ⟨timer, Option.bind_eq_some_iff.mp present⟩
  · cases present

theorem deadlines_update (frame : Addr) (op : Option OpFrame) :
    deadlines (Function.update pending frame op) =
      Function.update (deadlines pending) ⟨frame, .timer⟩
        (op.bind OpFrame.deadline) := by
  funext pointer
  obtain ⟨other, member⟩ := pointer
  by_cases same : other = frame
  · subst same
    cases member <;> simp [deadlines]
  · simp [deadlines, same]

/-- The operation waits with this member for this direction. -/
def OpFrame.Holds (op : OpFrame) (member : OpMember) (fd : Fd)
    (direction : Direction) : Prop :=
  member = .socket ∧ op.operation.socket? = some (fd, direction) ∨
    member = .cancel ∧ op.operation.token? = some fd ∧ direction = .read

/-- The struct is a member of a suspended operation that waits with it. -/
def Held (pending : Addr → Option OpFrame) (fd : Fd) (direction : Direction)
    (pointer : OpPtr) : Prop :=
  ∃ op, pending pointer.frame = some op ∧
    op.Holds pointer.member fd direction

/-- The deadline was set at some time in the past, and is positive. -/
def OpFrame.Dated (op : OpFrame) (clock : Int) : Prop :=
  ∃ now, now ≤ clock ∧ op.deadline = op.operation.deadlineAt now ∧
    ∀ deadline, op.deadline = some deadline → 0 < deadline

theorem OpFrame.Dated.later {op : OpFrame} {clock later : Int}
    (dated : op.Dated clock) (order : clock ≤ later) : op.Dated later := by
  obtain ⟨now, past, rest⟩ := dated
  exact ⟨now, past.trans order, rest⟩

theorem Operation.touches_iff {operation : Operation} {fd : Fd} :
    operation.touches fd = true ↔
      (∃ direction, operation.socket? = some (fd, direction)) ∨
        operation.token? = some fd := by
  unfold touches
  rw [Bool.or_eq_true, Option.any_eq_true, Option.any_eq_true]
  constructor
  · rintro (⟨key, socket, here⟩ | ⟨token, found, here⟩)
    · exact Or.inl ⟨key.2, socket.trans (by rw [← of_decide_eq_true here])⟩
    · exact Or.inr (found.trans (by rw [← of_decide_eq_true here]))
  · rintro (⟨direction, socket⟩ | token)
    · exact Or.inl ⟨(fd, direction), socket, decide_eq_true rfl⟩
    · exact Or.inr ⟨fd, token, decide_eq_true rfl⟩

/-- An operation still fits when its own descriptors are what they were, up to
the state of an eventfd. -/
theorem Operation.Fits.refiled {operation : Operation}
    (fits : operation.Fits rt)
    (kept : ∀ fd, operation.touches fd = true →
      next.files fd = rt.files fd ∨ (next.files fd).isEventFd = true ∧
        (rt.files fd).isEventFd = true) :
    operation.Fits next where
  socket fd direction socket := by
    have file := fits.socket fd direction socket
    rcases kept fd (touches_iff.mpr (Or.inl ⟨direction, socket⟩)) with
      same | ⟨_, before⟩
    · exact same.trans file
    · rw [file] at before
      cases before
  token fd token := by
    rcases kept fd (touches_iff.mpr (Or.inr token)) with same | ⟨after, _⟩
    · rw [same]
      exact fits.token fd token
    · exact File.isEventFd_iff.mp after

/-- A later start sets a later deadline. -/
theorem Operation.deadlineAt_later {operation : Operation}
    {clock later deadline : Int} (order : clock ≤ later)
    (set : operation.deadlineAt later = some deadline) :
    ∃ earlier, operation.deadlineAt clock = some earlier ∧
      earlier ≤ deadline := by
  obtain ⟨delay, timed, rfl⟩ := Option.map_eq_some_iff.mp set
  refine ⟨TimerEvent.toTimePoint clock delay, ?_, ?_⟩
  · rw [Operation.deadlineAt, timed]
    rfl
  · simp only [TimerEvent.toTimePoint]
    omega

/-- What is set now is dated now. -/
theorem OpFrame.dated_now {op : OpFrame} {clock now : Int}
    (order : clock ≤ now)
    (timed : ∀ deadline,
      op.operation.deadlineAt clock = some deadline → 0 < deadline)
    (set : op.deadline = op.operation.deadlineAt now) : op.Dated now := by
  refine ⟨now, le_refl _, set, fun deadline here => ?_⟩
  rw [set] at here
  obtain ⟨earlier, first, below⟩ :=
    Operation.deadlineAt_later order here
  exact lt_of_lt_of_le (timed earlier first) below

/-- What ties the runtime to the suspended operations. -/
structure Sound (rt : Runtime queues)
    (pending : Addr → Option OpFrame) : Prop where
  inOrder : InOrder rt (deadlines pending)
  held : ∀ fd direction pointer,
    rt.scheduler.registry fd direction = some pointer →
      fd = rt.timer.fd ∧ direction = .read ∨
        Held pending fd direction pointer
  fits : ∀ frame op, pending frame = some op → op.operation.Fits rt
  dated : ∀ frame op, pending frame = some op →
    op.Dated rt.clock
  clock : 0 < rt.clock
  healthy : rt.fault = none

/-- A registered struct belongs to a suspended operation; a `wait_for` is
registered only while its timer is the current one. -/
theorem Sound.waits_of_registered (sound : Sound rt pending) {fd : Fd}
    {direction : Direction} {pointer : OpPtr}
    (found : rt.scheduler.registry fd direction = some pointer) :
    ∃ op, pending pointer.frame = some op ∧
      ∀ delay, op.operation = .waitFor delay →
        rt.timer.cur.state.read = some ⟨pointer.frame, .timer⟩ := by
  rcases sound.held fd direction pointer found with
    ⟨rfl, rfl⟩ | ⟨op, waits, holds⟩
  · have current := sound.inOrder.slot
    rw [found] at current
    have settled := sound.inOrder.settled
    have nonempty :=
      settled.wellFormed.nonempty_of_read current.symm
    obtain ⟨read, named, present⟩ := settled.current_present nonempty
    rw [← current] at named
    cases named
    obtain ⟨timer, op, waits, _⟩ := deadlines_eq_some present
    refine ⟨op, waits, fun _ _ => ?_⟩
    rw [← current, ← timer]
  · refine ⟨op, waits, fun delay same => ?_⟩
    rcases holds with ⟨_, socket⟩ | ⟨_, token, _⟩
    · rw [same] at socket
      cases socket
    · rw [same] at token
      cases token

/-- A write pointer belongs to an operation on that socket. -/
theorem Sound.writes_of_registered (sound : Sound rt pending) {fd : Fd}
    {pointer : OpPtr}
    (found : rt.scheduler.registry fd .write = some pointer) :
    ∃ op, pending pointer.frame = some op ∧
      op.operation.socket? = some (fd, .write) := by
  rcases sound.held fd .write pointer found with
    ⟨_, same⟩ | ⟨op, waits, ⟨_, socket⟩ | ⟨_, _, same⟩⟩
  · cases same
  · exact ⟨op, waits, socket⟩
  · cases same

/-- The two pointers of an entry belong to different operations. -/
theorem Sound.frame_ne (sound : Sound rt pending) {fd : Fd}
    {reads writes : OpPtr}
    (readFound : rt.scheduler.registry fd .read = some reads)
    (writeFound : rt.scheduler.registry fd .write = some writes) :
    writes.frame ≠ reads.frame := by
  intro same
  obtain ⟨op, waits, socket⟩ := sound.writes_of_registered writeFound
  have fits := sound.fits _ op waits
  rcases sound.held fd .read reads readFound with
    ⟨timer, _⟩ | ⟨other, otherWaits, holds⟩
  · exact fits.socket_plain sound.inOrder socket timer
  · rw [← same, waits] at otherWaits
    cases otherWaits
    rcases holds with ⟨_, again⟩ | ⟨_, token, _⟩
    · rw [socket] at again
      cases again
    · obtain ⟨cancelled, counter, file⟩ := fits.token fd token
      rw [fits.socket fd _ socket] at file
      cases file

/-- A descriptor of a suspended operation is a socket or an eventfd. -/
theorem Sound.file_of_touched (sound : Sound rt pending) {frame : Addr}
    {op : OpFrame} (waits : pending frame = some op) {fd : Fd}
    (touched : op.operation.touches fd = true) :
    rt.files fd = .socket ∨ (rt.files fd).isEventFd = true := by
  have fits := sound.fits frame op waits
  rcases Operation.touches_iff.mp touched with ⟨direction, socket⟩ | token
  · exact Or.inl (fits.socket fd direction socket)
  · exact Or.inr (File.isEventFd_iff.mpr (fits.token fd token))

/-- What no suspended operation uses is not registered. -/
theorem Sound.unregistered (sound : Sound rt pending) {fd : Fd}
    (plain : fd ≠ rt.timer.fd)
    (unused : ∀ frame op, pending frame = some op →
      op.operation.touches fd = false) (direction : Direction) :
    rt.scheduler.registry fd direction = none := by
  cases found : rt.scheduler.registry fd direction with
  | none => rfl
  | some pointer =>
      rcases sound.held fd direction pointer found with
        ⟨timer, _⟩ | ⟨op, waits, holds⟩
      · exact absurd timer plain
      · have touched : op.operation.touches fd = true := by
          rcases holds with ⟨_, socket⟩ | ⟨_, token, _⟩
          · exact Operation.touches_iff.mpr (Or.inl ⟨direction, socket⟩)
          · exact Operation.touches_iff.mpr (Or.inr token)
        rw [unused _ op waits] at touched
        cases touched

/-! ## Which registrations an operation changes -/

namespace Operation

variable {operation : Operation}

theorem claim_socket (fits : operation.Fits rt) {fd : Fd}
    {direction : Direction}
    (socket : operation.socket? = some (fd, direction))
    (holder : Option Addr) (registry : Registry) :
    operation.claim holder registry fd direction =
      holder.map fun self => ⟨self, .socket⟩ := by
  rw [claim_of_socket socket]
  cases token : operation.token? with
  | none => exact Registry.put_self _ _
  | some eventFd =>
      have different : fd ≠ eventFd := by
        rintro rfl
        obtain ⟨cancelled, counter, file⟩ := fits.token _ token
        rw [fits.socket _ direction socket] at file
        cases file
      exact (Registry.put_of_fd_ne _ _ different).trans
        (Registry.put_self _ _)

theorem claim_token {fd : Fd} (token : operation.token? = some fd)
    (holder : Option Addr) (registry : Registry) :
    operation.claim holder registry fd .read =
      holder.map fun self => ⟨self, .cancel⟩ := by
  cases socket : operation.socket? with
  | none =>
      simp only [claim, socket, token, Registry.putToken]
      exact Registry.put_self _ _
  | some key =>
      obtain ⟨conn, direction⟩ := key
      rw [claim_of_socket socket, token]
      exact Registry.put_self _ _

theorem claim_elsewhere {fd : Fd} {direction : Direction}
    (noSocket : operation.socket? ≠ some (fd, direction))
    (noToken : ¬(operation.token? = some fd ∧ direction = .read))
    (holder : Option Addr) (registry : Registry) :
    operation.claim holder registry fd direction =
      registry fd direction := by
  have putToken_elsewhere : ∀ (base : Registry) (pointer : Option OpPtr),
      base.putToken operation.token? pointer fd direction =
        base fd direction := by
    intro base pointer
    cases token : operation.token? with
    | none => rfl
    | some eventFd =>
        refine if_neg ?_
        rintro ⟨rfl, rfl⟩
        exact noToken ⟨token, rfl⟩
  cases socket : operation.socket? with
  | none => simp only [claim, socket, putToken_elsewhere]
  | some key =>
      obtain ⟨conn, way⟩ := key
      simp only [claim, socket, putToken_elsewhere]
      refine if_neg ?_
      rintro ⟨rfl, rfl⟩
      exact noSocket socket

/-- Whatever an operation's own registrations are put to, a registration
afterwards is one of them, or an older one for something else. -/
theorem claim_cases (fits : operation.Fits rt) {holder : Option Addr}
    {registry : Registry} {fd : Fd} {direction : Direction}
    {pointer : OpPtr}
    (found : operation.claim holder registry fd direction = some pointer) :
    (∃ self, holder = some self ∧
      (pointer = ⟨self, .socket⟩ ∧
          operation.socket? = some (fd, direction) ∨
        pointer = ⟨self, .cancel⟩ ∧ operation.token? = some fd ∧
          direction = .read)) ∨
    registry fd direction = some pointer ∧
      operation.socket? ≠ some (fd, direction) ∧
      ¬(operation.token? = some fd ∧ direction = .read) := by
  by_cases socket : operation.socket? = some (fd, direction)
  · rw [claim_socket fits socket] at found
    obtain ⟨self, rfl, rfl⟩ := Option.map_eq_some_iff.mp found
    exact Or.inl ⟨self, rfl, Or.inl ⟨rfl, socket⟩⟩
  · by_cases token : operation.token? = some fd ∧ direction = .read
    · obtain ⟨named, rfl⟩ := token
      rw [claim_token named] at found
      obtain ⟨self, rfl, rfl⟩ := Option.map_eq_some_iff.mp found
      exact Or.inl ⟨self, rfl, Or.inr ⟨rfl, named, rfl⟩⟩
    · rw [claim_elsewhere socket token] at found
      exact Or.inr ⟨found, socket, token⟩

end Operation

/-! ## The invariant and one stretch -/

namespace Sound

/-- What leaves table, timer and the operations' descriptors alone keeps the
invariant. -/
theorem carried (sound : Sound rt pending)
    (table : next.scheduler = rt.scheduler) (timer : next.timer = rt.timer)
    (clock : rt.clock ≤ next.clock) (fault : next.fault = rt.fault)
    (fits : ∀ frame op, pending frame = some op →
      op.operation.Fits next)
    (timerFile : next.files rt.timer.fd = rt.files rt.timer.fd) :
    Sound next pending where
  inOrder :=
    { agrees := by
        change next.scheduler.Agrees next.timer.fd
        rw [table, timer]
        exact sound.inOrder.agrees
      settled := by
        rw [timer]
        exact sound.inOrder.settled
      slot := by
        rw [table, timer]
        exact sound.inOrder.slot
      timerFile := by
        rw [timer, timerFile]
        exact sound.inOrder.timerFile }
  held := by
    rw [table, timer]
    exact sound.held
  fits := fits
  dated frame op waits := (sound.dated frame op waits).later clock
  clock := lt_of_lt_of_le sound.clock clock
  healthy := fault.trans sound.healthy

/-- The registry away from the timerfd's slot. -/
theorem registry_of_leaves {frame : Addr} {holder : Option Addr}
    {operation : Operation} {deadline : Option Int}
    {queue : OpPtr → Option Int}
    (leaves : Leaves frame holder operation deadline rt next queue)
    {fd : Fd} {direction : Direction}
    (notTimer : ¬(fd = rt.timer.fd ∧ direction = .read)) :
    next.scheduler.registry fd direction =
      operation.claim holder rt.scheduler.registry fd direction := by
  rw [leaves.registers]
  exact if_neg notTimer

/-- A resumption takes its operation out; a cancelled start, whose operation
was never in, changes nothing. -/
theorem resume (sound : Sound rt pending) {frame : Addr}
    {operation : Operation}
    (own : ∀ op, pending frame = some op → op.operation = operation)
    (fits : operation.Fits rt)
    (leaves : Leaves frame none operation none rt next
      (deadlines pending)) :
    Sound next (Function.update pending frame none) where
  inOrder := by
    rw [deadlines_update]
    exact leaves.inOrder
  held fd direction pointer found := by
    rw [leaves.timerFd]
    by_cases timer : fd = rt.timer.fd ∧ direction = .read
    · exact Or.inl timer
    · right
      rw [registry_of_leaves leaves timer] at found
      rcases Operation.claim_cases fits found with
        ⟨self, holder, _⟩ | ⟨older, noSocket, noToken⟩
      · cases holder
      · obtain ⟨op, waits, holds⟩ :=
          (sound.held fd direction pointer older).resolve_left timer
        refine ⟨op, ?_, holds⟩
        rw [Function.update_of_ne _ _ _]
        · exact waits
        · rintro rfl
          have same := own op waits
          rcases holds with ⟨_, socket⟩ | ⟨_, token⟩
          · exact noSocket (same ▸ socket)
          · exact noToken (same ▸ token)
  fits other op waits := by
    by_cases same : other = frame
    · subst same
      rw [Function.update_self] at waits
      cases waits
    · rw [Function.update_of_ne same] at waits
      exact (sound.fits other op waits).kept leaves.files
  dated other op waits := by
    by_cases same : other = frame
    · subst same
      rw [Function.update_self] at waits
      cases waits
    · rw [Function.update_of_ne same] at waits
      exact (sound.dated other op waits).later leaves.clock
  clock := lt_of_lt_of_le sound.clock leaves.clock
  healthy := leaves.fault.trans sound.healthy

/-- A suspension adds its operation. -/
theorem suspend (sound : Sound rt pending) {frame : Addr} {op : OpFrame}
    (free : pending frame = none) (fits : op.operation.Fits rt)
    (leaves : Leaves frame (some frame) op.operation op.deadline rt next
      (deadlines pending))
    (dated : op.Dated next.clock) :
    Sound next (Function.update pending frame (some op)) where
  inOrder := by
    rw [deadlines_update]
    exact leaves.inOrder
  held fd direction pointer found := by
    rw [leaves.timerFd]
    by_cases timer : fd = rt.timer.fd ∧ direction = .read
    · exact Or.inl timer
    · right
      rw [registry_of_leaves leaves timer] at found
      rcases Operation.claim_cases fits found with
        ⟨self, holder, own⟩ | ⟨older, _, _⟩
      · cases holder
        refine ⟨op, ?_, ?_⟩
        · rcases own with ⟨rfl, _⟩ | ⟨rfl, _⟩ <;>
            exact Function.update_self _ _ _
        · rcases own with ⟨rfl, socket⟩ | ⟨rfl, token⟩
          · exact Or.inl ⟨rfl, socket⟩
          · exact Or.inr ⟨rfl, token⟩
      · obtain ⟨other, waits, holds⟩ :=
          (sound.held fd direction pointer older).resolve_left timer
        refine ⟨other, ?_, holds⟩
        rw [Function.update_of_ne _ _ _]
        · exact waits
        · rintro same
          rw [same, free] at waits
          cases waits
  fits other otherOp waits := by
    by_cases same : other = frame
    · subst same
      rw [Function.update_self] at waits
      cases waits
      exact fits.kept leaves.files
    · rw [Function.update_of_ne same] at waits
      exact (sound.fits other otherOp waits).kept leaves.files
  dated other otherOp waits := by
    by_cases same : other = frame
    · subst same
      rw [Function.update_self] at waits
      cases waits
      exact dated
    · rw [Function.update_of_ne same] at waits
      exact (sound.dated other otherOp waits).later leaves.clock
  clock := lt_of_lt_of_le sound.clock leaves.clock
  healthy := leaves.fault.trans sound.healthy

/-- What a wake-up needs to know of a suspended operation. -/
theorem untimed_of_waits (sound : Sound rt pending) {frame : Addr}
    {op : OpFrame} (waits : pending frame = some op)
    (untimed : op.operation.delay? = none) :
    deadlines pending ⟨frame, .timer⟩ = none := by
  obtain ⟨now, _, set, _⟩ := sound.dated frame op waits
  rw [deadlines_timer, waits, Option.bind_some, set, Operation.deadlineAt,
    untimed]
  rfl

theorem positive_of_waits (sound : Sound rt pending) {frame : Addr}
    {op : OpFrame} (waits : pending frame = some op) {clock deadline : Int}
    (later : rt.clock ≤ clock)
    (here : op.operation.deadlineAt clock = some deadline) :
    0 < deadline := by
  obtain ⟨now, past, set, positive⟩ := sound.dated frame op waits
  obtain ⟨earlier, first, below⟩ :=
    Operation.deadlineAt_later (past.trans later) here
  exact lt_of_lt_of_le (positive earlier (set.trans first)) below

/-- What resuming a suspended operation leaves. -/
theorem resumeOnce_leaves (sound : Sound rt pending) {frame : Addr}
    {op : OpFrame} (io : Io) (total : Nat) (waits : pending frame = some op)
    (current : ∀ delay, op.operation = .waitFor delay →
      rt.timer.cur.state.read = some ⟨frame, .timer⟩) :
    Leaves frame none op.operation none rt
      (op.operation.resumeOnce frame io total rt).rt
      (deadlines pending) :=
  op.operation.resumeOnce_spec frame io total sound.inOrder
    (sound.fits frame op waits) (sound.untimed_of_waits waits) current

/-- A wake-up of a suspended operation ends it, or suspends it again. -/
theorem wake_cases (sound : Sound rt pending) {frame : Addr} {op : OpFrame}
    (io : Io) (total : Nat) (waits : pending frame = some op)
    (current : ∀ delay, op.operation = .waitFor delay →
      rt.timer.cur.state.read = some ⟨frame, .timer⟩) :
    (∃ result, op.operation.Returns frame rt
      (op.operation.wake frame io total rt) result (deadlines pending)) ∨
    ∃ middle, Leaves frame none op.operation none rt middle
        (deadlines pending) ∧
      op.operation.Suspends frame middle
        (op.operation.wake frame io total rt)
        (Function.update (deadlines pending) ⟨frame, .timer⟩ none) ∧
      rt.cancelRequested op.operation.token? = false :=
  op.operation.wake_spec frame io total sound.inOrder
    (sound.fits frame op waits) (sound.untimed_of_waits waits) current
    fun _ _ later here => (sound.positive_of_waits waits later here).ne'

end Sound

end AsyncFrame
