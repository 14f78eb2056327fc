import AsyncFrame.Registrations
import AsyncFrame.TimerRefinement
import AsyncFrame.WriteLoop

/-!
# The variants of a read and of a write

`async_read` and `async_read_timeout`, each with and without a token, are
written out separately, and so are the writes.  While nothing is cancelled and
no deadline is reached, each of them shows what a plain loop of transfers
shows, which knows neither of tokens nor of timers.
-/

namespace AsyncFrame

open Lib

variable {queues : TimerQueue} {rt next : Runtime queues}
variable {operation : Operation} {base : Base} {self : Addr}

/-! ## The plain loop -/

/-- What a peer and a caller see of an operation. -/
structure Exchange where
  buffer : Buffer
  total : Nat
  calls : List SocketCall
  returned : Option OpResult

namespace Exchange

/-- One turn of a plain loop of `recv`. -/
def recv (conn : Fd) (seen : Exchange) (outcome : RecvOutcome) : Exchange :=
  let (awaited, stored) := tryRead seen.buffer outcome
  { buffer := stored
    total := seen.total
    calls := .recv conn seen.buffer.offset seen.buffer.remain outcome ::
      seen.calls
    returned := (readBody stored awaited).map OpResult.ofPair }

/-- One turn of a plain loop of `send`. -/
def send (conn : Fd) (seen : Exchange) (outcome : SendOutcome) : Exchange :=
  let (awaited, stored) := tryWrite seen.buffer outcome
  let (total, returned) := writeBody seen.total awaited
  { buffer := stored
    total := total
    calls := .send conn seen.buffer.offset seen.buffer.remain outcome ::
      seen.calls
    returned := returned.map OpResult.ofPair }

end Exchange

namespace Operation

/-- The operation without its token and its timeout. -/
def bare : Operation → Operation
  | .asyncRead base => .asyncRead { base with cancelToken := none }
  | .asyncReadTimeout base _ => .asyncRead { base with cancelToken := none }
  | .asyncWrite base => .asyncWrite { base with cancelToken := none }
  | .asyncWriteTimeout base _ => .asyncWrite { base with cancelToken := none }
  | other => other

/-- One wake-up of the plain loop, until it has returned. -/
def exchange (operation : Operation) (seen : Exchange) (io : Io) :
    Exchange :=
  match seen.returned, operation.reads?, operation.writes? with
  | none, some base, _ => seen.recv base.conn io.recv
  | none, none, some base => seen.send base.conn io.send
  | _, _, _ => seen

/-- What differs at most in token and timeout transfers the same way. -/
theorem transfer_of_bare {other : Operation}
    (same : operation.bare = other.bare)
    (transfer : operation.reads? = some base ∨
      operation.writes? = some base) :
    ∃ again : Base, (other.reads? = some again ∨
      other.writes? = some again) ∧ again.buf = base.buf := by
  rcases transfer with reads | writes
  · have bare : operation.bare =
        .asyncRead { base with cancelToken := none } := by
      rcases reads_cases reads with rfl | ⟨delay, rfl⟩ <;> rfl
    rw [bare] at same
    cases other with
    | asyncRead again =>
        exact ⟨again, Or.inl rfl,
          (congrArg Base.buf (Operation.asyncRead.inj same)).symm⟩
    | asyncReadTimeout again delay =>
        exact ⟨again, Or.inl rfl,
          (congrArg Base.buf (Operation.asyncRead.inj same)).symm⟩
    | _ => cases same
  · have bare : operation.bare =
        .asyncWrite { base with cancelToken := none } := by
      rcases writes_cases writes with rfl | ⟨delay, rfl⟩ <;> rfl
    rw [bare] at same
    cases other with
    | asyncWrite again =>
        exact ⟨again, Or.inr rfl,
          (congrArg Base.buf (Operation.asyncWrite.inj same)).symm⟩
    | asyncWriteTimeout again delay =>
        exact ⟨again, Or.inr rfl,
          (congrArg Base.buf (Operation.asyncWrite.inj same)).symm⟩
    | _ => cases same

end Operation

/-! ## An operation alone on its scheduler -/

/-- The socket becomes ready after some time, and the system calls would answer
so. -/
structure Wakeup where
  elapsed : Nat
  io : Io

def Runtime.later (rt : Runtime queues) (elapsed : Nat) : Runtime queues :=
  { rt with clock := rt.clock + elapsed }

namespace Operation

/-- An event of the operation's socket resumes what the table leads to. -/
def wakeUp (self : Addr) (operation : Operation) (stretch : Stretch queues)
    (wakeup : Wakeup) : Stretch queues :=
  match stretch.returned, operation.socket? with
  | none, some (fd, direction) =>
      let rt := stretch.rt.later wakeup.elapsed
      if rt.scheduler.registry fd direction = some ⟨self, .socket⟩ then
        operation.wake self wakeup.io stretch.total rt
      else
        { stretch with rt := rt }
  | _, _ => stretch

/-- The operation from its start, through wake-ups of its socket only. -/
def alone (self : Addr) (operation : Operation) (rt : Runtime queues)
    (wakeups : List Wakeup) : Stretch queues :=
  wakeups.foldl (operation.wakeUp self) (operation.start self {} rt)

end Operation

/-! ## The simulation -/

/-- Nothing is suspended but this operation, which is not cancelled and whose
deadline was set just now. -/
structure Lone (frame : Addr) (operation : Operation)
    (rt : Runtime queues) : Prop where
  sound : ∃ op : OpFrame, op.operation = operation ∧
    op.deadline = operation.deadlineAt rt.clock ∧
    Sound rt (Function.update (fun _ => none) frame (some op))
  filed : ∀ fd direction, operation.socket? = some (fd, direction) →
    rt.scheduler.registry fd direction = some ⟨frame, .socket⟩
  quiet : rt.cancelRequested operation.token? = false

/-- The coroutine shows what the plain loop shows; suspended, it is alone, and
when it has returned nothing is left of it. -/
structure Shows (frame : Addr) (operation : Operation) (base : Base)
    (stretch : Stretch queues) (seen : Exchange) : Prop where
  buffer : stretch.rt.buffers base.buf = seen.buffer
  calls : stretch.rt.calls = seen.calls
  returned : stretch.returned = seen.returned
  total : stretch.returned = none → operation.writes? ≠ none →
    stretch.total = seen.total
  lone : stretch.returned = none → Lone frame operation stretch.rt
  gone : stretch.returned ≠ none → Sound stretch.rt fun _ => none

private theorem Sound.later {pending : Addr → Option OpFrame}
    (sound : Sound rt pending) (elapsed : Nat) :
    Sound (rt.later elapsed) pending where
  inOrder := ⟨sound.inOrder.agrees, sound.inOrder.settled,
    sound.inOrder.slot, sound.inOrder.timerFile⟩
  held := sound.held
  fits frame op waits :=
    ⟨(sound.fits frame op waits).socket, (sound.fits frame op waits).token⟩
  dated frame op waits := (sound.dated frame op waits).later <| by
    simp only [Runtime.later]
    omega
  clock := by
    have positive := sound.clock
    simp only [Runtime.later]
    omega
  healthy := sound.healthy

/-- A wake-up before the deadline finds the timer of the operation running. -/
theorem Lone.notTimedOut (lone : Lone self operation rt) {elapsed : Nat}
    (unreached : ∀ delay, operation.delay? = some delay →
      (elapsed : Int) < delay) :
    timedOut self (rt.later elapsed) = false := by
  obtain ⟨op, rfl, set, sound⟩ := lone.sound
  have settled := sound.inOrder.settled
  cases expired : timedOut self (rt.later elapsed) with
  | false => rfl
  | true =>
      obtain ⟨named, reached⟩ :=
        (timedOut_iff (sound.later elapsed).inOrder.settled self).mp expired
      obtain ⟨pointer, same, present⟩ := settled.current_present
        (settled.wellFormed.nonempty_of_read named)
      have own : rt.timer.cur.state.read = some ⟨self, .timer⟩ := named
      rw [own] at same
      cases same
      rw [deadlines_timer, Function.update_self, Option.bind_some, set,
        Operation.deadlineAt] at present
      obtain ⟨delay, delayed, due⟩ := Option.map_eq_some_iff.mp present
      have early := unreached delay delayed
      have late : rt.timer.cur.timePoint ≤ rt.clock + elapsed := reached
      simp only [TimerEvent.toTimePoint] at due
      omega

/-- Suspended by itself on an empty scheduler, the operation is alone. -/
theorem Lone.of_suspends (sound : Sound rt fun _ => none)
    (fits : operation.Fits rt) (positive : ∀ deadline,
      operation.deadlineAt rt.clock = some deadline → 0 < deadline)
    {stretch : Stretch queues}
    (suspends : operation.Suspends self rt stretch
      (deadlines fun _ => none)) :
    Lone self operation stretch.rt := by
  have leaves := suspends.leaves
  let op : OpFrame :=
    { operation := operation
      outer := self
      total := stretch.total
      number := 0
      deadline := operation.deadlineAt stretch.rt.clock }
  refine ⟨⟨op, rfl, rfl, ?_⟩, ?_, ?_⟩
  · have dated : op.Dated stretch.rt.clock :=
      OpFrame.dated_now leaves.clock positive rfl
    exact sound.suspend rfl fits leaves dated
  · intro fd direction socket
    rw [Sound.registry_of_leaves leaves fun timer =>
      fits.socket_plain sound.inOrder socket timer.1]
    exact Operation.claim_socket fits socket (some self) _
  · rw [leaves.files.cancelRequested, suspends.quiet]

/-- What a wake-up leaves of the bookkeeping. -/
theorem Lone.wake (lone : Lone self operation rt)
    (socket : operation.socket? ≠ none) (elapsed : Nat) (io : Io)
    (total : Nat) :
    FilesKept rt
        (operation.resumeOnce self io total (rt.later elapsed)).rt ∧
      ((operation.wake self io total (rt.later elapsed)).returned = none →
        Lone self operation
          (operation.wake self io total (rt.later elapsed)).rt) ∧
      ((operation.wake self io total (rt.later elapsed)).returned ≠ none →
        Sound (operation.wake self io total (rt.later elapsed)).rt
          fun _ => none) := by
  obtain ⟨op, rfl, _, early⟩ := lone.sound
  have sound := early.later elapsed
  have waits : Function.update (fun _ : Addr => (none : Option OpFrame)) self
      (some op) self = some op := Function.update_self _ _ _
  have fits := sound.fits self op waits
  have current : ∀ delay, op.operation = .waitFor delay →
      (rt.later elapsed).timer.cur.state.read = some ⟨self, .timer⟩ := by
    intro delay waiting
    rw [waiting] at socket
    exact absurd rfl socket
  have left : ∀ {after : Runtime queues},
      Leaves self none op.operation none (rt.later elapsed) after
        (deadlines (Function.update (fun _ => none) self (some op))) →
      Sound after fun _ => none := by
    intro after leaves
    have gone := sound.resume (fun other here => by
      rw [waits] at here
      cases here
      rfl) fits leaves
    rwa [Function.update_idem, Function.update_eq_self] at gone
  have empty : Function.update (deadlines (Function.update
      (fun _ : Addr => (none : Option OpFrame)) self (some op)))
        ⟨self, .timer⟩ none = deadlines fun _ => none := by
    rw [deadlines_update, Function.update_idem]
    exact Function.update_eq_self _ _
  refine ⟨(sound.resumeOnce_leaves io total waits current).files, ?_⟩
  rcases sound.wake_cases io total waits current with
    ⟨result, returns⟩ | ⟨middle, leaves, suspends, _⟩
  · refine ⟨fun pending => ?_, fun _ => left returns.leaves⟩
    rw [returns.returned] at pending
    cases pending
  · refine ⟨fun _ => ?_, fun ended => absurd suspends.pending ended⟩
    rw [empty] at suspends
    exact Lone.of_suspends (left leaves) (fits.kept leaves.files)
      (fun deadline => sound.positive_of_waits waits leaves.clock) suspends

/-! ## One wake-up -/

namespace Operation

private theorem socket_of_reads (reads : operation.reads? = some base) :
    operation.socket? = some (base.conn, .read) := by
  rcases reads_cases reads with rfl | ⟨delay, rfl⟩ <;> rfl

private theorem socket_of_writes (writes : operation.writes? = some base) :
    operation.socket? = some (base.conn, .write) := by
  rcases writes_cases writes with rfl | ⟨delay, rfl⟩ <;> rfl

private theorem receives_of_quiet (reads : operation.reads? = some base)
    (quiet : rt.cancelRequested operation.token? = false)
    (running : timedOut self rt = false) :
    operation.receives self rt = true := by
  rcases reads_cases reads with rfl | ⟨delay, rfl⟩
  · simpa [receives, token?] using quiet
  · have unset : rt.cancelRequested base.cancelToken = false := quiet
    simp [receives, unset, running]

private theorem sends_of_quiet (writes : operation.writes? = some base)
    (quiet : rt.cancelRequested operation.token? = false)
    (running : timedOut self rt = false) :
    operation.sends self rt = true := by
  rcases writes_cases writes with rfl | ⟨delay, rfl⟩
  · simpa [sends, token?] using quiet
  · have unset : rt.cancelRequested base.cancelToken = false := quiet
    simp [sends, unset, running]

end Operation

/-- A wake-up of a read before its deadline shows one turn of the plain
loop. -/
theorem Lone.wake_reads (lone : Lone self operation rt)
    (reads : operation.reads? = some base) {elapsed : Nat}
    (unreached : ∀ delay, operation.delay? = some delay →
      (elapsed : Int) < delay) (io : Io) {total : Nat} {seen : Exchange}
    (buffer : rt.buffers base.buf = seen.buffer)
    (calls : rt.calls = seen.calls) :
    Shows self operation base
      (operation.wake self io total (rt.later elapsed))
      (seen.recv base.conn io.recv) := by
  have socket : operation.socket? ≠ none := by
    rw [Operation.socket_of_reads reads]
    exact Option.some_ne_none _
  obtain ⟨kept, lone', gone⟩ := lone.wake socket elapsed io total
  have quiet : (operation.resumeOnce self io total
      (rt.later elapsed)).rt.cancelRequested operation.token? = false :=
    (kept.cancelRequested operation.token?).trans lone.quiet
  have received : operation.receives self (rt.later elapsed) = true :=
    Operation.receives_of_quiet reads lone.quiet
      (lone.notTimedOut unreached)
  obtain ⟨made, ended⟩ :=
    operation.wake_receives self io total reads received
  have same : (rt.later elapsed).buffers base.buf = seen.buffer := buffer
  rw [same, quiet] at ended
  refine ⟨?_, ?_, ?_, ?_, lone', gone⟩
  · rw [made.buffer, same]
    rfl
  · rw [made.calls, same]
    exact congrArg (List.cons _) calls
  · simp only [Exchange.recv]
    split at ended
    · rename_i pair body
      rw [ended, body]
      rfl
    · rename_i body
      rw [ended, body]
      rfl
  · intro _ writes
    rcases Operation.reads_cases reads with rfl | ⟨delay, rfl⟩ <;>
      exact absurd rfl writes

/-- The same for a write. -/
theorem Lone.wake_writes (lone : Lone self operation rt)
    (writes : operation.writes? = some base) {elapsed : Nat}
    (unreached : ∀ delay, operation.delay? = some delay →
      (elapsed : Int) < delay) (io : Io) {seen : Exchange}
    (buffer : rt.buffers base.buf = seen.buffer)
    (calls : rt.calls = seen.calls) :
    Shows self operation base
      (operation.wake self io seen.total (rt.later elapsed))
      (seen.send base.conn io.send) := by
  have socket : operation.socket? ≠ none := by
    rw [Operation.socket_of_writes writes]
    exact Option.some_ne_none _
  obtain ⟨kept, lone', gone⟩ := lone.wake socket elapsed io seen.total
  have quiet : (operation.resumeOnce self io seen.total
      (rt.later elapsed)).rt.cancelRequested operation.token? = false :=
    (kept.cancelRequested operation.token?).trans lone.quiet
  have sent : operation.sends self (rt.later elapsed) = true :=
    Operation.sends_of_quiet writes lone.quiet (lone.notTimedOut unreached)
  obtain ⟨made, ended⟩ :=
    operation.wake_sends self io seen.total writes sent
  have same : (rt.later elapsed).buffers base.buf = seen.buffer := buffer
  rw [same, quiet] at ended
  refine ⟨?_, ?_, ?_, ?_, lone', gone⟩
  · rw [made.buffer, same]
    rfl
  · rw [made.calls, same]
    exact congrArg (List.cons _) calls
  · simp only [Exchange.send]
    split at ended
    · rename_i sum pair body
      rw [ended, body]
      rfl
    · rename_i sum body
      rw [ended.1, body]
      rfl
  · intro pending _
    simp only [Exchange.send]
    split at ended
    · rename_i sum pair body
      rw [ended] at pending
      cases pending
    · rename_i sum body
      rw [ended.2 pending, body]

/-- One wake-up keeps what is shown. -/
theorem Shows.wakeUp {stretch : Stretch queues} {seen : Exchange}
    (shows : Shows self operation base stretch seen)
    (transfer : operation.reads? = some base ∨
      operation.writes? = some base) (wakeup : Wakeup)
    (unreached : ∀ delay, operation.delay? = some delay →
      (wakeup.elapsed : Int) < delay) :
    Shows self operation base (operation.wakeUp self stretch wakeup)
      (operation.exchange seen wakeup.io) := by
  have ended := shows.returned
  cases returned : stretch.returned with
  | some result =>
      rw [returned] at ended
      simp only [Operation.wakeUp, Operation.exchange, returned, ← ended]
      exact shows
  | none =>
      rw [returned] at ended
      have lone := shows.lone returned
      have filed : ∀ fd direction,
          operation.socket? = some (fd, direction) →
            (stretch.rt.later wakeup.elapsed).scheduler.registry fd
              direction = some ⟨self, .socket⟩ := lone.filed
      rcases transfer with reads | writes
      · have socket := Operation.socket_of_reads reads
        simp only [Operation.wakeUp, Operation.exchange, returned, ← ended,
          socket, filed _ _ socket, if_true, reads]
        exact lone.wake_reads reads unreached wakeup.io shows.buffer
          shows.calls
      · have socket := Operation.socket_of_writes writes
        have noRead : operation.reads? = none := by
          rcases Operation.writes_cases writes with rfl | ⟨delay, rfl⟩ <;> rfl
        have total : stretch.total = seen.total := by
          refine shows.total returned ?_
          rw [writes]
          exact Option.some_ne_none _
        simp only [Operation.wakeUp, Operation.exchange, returned, ← ended,
          socket, filed _ _ socket, if_true, writes, noRead, total]
        exact lone.wake_writes writes unreached wakeup.io shows.buffer
          shows.calls

/-! ## Whole runs -/

namespace System

variable {s : System queues} {timerFd : Fd} {uptime : Nat}
variable {buffers : BufferRef → Buffer} {actions : List Action}

/-- A variant is started on an idle scheduler, with a token that is never
cancelled, and no wake-up comes at its deadline. -/
structure Undisturbed (s : System queues) (operation : Operation)
    (wakeups : List Wakeup) : Prop where
  admitted : s.admits operation = true
  quiet : s.rt.cancelRequested operation.token? = false
  unreached : ∀ delay, operation.delay? = some delay →
    ∀ wakeup ∈ wakeups, (wakeup.elapsed : Int) < delay

private theorem Undisturbed.untilDone {wakeups done : List Wakeup}
    (undisturbed : Undisturbed s operation wakeups)
    (inside : done <+: wakeups) : Undisturbed s operation done :=
  ⟨undisturbed.admitted, undisturbed.quiet, fun delay delayed wakeup member =>
    undisturbed.unreached delay delayed wakeup (inside.subset member)⟩

/-- The plain loop from the runtime that an operation is started in. -/
def plainLoop (s : System queues) (operation : Operation) (buf : BufferRef)
    (wakeups : List Wakeup) : Exchange :=
  wakeups.foldl (fun seen wakeup => operation.exchange seen wakeup.io)
    { buffer := s.rt.buffers buf
      total := 0
      calls := s.rt.calls
      returned := none }

/-- A variant shows what the plain loop shows before its first turn. -/
theorem shows_start (self : Addr) (good : Good s)
    (idle : ∀ frame, s.pending frame = none)
    (admitted : s.admits operation = true)
    (quiet : s.rt.cancelRequested operation.token? = false)
    (transfer : operation.reads? = some base ∨
      operation.writes? = some base) :
    Shows self operation base (operation.start self {} s.rt)
      { buffer := s.rt.buffers base.buf
        total := 0
        calls := s.rt.calls
        returned := none } := by
  obtain ⟨fits, timed⟩ := admits_iff.mp admitted
  have empty : s.pending = fun _ => none := funext idle
  have sound : Sound s.rt fun _ => none := empty ▸ good.sound
  have entered : operation.start self {} s.rt =
      ⟨(operation.awaitSuspend self s.rt).1, 0, none⟩ := by
    have looped : operation.start self {} s.rt =
        Operation.loop self operation 1 0 s.rt := by
      rcases transfer with reads | writes
      · exact Operation.start_of_reads self {} reads
      · exact Operation.start_of_writes self {} writes
    rw [looped, Operation.loop_succ, quiet, if_neg Bool.false_ne_true]
  have suspends : operation.Suspends self s.rt
      (operation.start self {} s.rt) (deadlines fun _ => none) := by
    rcases operation.start_spec self {} sound.inOrder fits
        (deadlines_timer _ _) (fun deadline here =>
          (timed deadline here).ne') with
      suspends | ⟨cancelled, _⟩ | ⟨_, _, returned⟩
    · exact suspends
    · rw [quiet] at cancelled
      cases cancelled
    · rw [entered] at returned
      cases returned
  have lone := Lone.of_suspends sound fits timed suspends
  have silent := operation.awaitSuspend_silent self s.rt
  rw [entered] at lone ⊢
  refine ⟨?_, silent.calls, rfl, fun _ _ => rfl, fun _ => lone, ?_⟩
  · exact congrFun silent.buffers base.buf
  · exact fun ended => absurd rfl ended

/-- Every variant shows what the plain loop shows. -/
theorem shows_alone (self : Addr) (good : Good s)
    (idle : ∀ frame, s.pending frame = none)
    {wakeups : List Wakeup}
    (undisturbed : Undisturbed s operation wakeups)
    (transfer : operation.reads? = some base ∨
      operation.writes? = some base) :
    Shows self operation base (operation.alone self s.rt wakeups)
      (s.plainLoop operation base.buf wakeups) := by
  refine List.foldl_rel (shows_start self good idle undisturbed.admitted
    undisturbed.quiet transfer) ?_
  intro wakeup member stretch seen shows
  exact shows.wakeUp transfer wakeup fun delay delayed =>
    undisturbed.unreached delay delayed wakeup member

/-- The plain loop depends on the socket and the buffer only. -/
theorem plainLoop_bare (s : System queues) (operation : Operation)
    (buf : BufferRef) (wakeups : List Wakeup) :
    s.plainLoop operation buf wakeups =
      s.plainLoop operation.bare buf wakeups := by
  have turn : operation.exchange = operation.bare.exchange := by
    funext seen io
    cases returned : seen.returned <;> cases operation <;>
      simp only [Operation.exchange, returned] <;> rfl
  rw [plainLoop, turn]
  rfl

/-- What is left when an operation that was alone has returned. -/
structure LeavesNothing (rt : Runtime queues) : Prop where
  table : rt.scheduler.fdToOp = ∅
  timers : rt.timer.liveTasks = 0
  healthy : rt.fault = none

private theorem leavesNothing_of_sound {rt : Runtime queues}
    (sound : Sound rt fun _ => none) : LeavesNothing rt := by
  have settled := sound.inOrder.settled
  have empty : rt.timer.currentEmpty = true := by
    cases here : rt.timer.currentEmpty with
    | true => rfl
    | false =>
        obtain ⟨pointer, _, present⟩ := settled.current_present here
        obtain ⟨_, op, waits, _⟩ := deadlines_eq_some present
        cases waits
  refine ⟨?_, settled.empty_iff.mp empty, sound.healthy⟩
  refine (Scheduler.fdToOp_eq_empty_iff sound.inOrder.agrees).mpr ?_
  intro fd direction
  cases found : rt.scheduler.registry fd direction with
  | none => rfl
  | some pointer =>
      obtain ⟨op, waits, _⟩ := sound.waits_of_registered found
      cases waits

/-- Take two variants of one read, or of one write, that differ at most in
token and timeout, on an idle scheduler: neither token is cancelled, and no
wake-up comes at a deadline.  After each wake-up both have made the same calls
with the same offsets and lengths, have left the same buffer, and have returned
the same pair or are both suspended; and when they have returned, the table is
empty and no timer is live. -/
theorem variants_transparent
    (reached : Reaches KeepsPending timerFd uptime buffers actions s)
    (idle : ∀ frame, s.pending frame = none) {first second : Operation}
    (transfer : first.reads? = some base ∨ first.writes? = some base)
    (same : first.bare = second.bare) {wakeups : List Wakeup}
    (firstRuns : Undisturbed s first wakeups)
    (secondRuns : Undisturbed s second wakeups) (frame other : Addr) :
    ∀ done, done <+: wakeups →
      (first.alone frame s.rt done).rt.calls =
        (second.alone other s.rt done).rt.calls ∧
      (first.alone frame s.rt done).rt.buffers base.buf =
        (second.alone other s.rt done).rt.buffers base.buf ∧
      (first.alone frame s.rt done).returned =
        (second.alone other s.rt done).returned ∧
      ((first.alone frame s.rt done).returned ≠ none →
        LeavesNothing (first.alone frame s.rt done).rt ∧
          LeavesNothing (second.alone other s.rt done).rt) := by
  intro done inside
  have good := reached.good fun _ _ here => here
  obtain ⟨again, otherTransfer, buf⟩ :=
    Operation.transfer_of_bare same transfer
  have firstShows := shows_alone frame good idle
    (firstRuns.untilDone inside) transfer
  have secondShows := shows_alone other good idle
    (secondRuns.untilDone inside) otherTransfer
  rw [plainLoop_bare, same, ← plainLoop_bare, ← buf] at firstShows
  have returned := firstShows.returned.trans secondShows.returned.symm
  refine ⟨firstShows.calls.trans secondShows.calls.symm, ?_, returned, ?_⟩
  · rw [firstShows.buffer, ← buf, secondShows.buffer]
  · intro ended
    exact ⟨leavesNothing_of_sound (firstShows.gone ended),
      leavesNothing_of_sound (secondShows.gone (returned ▸ ended))⟩

theorem variants_transparent_sample :
    ∃ s : System TimerQueue.sorted,
      Reaches KeepsPending 3 100 (fun _ => ⟨[0, 0], 0⟩)
        [.openFd 5 .socket, .openFd 7 (.eventFd false 0)] s ∧
      ((Operation.asyncReadTimeout ⟨5, 0, some 7⟩ 50).alone 10 s.rt
        [⟨10, { recv := .received [1] }⟩,
          ⟨30, { recv := .received [2] }⟩]).returned =
            some (.transfer 0 2) ∧
      ((Operation.asyncRead ⟨5, 0, none⟩).alone 20 s.rt
        [⟨10, { recv := .received [1] }⟩,
          ⟨30, { recv := .received [2] }⟩]).returned =
            some (.transfer 0 2) ∧
      LeavesNothing ((Operation.asyncReadTimeout ⟨5, 0, some 7⟩ 50).alone 10
        s.rt [⟨10, { recv := .received [1] }⟩,
          ⟨30, { recv := .received [2] }⟩]).rt := by
  refine (exists_reaches (fun s => s.frames = ∅ ∧
    s.admits (.asyncReadTimeout ⟨5, 0, some 7⟩ 50) ∧
    s.admits (.asyncRead ⟨5, 0, none⟩) ∧
    s.rt.cancelRequested (some 7) = false ∧
    ((Operation.asyncRead ⟨5, 0, none⟩).alone 20 s.rt
      [⟨10, { recv := .received [1] }⟩,
        ⟨30, { recv := .received [2] }⟩]).returned =
          some (.transfer 0 2)) ?_ ?_).imp
    fun s ⟨reached, passed⟩ => ⟨reached, ?_⟩
  · decide +kernel
  · decide +kernel
  · obtain ⟨empty, timed, untimed, quiet, returned⟩ := of_decide_eq_true passed
    have idle : ∀ frame, s.pending frame = none := by
      intro frame
      simp [pending, pendingIn, empty]
    have first : Undisturbed s (.asyncReadTimeout ⟨5, 0, some 7⟩ 50)
        [⟨10, { recv := .received [1] }⟩,
          ⟨30, { recv := .received [2] }⟩] :=
      ⟨timed, quiet, by rintro delay ⟨⟩; simp⟩
    have second : Undisturbed s (.asyncRead ⟨5, 0, none⟩)
        [⟨10, { recv := .received [1] }⟩,
          ⟨30, { recv := .received [2] }⟩] :=
      ⟨untimed, rfl, by rintro delay ⟨⟩⟩
    have bare : (Operation.asyncReadTimeout ⟨5, 0, some 7⟩ 50).bare =
        (Operation.asyncRead ⟨5, 0, none⟩).bare := rfl
    obtain ⟨_, _, same, nothing⟩ := variants_transparent reached idle
      (Or.inl rfl) bare first second 10 20 _ List.prefix_rfl
    rw [returned] at same
    refine ⟨same, returned, (nothing ?_).1⟩
    rw [same]
    exact Option.some_ne_none _

end System

end AsyncFrame
