import AsyncFrame.Pipes
import AsyncFrame.ReactorRefinement

/-!
# One end of a connection in a program

A program with any number of coroutines, of which one at a time transfers on
this connection and this buffer.  Seen from there the program is a session:
its other steps are what happens meanwhile.
-/

namespace AsyncFrame

open AsyncFrame.Lib

variable {queues : TimerQueue}

/-! ## The bytes of one direction -/

/-- The call transfers on this connection in this direction. -/
def SocketCall.isOn (conn : Fd) (way : Direction) : SocketCall → Bool
  | .recv fd _ _ _ => fd = conn && way = .read
  | .send fd _ _ _ => fd = conn && way = .write

/-- The bytes moved on a connection in one direction on the way from one
runtime to a later one, all with this buffer. -/
def Runtime.streamed (port : End) (way : Direction)
    (rt next : Runtime queues) : List UInt8 :=
  ((rt.callsUntil next).filter (SocketCall.isOn port.conn way)).flatMap
    (SocketCall.moved (rt.buffers port.buf).bytes)

namespace Operation

/-- The operation uses the buffer, or transfers on the connection in this
direction. -/
def concerns (port : End) (way : Direction) (operation : Operation) : Bool :=
  operation.buf? = some port.buf ||
    (operation.buf?.isSome && operation.socket? = some (port.conn, way))

/-- The operation transfers on the connection in this direction, with the
buffer. -/
def serves (port : End) (way : Direction) (operation : Operation) : Bool :=
  operation.buf? = some port.buf && operation.socket? = some (port.conn, way)

end Operation

/-- The action sets this buffer. -/
def Action.sets (buf : BufferRef) : Action → Bool
  | .setBuffer other _ => other = buf
  | _ => false

/-- The result in an entry of the trace. -/
def Obs.result? : Obs → Option OpResult
  | .finished _ result => some result
  | _ => none

namespace System

/-- An operation that concerns this end is suspended. -/
def busy (port : End) (way : Direction) (s : System queues) : Bool :=
  s.anyPending fun op => op.operation.concerns port way

/-- The operation that a step resumes. -/
def resumed (s : System queues) (action : Action) : Option OpFrame :=
  (s.completes action).bind fun pointer => s.pending pointer.frame

/-- The buffer and the connection in this direction belong together: an
operation that uses one uses both, and waits alone; the kernel answers it with
what is possible.  Between two operations the buffer may be cleared. -/
def dedicated (port : End) (way : Direction) (s : System queues)
    (action : Action) : Bool :=
  s.keepsPending action &&
    (action.starts?.all fun operation =>
      !operation.concerns port way ||
        (operation.serves port way && !s.busy port way)) &&
    ((s.resumed action).all fun op =>
      !op.operation.serves port way ||
        action.io?.all fun io =>
          op.operation.possible io (s.rt.buffers port.buf).remain) &&
    (!action.sets port.buf ||
      (!s.busy port way &&
        action = .setBuffer port.buf (s.rt.buffers port.buf).clear))

def Dedicated (port : End) (way : Direction) (s : System queues)
    (action : Action) : Prop :=
  s.dedicated port way action = true

instance (port : End) (way : Direction) :
    DecidableRel (@Dedicated queues port way) :=
  fun s action =>
    inferInstanceAs (Decidable (s.dedicated port way action = true))

/-- The result that a step adds to the trace. -/
def newResult (s next : System queues) : Option OpResult :=
  (next.trace.take (next.trace.length - s.trace.length)).findSome?
    Obs.result?

/-- The result of a call at this end, in the step in which it ends. -/
def resultAt (port : End) (way : Direction) (s : System queues)
    (action : Action) : Option OpResult :=
  if (action.starts?.or ((s.resumed action).map OpFrame.operation)).any
      (Operation.serves port way) then
    s.newResult (s.perform action)
  else none

end System

/-- The result that a call of the session returns in this step. -/
def Session.resultOf (conn : Fd) (buf : BufferRef) (session : Session queues)
    (action : SessionAction queues) : Option OpResult :=
  match action with
  | .call _ _ _ => (session.step conn buf action).bind Session.returned
  | .wake _ => (session.step conn buf action).bind Session.returned
  | _ => none

/-! ## What one step does to the runtime -/

namespace System

variable {s next : System queues} {action : Action}

/-- A step leaves the calls and the buffers alone, or starts an operation, or
resumes one. -/
inductive Effect (action : Action) (s next : System queues) : Prop
  | calm
      (nothing : action.starts? = none)
      (asleep : s.completes action = none)
      (pending : next.pending = s.pending)
      (calls : next.rt.calls = s.rt.calls)
      (buffers : next.rt.buffers = s.rt.buffers ∨
        ∃ buf buffer, action = .setBuffer buf buffer ∧
          next.rt =
            { s.rt with
              buffers := Function.update s.rt.buffers buf buffer })
  | starts
      (frame : Addr) (op : OpFrame) (io : Io)
      (starting : action.starts? = some op.operation)
      (free : s.pending frame = none)
      (rt : next.rt = (op.operation.start frame io s.rt).rt)
      (pending : next.pending = Function.update s.pending frame
        (op.after (op.operation.start frame io s.rt)))
      (result : s.newResult next =
        (op.operation.start frame io s.rt).returned)
  | wakes
      (pointer : OpPtr) (op : OpFrame) (io : Io)
      (woken : s.completes action = some pointer)
      (waits : s.pending pointer.frame = some op)
      (answers : action.io? = some io)
      (rt : next.rt =
        (op.operation.wake pointer.frame io op.total s.rt).rt)
      (pending : next.pending = Function.update s.pending pointer.frame
        (op.after (op.operation.wake pointer.frame io op.total s.rt)))
      (result : s.newResult next =
        (op.operation.wake pointer.frame io op.total s.rt).returned)

private theorem newResult_of_trace (added : List Obs)
    (trace : next.trace = added ++ s.trace) :
    s.newResult next = added.findSome? Obs.result? := by
  rw [newResult, trace, List.length_append, Nat.add_sub_cancel,
    List.take_left]

private theorem result_of_marks (s : System queues) (action : Action) :
    (s.marks action).findSome? Obs.result? = none := by
  rw [List.findSome?_eq_none_iff]
  intro mark member
  have unnumbered := marks_unnumbered member
  cases mark <;> first | rfl | cases unnumbered

/-- Completing an operation records its result, if it has one. -/
theorem complete_result {control : Control} {pointer : OpPtr} {op : OpFrame}
    (io : Io) (waits : s.pending pointer.frame = some op)
    (healthy : (op.operation.wake pointer.frame io op.total s.rt).rt.fault =
      none) :
    s.newResult ((s.withMarks control (s.marks action)).complete pointer io) =
      (op.operation.wake pointer.frame io op.total s.rt).returned := by
  have here : (s.withMarks control (s.marks action)).pending pointer.frame =
      some op := waits
  unfold complete
  rw [here]
  simp only [withMarks, healthy, Option.isSome_none, Bool.false_eq_true,
    if_false]
  cases (op.operation.wake pointer.frame io op.total s.rt).returned with
  | none =>
      exact (newResult_of_trace (s.marks action) rfl).trans
        (result_of_marks s action)
  | some result =>
      exact (newResult_of_trace (.resumed op.number result ::
        .finished op.number result :: s.marks action)
          (resumeOuter_trace _ _ _ _)).trans rfl

private theorem await_result {caller frame : Addr} {below : List Addr}
    {operation : Operation} (io : Io) (stack : s.stack = caller :: below) :
    s.newResult (s.await frame operation io) =
      (operation.start frame io s.rt).returned := by
  cases returned : (operation.start frame io s.rt).returned with
  | none =>
      have trace : (s.await frame operation io).trace =
          [.started s.nextNumber operation] ++ s.trace := by
        simp only [await, returned, stack]
        rfl
      exact (newResult_of_trace _ trace).trans rfl
  | some result =>
      have trace : (s.await frame operation io).trace =
          [.wentOn s.nextNumber result, .finished s.nextNumber result,
            .started s.nextNumber operation] ++ s.trace := by
        simp only [await, returned]
        rfl
      exact (newResult_of_trace _ trace).trans rfl

private theorem awaitWithTimeout_result {caller impl frame : Addr}
    {below : List Addr} {wrapped operation : Operation} {delay : Int}
    (io : Io) (stack : s.stack = caller :: below)
    (timeout : wrapped.withTimeout delay = some operation) :
    s.newResult (s.awaitWithTimeout impl frame wrapped delay io) =
      (operation.start frame io s.rt).returned := by
  cases returned : (operation.start frame io s.rt).returned with
  | none =>
      have trace : (s.awaitWithTimeout impl frame wrapped delay io).trace =
          [.started (s.nextNumber + 1) operation,
            .startedWithTimeout s.nextNumber wrapped delay] ++ s.trace := by
        simp only [awaitWithTimeout, timeout, returned, stack]
        rfl
      exact (newResult_of_trace _ trace).trans rfl
  | some result =>
      have trace : (s.awaitWithTimeout impl frame wrapped delay io).trace =
          [.wentOn (s.nextNumber + 1) result,
            .finished (s.nextNumber + 1) result,
            .started (s.nextNumber + 1) operation,
            .startedWithTimeout s.nextNumber wrapped delay] ++ s.trace := by
        simp only [awaitWithTimeout, timeout, returned, stack]
        rfl
      exact (newResult_of_trace _ trace).trans rfl

/-- A step that starts and resumes nothing makes no call, and sets at most one
buffer. -/
theorem calm_runtime (taken : s.step action = some next)
    (nothing : action.starts? = none) (asleep : s.completes action = none) :
    next.rt.calls = s.rt.calls ∧
      (next.rt.buffers = s.rt.buffers ∨
        ∃ buf buffer, action = .setBuffer buf buffer ∧
          next.rt =
            { s.rt with
              buffers := Function.update s.rt.buffers buf buffer }) := by
  obtain ⟨allowed, rfl⟩ := step_eq_some taken
  cases action with
  | setBuffer buf buffer => exact ⟨rfl, Or.inr ⟨buf, buffer, rfl, rfl⟩⟩
  | await frame operation io => cases nothing
  | awaitWithTimeout impl frame wrapped delay io =>
      obtain ⟨_, _, _, _, operation, timeout, _⟩ :=
        enabled_awaitWithTimeout allowed
      rw [Action.starts?, timeout] at nothing
      cases nothing
  | dispatch io =>
      obtain ⟨_, event, evs, fetched, batch⟩ := enabled_dispatch allowed
      obtain ⟨control, _, performed⟩ := dispatch_cases io batch
      rw [performed, asleep]
      exact ⟨rfl, Or.inl rfl⟩
  | dispatchWrite io =>
      obtain ⟨_, writeOp, evs, fetched, half⟩ := enabled_dispatchWrite allowed
      simp [completes, half] at asleep
  | requestCancel token =>
      obtain ⟨counter, called⟩ := requestCancel_files s.rt token allowed
      rw [perform, called]
      exact ⟨rfl, Or.inl rfl⟩
  | _ => exact ⟨rfl, Or.inl rfl⟩

/-- What a step that starts an operation does. -/
theorem effect_of_starts {operation : Operation}
    (taken : s.step action = some next)
    (starting : action.starts? = some operation) : Effect action s next := by
  obtain ⟨allowed, rfl⟩ := step_eq_some taken
  cases action with
  | await frame started io =>
      cases starting
      obtain ⟨⟨caller, below, stack, awake⟩, free, _⟩ := enabled_await allowed
      obtain ⟨rt, _, op, same, pending⟩ :=
        @await_spec queues s caller frame below operation io stack awake free
      subst same
      exact Effect.starts frame op io rfl (pendingIn_of_free free) rt pending
        (await_result io stack)
  | awaitWithTimeout impl frame wrapped delay io =>
      obtain ⟨⟨caller, below, stack, awake⟩, implFree, free, different,
        started, timeout, _⟩ := enabled_awaitWithTimeout allowed
      obtain ⟨rt, _, op, same, pending⟩ :=
        awaitWithTimeout_spec io stack awake implFree free different timeout
      subst same
      exact Effect.starts frame op io timeout (pendingIn_of_free free) rt
        pending (awaitWithTimeout_result io stack timeout)
  | _ => cases starting

private theorem Good.effect_of_completes (good : Good s) {pointer : OpPtr}
    (taken : s.step action = some next)
    (woken : s.completes action = some pointer) : Effect action s next := by
  obtain ⟨op, waits⟩ := good.waits_of_completes woken
  obtain ⟨control, io, answers, rfl⟩ := step_completes taken woken
  have spared := (good.sound.woken io waits
    (good.current_of_completes woken waits)).2
  have healthy : (op.operation.wake pointer.frame io op.total
      s.rt).rt.fault = none := spared.fault.trans good.sound.healthy
  have linked : Linked (s.withMarks control (s.marks action)).frames :=
    good.linked
  have here : (s.withMarks control (s.marks action)).pending pointer.frame =
      some op := waits
  obtain ⟨rt, pending⟩ := complete_spec linked io here healthy
  exact Effect.wakes pointer op io woken waits answers rt pending
    (complete_result io waits healthy)

theorem Good.effect (good : Good s) (keeps : s.keepsPending action = true)
    (taken : s.step action = some next) : Effect action s next := by
  cases woken : s.completes action with
  | some pointer => exact good.effect_of_completes taken woken
  | none =>
      cases starting : action.starts? with
      | some operation => exact effect_of_starts taken starting
      | none =>
          obtain ⟨calls, buffers⟩ := calm_runtime taken starting woken
          refine Effect.calm starting woken ?_ calls buffers
          cases (step_move good keeps taken).1 with
          | calm _ _ pending => exact pending
          | suspends _ _ _ started => cases starting.symm.trans started
          | passes _ _ _ _ _ started => cases starting.symm.trans started
          | ends _ _ _ completed => cases woken.symm.trans completed
          | rounds _ _ _ _ completed => cases woken.symm.trans completed

end System

/-! ## The bytes that one step moves here -/

section

variable {rt next : Runtime queues} {port : End} {way : Direction}
variable {operation : Operation} {self : Addr} {io : Io} {total : Nat}

private theorem Runtime.streamed_of_same (same : next.calls = rt.calls)
    (port : End) (way : Direction) : rt.streamed port way next = [] := by
  simp [Runtime.streamed, Runtime.callsUntil, same]

private theorem Runtime.streamed_of_call {call : SocketCall}
    (made : next.calls = call :: rt.calls) :
    rt.streamed port way next =
      if call.isOn port.conn way then
        call.moved (rt.buffers port.buf).bytes
      else [] := by
  rw [Runtime.streamed, Runtime.callsUntil_cons made, List.filter_singleton]
  cases call.isOn port.conn way with
  | true => exact List.flatMap_singleton _ _
  | false => rfl

private theorem SocketCall.isOn_iff {call : SocketCall} {conn other : Fd}
    {direction : Direction} (here : call.isOn conn direction = true) :
    call.isOn other way = true ↔ conn = other ∧ direction = way := by
  cases call with
  | recv fd offset length outcome =>
      simp only [isOn, Bool.and_eq_true, decide_eq_true_eq] at here ⊢
      rw [here.1, here.2, eq_comm (a := way)]
  | send fd offset length outcome =>
      simp only [isOn, Bool.and_eq_true, decide_eq_true_eq] at here ⊢
      rw [here.1, here.2, eq_comm (a := way)]

namespace Operation

/-- A wake-up makes no call, or one on the operation's own connection in its
own direction. -/
theorem wake_calls (operation : Operation) (self : Addr) (io : Io)
    (total : Nat) (rt : Runtime queues) :
    rt.Silent (operation.wake self io total rt).rt ∨
      ∃ call conn direction, operation.buf?.isSome = true ∧
        operation.socket? = some (conn, direction) ∧
        call.isOn conn direction = true ∧
        (operation.wake self io total rt).rt.calls = call :: rt.calls := by
  have entered := Runtime.Silent.refl rt
  have reads : ∀ base, operation.reads? = some base →
      rt.Silent (operation.wake self io total rt).rt ∨
        ∃ call, call.isOn base.conn .read = true ∧
          (operation.wake self io total rt).rt.calls = call :: rt.calls := by
    intro base reads
    cases received : operation.receives self rt with
    | false => exact Or.inl (wake_misses self io total reads received).1
    | true =>
        have made := (wake_receives self io total reads received).1
        exact Or.inr ⟨_, by simp [SocketCall.isOn], made.calls⟩
  have writes : ∀ base, operation.writes? = some base →
      rt.Silent (operation.wake self io total rt).rt ∨
        ∃ call, call.isOn base.conn .write = true ∧
          (operation.wake self io total rt).rt.calls = call :: rt.calls := by
    intro base writes
    cases sent : operation.sends self rt with
    | false => exact Or.inl (wake_skips self io total writes sent).1
    | true =>
        have made := (wake_sends self io total writes sent).1
        exact Or.inr ⟨_, by simp [SocketCall.isOn], made.calls⟩
  cases operation with
  | asyncRead base =>
      exact (reads base rfl).imp_right fun made =>
        made.elim fun call here => ⟨call, _, _, rfl, rfl, here.1, here.2⟩
  | asyncReadTimeout base delay =>
      exact (reads base rfl).imp_right fun made =>
        made.elim fun call here => ⟨call, _, _, rfl, rfl, here.1, here.2⟩
  | asyncReadSome conn buf =>
      have made := (wake_readSome self conn buf io total rt).1
      exact Or.inr ⟨_, conn, .read, rfl, rfl, by simp [SocketCall.isOn],
        made.calls⟩
  | asyncWrite base =>
      exact (writes base rfl).imp_right fun made =>
        made.elim fun call here => ⟨call, _, _, rfl, rfl, here.1, here.2⟩
  | asyncWriteTimeout base delay =>
      exact (writes base rfl).imp_right fun made =>
        made.elim fun call here => ⟨call, _, _, rfl, rfl, here.1, here.2⟩
  | asyncAccept conn =>
      left
      simp only [wake, resumeOnce, InnerAcceptAwaiter.awaitResume]
      cases io.accept with
      | error errno => exact entered.settle _
      | ok fd => exact entered.settle _
  | asyncConnect conn => exact Or.inl (entered.settle _)
  | waitFor delay => exact Or.inl ((entered.consumeTimer.retimed _).refresh)

/-- What serves an end is a transfer there. -/
theorem serves_iff : operation.serves port way = true ↔
    operation.buf? = some port.buf ∧
      operation.socket? = some (port.conn, way) := by
  simp [serves]

private theorem concerns_of_serves (serves : operation.serves port way = true) :
    operation.concerns port way = true := by
  simp [concerns, (serves_iff.mp serves).1]

private theorem transfers_of_serves
    (serves : operation.serves port way = true) :
    operation.transfers? = some (port.conn, port.buf) := by
  obtain ⟨named, socket⟩ := serves_iff.mp serves
  cases operation <;> simp_all [transfers?, buf?, socket?]

/-- What serves an end in the direction of writes is a write. -/
theorem writes_of_serves (serves : operation.serves port way = true) :
    operation.writes?.isSome = true ↔ way = .write := by
  obtain ⟨named, socket⟩ := serves_iff.mp serves
  cases way <;> cases operation <;> simp_all [writes?, buf?, socket?]

private theorem wake_streamed_of_serves
    (serves : operation.serves port way = true)
    (self : Addr) (io : Io) (total : Nat) (rt : Runtime queues) :
    rt.streamed port way (operation.wake self io total rt).rt =
      rt.movedUntil (operation.wake self io total rt).rt port.buf := by
  obtain ⟨_, socket⟩ := serves_iff.mp serves
  rcases operation.wake_calls self io total rt with
    silent | ⟨call, conn, direction, _, own, here, made⟩
  · rw [Runtime.streamed_of_same silent.calls, silent.movedUntil]
  · rw [socket] at own
    cases own
    rw [Runtime.streamed_of_call made, if_pos here, Runtime.movedUntil,
      Runtime.callsUntil_cons made, List.flatMap_singleton]

private theorem wake_streamed_of_foreign
    (foreign : operation.concerns port way = false) (self : Addr) (io : Io)
    (total : Nat) (rt : Runtime queues) :
    rt.streamed port way (operation.wake self io total rt).rt = [] := by
  rcases operation.wake_calls self io total rt with
    silent | ⟨call, conn, direction, named, own, here, made⟩
  · exact Runtime.streamed_of_same silent.calls port way
  · rw [Runtime.streamed_of_call made, if_neg]
    intro also
    obtain ⟨rfl, rfl⟩ := (SocketCall.isOn_iff here).mp also
    simp [concerns, named, own] at foreign

end Operation

end

/-! ## The program as a session -/

private theorem OpFrame.after_eq_some {op again : OpFrame}
    {stretch : Stretch queues} (waits : op.after stretch = some again) :
    stretch.returned = none ∧ again.operation = op.operation ∧
      again.total = stretch.total := by
  unfold after at waits
  split at waits
  · cases waits
  · rename_i pending
    cases waits
    exact ⟨pending, rfl, rfl⟩

namespace System

variable {s next : System queues} {action : Action}
variable {session : Session queues} {port : End} {way : Direction}

/-- The session is what the caller at this end sees of the program: its call
is the only suspended operation that concerns the end. -/
structure Tracks (port : End) (way : Direction) (s : System queues)
    (session : Session queues) : Prop where
  good : Good s
  rt : session.rt = s.rt
  alone : ∀ frame op, s.pending frame = some op →
    op.operation.concerns port way = true →
      op.operation.serves port way = true ∧
        session.pending = some ⟨frame, op.operation, op.total⟩
  waits : ∀ call, session.pending = some call →
    ∃ op, s.pending call.frame = some op ∧
      op.operation.concerns port way = true

/-- A step of the session that is the same step of the program. -/
structure Matched (port : End) (way : Direction) (s next : System queues)
    (action : Action) (session after : Session queues)
    (act : SessionAction queues) : Prop where
  taken : session.step port.conn port.buf act = some after
  result : session.resultOf port.conn port.buf act =
    s.resultAt port way action
  tracks : Tracks port way next after
  moved : session.movedSince after = s.rt.streamed port way next.rt
  clears : act.clears = action.sets port.buf
  writes : way = .write → act.isWrite = !act.clears
  reads : way = .read → act.isRead = true

private theorem dedicated_iff : Dedicated port way s action ↔
    s.keepsPending action = true ∧
      (∀ operation, action.starts? = some operation →
        operation.concerns port way = true →
          operation.serves port way = true ∧ s.busy port way = false) ∧
      (∀ op io, s.resumed action = some op →
        op.operation.serves port way = true → action.io? = some io →
          op.operation.possible io (s.rt.buffers port.buf).remain = true) ∧
      (action.sets port.buf = true →
        s.busy port way = false ∧
          action = .setBuffer port.buf (s.rt.buffers port.buf).clear) := by
  rw [Dedicated, dedicated, Bool.and_eq_true, Bool.and_eq_true,
    Bool.and_eq_true, Option.all_eq_true, Option.all_eq_true, and_assoc,
    and_assoc]
  simp only [Bool.or_eq_true, Bool.not_eq_true', Bool.and_eq_true,
    Option.all_eq_true, or_iff_not_imp_left, Bool.not_eq_false,
    decide_eq_true_eq]
  refine and_congr_right fun _ => and_congr_right fun _ =>
    and_congr_left fun _ => ?_
  exact ⟨fun answers op io resumed serves given =>
      answers op resumed serves io given,
    fun answers op resumed serves io given =>
      answers op io resumed serves given⟩

private theorem not_busy (idle : s.busy port way = false) {frame : Addr}
    {op : OpFrame} (waits : s.pending frame = some op) :
    op.operation.concerns port way = false :=
  anyPending_eq_false idle waits

private theorem Tracks.idle (tracks : Tracks port way s session)
    (idle : s.busy port way = false) : session.pending = none := by
  cases pending : session.pending with
  | none => rfl
  | some call =>
      obtain ⟨op, waits, concerns⟩ := tracks.waits call pending
      rw [not_busy idle waits] at concerns
      cases concerns

/-- A stretch of an operation that waits alone at this end. -/
theorem Tracks.after {frame : Addr} {op : OpFrame}
    {stretch : Stretch queues} (good : Good next)
    (serves : op.operation.serves port way = true)
    (others : ∀ other old, other ≠ frame → s.pending other = some old →
      old.operation.concerns port way = false)
    (rt : next.rt = stretch.rt)
    (pending : next.pending =
      Function.update s.pending frame (op.after stretch))
    (entered : Session queues) :
    Tracks port way next
      (entered.after port.buf frame op.operation stretch) where
  good := good
  rt := rt.symm
  alone := by
    intro other again waits concerns
    rw [pending] at waits
    by_cases same : other = frame
    · subst same
      rw [Function.update_self] at waits
      obtain ⟨returned, operation, total⟩ := OpFrame.after_eq_some waits
      refine ⟨operation ▸ serves, ?_⟩
      simp only [Session.after, returned, operation, total]
    · rw [Function.update_of_ne same] at waits
      rw [others other again same waits] at concerns
      cases concerns
  waits := by
    intro call waits
    cases returned : stretch.returned with
    | some result => simp [Session.after, returned] at waits
    | none =>
        simp only [Session.after, returned, Option.some.injEq] at waits
        subst waits
        rw [pending, Function.update_self]
        simp only [OpFrame.after, returned]
        exact ⟨_, rfl, Operation.concerns_of_serves serves⟩

/-- A step that leaves the buffer and the calls at this end alone. -/
theorem Tracks.meanwhile (tracks : Tracks port way s session)
    (good : Good next)
    (buffer : next.rt.buffers port.buf = s.rt.buffers port.buf)
    (result : s.resultAt port way action = none)
    (streamed : s.rt.streamed port way next.rt = [])
    (sets : action.sets port.buf = false)
    (kept : ∀ frame op, op.operation.concerns port way = true →
      (next.pending frame = some op ↔ s.pending frame = some op)) :
    ∃ after,
      Matched port way s next action session after
        (.meanwhile fun _ => next.rt) := by
  refine ⟨{ session with rt := next.rt }, ?_, result.symm, ⟨good, rfl, ?_, ?_⟩,
    ?_, sets.symm, fun _ => rfl, fun _ => rfl⟩
  · rw [Session.step, tracks.rt, if_pos buffer]
  · intro frame op waits concerns
    exact tracks.alone frame op ((kept frame op concerns).mp waits) concerns
  · intro call pending
    obtain ⟨op, waits, concerns⟩ := tracks.waits call pending
    exact ⟨op, (kept call.frame op concerns).mpr waits, concerns⟩
  · rw [streamed]
    exact List.drop_length

/-- The buffer is cleared between two calls. -/
theorem Tracks.clear (tracks : Tracks port way s session)
    (good : Good next)
    (idle : s.busy port way = false)
    (action_eq : action =
      .setBuffer port.buf (s.rt.buffers port.buf).clear)
    (pending : next.pending = s.pending)
    (rt : next.rt =
      { s.rt with
        buffers := Function.update s.rt.buffers port.buf
          (s.rt.buffers port.buf).clear })
    (result : s.resultAt port way action = none)
    (streamed : s.rt.streamed port way next.rt = []) :
    ∃ after, Matched port way s next action session after .clear := by
  have nothing := tracks.idle idle
  refine ⟨_, by rw [Session.step, nothing]; rfl, result.symm,
    ⟨good, ?_, ?_, ?_⟩, ?_, ?_, fun _ => rfl, fun _ => rfl⟩
  · rw [rt, Session.buffer, tracks.rt]
  · intro frame op waits concerns
    rw [pending] at waits
    rw [not_busy idle waits] at concerns
    cases concerns
  · intro call waits
    cases waits
  · rw [streamed]
    exact List.drop_nil
  · rw [action_eq]
    exact (decide_eq_true rfl).symm

/-- The caller at this end starts an operation. -/
theorem Tracks.call (tracks : Tracks port way s session)
    (good : Good next) (performed : next = s.perform action)
    (idle : s.busy port way = false) {frame : Addr} {op : OpFrame} {io : Io}
    (starting : action.starts? = some op.operation)
    (serves : op.operation.serves port way = true)
    (rt : next.rt = (op.operation.start frame io s.rt).rt)
    (pending : next.pending = Function.update s.pending frame
      (op.after (op.operation.start frame io s.rt)))
    (result : s.newResult next =
      (op.operation.start frame io s.rt).returned)
    (sets : action.sets port.buf = false) :
    ∃ after,
      Matched port way s next action session after
        (.call frame op.operation io) := by
  have nothing := tracks.idle idle
  have silent : s.rt.Silent (op.operation.start frame io s.rt).rt :=
    (Operation.start_outcomes tracks.good.sound.inOrder.settled
      op.operation frame io).1
  have taken : session.step port.conn port.buf
      (.call frame op.operation io) =
        some
          (({ session with
              returned := none
              entry := session.buffer port.buf
              callMoved := [] } : Session queues).after port.buf frame
            op.operation (op.operation.start frame io s.rt)) := by
    rw [Session.step, if_pos, tracks.rt]
    exact ⟨Option.isNone_iff_eq_none.mpr nothing,
      Operation.transfers_of_serves serves⟩
  refine ⟨_, taken, ?_, Tracks.after good serves ?_ rt pending _, ?_,
    sets.symm, ?_, ?_⟩
  · rw [Session.resultOf, taken, resultAt, starting, Option.some_or,
      Option.any_some, serves, if_pos rfl, ← performed, result]
    rfl
  · intro other old _ waits
    exact not_busy idle waits
  · have moved : session.rt.movedUntil (op.operation.start frame io s.rt).rt
        port.buf = [] := by
      rw [tracks.rt]
      exact silent.movedUntil port.buf
    rw [rt, Runtime.streamed_of_same silent.calls, Session.movedSince,
      ← moved]
    exact List.drop_left
  · intro writes
    exact (Operation.writes_of_serves serves).mpr writes
  · rintro rfl
    have reads : op.operation.writes?.isSome = false := by
      rw [Bool.eq_false_iff]
      intro writes
      cases (Operation.writes_of_serves serves).mp writes
    exact Option.isSome_eq_false_iff.mp reads

/-- The caller's operation is resumed. -/
theorem Tracks.wake (tracks : Tracks port way s session)
    (good : Good next) (performed : next = s.perform action)
    {pointer : OpPtr} {op : OpFrame} {io : Io}
    (woken : s.completes action = some pointer)
    (waits : s.pending pointer.frame = some op)
    (serves : op.operation.serves port way = true)
    (possible : op.operation.possible io (s.rt.buffers port.buf).remain =
      true)
    (rt : next.rt = (op.operation.wake pointer.frame io op.total s.rt).rt)
    (pending : next.pending = Function.update s.pending pointer.frame
      (op.after (op.operation.wake pointer.frame io op.total s.rt)))
    (result : s.newResult next =
      (op.operation.wake pointer.frame io op.total s.rt).returned)
    (sets : action.sets port.buf = false) :
    ∃ after, Matched port way s next action session after (.wake io) := by
  have here := (tracks.alone pointer.frame op waits
    (Operation.concerns_of_serves serves)).2
  have nothing : action.starts? = none := by
    cases action <;> first | rfl | cases woken
  have taken : session.step port.conn port.buf (.wake io) =
      some (session.after port.buf pointer.frame op.operation
        (op.operation.wake pointer.frame io op.total s.rt)) := by
    simp only [Session.step, here]
    rw [if_pos, tracks.rt]
    rw [Session.buffer, tracks.rt]
    exact possible
  have resumed : s.resumed action = some op := by
    rw [System.resumed, woken]
    exact waits
  refine ⟨_, taken, ?_, Tracks.after good serves ?_ rt pending _, ?_,
    sets.symm, fun _ => rfl, fun _ => rfl⟩
  · rw [Session.resultOf, taken, resultAt, nothing, resumed, Option.none_or,
      Option.map_some, Option.any_some, serves, if_pos rfl, ← performed,
      result]
    rfl
  · intro other old different otherWaits
    by_contra concerns
    rw [Bool.not_eq_false] at concerns
    have also := (tracks.alone other old otherWaits concerns).2
    rw [here, Option.some.injEq, Pending.mk.injEq] at also
    exact different also.1.symm
  · rw [rt, Operation.wake_streamed_of_serves serves, Session.movedSince,
      ← tracks.rt]
    exact List.drop_left

/-- A stretch of an operation elsewhere changes none that concerns this
end. -/
theorem kept_of_foreign {frame : Addr} {op : OpFrame}
    {stretch : Stretch queues}
    (foreign : op.operation.concerns port way = false)
    (was : ∀ old, s.pending frame = some old →
      old.operation.concerns port way = false)
    (pending : next.pending =
      Function.update s.pending frame (op.after stretch))
    (other : Addr) (again : OpFrame)
    (concerns : again.operation.concerns port way = true) :
    next.pending other = some again ↔ s.pending other = some again := by
  rw [pending]
  by_cases same : other = frame
  · subst same
    rw [Function.update_self]
    constructor
    · intro waits
      rw [(OpFrame.after_eq_some waits).2.1, foreign] at concerns
      cases concerns
    · intro waits
      rw [was again waits] at concerns
      cases concerns
  · rw [Function.update_of_ne same]

private theorem serves_eq_false {operation : Operation}
    (foreign : operation.concerns port way = false) :
    operation.serves port way = false := by
  rw [Bool.eq_false_iff]
  intro serves
  rw [Operation.concerns_of_serves serves] at foreign
  cases foreign

/-- Each step of the program is a step of the session. -/
theorem Tracks.step (tracks : Tracks port way s session)
    (dedicated : Dedicated port way s action)
    (taken : s.step action = some next) :
    ∃ act after, Matched port way s next action session after act := by
  obtain ⟨keeps, starts, answers, sets⟩ := dedicated_iff.mp dedicated
  have good := (step_move tracks.good keeps taken).2
  have performed := (step_eq_some taken).2
  cases tracks.good.effect keeps taken with
  | calm nothing asleep pending calls buffers =>
      have result : s.resultAt port way action = none := by
        rw [resultAt, nothing, resumed, asleep]
        rfl
      have streamed := Runtime.streamed_of_same calls port way
      cases set : action.sets port.buf with
      | true =>
          obtain ⟨idle, clears⟩ := sets set
          refine ⟨_, tracks.clear good idle clears pending ?_ result
            streamed⟩
          rw [performed, clears]
          rfl
      | false =>
          refine ⟨_, tracks.meanwhile good ?_ result streamed set
            fun _ _ _ => by rw [pending]⟩
          rcases buffers with same | ⟨buf, buffer, rfl, rt⟩
          · rw [same]
          · rw [rt]
            exact Function.update_of_ne (Ne.symm (of_decide_eq_false set)) _ _
  | starts frame op io starting free rt pending result =>
      have set : action.sets port.buf = false := by
        cases action <;> first | rfl | cases starting
      cases concerns : op.operation.concerns port way with
      | true =>
          obtain ⟨serves, idle⟩ := starts op.operation starting concerns
          exact ⟨_, tracks.call good performed idle starting serves rt
            pending result set⟩
      | false =>
          have silent : s.rt.Silent
              (op.operation.start frame io s.rt).rt :=
            (Operation.start_outcomes tracks.good.sound.inOrder.settled
              op.operation frame io).1
          refine ⟨_, tracks.meanwhile good ?_ ?_ ?_ set
            (kept_of_foreign concerns (fun old waits => ?_) pending)⟩
          · rw [rt, silent.buffers]
          · rw [resultAt, starting, Option.some_or, Option.any_some,
              serves_eq_false concerns]
            rfl
          · rw [rt]
            exact Runtime.streamed_of_same silent.calls port way
          · cases free.symm.trans waits
  | wakes pointer op io woken waits given rt pending result =>
      have set : action.sets port.buf = false := by
        cases action <;> first | rfl | cases woken
      have back : s.resumed action = some op := by
        rw [resumed, woken]
        exact waits
      cases concerns : op.operation.concerns port way with
      | true =>
          have serves := (tracks.alone pointer.frame op waits concerns).1
          exact ⟨_, tracks.wake good performed woken waits serves
            (answers op io back serves given) rt pending result set⟩
      | false =>
          have nothing : action.starts? = none := by
            cases action <;> first | rfl | cases woken
          have kept :=
            (tracks.good.resumeOnce_leaves io woken waits).files
          have elsewhere : op.operation.buf? ≠ some port.buf := by
            intro named
            simp [Operation.concerns, named] at concerns
          refine ⟨_, tracks.meanwhile good ?_ ?_ ?_ set
            (kept_of_foreign concerns (fun old here => ?_) pending)⟩
          · rw [rt]
            exact (Operation.wake_confined kept).others port.buf elsewhere
          · rw [resultAt, nothing, back, Option.none_or, Option.map_some,
              Option.any_some, serves_eq_false concerns]
            rfl
          · rw [rt]
            exact Operation.wake_streamed_of_foreign concerns _ io _ _
          · rw [waits] at here
            cases here
            exact concerns

/-! ## Whole runs -/

theorem Tracks.start {start : System queues} (good : Good start)
    (idle : start.busy port way = false) :
    Tracks port way start (.begin port.buf start.rt) where
  good := good
  rt := rfl
  alone := by
    intro frame op waits concerns
    rw [not_busy idle waits] at concerns
    cases concerns
  waits := by
    rintro call ⟨⟩

private theorem Tracks.pending_iff (tracks : Tracks port way s session)
    (call : Pending) :
    session.pending = some call ↔
      ∃ op, s.pending call.frame = some op ∧
        op.operation.serves port way = true ∧
        op.operation = call.operation ∧ op.total = call.total := by
  constructor
  · intro pending
    obtain ⟨op, waits, concerns⟩ := tracks.waits call pending
    obtain ⟨serves, here⟩ := tracks.alone call.frame op waits concerns
    have same := Option.some.inj (pending.symm.trans here)
    exact ⟨op, waits, serves, (congrArg Pending.operation same).symm,
      (congrArg Pending.total same).symm⟩
  · rintro ⟨op, waits, serves, operation, total⟩
    have here := (tracks.alone call.frame op waits
      (Operation.concerns_of_serves serves)).2
    rw [here, operation, total]

/-- From any reachable state in which nothing waits at an end, as long as its
buffer and its connection in one direction are used together, by one
operation at a time: the program is a session there.  Some run of the session
has the same runtime and the same pending call at its end, and its calls have
returned the same results in the same order. -/
theorem refines_session {timerFd : Fd} {uptime : Nat}
    {buffers : BufferRef → Buffer} {before actions : List Action}
    {start : System queues} (port : End) (way : Direction)
    (reached : Reaches KeepsPending timerFd uptime buffers before start)
    (idle : start.busy port way = false)
    (led : Leads (Dedicated port way) start actions s) :
    ∃ acts session,
      runFrom (Session.step port.conn port.buf)
        (.begin port.buf start.rt) acts = some session ∧
      observed (Session.step port.conn port.buf)
          (Session.resultOf port.conn port.buf)
          (.begin port.buf start.rt) acts =
        observed step (resultAt port way) start actions ∧
      session.rt = s.rt ∧
      ∀ call, session.pending = some call ↔
        ∃ op, s.pending call.frame = some op ∧
          op.operation.serves port way = true ∧
          op.operation = call.operation ∧ op.total = call.total := by
  have good : Good start := reached.good fun _ _ keeps => keeps
  obtain ⟨acts, session, run, results, tracks⟩ :=
    showing_of_run (Tracks port way)
      (fun tracks dedicated taken => by
        obtain ⟨act, after, matched⟩ := tracks.step dedicated taken
        exact ⟨act, after, matched.taken, matched.result, matched.tracks⟩)
      (Tracks.start good idle) led.1 led.2
  exact ⟨acts, session, run, results, tracks.rt, tracks.pending_iff⟩

/-- A read gets one byte and times out while another coroutine waits for
another connection; the buffer is cleared and read into again. -/
theorem refines_session_sample :
    ∃ s : System TimerQueue.sorted,
      Reaches (Dedicated ⟨5, 0⟩ .read) 3 100 (fun _ => ⟨[0, 0, 0], 0⟩)
        [.openFd 5 .socket, .openFd 6 .socket, .spawn 1,
          .await 10 (.asyncReadTimeout ⟨5, 0, none⟩ 50) {}, .spawn 2,
          .awaitWithTimeout 20 21 (.asyncReadSome 6 1) 30 {}, .run,
          .epollWait [⟨EPOLLIN, 5⟩], .dispatch { recv := .received [7] },
          .batchEnd, .tick 60, .epollWait [⟨EPOLLIN, 3⟩], .dispatch {},
          .setBuffer 0 ⟨[7, 0, 0], 0⟩, .await 11 (.asyncReadSome 5 0) {},
          .batchEnd, .epollWait [⟨EPOLLIN, 5⟩],
          .dispatch { recv := .received [8, 9] }] s ∧
      ∃ acts session,
        runFrom (Session.step 5 0)
          (.begin 0 (initial .sorted 3 100 fun _ => ⟨[0, 0, 0], 0⟩).rt)
            acts = some session ∧
        observed (Session.step 5 0) (Session.resultOf 5 0)
          (.begin 0 (initial .sorted 3 100 fun _ => ⟨[0, 0, 0], 0⟩).rt)
            acts = [.transfer timeoutError 1, .transfer 0 2] ∧
        session.rt = s.rt := by
  have results : observed step (resultAt ⟨5, 0⟩ .read)
      (initial TimerQueue.sorted 3 100 fun _ => ⟨[0, 0, 0], 0⟩)
      [.openFd 5 .socket, .openFd 6 .socket, .spawn 1,
        .await 10 (.asyncReadTimeout ⟨5, 0, none⟩ 50) {}, .spawn 2,
        .awaitWithTimeout 20 21 (.asyncReadSome 6 1) 30 {}, .run,
        .epollWait [⟨EPOLLIN, 5⟩], .dispatch { recv := .received [7] },
        .batchEnd, .tick 60, .epollWait [⟨EPOLLIN, 3⟩], .dispatch {},
        .setBuffer 0 ⟨[7, 0, 0], 0⟩, .await 11 (.asyncReadSome 5 0) {},
        .batchEnd, .epollWait [⟨EPOLLIN, 5⟩],
        .dispatch { recv := .received [8, 9] }] =
      [.transfer timeoutError 1, .transfer 0 2] := by
    decide +kernel
  refine (exists_reaches (fun _ => true) ?_ ?_).imp
    fun s both => ⟨both.1, ?_⟩
  · decide +kernel
  · decide +kernel
  · have first : Reaches KeepsPending 3 100 (fun _ => ⟨[0, 0, 0], 0⟩) []
        (initial TimerQueue.sorted 3 100 fun _ => ⟨[0, 0, 0], 0⟩) :=
      ⟨trivial, rfl⟩
    obtain ⟨acts, session, run, same, rt, _⟩ :=
      refines_session ⟨5, 0⟩ .read first (by decide) both.1
    exact ⟨acts, session, run, same.trans results, rt⟩

end System

end AsyncFrame
