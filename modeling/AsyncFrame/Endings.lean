import AsyncFrame.Connecting
import AsyncFrame.Deadlines

/-!
# How calls on sockets end

What each builder does for every answer of the kernel, the two ways in which a
call may end, and what the step in which a suspended connect is resumed leaves
of its socket.
-/

namespace AsyncFrame

/-! ## What the builders do -/

def PtonOutcome.isConverted : PtonOutcome → Bool
  | .converted _ => true
  | _ => false

/-- The address needs no conversion, or is converted. -/
def PtonOutcome.accepts (pton : PtonOutcome) : Option (List Char) → Bool
  | none => true
  | some [] => true
  | some (_ :: _) => pton.isConverted

namespace Kernel

/-- `socket` fails. -/
def refuses (kernel : Kernel) : Bool :=
  match kernel.socket with
  | .error _ => true
  | .ok _ => false

/-- The address is accepted both times. -/
def parses (kernel : Kernel) (ip : Option (List Char)) : Bool :=
  kernel.inetPton.accepts ip && kernel.inetPtonAgain.accepts ip

/-- `bind` and `listen` succeed. -/
def listens (kernel : Kernel) : Bool :=
  kernel.bind.isNone && kernel.listen.isNone

end Kernel

/-- The call neither opens nor closes. -/
def Syscall.Inert (call : Syscall) : Prop :=
  call.opened? = none ∧ call.closed? = none

section Builders

variable (family : Family) (protocal : Protocal) (port : Int)
variable (ip : Option (List Char)) (kernel : Kernel)

private theorem FamilyTraits.parse_cases (pton : PtonOutcome) :
    pton.accepts ip = true ∧
        (∃ addr, parse family port ip pton = .ok addr) ∨
      pton.accepts ip = false ∧
        ∃ exception, parse family port ip pton = .error exception := by
  rcases ip with _ | _ | ⟨first, rest⟩
  · exact Or.inl ⟨rfl, _, rfl⟩
  · exact Or.inl ⟨rfl, _, rfl⟩
  · cases pton with
    | converted addr => exact Or.inl ⟨rfl, _, rfl⟩
    | notAnAddress => exact Or.inr ⟨rfl, _, rfl⟩
    | failed errno => exact Or.inr ⟨rfl, _, rfl⟩

private theorem createSock_of_refused (refused : kernel.refuses = true) :
    createSock family protocal port ip kernel =
      throw (.runtimeError "socket() failed" none) := by
  unfold Kernel.refuses at refused
  split at refused
  · rename_i errno socket
    simp only [createSock, socket]
  · cases refused

theorem BuilderClient_of_refused (refused : kernel.refuses = true) :
    (BuilderClient family protocal port ip kernel).outcome =
      (.error (.runtimeError "socket() failed" none), []) := by
  simp only [BuilderClient, buildClient,
    createSock_of_refused family protocal port ip kernel refused]
  rfl

/-- With a socket a client is built, or the socket is all there is. -/
theorem BuilderClient_of_socket {fd : Fd} (socket : kernel.socket = .ok fd) :
    (kernel.parses ip = true ∧ ∃ addr,
      (BuilderClient family protocal port ip kernel).outcome =
        (.ok (fd, addr), [.socket family protocal fd])) ∨
    (kernel.parses ip = false ∧ ∃ exception,
      (BuilderClient family protocal port ip kernel).outcome =
        (.error exception, [.socket family protocal fd])) := by
  simp only [BuilderClient, buildClient, createSock, socket, Kernel.parses]
  rcases FamilyTraits.parse_cases family port ip kernel.inetPton with
    ⟨accepted, addr, parsed⟩ | ⟨rejected, exception, thrown⟩
  · rcases FamilyTraits.parse_cases family port ip kernel.inetPtonAgain with
      ⟨acceptedAgain, again, parsedAgain⟩ | ⟨rejected, exception, thrown⟩
    · left
      rw [accepted, acceptedAgain, parsed, parsedAgain]
      exact ⟨rfl, again, rfl⟩
    · right
      rw [accepted, rejected, parsed, thrown]
      exact ⟨rfl, exception, rfl⟩
  · right
    rw [rejected, thrown]
    exact ⟨rfl, exception, rfl⟩

theorem BuilderServer_of_refused (refused : kernel.refuses = true) :
    (BuilderServer family protocal port ip kernel).outcome =
      (.error (.runtimeError "socket() failed" none), []) := by
  simp only [BuilderServer, buildListener,
    createSock_of_refused family protocal port ip kernel refused]
  rfl

/-- With a socket a listener is built, or an exception is thrown and the
socket stays as it is. -/
theorem BuilderServer_of_socket {fd : Fd} (socket : kernel.socket = .ok fd) :
    ((kernel.parses ip && kernel.listens) = true ∧ ∃ last,
      (∀ call ∈ last, call.Inert) ∧
      (BuilderServer family protocal port ip kernel).outcome =
        (.ok fd, .socket family protocal fd :: last)) ∨
    ((kernel.parses ip && kernel.listens) = false ∧ ∃ exception last,
      (∀ call ∈ last, call.Inert) ∧
      (BuilderServer family protocal port ip kernel).outcome =
        (.error exception, .socket family protocal fd :: last)) := by
  simp only [BuilderServer, buildListener, createSock, socket,
    Kernel.parses, Kernel.listens]
  rcases FamilyTraits.parse_cases family port ip kernel.inetPton with
    ⟨accepted, addr, parsed⟩ | ⟨rejected, exception, thrown⟩
  · rcases FamilyTraits.parse_cases family port ip kernel.inetPtonAgain with
      ⟨acceptedAgain, again, parsedAgain⟩ | ⟨rejected, exception, thrown⟩
    · have bound : Syscall.Inert (.bind fd again) := ⟨rfl, rfl⟩
      have listening : Syscall.Inert (.listen fd MAX_LISTEN_SOCKET) :=
        ⟨rfl, rfl⟩
      rw [accepted, acceptedAgain, parsed, parsedAgain]
      cases kernel.bind with
      | some errno =>
          exact Or.inr ⟨rfl, _, [.bind fd again], by simpa using bound, rfl⟩
      | none =>
          cases kernel.listen with
          | some errno =>
              exact Or.inr ⟨rfl, _,
                [.bind fd again, .listen fd MAX_LISTEN_SOCKET],
                by simpa using ⟨bound, listening⟩, rfl⟩
          | none =>
              exact Or.inl ⟨rfl,
                [.bind fd again, .listen fd MAX_LISTEN_SOCKET],
                by simpa using ⟨bound, listening⟩, rfl⟩
    · right
      rw [accepted, rejected, parsed, thrown]
      exact ⟨rfl, exception, [], by simp, rfl⟩
  · right
    rw [rejected, thrown]
    exact ⟨rfl, exception, [], by simp, rfl⟩

end Builders

/-! ## How a call ends -/

namespace Ended

variable {queues : TimerQueue} {call : Ended} {s : System queues}

/-- One socket was opened; it is open, and the returned `Connection` has it,
without an error. -/
def Succeeded (call : Ended) (s : System queues) : Prop :=
  ∃ fd, call.ending = .returned 0 (some fd) ∧ call.opened = [fd] ∧
    call.closed = [] ∧ s.rt.files fd = .socket

/-- There is an error code or an exception, and every socket that was opened
was closed exactly once. -/
structure Failed (call : Ended) (s : System queues) : Prop where
  told : (∃ ec, ec ≠ 0 ∧ call.ending = .returned ec none) ∨
    ∃ exception, call.ending = .thrown exception
  balanced : call.closed.Perm call.opened
  gone : ∀ fd ∈ call.opened, s.rt.files fd = .closed

/-- The scheduler has no interest left in the sockets of the call. -/
def Forgotten (call : Ended) (s : System queues) : Prop :=
  ∀ fd ∈ call.opened, s.rt.scheduler.fdToOp.lookup fd = none ∧
    s.rt.scheduler.epollManager.interest.lookup fd = none

/-- The call has ended in exactly one of the two ways. -/
def Proper (call : Ended) (s : System queues) : Prop :=
  Xor (call.Succeeded s) (call.Failed s) ∧ call.Forgotten s

theorem Succeeded.proper (succeeded : call.Succeeded s)
    (forgotten : call.Forgotten s) : call.Proper s := by
  refine ⟨Or.inl ⟨succeeded, ?_⟩, forgotten⟩
  intro failed
  obtain ⟨fd, ending, _⟩ := succeeded
  rcases failed.told with ⟨ec, _, here⟩ | ⟨exception, here⟩
  · rw [ending] at here
    cases here
  · rw [ending] at here
    cases here

theorem Failed.proper (failed : call.Failed s)
    (forgotten : call.Forgotten s) : call.Proper s := by
  refine ⟨Or.inr ⟨failed, ?_⟩, forgotten⟩
  intro succeeded
  rcases (succeeded.proper forgotten).1 with ⟨_, other⟩ | ⟨_, other⟩
  · exact other failed
  · exact other succeeded

/-- An exception before any socket was opened. -/
theorem proper_of_nothing (exception : Exception) :
    Proper ⟨[], .thrown exception⟩ s := by
  apply Failed.proper
  · exact ⟨Or.inr ⟨exception, rfl⟩, List.Perm.nil,
      fun fd member => by cases member⟩
  · exact fun fd member => by cases member

/-- An exception that leaves a socket open. -/
theorem not_proper_of_leak {exception : Exception} {fd : Fd}
    (ending : call.ending = .thrown exception) (opened : call.opened = [fd])
    (closed : call.closed = []) : ¬call.Proper s := by
  rintro ⟨⟨succeeded, _⟩ | ⟨failed, _⟩, _⟩
  · obtain ⟨_, here, _⟩ := succeeded
    rw [ending] at here
    cases here
  · have balanced := failed.balanced.length_eq
    rw [opened, closed] at balanced
    cases balanced

theorem opened_of_inert (first : Syscall) {last : List Syscall}
    (ending : Ending) (inert : ∀ call ∈ last, call.Inert) :
    opened ⟨first :: last, ending⟩ = first.opened?.toList ∧
      closed ⟨first :: last, ending⟩ = first.closed?.toList := by
  have opens : last.filterMap Syscall.opened? = [] :=
    List.filterMap_eq_nil_iff.mpr fun call member => (inert call member).1
  have closes : last.filterMap Syscall.closed? = [] :=
    List.filterMap_eq_nil_iff.mpr fun call member => (inert call member).2
  constructor
  · simp only [opened, List.filterMap_cons, opens]
    cases first.opened? <;> rfl
  · simp only [closed, List.filterMap_cons, closes]
    cases first.closed? <;> rfl

end Ended

namespace System

variable {queues : TimerQueue} {s : System queues}

theorem serve_of_inert {calls : List Syscall}
    (inert : ∀ call ∈ calls, call.Inert) : calls.foldl serve s = s := by
  induction calls with
  | nil => rfl
  | cons call rest ih =>
      have first := inert call List.mem_cons_self
      have same : s.serve call = s := by
        cases call with
        | socket family protocal fd => cases first.1
        | close fd => cases first.2
        | _ => rfl
      rw [List.foldl_cons, same]
      exact ih fun later member => inert later (List.mem_cons_of_mem _ member)

/-- Nothing is left of a descriptor that no suspended operation uses. -/
theorem Good.forgotten (good : Good s) {fd : Fd}
    (plain : fd ≠ s.rt.timer.fd)
    (unused : ∀ frame op, s.pending frame = some op →
      op.operation.touches fd = false) :
    s.rt.scheduler.fdToOp.lookup fd = none ∧
      s.rt.scheduler.epollManager.interest.lookup fd = none := by
  have agrees := good.sound.inOrder.agrees
  have table := Scheduler.lookup_eq_none_of_unused agrees
    (good.sound.unregistered plain unused)
  rw [agrees.mirror, table]
  exact ⟨rfl, rfl⟩

/-- A descriptor that is not in use. -/
theorem Good.unused_of_closed (good : Good s) {fd : Fd}
    (closed : s.rt.files fd = .closed) :
    fd ≠ s.rt.timer.fd ∧ ∀ frame op, s.pending frame = some op →
      op.operation.touches fd = false := by
  constructor
  · rintro rfl
    rw [good.sound.inOrder.timerFile] at closed
    cases closed
  · intro frame op waits
    cases touched : op.operation.touches fd with
    | false => rfl
    | true =>
        have file := good.sound.file_of_touched waits touched
        simp [closed, File.isEventFd] at file

theorem Good.close (good : Good s) {fd : Fd} (plain : fd ≠ s.rt.timer.fd)
    (unused : ∀ frame op, s.pending frame = some op →
      op.operation.touches fd = false) :
    Good (s.perform (.closeFd fd)) := by
  obtain ⟨move, fetched⟩ := closeFd_move good plain unused
  exact ⟨move.sound good.sound, good.linked, fetched⟩

theorem Good.opened (good : Good s) {fd : Fd}
    (closed : s.rt.files fd = .closed) :
    Good (s.perform (.openFd fd .socket)) := by
  obtain ⟨move, fetched⟩ := openFd_move good closed .socket
  exact ⟨move.sound good.sound, good.linked, fetched⟩

end System

/-- The socket was opened, and has not been closed. -/
def ConnectAwait.Holding (this : ConnectAwait) : Prop :=
  this.calls.filterMap Syscall.opened? = [this.conn] ∧
    this.calls.filterMap Syscall.closed? = []

/-! ## A connect is resumed -/

namespace System

variable {queues : TimerQueue} {s next : System queues} {action : Action}

/-- A connect that is resumed ends with what `connect_error` found. -/
theorem complete_connect {pointer : OpPtr} {op : OpFrame} {conn : Fd}
    (io : Io) (waits : s.pending pointer.frame = some op)
    (connects : op.operation = .asyncConnect conn)
    (healthy : (s.complete pointer io).rt.fault = none) :
    (s.complete pointer io).rt = s.rt.removeConnect conn ∧
      (s.complete pointer io).resumedWith =
        some (.connected io.soError) := by
  have woken : op.operation.wake pointer.frame io op.total s.rt =
      ⟨s.rt.removeConnect conn, op.total, some (.connected io.soError)⟩ := by
    rw [connects]
    rfl
  unfold complete at healthy ⊢
  simp only [waits, woken] at healthy ⊢
  by_cases failed : (s.rt.removeConnect conn).fault.isSome = true
  · rw [if_pos failed] at healthy
    rw [healthy] at failed
    cases failed
  · rw [if_neg failed] at healthy ⊢
    simp only [resumeOuter] at healthy ⊢
    cases found : s.frames.lookup op.outer with
    | none =>
        rw [found] at healthy
        cases healthy
    | some outer =>
        rw [found] at healthy
        cases outer with
        | user awaits => exact ⟨rfl, rfl⟩
        | withTimeoutImpl number awaits result => exact ⟨rfl, rfl⟩
        | op other => cases healthy

/-- The step in which a connect is resumed. -/
theorem Good.connect_resumed (good : Good s)
    (keeps : s.keepsPending action = true)
    (taken : s.step action = some next) {pointer : OpPtr}
    {op : OpFrame} {conn : Fd} (woken : s.completes action = some pointer)
    (waits : s.pending pointer.frame = some op)
    (connects : op.operation = .asyncConnect conn) :
    (∃ io, action.io? = some io ∧
        next.resumedWith = some (.connected io.soError)) ∧
      next.pending = Function.update s.pending pointer.frame none ∧
      next.rt.files conn = .socket := by
  have goodNext := (step_move good keeps taken).2
  obtain ⟨control, io, answers, performed⟩ := step_completes taken woken
  obtain ⟨other, otherAnswers, ended⟩ := good.completed taken woken waits
  have healthy := goodNext.sound.healthy
  rw [performed] at healthy
  obtain ⟨rt, resumed⟩ := complete_connect
    (s := s.withMarks control (s.marks action)) io waits connects healthy
  refine ⟨⟨io, answers, ?_⟩, ?_, ?_⟩
  · rw [performed]
    exact resumed
  · rw [connects] at ended
    exact ended
  · have kept := (good.resumeOnce_leaves io woken waits).files
    have fits := (good.sound.fits pointer.frame op waits).kept kept
    have file := fits.socket conn .write (by rw [connects]; rfl)
    rw [connects] at file
    rw [performed, rt]
    exact file

end System

end AsyncFrame
