import AsyncFrame.Endings

/-!
# No socket is leaked

How the calls of `BuilderServer` and the `co_await`s of `async_connect` end,
over whole runs of a program that does anything else in between.  A builder
that throws after `socket` has succeeded leaves its socket open; every other
way closes it or hands it over.
-/

namespace AsyncFrame

open Lib

/-! ## What a run keeps -/

namespace Sockets

variable {queues : TimerQueue} {s next : Sockets queues} {action : Action}

/-- Whatever call the last step ended, it ended in one of the two ways. -/
def NoLeak (s : Sockets queues) : Prop :=
  ∀ call, s.ended = some call → call.Proper s.system

/-- The suspended connects are those of the `connect_await` objects.  Each has
opened its socket and not closed it, and no other operation uses that. -/
structure Kept (s : Sockets queues) : Prop where
  good : System.Good s.system
  suspended : ∀ frame this, s.connecting.lookup frame = some this →
    ∃ op, s.system.pending frame = some op ∧
      op.operation = .asyncConnect this.conn
  known : ∀ frame op conn, s.system.pending frame = some op →
    op.operation = .asyncConnect conn →
      (s.connecting.lookup frame).isSome = true
  calls : ∀ frame this, s.connecting.lookup frame = some this →
    this.Holding
  alone : ∀ frame this other op, s.connecting.lookup frame = some this →
    s.system.pending other = some op →
      op.operation.touches this.conn = true → other = frame

private theorem kept_initial (queues : TimerQueue) (timerFd : Fd) (uptime : Nat)
    (buffers : BufferRef → Buffer) :
    Kept (initial queues timerFd uptime buffers) where
  good := System.good_initial queues timerFd uptime buffers
  suspended frame this found := by
    simp [initial] at found
  known frame op conn waits connects := by
    simp [initial, System.pending, System.initial, pendingIn] at waits
  calls frame this found := by
    simp [initial] at found
  alone frame this other op found := by
    simp [initial] at found

private theorem step_eq_some (taken : s.step action = some next) :
    s.enabled action = true ∧ next = s.perform action := by
  unfold step at taken
  split at taken
  · rename_i both
    cases taken
    exact ⟨both.2, rfl⟩
  · cases taken

/-- The suspended operations stay, or change to ones that no connect knows
of. -/
theorem Kept.of_pending (kept : Kept s) {system : System queues}
    (ended : Option Ended) (good : System.Good system)
    (stays : ∀ frame this op, s.connecting.lookup frame = some this →
      s.system.pending frame = some op → ∃ after,
        system.pending frame = some after ∧ after.operation = op.operation)
    (before : ∀ frame op, system.pending frame = some op →
      (∃ old, s.system.pending frame = some old ∧
        old.operation = op.operation) ∨
      op.operation.connects? = none ∧
        ∀ other this, s.connecting.lookup other = some this →
          op.operation.touches this.conn = false) :
    Kept { s with system := system, ended := ended } where
  good := good
  suspended frame this found := by
    obtain ⟨op, waits, connects⟩ := kept.suspended frame this found
    obtain ⟨after, stays, same⟩ := stays frame this op found waits
    exact ⟨after, stays, same.trans connects⟩
  known frame op conn waits connects := by
    rcases before frame op waits with ⟨old, oldWaits, same⟩ | ⟨other, _⟩
    · exact kept.known frame old conn oldWaits (same.trans connects)
    · rw [connects] at other
      cases other
  calls := kept.calls
  alone frame this other op found waits touched := by
    rcases before other op waits with ⟨old, oldWaits, same⟩ | ⟨_, spared⟩
    · rw [← same] at touched
      exact kept.alone frame this other old found oldWaits touched
    · rw [spared frame this found] at touched
      cases touched

/-- The suspended operations are what they were. -/
theorem Kept.still (kept : Kept s) {system : System queues}
    (ended : Option Ended) (good : System.Good system)
    (pending : system.pending = s.system.pending) :
    Kept { s with system := system, ended := ended } := by
  apply kept.of_pending ended good
  · intro frame this op _ waits
    exact ⟨op, (congrFun pending frame).trans waits, rfl⟩
  · intro frame op waits
    exact Or.inl ⟨op, (congrFun pending frame).symm.trans waits, rfl⟩

/-- One suspended operation, which is no connect, comes, goes or changes. -/
theorem Kept.changes (kept : Kept s) {system : System queues} {frame : Addr}
    {changed : Option OpFrame} (good : System.Good system)
    (absent : s.connecting.lookup frame = none)
    (pending : system.pending =
      Function.update s.system.pending frame changed)
    (before : ∀ op, changed = some op →
      (∃ old, s.system.pending frame = some old ∧
        old.operation = op.operation) ∨
      op.operation.connects? = none ∧
        ∀ other this, s.connecting.lookup other = some this →
          op.operation.touches this.conn = false) :
    Kept { s with system := system, ended := none } := by
  apply kept.of_pending none good
  · intro other this op found waits
    refine ⟨op, ?_, rfl⟩
    rw [pending, Function.update_of_ne]
    · exact waits
    · intro same
      rw [same, absent] at found
      cases found
  · intro other op waits
    rw [pending] at waits
    by_cases same : other = frame
    · rw [same, Function.update_self] at waits
      rw [same]
      exact before op waits
    · rw [Function.update_of_ne same] at waits
      exact Or.inl ⟨op, waits, rfl⟩

/-- A connect has ended, and its object is gone. -/
theorem Kept.erase (kept : Kept s) {system : System queues} {frame : Addr}
    (ended : Option Ended) (good : System.Good system)
    (pending : system.pending =
      Function.update s.system.pending frame none) :
    Kept ⟨system, s.connecting.erase frame, ended⟩ := by
  have elsewhere : ∀ other this,
      (s.connecting.erase frame).lookup other = some this →
        other ≠ frame ∧ s.connecting.lookup other = some this := by
    intro other this found
    by_cases same : other = frame
    · rw [same, Finmap.lookup_erase] at found
      cases found
    · rw [Finmap.lookup_erase_ne same] at found
      exact ⟨same, found⟩
  have waited : ∀ other op, system.pending other = some op →
      other ≠ frame ∧ s.system.pending other = some op := by
    intro other op waits
    rw [pending] at waits
    by_cases same : other = frame
    · rw [same, Function.update_self] at waits
      cases waits
    · rw [Function.update_of_ne same] at waits
      exact ⟨same, waits⟩
  refine ⟨good, ?_, ?_, ?_, ?_⟩
  · intro other this found
    obtain ⟨different, before⟩ := elsewhere other this found
    obtain ⟨op, waits, connects⟩ := kept.suspended other this before
    refine ⟨op, ?_, connects⟩
    rw [pending, Function.update_of_ne different]
    exact waits
  · intro other op conn waits connects
    obtain ⟨different, before⟩ := waited other op waits
    rw [Finmap.lookup_erase_ne different]
    exact kept.known other op conn before connects
  · intro other this found
    exact kept.calls other this (elsewhere other this found).2
  · intro other this third op found waits
    exact kept.alone other this third op (elsewhere other this found).2
      (waited third op waits).2

/-- A connect is suspended on a socket that no other operation uses. -/
theorem Kept.insert (kept : Kept s) {system : System queues} {frame : Addr}
    {op : OpFrame} {this : ConnectAwait} (good : System.Good system)
    (pending : system.pending =
      Function.update s.system.pending frame (some op))
    (connects : op.operation = .asyncConnect this.conn)
    (calls : this.Holding)
    (unused : ∀ other op, s.system.pending other = some op →
      op.operation.touches this.conn = false) :
    Kept ⟨system, s.connecting.insert frame this, none⟩ := by
  have spared : ∀ other that, s.connecting.lookup other = some that →
      op.operation.touches that.conn = false := by
    intro other that found
    obtain ⟨before, waits, connectsThat⟩ := kept.suspended other that found
    cases touched : op.operation.touches that.conn with
    | false => rfl
    | true =>
        have same : this.conn = that.conn := by
          simpa [connects, Operation.touches, Operation.socket?,
            Operation.token?] using touched
        have clear := unused other before waits
        rw [connectsThat, ← same] at clear
        simp [Operation.touches, Operation.socket?] at clear
  refine ⟨good, ?_, ?_, ?_, ?_⟩
  · intro other that found
    rw [pending]
    by_cases same : other = frame
    · rw [same, Finmap.lookup_insert] at found
      cases found
      exact ⟨op, by rw [same, Function.update_self], connects⟩
    · rw [Finmap.lookup_insert_of_ne _ same] at found
      rw [Function.update_of_ne same]
      exact kept.suspended other that found
  · intro other before conn waits connectsHere
    by_cases same : other = frame
    · rw [same, Finmap.lookup_insert]
      rfl
    · rw [pending, Function.update_of_ne same] at waits
      rw [Finmap.lookup_insert_of_ne _ same]
      exact kept.known other before conn waits connectsHere
  · intro other that found
    by_cases same : other = frame
    · rw [same, Finmap.lookup_insert] at found
      cases found
      exact calls
    · rw [Finmap.lookup_insert_of_ne _ same] at found
      exact kept.calls other that found
  · intro other that third later found waits touched
    rw [pending] at waits
    by_cases same : other = frame
    · rw [same, Finmap.lookup_insert] at found
      cases found
      by_cases own : third = frame
      · rw [own, same]
      · rw [Function.update_of_ne own] at waits
        rw [unused third later waits] at touched
        cases touched
    · rw [Finmap.lookup_insert_of_ne _ same] at found
      by_cases own : third = frame
      · rw [own, Function.update_self] at waits
        cases waits
        rw [spared other that found] at touched
        cases touched
      · rw [Function.update_of_ne own] at waits
        exact kept.alone other that third later found waits touched

/-- `await_resume` of a connect whose socket nobody else uses. -/
theorem awaitResume_proper {system : System queues}
    (good : System.Good system) {this : ConnectAwait}
    (calls : this.Holding)
    (file : system.rt.files this.conn = .socket)
    (unused : ∀ frame op, system.pending frame = some op →
      op.operation.touches this.conn = false) (ec : ErrorCode) :
    System.Good ((this.awaitResume ec).1.foldl System.serve system) ∧
      ((this.awaitResume ec).1.foldl System.serve system).pending =
        system.pending ∧
      Ended.Proper
        ⟨this.calls ++ (this.awaitResume ec).1, (this.awaitResume ec).2⟩
        ((this.awaitResume ec).1.foldl System.serve system) := by
  have plain : this.conn ≠ system.rt.timer.fd := by
    intro same
    rw [same, good.sound.inOrder.timerFile] at file
    cases file
  unfold ConnectAwait.awaitResume
  split
  · rename_i error
    have opened : Ended.opened ⟨this.calls ++ [.close this.conn],
        .returned ec none⟩ = [this.conn] := by
      simp [Ended.opened, calls.1, Syscall.opened?]
    have closed : Ended.closed ⟨this.calls ++ [.close this.conn],
        .returned ec none⟩ = [this.conn] := by
      simp [Ended.closed, calls.2, Syscall.closed?]
    have after := good.close plain unused
    refine ⟨after, rfl, ?_⟩
    apply Ended.Failed.proper
    · refine ⟨Or.inl ⟨ec, error, rfl⟩, ?_, ?_⟩
      · rw [opened, closed]
      · intro fd member
        rw [opened, List.mem_singleton] at member
        rw [member]
        exact Function.update_self _ _ _
    · intro fd member
      rw [opened, List.mem_singleton] at member
      rw [member]
      exact after.forgotten plain unused
  · have opened : Ended.opened ⟨this.calls ++ [],
        .returned 0 (some this.conn)⟩ = [this.conn] := by
      simp [Ended.opened, calls.1]
    have closed : Ended.closed ⟨this.calls ++ [],
        .returned 0 (some this.conn)⟩ = [] := by
      simp [Ended.closed, calls.2]
    refine ⟨good, rfl, ?_⟩
    apply Ended.Succeeded.proper
    · exact ⟨this.conn, rfl, opened, closed, file⟩
    · intro fd member
      rw [opened, List.mem_singleton] at member
      rw [member]
      exact good.forgotten plain unused

/-! ## Steps of the program -/

private theorem discreet_spec (kept : Kept s) {action : AsyncFrame.Action}
    {operation : Operation} (discreet : s.discreet action = true)
    (starting : action.starts? = some operation) :
    operation.connects? = none ∧
      ∀ frame this, s.connecting.lookup frame = some this →
        operation.touches this.conn = false := by
  simp only [Sockets.discreet, starting, Option.all_some, Bool.and_eq_true,
    Bool.not_eq_true', Option.isNone_iff_eq_none] at discreet
  refine ⟨discreet.1, ?_⟩
  intro frame this found
  obtain ⟨op, waits, connects⟩ := kept.suspended frame this found
  have spared := System.anyPending_eq_false discreet.2 waits
  rw [connects] at spared
  exact spared

/-- A step that resumes no connect. -/
theorem Kept.unresumed (kept : Kept s) {action : AsyncFrame.Action}
    {system : System queues} (move : System.Move action s.system system)
    (good : System.Good system) (discreet : s.discreet action = true)
    (nothing : s.resumes action = none) :
    Kept { s with system := system, ended := none } := by
  have absent : ∀ pointer, s.system.completes action = some pointer →
      s.connecting.lookup pointer.frame = none := by
    intro pointer woken
    simpa [resumes, woken] using nothing
  cases move with
  | calm _ _ pending => exact kept.still none good pending
  | passes _ _ _ _ _ _ _ _ _ pending =>
      exact kept.still none good pending
  | suspends frame op _ starting _ free _ _ pending =>
      apply kept.changes good _ pending
      · intro fresh same
        cases same
        exact Or.inr (discreet_spec kept discreet starting)
      · cases found : s.connecting.lookup frame with
        | none => rfl
        | some this =>
            obtain ⟨other, waits, _⟩ := kept.suspended frame this found
            rw [System.pending, pendingIn_of_free free] at waits
            cases waits
  | ends pointer op _ woken _ pending =>
      apply kept.changes good (absent pointer woken) pending
      intro fresh same
      cases same
  | rounds pointer op again _ woken waiting operation _ _ _ pending =>
      apply kept.changes good (absent pointer woken) pending
      intro fresh same
      cases same
      exact Or.inl ⟨op, waiting, operation.symm⟩

/-- When its connect is resumed, nothing else waits for the socket. -/
theorem Kept.unused_of_resumed (kept : Kept s) {frame : Addr}
    {this : ConnectAwait} (found : s.connecting.lookup frame = some this)
    {next : System queues}
    (pending : next.pending =
      Function.update s.system.pending frame none) :
    ∀ other op, next.pending other = some op →
      op.operation.touches this.conn = false := by
  intro other later otherWaits
  rw [pending] at otherWaits
  cases touched : later.operation.touches this.conn with
  | false => rfl
  | true =>
      by_cases own : other = frame
      · rw [own, Function.update_self] at otherWaits
        cases otherWaits
      · rw [Function.update_of_ne own] at otherWaits
        exact absurd
          (kept.alone frame this other later found otherWaits touched) own

/-- Any action of the program leaks nothing, and ends the connect that it
resumes. -/
theorem Kept.program (kept : Kept s) {action : AsyncFrame.Action}
    (keeps : s.system.keepsPending action = true)
    (allowed : s.system.enabled action = true)
    (discreet : s.discreet action = true) :
    Kept (s.program action) ∧ NoLeak (s.program action) ∧
      ∀ pointer op conn, s.system.completes action = some pointer →
        s.system.pending pointer.frame = some op →
          op.operation = .asyncConnect conn →
            (s.program action).ended.isSome = true := by
  have taken : s.system.step action = some (s.system.perform action) :=
    if_pos ⟨kept.good.sound.healthy, allowed⟩
  obtain ⟨move, good⟩ := System.step_move kept.good keeps taken
  cases resumed : s.resumes action with
  | none =>
      have performed : s.program action =
          { s with
            system := s.system.perform action
            ended := none } := by
        simp only [Sockets.program, resumed]
      rw [performed]
      refine ⟨kept.unresumed move good discreet resumed, ?_, ?_⟩
      · intro call found
        cases found
      · intro pointer op conn woken waits connects
        have known := kept.known pointer.frame op conn waits connects
        have absent : s.connecting.lookup pointer.frame = none := by
          simpa [resumes, woken] using resumed
        rw [absent] at known
        cases known
  | some pair =>
      obtain ⟨frame, this⟩ := pair
      obtain ⟨pointer, woken, found, rfl⟩ : ∃ pointer,
          s.system.completes action = some pointer ∧
            s.connecting.lookup pointer.frame = some this ∧
              pointer.frame = frame := by
        simp only [resumes, Option.bind_eq_some_iff,
          Option.map_eq_some_iff, Prod.mk.injEq] at resumed
        obtain ⟨pointer, woken, that, found, same, rfl⟩ := resumed
        exact ⟨pointer, woken, found, same⟩
      obtain ⟨op, waits, connects⟩ :=
        kept.suspended pointer.frame this found
      obtain ⟨⟨io, _, result⟩, pending, file⟩ :=
        kept.good.connect_resumed keeps taken woken waits connects
      have unused := kept.unused_of_resumed found pending
      obtain ⟨after, still, proper⟩ := awaitResume_proper good
        (kept.calls pointer.frame this found) file unused io.soError
      have performed : s.program action =
          { s with
            system := s.system.perform action
            connecting := s.connecting.erase pointer.frame }.conclude
              this.calls (this.awaitResume io.soError) := by
        simp only [Sockets.program, resumed, result]
        rfl
      rw [performed]
      refine ⟨kept.erase _ after (still.trans pending), ?_, ?_⟩
      · intro call found
        cases found
        exact proper
      · exact fun _ _ _ _ _ _ => rfl

/-! ## Calls of the library -/

private theorem noLeak_iff {call : Ended} (ended : s.ended = some call) :
    NoLeak s ↔ call.Proper s.system := by
  constructor
  · exact fun lawful => lawful call ended
  · intro proper other found
    rw [ended] at found
    cases found
    exact proper

/-- A socket has just been opened. -/
theorem Kept.opened (kept : Kept s) {fd : Fd}
    (closed : s.system.rt.files fd = .closed) :
    System.Good (s.system.perform (.openFd fd .socket)) ∧
      (s.system.perform (.openFd fd .socket)).rt.files fd = .socket ∧
      fd ≠ s.system.rt.timer.fd ∧
      ∀ frame op, s.system.pending frame = some op →
        op.operation.touches fd = false := by
  obtain ⟨plain, unused⟩ := kept.good.unused_of_closed closed
  exact ⟨kept.good.opened closed, Function.update_self _ _ _, plain,
    unused⟩

variable {family : Family} {protocal : Protocal} {port : Int}
variable {ip : Option (List Char)} {kernel : Kernel} {frame : Addr}

/-- A call ends that has opened one socket, and done nothing else to it. -/
theorem conclude_of_inert {fd : Fd} {last : List Syscall} (ending : Ending)
    (inert : ∀ call ∈ last, call.Inert) :
    s.conclude [] (.socket family protocal fd :: last, ending) =
      { s with
        system := s.system.perform (.openFd fd .socket)
        ended := some ⟨.socket family protocal fd :: last, ending⟩ } := by
  have served : (.socket family protocal fd :: last).foldl System.serve
      s.system = s.system.perform (.openFd fd .socket) :=
    System.serve_of_inert inert
  simp only [conclude, served, List.nil_append]

/-- An exception is thrown that leaves a socket open. -/
theorem Kept.leaks (kept : Kept s) {fd : Fd}
    (closed : s.system.rt.files fd = .closed) {last : List Syscall}
    (exception : Exception) (inert : ∀ call ∈ last, call.Inert) :
    Kept (s.conclude []
        (.socket family protocal fd :: last, .thrown exception)) ∧
      ¬NoLeak (s.conclude []
        (.socket family protocal fd :: last, .thrown exception)) := by
  rw [conclude_of_inert _ inert]
  refine ⟨kept.still _ (kept.opened closed).1 rfl, ?_⟩
  rw [noLeak_iff rfl]
  obtain ⟨opened, closes⟩ := Ended.opened_of_inert
    (.socket family protocal fd) (.thrown exception) inert
  exact Ended.not_proper_of_leak rfl opened closes

/-- An exception is thrown before there is a socket. -/
theorem Kept.throws (kept : Kept s) (exception : Exception) :
    Kept (s.conclude [] ([], .thrown exception)) ∧
      NoLeak (s.conclude [] ([], .thrown exception)) := by
  refine ⟨kept.still _ kept.good rfl, ?_⟩
  rw [noLeak_iff rfl]
  exact Ended.proper_of_nothing exception

private theorem Kept.builderServer (kept : Kept s)
    (allots : s.allots kernel = true) :
    Kept (s.builderServer family protocal port ip kernel) ∧
      (s.builderServer family protocal port ip kernel).ended.isSome = true ∧
      (NoLeak (s.builderServer family protocal port ip kernel) ↔
        (kernel.refuses || kernel.parses ip && kernel.listens) = true) := by
  unfold Sockets.builderServer
  cases socket : kernel.socket with
  | error errno =>
      have refused : kernel.refuses = true := by
        simp only [Kernel.refuses, socket]
      rw [BuilderServer_of_refused family protocal port ip kernel refused,
        refused]
      obtain ⟨after, lawful⟩ :=
        kept.throws (.runtimeError "socket() failed" none)
      exact ⟨after, rfl, iff_of_true lawful rfl⟩
  | ok fd =>
      have refused : kernel.refuses = false := by
        simp only [Kernel.refuses, socket]
      have closed : s.system.rt.files fd = .closed := by
        simpa [Sockets.allots, socket] using allots
      rw [refused, Bool.false_or]
      rcases BuilderServer_of_socket family protocal port ip kernel socket
        with ⟨accepted, last, inert, outcome⟩ |
          ⟨rejected, exception, last, inert, outcome⟩
      · obtain ⟨good, file, plain, unused⟩ := kept.opened closed
        rw [outcome, accepted]
        simp only [conclude_of_inert _ inert]
        refine ⟨kept.still _ good rfl, rfl, iff_of_true ?_ trivial⟩
        rw [noLeak_iff rfl]
        obtain ⟨opened, closes⟩ := Ended.opened_of_inert
          (.socket family protocal fd) (.returned 0 (some fd)) inert
        apply Ended.Succeeded.proper
        · exact ⟨fd, rfl, opened, closes, file⟩
        · intro other member
          rw [opened] at member
          rw [List.mem_singleton.mp member]
          exact good.forgotten plain unused
      · rw [outcome, rejected]
        obtain ⟨after, leaked⟩ := kept.leaks closed exception inert
        exact ⟨after, rfl, iff_of_false leaked (by decide)⟩

/-- The connect is settled at once, or its coroutine is suspended. -/
theorem start_connect (self : Addr) (io : Io) (rt : Runtime queues)
    (conn : Fd) :
    (∃ ec, Operation.start self io rt (.asyncConnect conn) =
      ⟨rt, 0, some (.connected ec)⟩) ∨
    (Operation.start self io rt (.asyncConnect conn)).returned = none := by
  simp only [Operation.start]
  cases tryConnect io.connect with
  | connected => exact Or.inl ⟨0, rfl⟩
  | error => exact Or.inl ⟨io.connect, rfl⟩
  | inProgress => exact Or.inr rfl

section Built

variable {fd : Fd} {addr : SockAddr}

/-- A built connect that is settled at once. -/
theorem asyncConnect_of_settled {result : OpResult}
    (outcome : (BuilderClient family protocal port ip kernel).outcome =
      (.ok (fd, addr), [.socket family protocal fd]))
    (settled : (Operation.start frame { connect := kernel.connect }
      (s.system.perform (.openFd fd .socket)).rt
        (.asyncConnect fd)).returned = some result) :
    s.asyncConnect frame family protocal ip port kernel =
      { s with
        system := (s.system.perform (.openFd fd .socket)).await frame
          (.asyncConnect fd) { connect := kernel.connect } }.conclude
        [.socket family protocal fd, .connect fd addr]
        (ConnectAwait.awaitResume
          ⟨fd, addr, [.socket family protocal fd, .connect fd addr]⟩
            result.ec) := by
  have built : [Syscall.socket family protocal fd].foldl System.serve
      s.system = s.system.perform (.openFd fd .socket) := rfl
  simp only [Sockets.asyncConnect, outcome, built, settled]
  rfl

/-- A built connect that is suspended. -/
theorem asyncConnect_of_suspended
    (outcome : (BuilderClient family protocal port ip kernel).outcome =
      (.ok (fd, addr), [.socket family protocal fd]))
    (suspended : (Operation.start frame { connect := kernel.connect }
      (s.system.perform (.openFd fd .socket)).rt
        (.asyncConnect fd)).returned = none) :
    s.asyncConnect frame family protocal ip port kernel =
      ⟨(s.system.perform (.openFd fd .socket)).await frame
          (.asyncConnect fd) { connect := kernel.connect },
        s.connecting.insert frame
          ⟨fd, addr, [.socket family protocal fd, .connect fd addr]⟩,
        none⟩ := by
  have built : [Syscall.socket family protocal fd].foldl System.serve
      s.system = s.system.perform (.openFd fd .socket) := rfl
  simp only [Sockets.asyncConnect, outcome, built, suspended]
  rfl

/-- `co_await` of a `connect_await` that has been built. -/
theorem Kept.connectAwait (kept : Kept s)
    (running : s.system.runningFrame.isSome = true)
    (free : s.system.frames.lookup frame = none)
    (closed : s.system.rt.files fd = .closed)
    (outcome : (BuilderClient family protocal port ip kernel).outcome =
      (.ok (fd, addr), [.socket family protocal fd])) :
    Kept (s.asyncConnect frame family protocal ip port kernel) ∧
      ((s.asyncConnect frame family protocal ip port
          kernel).ended.isSome = true ∨
        ((s.asyncConnect frame family protocal ip port
          kernel).connecting.lookup frame).isSome = true) ∧
      NoLeak (s.asyncConnect frame family protocal ip port kernel) := by
  obtain ⟨caller, below, stack, awake⟩ :=
    System.runningFrame_isSome running
  obtain ⟨good, file, plain, unused⟩ := kept.opened closed
  let built := s.system.perform (.openFd fd .socket)
  let io : Io := { connect := kernel.connect }
  let this : ConnectAwait :=
    ⟨fd, addr, [.socket family protocal fd, .connect fd addr]⟩
  have calls : this.Holding := ⟨rfl, rfl⟩
  have admitted : built.admits (.asyncConnect fd) = true := by
    simp [System.admits, Operation.fits, Operation.socket?,
      Operation.token?, Operation.deadlineAt, Operation.delay?, file, built]
  have allowed : built.enabled (.await frame (.asyncConnect fd) io) =
      true := by
    simp only [System.enabled, admitted, Bool.and_true, Bool.and_eq_true,
      decide_eq_true_eq]
    exact ⟨running, free⟩
  have taken : built.step (.await frame (.asyncConnect fd) io) =
      some (built.await frame (.asyncConnect fd) io) :=
    if_pos ⟨good.sound.healthy, allowed⟩
  have awaited := (System.step_move good rfl taken).2
  rcases start_connect frame io built.rt fd with ⟨ec, started⟩ | suspended
  · have kernelSame : (built.await frame (.asyncConnect fd) io).rt =
        built.rt := by
      simp only [System.await, started]
    have pendingSame :
        (built.await frame (.asyncConnect fd) io).pending =
          s.system.pending := by
      simp only [System.await, started]
      rfl
    rw [← kernelSame] at file
    rw [← pendingSame] at unused
    obtain ⟨concluded, still, proper⟩ :=
      awaitResume_proper awaited calls file unused ec
    rw [asyncConnect_of_settled outcome (congrArg Stretch.returned started)]
    refine ⟨kept.still _ concluded (still.trans pendingSame),
      Or.inl rfl, ?_⟩
    rw [noLeak_iff rfl]
    exact proper
  · have pendingNow : ∃ op : OpFrame, op.operation = .asyncConnect fd ∧
        (built.await frame (.asyncConnect fd) io).pending =
          Function.update s.system.pending frame (some op) := by
      have stackSame : built.stack = caller :: below := stack
      simp only [System.await, suspended, stackSame]
      exact ⟨_, rfl, pendingIn_suspend awake free⟩
    obtain ⟨op, connects, pending⟩ := pendingNow
    rw [asyncConnect_of_suspended outcome suspended]
    refine ⟨kept.insert awaited pending connects calls unused,
      Or.inr ?_, ?_⟩
    · rw [Finmap.lookup_insert]
      rfl
    · intro call found
      cases found

end Built

private theorem Kept.asyncConnect (kept : Kept s)
    (running : s.system.runningFrame.isSome = true)
    (free : s.system.frames.lookup frame = none)
    (allots : s.allots kernel = true) :
    Kept (s.asyncConnect frame family protocal ip port kernel) ∧
      ((s.asyncConnect frame family protocal ip port
          kernel).ended.isSome = true ∨
        ((s.asyncConnect frame family protocal ip port
          kernel).connecting.lookup frame).isSome = true) ∧
      (NoLeak (s.asyncConnect frame family protocal ip port kernel) ↔
        (kernel.refuses || kernel.parses ip) = true) := by
  cases socket : kernel.socket with
  | error errno =>
      have refused : kernel.refuses = true := by
        simp only [Kernel.refuses, socket]
      simp only [Sockets.asyncConnect, refused, Bool.true_or,
        BuilderClient_of_refused family protocal port ip kernel refused]
      obtain ⟨after, lawful⟩ :=
        kept.throws (.runtimeError "socket() failed" none)
      exact ⟨after, Or.inl rfl, iff_of_true lawful trivial⟩
  | ok fd =>
      have refused : kernel.refuses = false := by
        simp only [Kernel.refuses, socket]
      have closed : s.system.rt.files fd = .closed := by
        simpa [Sockets.allots, socket] using allots
      rw [refused, Bool.false_or]
      rcases BuilderClient_of_socket family protocal port ip kernel socket
        with ⟨accepted, addr, outcome⟩ | ⟨rejected, exception, outcome⟩
      · obtain ⟨after, ends, lawful⟩ :=
          kept.connectAwait running free closed outcome
        exact ⟨after, ends, iff_of_true lawful accepted⟩
      · have inert : ∀ call ∈ ([] : List Syscall), call.Inert := by
          intro call member
          cases member
        simp only [Sockets.asyncConnect, outcome, rejected]
        obtain ⟨after, leaked⟩ := kept.leaks closed exception inert
        exact ⟨after, Or.inl rfl, iff_of_false leaked (by decide)⟩

/-! ## Whole runs -/

/-- The side condition of a run in which nothing suspended is destroyed. -/
def KeepsPending (s : Sockets queues) (action : Action) : Prop :=
  s.keepsPending action = true

instance : DecidableRel (@KeepsPending queues) :=
  fun s action => inferInstanceAs (Decidable (s.keepsPending action = true))

/-- `socket` fails, or the address is accepted and, for a listener, `bind` and
`listen` succeed. -/
def Action.careful : Action → Bool
  | .builderServer _ _ _ ip kernel =>
      kernel.refuses || kernel.parses ip && kernel.listens
  | .asyncConnect _ _ _ ip _ kernel => kernel.refuses || kernel.parses ip
  | .program _ _ => true

/-- A call of `BuilderServer` has ended; a `co_await` of `async_connect` has
ended or is suspended, and has ended once it is resumed. -/
def Answers (s : Sockets queues) (action : Action) (next : Sockets queues) :
    Prop :=
  match action with
  | .builderServer _ _ _ _ _ => next.ended.isSome = true
  | .asyncConnect frame _ _ _ _ _ =>
      next.ended.isSome = true ∨
        (next.connecting.lookup frame).isSome = true
  | .program action _ =>
      ∀ pointer op conn, s.system.completes action = some pointer →
        s.system.pending pointer.frame = some op →
          op.operation = .asyncConnect conn → next.ended.isSome = true

/-- Every step keeps the invariant and answers its call, and it leaks nothing
exactly if it is careful. -/
theorem Kept.step (kept : Kept s) (keeps : s.KeepsPending action)
    (taken : s.step action = some next) :
    Kept next ∧ Answers s action next ∧
      (NoLeak next ↔ action.careful = true) := by
  obtain ⟨allowed, rfl⟩ := step_eq_some taken
  cases action with
  | builderServer family protocal port ip kernel =>
      simp only [enabled, Bool.and_eq_true] at allowed
      exact kept.builderServer allowed.2
  | asyncConnect frame family protocal ip port kernel =>
      simp only [enabled, Bool.and_eq_true, decide_eq_true_eq] at allowed
      exact kept.asyncConnect allowed.1.1 allowed.1.2 allowed.2
  | program action getsockopt =>
      simp only [enabled, Bool.and_eq_true] at allowed
      let answered := action.answering (connectError getsockopt)
      have keepsNow : s.system.keepsPending answered = true := by
        cases action <;> exact keeps
      have allowedNow : s.system.enabled answered = true := by
        cases action <;> exact allowed.1
      have discreetNow : s.discreet answered = true := by
        cases action <;> exact allowed.2
      have same : s.system.completes answered =
          s.system.completes action := by
        cases action <;> rfl
      obtain ⟨after, lawful, ends⟩ :=
        kept.program keepsNow allowedNow discreetNow
      rw [same] at ends
      exact ⟨after, ends, iff_of_true lawful rfl⟩

variable {timerFd : Fd} {uptime : Nat} {buffers : BufferRef → Buffer}
variable {actions : List Action}

/-- In every run in which no `Task` is destroyed while an operation inside it
is suspended, all calls of `BuilderServer` and all `co_await`s of
`async_connect` end properly if and only if every step is careful; and they do
end, a `co_await` when it is resumed at the latest. -/
theorem noLeak_iff_careful
    (keeps : Meets step KeepsPending
      (initial queues timerFd uptime buffers) actions)
    (run : runFrom step (initial queues timerFd uptime buffers) actions =
      some s) :
    (Throughout step NoLeak (initial queues timerFd uptime buffers) actions ↔
      Meets step (fun _ action => action.careful = true)
        (initial queues timerFd uptime buffers) actions) ∧
    ∀ action next, s.KeepsPending action → s.step action = some next →
      Answers s action next := by
  have start : Kept (initial queues timerFd uptime buffers) :=
    kept_initial queues timerFd uptime buffers
  constructor
  · apply throughout_iff_meets_of_run Kept NoLeak _
      (fun kept keeps taken => (kept.step keeps taken).1)
      (fun kept keeps taken _ => (kept.step keeps taken).2.2)
      start _ keeps run
    intro call found
    cases found
  · have kept : Kept s := invariant_of_run Kept
      (fun kept keeps taken => (kept.step keeps taken).1) start keeps run
    intro action next keepsNext taken
    exact (kept.step keepsNext taken).2.1

/-- A listener is built; a connect is suspended, and then refused. -/
def refusedRun : List Action :=
  [.builderServer .ipv4 .tcp 7899 none { socket := .ok 5 },
    .program (.spawn 1) (.ok 0),
    .asyncConnect 10 .ipv4 .tcp (some ['x']) 80
      { socket := .ok 6
        inetPton := .converted [127, 0, 0, 1]
        inetPtonAgain := .converted [127, 0, 0, 1]
        connect := EINPROGRESS },
    .program .run (.ok 0),
    .program (.epollWait [⟨EPOLLOUT, 6⟩]) (.ok 0),
    .program (.dispatch {}) (.ok 0),
    .program (.dispatchWrite {}) (.ok 111)]

theorem noLeak_iff_careful_sample :
    ∃ s : Sockets TimerQueue.sorted,
      runFrom step (initial .sorted 3 100 fun _ => ⟨[], 0⟩) refusedRun =
          some s ∧
        s.system.rt.files 5 = .socket ∧ s.system.rt.files 6 = .closed ∧
        Throughout step NoLeak (initial .sorted 3 100 fun _ => ⟨[], 0⟩)
          refusedRun := by
  have computed : (runFrom step (initial .sorted 3 100 fun _ => ⟨[], 0⟩)
      refusedRun).any (fun s =>
        decide (s.system.rt.files 5 = .socket) &&
          decide (s.system.rt.files 6 = .closed)) = true := by
    decide +kernel
  obtain ⟨s, run, passed⟩ := (Option.any_eq_true _ _).mp computed
  simp only [Bool.and_eq_true, decide_eq_true_eq] at passed
  have keeps : Meets step KeepsPending
      (initial .sorted 3 100 fun _ => ⟨[], 0⟩) refusedRun := by
    decide +kernel
  refine ⟨s, run, passed.1, passed.2, ?_⟩
  exact (noLeak_iff_careful keeps run).1.mpr (by decide +kernel)

/-- A port that is in use, and then a text that is no address: both calls throw
and leave their sockets open. -/
theorem noLeak_counterexample :
    ∃ s : Sockets TimerQueue.sorted,
      runFrom step (initial .sorted 3 100 fun _ => ⟨[], 0⟩)
          [.builderServer .ipv4 .tcp 7899 none
              { socket := .ok 5, bind := some 98 },
            .program (.spawn 1) (.ok 0),
            .asyncConnect 10 .ipv4 .tcp (some ['x']) 80
              { socket := .ok 6 }] = some s ∧
        s.system.rt.files 5 = .socket ∧ s.system.rt.files 6 = .socket ∧
        s.ended = some ⟨[.socket .ipv4 .tcp 6],
          .thrown (.invalidArgument "invalid ip address")⟩ ∧
        ¬NoLeak s := by
  have computed : (runFrom step (initial .sorted 3 100 fun _ => ⟨[], 0⟩)
      [.builderServer .ipv4 .tcp 7899 none
          { socket := .ok 5, bind := some 98 },
        .program (.spawn 1) (.ok 0),
        .asyncConnect 10 .ipv4 .tcp (some ['x']) 80
          { socket := .ok 6 }]).any (fun s =>
        decide (s.system.rt.files 5 = .socket) &&
          decide (s.system.rt.files 6 = .socket) &&
          decide (s.ended = some ⟨[.socket .ipv4 .tcp 6],
            .thrown (.invalidArgument "invalid ip address")⟩)) = true := by
    decide +kernel
  obtain ⟨s, run, passed⟩ := (Option.any_eq_true _ _).mp computed
  simp only [Bool.and_eq_true, decide_eq_true_eq] at passed
  obtain ⟨⟨listener, client⟩, ended⟩ := passed
  refine ⟨s, run, listener, client, ended, ?_⟩
  intro lawful
  exact Ended.not_proper_of_leak rfl rfl rfl (lawful _ ended)

end Sockets

end AsyncFrame
