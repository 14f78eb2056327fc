import AsyncFrame.BadOrders
import AsyncFrame.Destruction
import AsyncFrame.Lib.Progress
import AsyncFrame.Stacks

/-!
# Running to the end

From every reachable state `running` can be driven to its return without the
program starting anything more: the loop never waits for an operation that is
not registered, and never returns with one suspended.  Time passes, sockets
are reset, and coroutines that are resumed return.
-/

namespace AsyncFrame

open Lib

/-- What goes on without the program: time passes, a coroutine returns, and
`running` goes on. -/
def Action.unattended : Action → Bool
  | .tick _ => true
  | .finish => true
  | .run => true
  | .epollWait _ => true
  | .dispatch _ => true
  | .dispatchWrite _ => true
  | .batchEnd => true
  | .exit => true
  | _ => false

/-- The bit that the kernel reports for a direction. -/
def Direction.readiness : Direction → Events
  | .read => EPOLLIN
  | .write => EPOLLOUT

/-- An entry is registered for the bit of each direction that it has. -/
theorem readiness_of_mask (timer reads writes : Bool) :
    (reads = true → EPOLLIN &&&
      ~~~(maskOf timer reads writes ||| EPOLLERR ||| EPOLLHUP) = 0) ∧
    (writes = true → EPOLLOUT &&&
      ~~~(maskOf timer reads writes ||| EPOLLERR ||| EPOLLHUP) = 0) := by
  revert timer reads writes
  decide

namespace Operation

variable {queues : TimerQueue}

/-- On a connection that is reset no operation goes round its loop. -/
theorem goesRound_reset (operation : Operation) (self : Addr)
    (rt : Runtime queues) :
    operation.goesRound self .reset rt = false := by
  have unreceived : ∀ buffer,
      RecvOutcome.leavesRoom buffer (.failed resetError) = false :=
    fun _ => rfl
  have unsent : ∀ buffer,
      SendOutcome.leavesRest buffer (.failed resetError) = false :=
    fun _ => rfl
  unfold goesRound
  split <;> simp [Io.reset, unreceived, unsent]

end Operation

namespace System

variable {queues : TimerQueue} {s next : System queues} {action : Action}
variable {timerFd : Fd} {uptime : Nat} {buffers : BufferRef → Buffer}
variable {actions : List Action}

/-! ## What is left to wait for -/

/-- The frames of the suspended operations. -/
def waiting (s : System queues) : Finset Addr :=
  s.frames.keys.filter fun frame => (s.pending frame).isSome

theorem mem_waiting {frame : Addr} :
    frame ∈ s.waiting ↔ (s.pending frame).isSome = true := by
  simp only [waiting, Finset.mem_filter, and_iff_right_iff_imp]
  intro waits
  obtain ⟨op, waits⟩ := Option.isSome_iff_exists.mp waits
  rw [Finmap.mem_keys, Finmap.mem_iff]
  exact ⟨_, pendingIn_eq_some.mp waits⟩

/-- An operation is over, and no other one is started. -/
theorem waiting_lt {frame : Addr} {op : OpFrame}
    (waits : s.pending frame = some op)
    (pending : next.pending = Function.update s.pending frame none) :
    next.waiting ⊂ s.waiting := by
  rw [Finset.ssubset_iff_of_subset]
  · refine ⟨frame, mem_waiting.mpr (by rw [waits]; rfl), ?_⟩
    rw [mem_waiting, pending, Function.update_self]
    simp
  · intro other
    rw [mem_waiting, mem_waiting, pending]
    by_cases same : other = frame
    · rw [same, Function.update_self]
      simp
    · rw [Function.update_of_ne same]
      exact id

/-- A step that starts nothing leaves no more to wait for. -/
theorem Move.waiting_subset (move : Move action s next)
    (nothing : action.starts? = none) : next.waiting ⊆ s.waiting := by
  intro frame
  rw [mem_waiting, mem_waiting]
  cases move with
  | calm _ _ pending =>
      rw [pending]
      exact id
  | suspends _ _ _ starting =>
      rw [nothing] at starting
      cases starting
  | passes _ _ _ _ _ starting =>
      rw [nothing] at starting
      cases starting
  | ends pointer op result woken waits pending =>
      have fewer := (waiting_lt waits pending).subset
      intro waiting
      exact mem_waiting.mp (fewer (mem_waiting.mpr waiting))
  | rounds pointer op again _ _ waits _ _ _ _ pending =>
      rw [pending]
      by_cases same : frame = pointer.frame
      · intro _
        rw [same, waits]
        rfl
      · rw [Function.update_of_ne same]
        exact id

/-! ## What every state on the way has -/

/-- What is known of a state that is driven to the end. -/
structure Drainable (s : System queues) : Prop where
  good : Good s
  filed : Filed .socket s
  ledger : Ledger s
  stacked : Stacked s

/-- The program does nothing. -/
def Unattended (_ : System queues) (action : Action) : Prop :=
  action.unattended = true

private theorem starts_of_unattended (unattended : action.unattended = true) :
    action.starts? = none := by
  cases action <;> first | rfl | cases unattended

private theorem keepsPending_of_unattended
    (unattended : action.unattended = true) :
    s.keepsPending action = true := by
  cases action <;> first | rfl | cases unattended

private theorem Drainable.step (drainable : Drainable s)
    (unattended : action.unattended = true)
    (taken : s.step action = some next) :
    Drainable next ∧ next.waiting ⊆ s.waiting := by
  have nothing := starts_of_unattended unattended
  have alone : s.unshared .socket action = true := by
    rw [unshared, nothing]
    rfl
  have stepped := step_move drainable.good
    (keepsPending_of_unattended unattended) taken
  refine ⟨⟨stepped.2, ?_, ?_, ?_⟩, stepped.1.waiting_subset nothing⟩
  · exact drainable.filed.move drainable.good.sound stepped.1 alone
  · exact drainable.ledger.move stepped.1
  · exact step_stacked drainable.stacked drainable.good.linked taken

private theorem Reaches.drainable
    (reached : Reaches OneWaiter timerFd uptime buffers actions s) :
    Drainable s := by
  obtain ⟨good, filed, ledger⟩ := reached.ledger
  refine ⟨good, filed, ledger, ?_⟩
  have stacked := invariant_of_run
    (fun state : System queues => Good state ∧ Stacked state)
    (fun ⟨good, stacked⟩ (meets : OneWaiter _ _) taken =>
      ⟨(step_move good meets.1 taken).2,
        step_stacked stacked good.linked taken⟩)
    ⟨good_initial queues timerFd uptime buffers,
      stacked_initial queues timerFd uptime buffers⟩
    reached.1 reached.2
  exact stacked.2

/-- Some run without the program leads to `next`, with no more to wait
for. -/
structure Drains (s next : System queues) : Prop where
  path : CanReach System.step Unattended s next
  drainable : Drainable next
  fewer : next.waiting ⊆ s.waiting

private theorem Drains.trans {middle : System queues} (first : Drains s middle)
    (second : Drains middle next) : Drains s next where
  path := first.path.trans second.path
  drainable := second.drainable
  fewer := second.fewer.trans first.fewer

private theorem Drainable.goes (drainable : Drainable s)
    (unattended : action.unattended = true)
    (taken : s.step action = some next) : Drains s next where
  path := CanReach.single unattended taken
  drainable := (drainable.step unattended taken).1
  fewer := (drainable.step unattended taken).2

/-! ## Back to the loop's head -/

/-- No coroutine runs, and `running` is at its `while` or has not been
called. -/
def AtRest (s : System queues) : Prop :=
  s.stack = [] ∧ (s.control = .outside ∨ s.control = .head)

/-- The steps left before the loop is at its head: each coroutine on the stack
returns, and each event resumes at most two more. -/
def stepsLeft (s : System queues) : Nat :=
  s.stack.length +
    match s.control with
    | .outside => 0
    | .head => 0
    | .batch evs _ => 1 + 4 * evs.length
    | .half _ evs _ => 3 + 4 * evs.length

/-- A completed operation puts at most its awaiting coroutine on the stack. -/
theorem complete_length (linked : Linked s.frames) (pointer : OpPtr)
    (io : Io) :
    (s.complete pointer io).stack.length ≤ s.stack.length + 1 := by
  rcases linked.complete_cases pointer io with
    ⟨_, stack, _⟩ | ⟨_, _, ⟨_, _, _, _, stack, _⟩ |
      ⟨_, _, ⟨_, _, stack⟩ | ⟨_, _, _, stack⟩⟩⟩ <;>
    · rw [stack]
      simp

private theorem stepsLeft_of_dispatch (good : Good s) {event : EpollEvent}
    {evs : List EpollEvent} {fetched : Nat} (io : Io)
    (batch : s.control = .batch (event :: evs) fetched) :
    (s.perform (.dispatch io)).stepsLeft < s.stepsLeft := by
  obtain ⟨control, left, performed⟩ := dispatch_cases io batch
  have bounded : ∀ t : System queues, t.control = control →
      t.stack.length ≤ s.stack.length + 1 → t.stepsLeft < s.stepsLeft := by
    intro t same length
    unfold stepsLeft
    rw [same, batch]
    rcases left with rfl | ⟨writeOp, rfl, _⟩ <;>
      · simp only [List.length_cons]
        omega
  rw [performed]
  cases s.completes (.dispatch io) with
  | none => exact bounded _ rfl (Nat.le_succ _)
  | some readOp =>
      have linked : Linked (s.withMarks control
          (s.marks (.dispatch io))).frames := good.linked
      exact bounded _ (Linked.complete_rest _ readOp io).2
        (complete_length linked readOp io)

private theorem stepsLeft_of_dispatchWrite (good : Good s) {writeOp : OpPtr}
    {evs : List EpollEvent} {fetched : Nat} (io : Io)
    (half : s.control = .half writeOp evs fetched) :
    (s.perform (.dispatchWrite io)).stepsLeft < s.stepsLeft := by
  have linked : Linked (s.withMarks (.batch evs fetched) []).frames :=
    good.linked
  have control := (Linked.complete_rest
    (s.withMarks (.batch evs fetched) []) writeOp io).2
  have length := complete_length linked writeOp io
  rw [dispatchWrite_eq io half]
  unfold stepsLeft
  rw [control, half]
  simp only [withMarks] at length ⊢
  omega

/-- There is a next step towards the loop's head. -/
theorem Drainable.unwinds (drainable : Drainable s) (busy : ¬AtRest s) :
    ∃ next, Drains s next ∧ next.stepsLeft < s.stepsLeft := by
  have good := drainable.good
  have enabledStep : ∀ action : Action, action.unattended = true →
      s.enabled action = true →
      (s.perform action).stepsLeft < s.stepsLeft →
        ∃ next, Drains s next ∧ next.stepsLeft < s.stepsLeft :=
    fun action unattended allowed fewer =>
      ⟨_, drainable.goes unattended (step_of_enabled good allowed), fewer⟩
  cases stack : s.stack with
  | cons caller below =>
      have awake := drainable.stacked.awake caller (by simp [stack])
      refine enabledStep .finish rfl ?_ ?_
      · simp only [enabled, runningFrame, stack, awake, if_true,
          Option.isSome_some]
      · simp only [stepsLeft, perform, stack, List.tail_cons,
          List.length_cons]
        omega
  | nil =>
      have idle : s.idle = true := decide_eq_true stack
      cases control : s.control with
      | outside => exact absurd ⟨stack, Or.inl control⟩ busy
      | head => exact absurd ⟨stack, Or.inr control⟩ busy
      | batch evs fetched =>
          cases evs with
          | nil =>
              refine enabledStep .batchEnd rfl ?_ ?_
              · simp only [enabled, idle, control, Bool.and_self]
              · simp only [stepsLeft, perform, control]
                omega
          | cons event evs =>
              refine enabledStep (.dispatch .reset) rfl ?_ ?_
              · simp only [enabled, idle, control, Bool.and_self]
              · exact stepsLeft_of_dispatch good .reset control
      | half writeOp evs fetched =>
          refine enabledStep (.dispatchWrite .reset) rfl ?_ ?_
          · simp only [enabled, idle, control, Bool.and_self]
          · exact stepsLeft_of_dispatchWrite good .reset control

/-- The coroutines return, and the batch comes to its end. -/
theorem Drainable.rests (drainable : Drainable s) :
    ∃ next, Drains s next ∧ AtRest next := by
  obtain ⟨next, path, ⟨holds, fewer⟩, rests⟩ :=
    canReach_of_measure System.step Unattended
      (fun t => Drainable t ∧ t.waiting ⊆ s.waiting) AtRest stepsLeft
      (fun t ⟨holds, fewer⟩ busy =>
        have ⟨next, drains, less⟩ := holds.unwinds busy
        ⟨next, drains.path, ⟨drains.drainable, drains.fewer.trans fewer⟩,
          less⟩)
      s ⟨drainable, Finset.Subset.refl _⟩
  exact ⟨next, ⟨path, holds, fewer⟩, rests⟩

/-! ## One more operation ends -/

/-- The kernel may report a registered direction of what is ready. -/
theorem Good.reports_of_registered (good : Good s) {fd : Fd}
    {direction : Direction} {pointer : OpPtr}
    (found : s.rt.scheduler.registry fd direction = some pointer)
    (ready : s.rt.files fd = .socket ∨
      (s.rt.files fd = .timerFd ∧
        s.rt.timer.timerFd.isReadable s.rt.clock = true) ∨
      ∃ cancelled counter,
        s.rt.files fd = .eventFd cancelled (counter + 1)) :
    s.reports ⟨direction.readiness, fd⟩ = true := by
  have agrees := good.sound.inOrder.agrees
  obtain ⟨state, entry, here⟩ := Option.bind_eq_some_iff.mp found
  have registered : s.rt.scheduler.epollManager.interest.lookup fd =
      some ⟨maskOf (fd = s.rt.timer.fd) state.read.isSome
        state.write.isSome, fd⟩ := by
    rw [agrees.mirror, entry, Option.map_some, (agrees.sound fd state entry).ev]
  have masked := readiness_of_mask (fd = s.rt.timer.fd) state.read.isSome
    state.write.isSome
  have covered : direction.readiness &&&
      ~~~(maskOf (fd = s.rt.timer.fd) state.read.isSome state.write.isSome
        ||| EPOLLERR ||| EPOLLHUP) = 0 := by
    cases direction with
    | read => exact masked.1 (Option.isSome_iff_exists.mpr ⟨pointer, here⟩)
    | write => exact masked.2 (Option.isSome_iff_exists.mpr ⟨pointer, here⟩)
  unfold reports
  simp only [registered, Bool.and_eq_true, decide_eq_true_eq]
  refine ⟨covered, ?_⟩
  rcases ready with socket | ⟨timerFile, readable⟩ | ⟨_, counter, written⟩
  · rw [socket]
  · rw [timerFile]
    exact readable
  · rw [written]
    exact decide_eq_true (Nat.succ_pos counter)

/-- At the loop's head one registered descriptor that is ready is reported. -/
theorem Drainable.fetches (drainable : Drainable s) (idle : s.stack = [])
    (head : s.control = .head) {fd : Fd} {direction : Direction}
    {pointer : OpPtr}
    (found : s.rt.scheduler.registry fd direction = some pointer)
    (ready : s.rt.files fd = .socket ∨ s.rt.files fd = .timerFd ∧
      s.rt.timer.timerFd.isReadable s.rt.clock = true) :
    Drains s (s.fetch [⟨direction.readiness, fd⟩]) := by
  have reported := drainable.good.reports_of_registered found
    (ready.imp_right Or.inl)
  have filled : s.rt.scheduler.fdToOp ≠ ∅ := by
    intro empty
    simp [Scheduler.registry, empty] at found
  have allowed :
      s.enabled (.epollWait [⟨direction.readiness, fd⟩]) = true := by
    simp [enabled, System.idle, idle, head, filled, reported, eventsSize]
  exact drainable.goes rfl (drainable.good.fetched_step allowed)

/-- A step that resumes an operation on a reset connection ends it. -/
theorem Drainable.ends (drainable : Drainable s)
    (unattended : action.unattended = true)
    (answers : action.io? = some .reset) {pointer : OpPtr}
    (woken : s.completes action = some pointer)
    (taken : s.step action = some next) :
    Drains s next ∧ next.waiting ⊂ s.waiting := by
  obtain ⟨op, waits⟩ := drainable.good.waits_of_completes woken
  obtain ⟨io, given, pending⟩ := drainable.good.completed taken woken waits
  rw [answers] at given
  cases given
  rw [op.operation.goesRound_reset, if_neg Bool.false_ne_true] at pending
  exact ⟨drainable.goes unattended taken, waiting_lt waits pending⟩

/-- The event just fetched ends the operation that is registered to read. -/
theorem Drainable.ends_read (drainable : Drainable s) (idle : s.stack = [])
    {fd : Fd} {pointer : OpPtr} {fetched : Nat}
    (batch : s.control = .batch [⟨EPOLLIN, fd⟩] fetched)
    (found : s.rt.scheduler.registry fd .read = some pointer) :
    ∃ next, Drains s next ∧ next.waiting ⊂ s.waiting := by
  have woken : s.completes (.dispatch .reset) = some pointer := by
    have ready : readReady EPOLLIN = true := by decide
    simp only [completes, batch, ready, if_true, found]
  have taken := step_of_enabled drainable.good
    (enabled_of_batch idle batch .reset)
  exact ⟨_, drainable.ends rfl rfl woken taken⟩

/-- The event just fetched ends the operation that is registered to write. -/
theorem Drainable.ends_write (drainable : Drainable s) (idle : s.stack = [])
    {fd : Fd} {pointer : OpPtr} {fetched : Nat}
    (batch : s.control = .batch [⟨EPOLLOUT, fd⟩] fetched)
    (found : s.rt.scheduler.registry fd .write = some pointer) :
    ∃ next, Drains s next ∧ next.waiting ⊂ s.waiting := by
  have unread : readReady EPOLLOUT = false := by decide
  have ready : writeReady EPOLLOUT = true := by decide
  have asleep : s.completes (.dispatch .reset) = none := by
    simp only [completes, batch, unread, Bool.false_eq_true, if_false]
  have taken := step_of_enabled drainable.good
    (enabled_of_batch idle batch .reset)
  have first := drainable.goes rfl taken
  have control := dispatch_control .reset batch
  obtain ⟨_, _, performed⟩ := dispatch_cases .reset batch
  simp only [asleep] at performed
  rw [found, writeHalf] at control
  simp only [ready, if_true] at control
  have middleIdle : (s.perform (.dispatch .reset)).stack = [] := by
    rw [performed]
    exact idle
  have allowed : (s.perform (.dispatch .reset)).enabled
      (.dispatchWrite .reset) = true := by
    simp only [enabled, System.idle, middleIdle, control, decide_true,
      Bool.and_self]
  have woken : (s.perform (.dispatch .reset)).completes
      (.dispatchWrite .reset) = some pointer := by
    simp only [completes, control]
  obtain ⟨second, less⟩ := first.drainable.ends rfl rfl woken
    (step_of_enabled first.drainable.good allowed)
  exact ⟨_, first.trans second,
    Finset.ssubset_of_ssubset_of_subset less first.fewer⟩

/-- With a timed operation suspended the current timer expires, and its
operation ends. -/
theorem Drainable.ends_timed (drainable : Drainable s) (idle : s.stack = [])
    (head : s.control = .head)
    (nonempty : s.rt.timer.currentEmpty = false) :
    ∃ next, Drains s next ∧ next.waiting ⊂ s.waiting := by
  have inOrder := drainable.good.sound.inOrder
  obtain ⟨frame, op, named, _⟩ := drainable.good.current nonempty
  have allowed : s.enabled (.tick s.rt.timer.cur.timePoint.toNat) = true :=
    rfl
  have expires :=
    drainable.goes rfl (step_of_enabled drainable.good allowed)
  have found := inOrder.slot.trans named
  have later : s.rt.timer.cur.timePoint ≤
      s.rt.clock + s.rt.timer.cur.timePoint.toNat := by
    have positive := drainable.good.sound.clock
    omega
  have readable : s.rt.timer.timerFd.isReadable
      (s.rt.clock + s.rt.timer.cur.timePoint.toNat) = true :=
    TimerFd.isReadable_iff.mpr ⟨inOrder.settled.armed.unread, _,
      inOrder.settled.setting_of_current named, later⟩
  have fetches := expires.drainable.fetches idle head found
    (Or.inr ⟨inOrder.timerFile, readable⟩)
  obtain ⟨next, ends, less⟩ := fetches.drainable.ends_read idle rfl found
  have before := expires.trans fetches
  exact ⟨next, before.trans ends,
    Finset.ssubset_of_ssubset_of_subset less before.fewer⟩

/-- The socket of a suspended operation is reset, and the operation ends. -/
theorem Drainable.ends_socket (drainable : Drainable s) (idle : s.stack = [])
    (head : s.control = .head) {frame : Addr} {op : OpFrame} {fd : Fd}
    {direction : Direction} (waits : s.pending frame = some op)
    (socket : op.operation.socket? = some (fd, direction)) :
    ∃ next, Drains s next ∧ next.waiting ⊂ s.waiting := by
  have found := drainable.filed frame op fd direction waits socket
  have file := (drainable.good.sound.fits frame op waits).socket fd direction
    socket
  have fetches := drainable.fetches idle head found (Or.inl file)
  obtain ⟨next, ends, less⟩ : ∃ next,
      Drains (s.fetch [⟨direction.readiness, fd⟩]) next ∧
        next.waiting ⊂ (s.fetch [⟨direction.readiness, fd⟩]).waiting := by
    cases direction with
    | read => exact fetches.drainable.ends_read idle rfl found
    | write => exact fetches.drainable.ends_write idle rfl found
  exact ⟨next, fetches.trans ends,
    Finset.ssubset_of_ssubset_of_subset less fetches.fewer⟩

/-- `running` is called, if it was not. -/
theorem Drainable.enters (drainable : Drainable s) (rests : AtRest s) :
    ∃ next, Drains s next ∧ next.stack = [] ∧ next.control = .head := by
  rcases rests with ⟨idle, outside | head⟩
  · have allowed : s.enabled .run = true := by
      simp only [enabled, System.idle, idle, outside, decide_true,
        Bool.and_self]
    exact ⟨_, drainable.goes rfl (step_of_enabled drainable.good allowed),
      idle, rfl⟩
  · exact ⟨s, ⟨CanReach.refl s, drainable, Finset.Subset.refl _⟩, idle, head⟩

/-- As long as an operation is suspended, one more can end. -/
theorem Drainable.lowers (drainable : Drainable s)
    (some : s.waiting ≠ ∅) :
    ∃ next, Drains s next ∧ next.waiting.card < s.waiting.card := by
  obtain ⟨rested, rest, rests⟩ := drainable.rests
  obtain ⟨atHead, enters, idle, head⟩ := rest.drainable.enters rests
  have before := rest.trans enters
  by_cases calm : atHead.waiting = ∅
  · refine ⟨atHead, before, ?_⟩
    rw [calm, Finset.card_empty]
    exact Finset.card_pos.mpr (Finset.nonempty_iff_ne_empty.mpr some)
  · obtain ⟨frame, member⟩ := Finset.nonempty_iff_ne_empty.mpr calm
    obtain ⟨op, waits⟩ :=
      Option.isSome_iff_exists.mp (mem_waiting.mp member)
    have ends : ∃ next, Drains atHead next ∧
        next.waiting ⊂ atHead.waiting := by
      cases socket : op.operation.socket? with
      | some key =>
          exact before.drainable.ends_socket idle head waits socket
      | none =>
          obtain ⟨delay, operation⟩ :=
            Operation.waitFor_of_no_socket socket
          have timed : op.operation.delay?.isSome = true := by
            rw [operation]
            rfl
          exact before.drainable.ends_timed idle head
            (before.drainable.good.timed_iff.mpr ⟨frame, op, waits, timed⟩)
    obtain ⟨next, after, less⟩ := ends
    exact ⟨next, before.trans after, (Finset.card_lt_card less).trans_le
      (Finset.card_le_card before.fewer)⟩

/-! ## To the end -/

/-- Without a suspended operation the table has no entry. -/
theorem Good.table_of_quiet (good : Good s)
    (quiet : ∀ frame, s.pending frame = none) :
    s.rt.scheduler.fdToOp = ∅ := by
  refine (Scheduler.fdToOp_eq_empty_iff good.sound.inOrder.agrees).mpr ?_
  intro fd direction
  cases found : s.rt.scheduler.registry fd direction with
  | none => rfl
  | some pointer =>
      obtain ⟨op, waits, _⟩ := good.sound.waits_of_registered found
      rw [quiet] at waits
      cases waits

theorem pending_of_waiting (calm : s.waiting = ∅) (frame : Addr) :
    s.pending frame = none := by
  cases waits : s.pending frame with
  | none => rfl
  | some op =>
      have member : frame ∈ s.waiting :=
        mem_waiting.mpr (by rw [waits]; rfl)
      rw [calm] at member
      exact absurd member (Finset.notMem_empty frame)

/-- With nothing suspended `running` returns. -/
theorem Drainable.returns (drainable : Drainable s) (calm : s.waiting = ∅) :
    ∃ next, Drains s next ∧ next.stack = [] ∧ next.control = .outside ∧
      next.trace.head? = some .returned := by
  obtain ⟨rested, rest, rests⟩ := drainable.rests
  obtain ⟨atHead, enters, idle, head⟩ := rest.drainable.enters rests
  have before := rest.trans enters
  have still : atHead.waiting = ∅ :=
    Finset.subset_empty.mp (calm ▸ before.fewer)
  have empty :=
    before.drainable.good.table_of_quiet (pending_of_waiting still)
  have allowed : atHead.enabled .exit = true := by
    simp only [enabled, System.idle, idle, head, empty, decide_true,
      Bool.and_self]
  have exits := before.drainable.goes rfl
    (step_of_enabled before.drainable.good allowed)
  exact ⟨_, before.trans exits, idle, rfl, rfl⟩

/-- With nothing suspended every operation that was started is over. -/
theorem Ledger.over_of_quiet (ledger : Ledger s)
    (quiet : ∀ frame, s.pending frame = none) {number : Nat}
    {operation : Operation} (started : .started number operation ∈ s.trace) :
    Over number operation (s.history number) := by
  have here : Obs.started number operation ∈ s.history number :=
    List.mem_filter.mpr ⟨started, decide_eq_true rfl⟩
  rcases ledger.shape number with
    empty | ⟨frame, op, waits, _⟩ | ⟨other, result, settled⟩ | ⟨_, _, timed⟩
  · rw [empty] at here
    cases here
  · rw [quiet] at waits
    cases waits
  · have same : operation = other := by
      rcases settled with settled | settled <;>
        · rw [settled] at here
          simpa using here
    rw [same]
    exact ⟨result, settled⟩
  · rw [timed, List.mem_singleton] at here
    cases here

/-- From every reachable state some run in which the program does nothing more
leads to the return of `running`, with an empty table, no coroutine running
and no operation suspended; every operation that was started is over by
then. -/
theorem running_drains
    (reached : Reaches OneWaiter timerFd uptime buffers actions s) :
    ∃ more final, Leads Unattended s more final ∧ final.stack = [] ∧
      final.control = .outside ∧ final.trace.head? = some .returned ∧
      final.rt.scheduler.fdToOp = ∅ ∧
      (∀ frame, final.pending frame = none) ∧
      ∀ number operation, .started number operation ∈ final.trace →
        Over number operation (final.history number) := by
  obtain ⟨calm, path, drainable, calmed⟩ :=
    canReach_of_measure System.step Unattended
      Drainable (fun state => state.waiting = ∅)
      (fun state => state.waiting.card)
      (fun _ drainable waits =>
        have ⟨next, drains, less⟩ := drainable.lowers waits
        ⟨next, drains.path, drains.drainable, less⟩)
      s reached.drainable
  obtain ⟨final, returns, idle, outside, returned⟩ :=
    drainable.returns calmed
  obtain ⟨more, unattended, run⟩ := path.trans returns.path
  have quiet : ∀ frame, final.pending frame = none :=
    pending_of_waiting (Finset.subset_empty.mp (calmed ▸ returns.fewer))
  exact ⟨more, final, ⟨unattended, run⟩, idle, outside, returned,
    returns.drainable.good.table_of_quiet quiet, quiet,
    fun _ _ started => returns.drainable.ledger.over_of_quiet quiet started⟩

/-- A read, a write with a timeout and a `wait_for` are suspended. -/
theorem running_drains_sample :
    ∃ s : System TimerQueue.sorted,
      Reaches OneWaiter 3 100 (fun _ => ⟨[0, 0], 0⟩)
        [.openFd 5 .socket, .openFd 6 .socket, .spawn 1,
          .await 10 (.asyncRead ⟨5, 0, none⟩) {}, .spawn 2,
          .await 20 (.asyncWriteTimeout ⟨6, 1, none⟩ 50) {}, .spawn 4,
          .await 40 (.waitFor 80) {}] s ∧
      (s.pending 10).isSome = true ∧ (s.pending 20).isSome = true ∧
      (s.pending 40).isSome = true ∧
      ∃ more final, Leads Unattended s more final ∧
        final.trace.head? = some .returned ∧
        final.rt.scheduler.fdToOp = ∅ ∧
        ∀ frame, final.pending frame = none := by
  refine (exists_reaches (fun s => (s.pending 10).isSome &&
    (s.pending 20).isSome && (s.pending 40).isSome) ?_ ?_).imp
      fun s ⟨reached, waits⟩ => ⟨reached, ?_⟩
  · decide +kernel
  · decide +kernel
  · simp only [Bool.and_eq_true] at waits
    obtain ⟨more, final, leads, _, _, returned, empty, quiet, _⟩ :=
      running_drains reached
    exact ⟨waits.1.1, waits.1.2, waits.2, more, final, leads, returned,
      empty, quiet⟩

end System

end AsyncFrame
