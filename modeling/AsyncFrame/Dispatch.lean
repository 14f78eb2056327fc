import AsyncFrame.Fetched

/-!
# A batch part-way through

Between two turns the operations that wait are those of the start of the
batch, some of them round their loops.  A turn leaves everything alone but the
one operation that it resumes, and an operation that is over stays over.
-/

namespace AsyncFrame

open Lib

variable {queues : TimerQueue}

namespace System

variable {s t next : System queues} {event : EpollEvent}
variable {evs rest : List EpollEvent} {since number : Nat}
variable {answers : Answers} {frame hit : Addr} {op x : OpFrame} {io : Io}

/-- The batch that was fetched in `s` has been dispatched up to `rest`. -/
structure Partway (s t : System queues) (rest : List EpollEvent)
    (since : Nat) : Prop where
  good : Good t
  idle : t.stack = []
  control : t.control = .batch rest since
  files : FilesKept s.rt t.rt
  timerFd : t.rt.timer.fd = s.rt.timer.fd
  origin : ∀ frame again, t.pending frame = some again →
    ∃ op, s.pending frame = some op ∧ again.operation = op.operation ∧
      again.number = op.number

/-- The operation is over, with this result. -/
structure Ended (t : System queues) (number : Nat) (result : OpResult) :
    Prop where
  result : t.resultOf number = some result
  gone : ∀ frame op, t.pending frame = some op → op.number ≠ number

/-- Nothing has happened to the operation and to what it waits for, but for
its buffer. -/
structure Standing (s t : System queues) (frame : Addr) (op : OpFrame) :
    Prop where
  waits : t.pending frame = some op
  transfers : ∀ fd direction, op.operation.socket? = some (fd, direction) →
    t.rt.transfers fd = s.rt.transfers fd
  filed : ∀ member fd direction,
    op.operation.slot? member = some (fd, direction) →
      t.rt.scheduler.registry fd direction =
        s.rt.scheduler.registry fd direction
  result : t.resultOf op.number = none

/-- What a turn keeps for an operation that it does not resume. -/
structure Spared (t next : System queues) (frame : Addr) (op : OpFrame) :
    Prop where
  pending : next.pending frame = t.pending frame
  transfers : ∀ fd direction, op.operation.socket? = some (fd, direction) →
    next.rt.transfers fd = t.rt.transfers fd
  filed : ∀ member fd direction,
    op.operation.slot? member = some (fd, direction) →
      next.rt.scheduler.registry fd direction =
        t.rt.scheduler.registry fd direction
  result : next.resultOf op.number = t.resultOf op.number

theorem Standing.spared (standing : Standing s t frame op)
    (spared : Spared t next frame op) : Standing s next frame op where
  waits := spared.pending.trans standing.waits
  transfers fd direction socket :=
    (spared.transfers fd direction socket).trans
      (standing.transfers fd direction socket)
  filed member fd direction slot :=
    (spared.filed member fd direction slot).trans
      (standing.filed member fd direction slot)
  result := spared.result.trans standing.result

theorem Passed.spared (passed : Passed t next) : Spared t next frame op where
  pending := congrFun passed.pending frame
  transfers _ _ _ := by rw [passed.rt]
  filed _ _ _ _ := by rw [passed.rt]
  result := passed.results op.number

/-! ## What is left of the batch -/

theorem ready_cons :
    op.ready (event :: rest) = (op.ownEvent event || op.ready rest) :=
  List.any_cons

theorem timerReady_cons :
    s.timerReady (event :: rest) = (s.timerEvent event || s.timerReady rest) :=
  List.any_cons

/-- A descriptor has one event in a batch. -/
theorem timerReady_of_nodup
    (nodup : ((event :: rest).map EpollEvent.fd).Nodup)
    (timer : s.timerEvent event = true) : s.timerReady rest = false := by
  rw [List.map_cons, List.nodup_cons] at nodup
  rw [timerReady, List.any_eq_false]
  intro other later here
  rw [timerEvent, Bool.and_eq_true, decide_eq_true_eq] at timer here
  exact nodup.1 (List.mem_map.mpr
    ⟨other, later, here.1.trans timer.1.symm⟩)

theorem ownEvent_congr {other : OpFrame}
    (same : other.operation = op.operation) :
    other.ownEvent event = op.ownEvent event := by
  simp only [OpFrame.ownEvent, OpFrame.socketEvent, OpFrame.cancelEvent,
    same]

/-- An event of a slot of the operation resumes it, as long as the slot is
registered. -/
theorem Good.target_of_slot (good : Good t) (separate : Separate t)
    (waits : t.pending frame = some op) {member : OpMember}
    {direction : Direction}
    (slot : op.operation.slot? member = some (event.fd, direction))
    (reads : direction = .read → readReady event.events = true)
    (writes : direction = .write → writeReady event.events = true)
    {registered : OpPtr}
    (found : t.rt.scheduler.registry event.fd direction = some registered) :
    ∃ pointer, t.target event = some pointer ∧ pointer.frame = frame := by
  cases target : t.target event with
  | none => exact absurd target (target_of_registered reads writes found)
  | some pointer =>
      refine ⟨pointer, rfl, ?_⟩
      obtain ⟨other, otherWaits, owns | ⟨timer, _⟩⟩ :=
        good.target_cases target
      · obtain ⟨second, way, otherSlot, _⟩ := ownEvent_cases owns
        exact separate.same_frame good otherWaits waits otherSlot slot
      · have plain := (good.sound.fits frame op waits).slot_plain
          good.sound.inOrder slot
        rw [timerEvent, Bool.and_eq_true, decide_eq_true_eq] at timer
        exact absurd timer.1 plain

/-- What is over stays over. -/
theorem Ended.turned {result : OpResult} (ended : Ended t number result)
    (turned : Turned t next answers event rest since) :
    Ended next number result := by
  rcases turned.effect with
    ⟨_, passed⟩ | ⟨pointer, x, _, waits, _, woke⟩
  · refine ⟨(passed.results number).trans ended.result, ?_⟩
    rw [passed.pending]
    exact ended.gone
  · have other : number ≠ x.number :=
      (ended.gone pointer.frame x waits).symm
    refine ⟨?_, fun frame op waitsNext => ?_⟩
    · rw [woke.results, if_neg other]
      exact ended.result
    · rw [woke.pending] at waitsNext
      by_cases same : frame = pointer.frame
      · subst same
        rw [Function.update_self] at waitsNext
        unfold OpFrame.after at waitsNext
        split at waitsNext
        · cases waitsNext
        · cases waitsNext
          exact other.symm
      · rw [Function.update_of_ne same] at waitsNext
        exact ended.gone frame op waitsNext

/-- The timerfd's events are nobody's own. -/
theorem Good.untimed_of_own (good : Good s)
    (waits : s.pending frame = some op) (own : op.ownEvent event = true) :
    s.timerEvent event = false := by
  obtain ⟨member, direction, slot, _⟩ := ownEvent_cases own
  have plain := (good.sound.fits frame op waits).slot_plain
    good.sound.inOrder slot
  rw [timerEvent, decide_eq_false plain, Bool.false_and]

/-- No event is the own one of two operations. -/
theorem Fetched.frame_of_own (fetched : Fetched s evs)
    (waits : s.pending frame = some op) (own : op.ownEvent event = true)
    (hitWaits : s.pending hit = some x) (hitOwn : x.ownEvent event = true) :
    hit = frame := by
  obtain ⟨_, _, slot, _⟩ := ownEvent_cases own
  obtain ⟨_, _, hitSlot, _⟩ := ownEvent_cases hitOwn
  exact fetched.separate.same_frame fetched.good hitWaits waits hitSlot slot

/-- An operation with an event of its own waits on a socket. -/
theorem socket_of_own (own : op.ownEvent event = true) :
    op.operation.socket? ≠ none := by
  intro socket
  obtain ⟨delay, same⟩ := Operation.waitFor_of_no_socket socket
  simp [OpFrame.ownEvent, OpFrame.socketEvent, OpFrame.cancelEvent, same,
    Operation.socket?, Operation.token?] at own

/-- What the event resumes is woken with the answers to it. -/
theorem Turned.woke (turned : Turned t next answers event rest since)
    (found : ∃ pointer, t.target event = some pointer ∧
      pointer.frame = frame)
    (waits : t.pending frame = some op) :
    t.Concerns event frame op ∧
      Woke t next frame op (answers.answer t.rt op.operation) := by
  obtain ⟨pointer, target, rfl⟩ := found
  rcases turned.effect with
    ⟨nothing, _⟩ | ⟨other, x, again, hitWaits, concerns, woke⟩
  · rw [target] at nothing
    cases nothing
  · rw [target] at again
    cases again
    rw [waits] at hitWaits
    cases hitWaits
    exact ⟨concerns, woke⟩

namespace Partway

section

variable (partway : Partway s t rest since)
include partway

theorem separate (separate : Separate s) : Separate t where
  sockets frame other op otherOp fd direction way waits otherWaits socket
      otherSocket := by
    obtain ⟨first, firstWaits, same, _⟩ := partway.origin frame op waits
    obtain ⟨second, secondWaits, otherSame, _⟩ :=
      partway.origin other otherOp otherWaits
    rw [same] at socket
    rw [otherSame] at otherSocket
    exact separate.sockets _ _ _ _ _ _ _ firstWaits secondWaits socket
      otherSocket
  tokens frame other op otherOp token waits otherWaits named
      otherNamed := by
    obtain ⟨first, firstWaits, same, _⟩ := partway.origin frame op waits
    obtain ⟨second, secondWaits, otherSame, _⟩ :=
      partway.origin other otherOp otherWaits
    rw [same] at named
    rw [otherSame] at otherNamed
    exact separate.tokens _ _ _ _ _ firstWaits secondWaits named otherNamed

/-- The numbers of the operations stay distinct. -/
theorem distinct (fetched : Fetched s evs)
    (waits : s.pending frame = some op) (hitWaits : t.pending hit = some x)
    (same : x.number = op.number) : hit = frame := by
  obtain ⟨first, firstWaits, _, number⟩ := partway.origin hit x hitWaits
  exact fetched.ledger.distinct hit frame first op firstWaits waits
    (number.symm.trans same)

theorem timerEvent_eq (event : EpollEvent) :
    t.timerEvent event = s.timerEvent event := by
  simp only [timerEvent, partway.timerFd]

theorem flagged_eq (op : OpFrame) :
    t.rt.cancelRequested op.operation.token? = s.flagged op :=
  partway.files.cancelRequested _

/-- An event of an operation that nothing has happened to resumes it. -/
theorem targets_own (fetched : Fetched s evs) (inside : event ∈ evs)
    (waits : s.pending frame = some op)
    (standing : Standing s t frame op) (own : op.ownEvent event = true) :
    ∃ pointer, t.target event = some pointer ∧ pointer.frame = frame := by
  obtain ⟨member, direction, slot, reads, writes⟩ := ownEvent_cases own
  obtain ⟨registered, found⟩ := fetched.filed inside waits slot
  rw [← standing.filed member event.fd direction slot] at found
  exact partway.good.target_of_slot (partway.separate fetched.separate)
    standing.waits slot reads writes found

/-- An event of an operation's own concerns no other one. -/
theorem frame_of_own (fetched : Fetched s evs)
    (waits : s.pending frame = some op) (own : op.ownEvent event = true)
    (hitWaits : t.pending hit = some x)
    (concerns : t.Concerns event hit x) : hit = frame := by
  rcases concerns with hitOwn | ⟨timer, _⟩
  · obtain ⟨first, firstWaits, same, _⟩ := partway.origin hit x hitWaits
    rw [ownEvent_congr same] at hitOwn
    exact fetched.frame_of_own waits own firstWaits hitOwn
  · rw [partway.timerEvent_eq, fetched.good.untimed_of_own waits own]
      at timer
    cases timer

/-- An event of the timerfd resumes the operation with the current timer. -/
theorem targets_current (timer : s.timerEvent event = true)
    (current : t.current frame = true) :
    ∃ pointer, t.target event = some pointer ∧ pointer.frame = frame := by
  rw [← partway.timerEvent_eq, timerEvent, Bool.and_eq_true,
    decide_eq_true_eq] at timer
  have named := current_iff.mp current
  have slot := partway.good.sound.inOrder.slot
  rw [named, ← timer.1] at slot
  refine ⟨⟨frame, .timer⟩, ?_, rfl⟩
  simp [target, timer.2, slot]

theorem kept (hitWaits : t.pending hit = some x)
    (concerns : t.Concerns event hit x) (io : Io) :
    FilesKept t.rt (x.operation.resumeOnce hit io x.total t.rt).rt :=
  (partway.good.sound.resumeOnce_leaves io x.total hitWaits
    fun _ same => concerns.current same).files

/-- The resumption of one operation spares the others. -/
theorem spares (fetched : Fetched s evs) (hitWaits : t.pending hit = some x)
    (concerns : t.Concerns event hit x) (woke : Woke t next hit x io)
    (waits : s.pending frame = some op) (different : frame ≠ hit) :
    Spared t next frame op where
  pending := by
    rw [woke.pending, Function.update_of_ne different]
  transfers fd direction socket := by
    obtain ⟨first, firstWaits, same, _⟩ := partway.origin hit x hitWaits
    rw [woke.rt]
    refine (Operation.wake_confined
      (partway.kept hitWaits concerns io)).transfers ?_
    intro way own
    rw [same] at own
    exact different (fetched.separate.sockets _ _ _ _ _ _ _ waits firstWaits
      socket own)
  filed member fd direction slot := by
    obtain ⟨first, firstWaits, same, _⟩ := partway.origin hit x hitWaits
    rw [woke.rt]
    refine partway.good.sound.registry_of_wake _ hitWaits
      (fun _ same => concerns.current same)
      ((fetched.good.sound.fits frame op waits).kept partway.files) slot ?_
    intro own
    rw [same] at own
    exact different (fetched.separate.same_frame fetched.good waits
      firstWaits slot own)
  result := by
    have numbers : op.number ≠ x.number := fun own =>
      different (partway.distinct fetched waits hitWaits own.symm).symm
    rw [woke.results, if_neg numbers]
    rfl

/-- While no time passes, an operation that is not expired is not timed
out. -/
theorem running (waits : t.pending frame = some op)
    (clock : t.rt.clock = s.rt.clock)
    (unreached : op.reached s.rt.clock = false) :
    timedOut frame t.rt = false := by
  cases expired : timedOut frame t.rt with
  | false => rfl
  | true =>
      have reached :=
        ((partway.good.timedOut_iff_reached waits).mp expired).2
      rw [clock, unreached] at reached
      cases reached

/-- An operation that is woken by its own event takes no time. -/
theorem clock_of_own (waits : t.pending frame = some op)
    (concerns : t.Concerns event frame op) (own : op.ownEvent event = true)
    (woke : Woke t next frame op (answers.answer t.rt op.operation)) :
    next.rt.clock = t.rt.clock := by
  have settled := partway.good.sound.inOrder.settled
  rw [woke.rt]
  refine Operation.wake_clock_of_readable (partway.kept waits concerns _) ?_
  rintro (⟨_, expired⟩ | ⟨delay, same⟩)
  · obtain ⟨named, reached⟩ := (timedOut_iff settled frame).mp expired
    exact isReadable_of_reached settled named reached
  · have socket : op.operation.socket? = none := by rw [same]; rfl
    exact absurd socket (socket_of_own own)

/-- An operation whose wake-up returns is over. -/
theorem ended (fetched : Fetched s evs) (hitWaits : t.pending hit = some x)
    (woke : Woke t next hit x io) {result : OpResult}
    (returned : (x.operation.wake hit io x.total t.rt).returned =
      some result) : Ended next x.number result where
  result := by
    rw [woke.results, if_pos rfl, returned]
    rfl
  gone frame op waits same := by
    rw [woke.pending] at waits
    by_cases own : frame = hit
    · subst own
      rw [Function.update_self, OpFrame.after, returned] at waits
      cases waits
    · rw [Function.update_of_ne own] at waits
      obtain ⟨first, firstWaits, _, number⟩ := partway.origin hit x hitWaits
      exact own (partway.distinct fetched firstWaits waits
        (same.trans number))

end

/-! ## Turns -/

section

variable (partway : Partway s t (event :: rest) since)
include partway

theorem turn (separate : Separate s) (answers : Answers) :
    ∃ next, t.turn answers = some next ∧
      Turned t next answers event rest since ∧
      Partway s next rest since := by
  obtain ⟨next, taken, turned⟩ := turn_spec answers partway.good
    (partway.separate separate) partway.idle partway.control
  refine ⟨next, taken, turned, ?_⟩
  rcases turned.effect with
    ⟨_, passed⟩ | ⟨pointer, x, _, waits, concerns, woke⟩
  · refine ⟨turned.good, turned.idle, turned.control, ?_, ?_, ?_⟩
    · rw [passed.rt]
      exact partway.files
    · rw [passed.rt, partway.timerFd]
    · intro frame again waits
      rw [passed.pending] at waits
      exact partway.origin frame again waits
  · have spares := (partway.good.sound.woken
      (answers.answer t.rt x.operation) waits
      fun _ same => concerns.current same).2
    rw [← woke.rt] at spares
    refine ⟨turned.good, turned.idle, turned.control,
      partway.files.trans spares.files,
      spares.timerFd.trans partway.timerFd, ?_⟩
    intro frame again waitsNext
    rw [woke.pending] at waitsNext
    by_cases same : frame = pointer.frame
    · subst same
      obtain ⟨op, first, operation, number⟩ := partway.origin _ x waits
      rw [Function.update_self] at waitsNext
      unfold OpFrame.after at waitsNext
      split at waitsNext
      · cases waitsNext
      · cases waitsNext
        exact ⟨op, first, operation, number⟩
    · rw [Function.update_of_ne same] at waitsNext
      exact partway.origin frame again waitsNext

/-- An operation that the event does not concern waits on. -/
theorem missed (fetched : Fetched s evs) (waits : s.pending frame = some op)
    (still : t.pending frame = some op) (elsewhere : ¬t.Concerns event frame op)
    (turned : Turned t next answers event rest since) :
    next.pending frame = some op ∧
      next.resultOf op.number = t.resultOf op.number := by
  rcases turned.effect with
    ⟨_, passed⟩ | ⟨pointer, x, _, hitWaits, concerns, woke⟩
  · exact ⟨(congrFun passed.pending frame).trans still,
      passed.results op.number⟩
  · have different : frame ≠ pointer.frame := by
      rintro rfl
      rw [still] at hitWaits
      cases hitWaits
      exact elsewhere concerns
    have spared := partway.spares fetched hitWaits concerns woke waits
      different
    exact ⟨spared.pending.trans still, spared.result⟩

end

/-- What every turn preserves holds after a stretch of turns. -/
theorem run (answers : Answers) (separate : Separate s)
    {tail : List EpollEvent}
    (P : System queues → List EpollEvent → Prop)
    (step : ∀ t next event todo,
      Partway s t (event :: (todo ++ tail)) since → P t (event :: todo) →
      Turned t next answers event (todo ++ tail) since → P next todo)
    {todo : List EpollEvent} (partway : Partway s t (todo ++ tail) since)
    (start : P t todo) :
    ∃ final, System.drain answers todo.length t = some final ∧
      Partway s final tail since ∧ P final [] := by
  induction todo generalizing t with
  | nil => exact ⟨t, rfl, partway, start⟩
  | cons event todo inductionTodo =>
      obtain ⟨next, taken, turned, later⟩ := partway.turn separate answers
      obtain ⟨final, drained, done, holds⟩ :=
        inductionTodo later (step t next event todo partway start turned)
      refine ⟨final, ?_, done, holds⟩
      rw [List.length_cons, System.drain, taken]
      exact drained

end Partway

theorem drain_one (t : System queues) :
    System.drain answers 1 t = t.turn answers := by
  rw [System.drain]
  exact Option.bind_fun_some _

/-- A stretch of turns, and then another one. -/
theorem drain_add (first second : Nat) (t : System queues) :
    System.drain answers (first + second) t =
      (System.drain answers first t).bind (System.drain answers second) := by
  induction first generalizing t with
  | zero => rw [Nat.zero_add]; rfl
  | succ first inductionFirst =>
      rw [Nat.succ_add, System.drain, System.drain, Option.bind_assoc]
      exact congrArg _ (funext inductionFirst)

end System

end AsyncFrame
