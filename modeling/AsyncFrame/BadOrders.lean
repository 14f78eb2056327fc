import AsyncFrame.Dispatch

/-!
# Orders that a batch does not resolve in

If a batch resolves in every order, then in those that start with the event of
an expired operation, with the timerfd's, or with the events that put another
operation's timer in front.  The connections may be reset meanwhile, so that
whatever is woken ends.
-/

namespace AsyncFrame

open Lib

variable {queues : TimerQueue}

/-! ## Connections that are reset -/

/-- `ECONNRESET`. -/
def resetError : Errno := 104

/-- Every system call on a socket fails. -/
def Io.reset : Io where
  recv := .failed resetError
  send := .failed resetError
  accept := .error resetError
  soError := resetError

namespace Operation

variable {operation : Operation} {rt : Runtime queues} {self : Addr}

/-- On a connection that is reset no operation goes on. -/
theorem serve_reset (operation : Operation) (total : Nat)
    (rt : Runtime queues) :
    ∃ result, operation.serve .reset total rt = some result ∧
      OutcomeClass.of (some result) = .completed := by
  cases operation with
  | _ => exact ⟨_, rfl, rfl⟩

/-- A wake-up on a connection that is reset returns. -/
theorem wake_reset (total : Nat)
    (kept : FilesKept rt (operation.resumeOnce self .reset total rt).rt) :
    ∃ result, (operation.wake self .reset total rt).returned =
      some result := by
  rw [wake_returned kept]
  cases cancelled : rt.cancelRequested operation.token? with
  | true =>
      obtain ⟨result, returned, _⟩ :=
        returned_of_cancelled self .reset total cancelled
      exact ⟨result, returned⟩
  | false =>
      cases late : operation.timedTransfer && timedOut self rt with
      | true =>
          obtain ⟨timed, expired⟩ := Bool.and_eq_true_iff.mp late
          have ended : (operation.wake self .reset total rt).returned.map
              OpResult.ec = some (operation.refusal rt) :=
            wake_of_timedOut timed expired
          obtain ⟨result, returned, _⟩ := Option.map_eq_some_iff.mp ended
          rw [wake_returned kept] at returned
          exact ⟨result, returned⟩
      | false =>
          obtain ⟨result, served, _⟩ := operation.serve_reset total rt
          refine ⟨result, (resumeOnce_serves cancelled ?_).trans served⟩
          intro timed
          rw [timed, Bool.true_and] at late
          exact late

end Operation

/-- Every socket is reset. -/
def Answers.reset : Answers where
  io _ _ _ := .reset
  recv _ _ _ := rfl
  send _ _ _ := rfl

/-- What is resumed on a socket that is reset returns. -/
theorem Answers.ends_of_reset {answers : Answers} {operation : Operation}
    {rt : Runtime queues} {self : Addr} (total : Nat)
    (reset : ∀ fd direction, operation.socket? = some (fd, direction) →
      answers.io fd (rt.transfers fd) (operation.asks rt) = .reset)
    (kept : FilesKept rt
      (operation.resumeOnce self (answers.answer rt operation) total rt).rt) :
    ∃ result, (operation.wake self (answers.answer rt operation) total
      rt).returned = some result := by
  cases socket : operation.socket? with
  | none =>
      obtain ⟨delay, rfl⟩ := Operation.waitFor_of_no_socket socket
      rw [Operation.wake_returned kept]
      exact ⟨_, rfl⟩
  | some key =>
      obtain ⟨fd, direction⟩ := key
      have same : answers.answer rt operation = .reset := by
        simp only [Answers.answer, socket]
        exact reset fd direction socket
      rw [same] at kept ⊢
      exact Operation.wake_reset total kept

theorem class_ne_pending (result : OpResult) :
    OutcomeClass.of (some result) ≠ .pending := by
  rw [OutcomeClass.of]
  split
  · simp
  · split <;> simp

namespace System

variable {s t next final : System queues} {event : EpollEvent}
variable {evs order rest : List EpollEvent} {since number : Nat}
variable {answers : Answers} {frame holder : Addr} {op held : OpFrame}

/-! ## The start of a batch -/

/-- `epoll_wait` has just returned these events. -/
def fetch (s : System queues) (order : List EpollEvent) : System queues :=
  { s with control := .batch order s.rt.timer.timerFd.settimes }

theorem fetch_rt (s : System queues) (order : List EpollEvent) :
    (s.fetch order).rt = s.rt :=
  rfl

/-- A suspended operation has no result. -/
theorem Ledger.unfinished (ledger : Ledger s)
    (waits : s.pending frame = some op) : s.resultOf op.number = none := by
  rw [resultOf, List.findSome?_eq_none_iff]
  intro obs member
  cases found : obs.resultOf op.number with
  | none => rfl
  | some result =>
      have recorded : obs ∈ s.history op.number :=
        List.mem_filter.mpr
          ⟨member, decide_eq_true (resultOf_numbered found)⟩
      rw [ledger.waits frame op waits, List.mem_singleton] at recorded
      rw [recorded] at found
      cases found

theorem Fetched.standing (fetched : Fetched s evs)
    (waits : s.pending frame = some op) (order : List EpollEvent) :
    Standing s (s.fetch order) frame op :=
  ⟨waits, fun _ _ _ => rfl, fun _ _ _ _ => rfl,
    fetched.ledger.unfinished waits⟩

theorem Good.fetched_step (good : Good s)
    (allowed : s.enabled (.epollWait order) = true) :
    s.step (.epollWait order) = some (s.fetch order) :=
  step_of_enabled good allowed

/-- None of the batch has been dispatched. -/
theorem Good.partway (good : Good s)
    (allowed : s.enabled (.epollWait order) = true) :
    Partway s (s.fetch order) order s.rt.timer.timerFd.settimes := by
  have idle : s.stack = [] := by
    simp only [enabled, Bool.and_eq_true, decide_eq_true_eq, System.idle]
      at allowed
    exact allowed.1.1.1.1.2
  exact ⟨(step_move good rfl (good.fetched_step allowed)).2, idle, rfl,
    FilesKept.refl _, rfl, fun frame again waits =>
      ⟨again, waits, rfl, rfl⟩⟩

/-- The kernel may return the events in any order. -/
theorem enabled_of_perm (same : order.Perm evs)
    (allowed : s.enabled (.epollWait evs) = true) :
    s.enabled (.epollWait order) = true := by
  simp only [enabled, Bool.and_eq_true, decide_eq_true_eq,
    List.all_eq_true] at allowed ⊢
  obtain ⟨⟨⟨before, length⟩, nodup⟩, reports⟩ := allowed
  refine ⟨⟨⟨before, ?_⟩, ?_⟩, fun event inside => ?_⟩
  · rw [same.length_eq]
    exact length
  · exact (same.map EpollEvent.fd).nodup_iff.mpr nodup
  · exact reports event (same.mem_iff.mp inside)

theorem ready_of_perm (same : order.Perm evs) (op : OpFrame) :
    op.ready order = op.ready evs :=
  same.any_eq

theorem timerReady_of_perm (same : order.Perm evs) :
    s.timerReady order = s.timerReady evs :=
  same.any_eq

private theorem Resolves.drained (resolves : Resolves s evs) (good : Good s)
    (allowed : s.enabled (.epollWait evs) = true) (same : order.Perm evs)
    (answers : Answers) :
    ∃ final, drain answers order.length (s.fetch order) = some final ∧
      ∀ frame op, s.pending frame = some op →
        final.outcome op.number = s.verdict answers evs op := by
  obtain ⟨final, ran, classes⟩ := resolves answers order same
  rw [runBatch, good.fetched_step (enabled_of_perm same allowed)] at ran
  exact ⟨final, ran, classes⟩

/-- In a batch that resolves, an operation that is over is in the class of
its verdict. -/
theorem Resolves.class_of_ended (resolves : Resolves s evs)
    (fetched : Fetched s evs) (allowed : s.enabled (.epollWait evs) = true)
    (same : order.Perm evs) {turns : Nat}
    (length : order.length = turns + rest.length)
    (drained : drain answers turns (s.fetch order) = some t)
    (partway : Partway s t rest since) {result : OpResult}
    (waits : s.pending frame = some op) (ended : Ended t op.number result) :
    s.verdict answers evs op = .of (some result) := by
  obtain ⟨final, ran, classes⟩ :=
    resolves.drained fetched.good allowed same answers
  rw [length, drain_add, drained, Option.bind_some] at ran
  rw [← List.append_nil rest] at partway
  obtain ⟨last, ranLast, _, finished⟩ := partway.run answers
    fetched.separate (fun t _ => Ended t op.number result)
    (fun _ _ _ _ _ ended turned => ended.turned turned) ended
  rw [ran] at ranLast
  cases ranLast
  rw [← classes frame op waits, outcome, finished.result]

/-! ## An expired operation that is woken first -/

/-- The operation that waits on sockets for a time is a read or a write. -/
theorem Good.timedTransfer_of_reached (good : Good s)
    (waits : s.pending frame = some op) (ready : op.ready evs = true)
    (reached : op.reached s.rt.clock = true) :
    op.operation.timedTransfer = true := by
  obtain ⟨deadline, set, _⟩ := reached_iff.mp reached
  obtain ⟨now, _, dated, _⟩ := good.sound.dated frame op waits
  rw [dated, Operation.deadlineAt] at set
  cases same : op.operation with
  | asyncReadTimeout base delay => rfl
  | asyncWriteTimeout base delay => rfl
  | waitFor delay =>
      obtain ⟨event, _, own⟩ := List.any_eq_true.mp ready
      simp [OpFrame.ownEvent, OpFrame.socketEvent, OpFrame.cancelEvent,
        same, Operation.socket?, Operation.token?] at own
  | _ =>
      rw [same] at set
      cases set

/-- With its own event first, an expired operation is not timed out unless it
has the current timer. -/
theorem Resolves.current (resolves : Resolves s evs)
    (fetched : Fetched s evs) (allowed : s.enabled (.epollWait evs) = true)
    (waits : s.pending frame = some op) (ready : op.ready evs = true)
    (reached : op.reached s.rt.clock = true) (quiet : s.flagged op = false) :
    s.current frame = true := by
  by_contra elsewhere
  obtain ⟨event, inside, own⟩ := List.any_eq_true.mp ready
  have same : (event :: evs.erase event).Perm evs :=
    (List.perm_cons_erase inside).symm
  have partway := fetched.good.partway (enabled_of_perm same allowed)
  have standing := fetched.standing waits (event :: evs.erase event)
  obtain ⟨next, taken, turned, later⟩ :=
    partway.turn fetched.separate Answers.reset
  have found := partway.targets_own fetched inside waits standing own
  obtain ⟨concerns, woke⟩ := turned.woke found standing.waits
  have timed := fetched.good.timedTransfer_of_reached waits ready reached
  obtain ⟨result, served, completed⟩ :=
    op.operation.serve_reset op.total s.rt
  have reset : Answers.reset.answer s.rt op.operation = .reset := by
    unfold Answers.answer
    cases socket : op.operation.socket? with
    | some key => rfl
    | none =>
        obtain ⟨delay, operation⟩ := Operation.waitFor_of_no_socket socket
        rw [operation] at timed
        cases timed
  have kept := partway.kept standing.waits concerns .reset
  rw [fetch_rt] at woke kept
  rw [reset] at woke
  have returned : (op.operation.wake frame .reset op.total
      s.rt).returned = some result := by
    rw [Operation.wake_returned kept, Operation.resumeOnce_serves quiet,
      served]
    intro _
    cases expired : timedOut frame s.rt with
    | false => rfl
    | true =>
        exact absurd ((fetched.good.timedOut_iff_reached waits).mp
          expired).1 elsewhere
  have ended := partway.ended fetched standing.waits woke returned
  have verdict := resolves.class_of_ended fetched allowed same
    (Nat.add_comm _ 1) ((drain_one _).trans taken) later waits ended
  rw [System.verdict, ready, Bool.true_or, if_pos rfl, quiet,
    if_neg Bool.false_ne_true, reached, timed, Bool.true_and, if_pos rfl,
    completed] at verdict
  cases verdict

/-! ## The timerfd's event first -/

/-- An operation that nothing in the rest of the batch is about waits on. -/
theorem Partway.asleep (partway : Partway s t rest since)
    (fetched : Fetched s evs) (waits : s.pending frame = some op)
    (still : t.pending frame = some op) (unready : op.ready rest = false)
    (untimed : s.timerReady rest = false) (answers : Answers) :
    ∃ final, drain answers rest.length t = some final ∧
      final.resultOf op.number = t.resultOf op.number := by
  rw [← List.append_nil rest] at partway
  obtain ⟨final, drained, _, _, result, _⟩ := partway.run answers
    fetched.separate
    (fun now todo => now.pending frame = some op ∧
      now.resultOf op.number = t.resultOf op.number ∧
      op.ready todo = false ∧ s.timerReady todo = false)
    (by
      rintro now next event todo partway ⟨still, silent, unready, untimed⟩
        turned
      rw [ready_cons, Bool.or_eq_false_iff] at unready
      rw [timerReady_cons, Bool.or_eq_false_iff] at untimed
      have elsewhere : ¬now.Concerns event frame op := by
        rintro (own | ⟨timer, _⟩)
        · rw [unready.1] at own
          cases own
        · rw [partway.timerEvent_eq, untimed.1] at timer
          cases timer
      obtain ⟨waitsNext, silentNext⟩ :=
        partway.missed fetched waits still elsewhere turned
      exact ⟨waitsNext, silentNext.trans silent, unready.2, untimed.2⟩)
    ⟨still, rfl, unready, untimed⟩
  exact ⟨final, drained, result⟩

/-- With the timerfd's event first, no event resumes an expired operation that
has neither the current timer nor an event of its own. -/
theorem Resolves.ready (resolves : Resolves s evs)
    (fetched : Fetched s evs) (allowed : s.enabled (.epollWait evs) = true)
    (timer : s.timerReady evs = true) (waits : s.pending frame = some op)
    (reached : op.reached s.rt.clock = true)
    (behind : s.current frame = false) : op.ready evs = true := by
  by_contra unready
  rw [Bool.not_eq_true] at unready
  obtain ⟨event, inside, here⟩ := List.any_eq_true.mp timer
  have same : (event :: evs.erase event).Perm evs :=
    (List.perm_cons_erase inside).symm
  have nodup : ((event :: evs.erase event).map EpollEvent.fd).Nodup :=
    (same.map EpollEvent.fd).nodup_iff.mpr fetched.nodup
  have partway := fetched.good.partway (enabled_of_perm same allowed)
  have standing := fetched.standing waits (event :: evs.erase event)
  rw [← ready_of_perm same, ready_cons, Bool.or_eq_false_iff] at unready
  obtain ⟨next, taken, turned, later⟩ :=
    partway.turn fetched.separate Answers.reset
  have elsewhere : ¬(s.fetch (event :: evs.erase event)).Concerns event frame
      op := by
    rintro (own | ⟨_, current⟩)
    · rw [unready.1] at own
      cases own
    · exact absurd (current.symm.trans behind) Bool.noConfusion
  obtain ⟨still, silent⟩ :=
    partway.missed fetched waits standing.waits elsewhere turned
  obtain ⟨final, drained, result⟩ := later.asleep fetched waits still
    unready.2 (timerReady_of_nodup nodup here) Answers.reset
  obtain ⟨last, ran, classes⟩ :=
    resolves.drained fetched.good allowed same Answers.reset
  rw [List.length_cons, drain, taken, Option.bind_some, drained] at ran
  cases ran
  have class_eq := classes frame op waits
  rw [outcome, result, silent, standing.result] at class_eq
  exact verdict_of_expired fetched.good waits reached timer class_eq.symm

/-- So such an operation is cancelled. -/
theorem Resolves.single (resolves : Resolves s evs)
    (fetched : Fetched s evs) (allowed : s.enabled (.epollWait evs) = true)
    (timer : s.timerReady evs = true) (waits : s.pending frame = some op)
    (reached : op.reached s.rt.clock = true)
    (behind : s.current frame = false) :
    op.ready evs = true ∧ s.flagged op = true := by
  have ready := resolves.ready fetched allowed timer waits reached behind
  refine ⟨ready, ?_⟩
  cases flag : s.flagged op with
  | true => rfl
  | false =>
      have current :=
        resolves.current fetched allowed waits ready reached flag
      rw [behind] at current
      cases current

end System

end AsyncFrame
