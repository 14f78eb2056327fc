import AsyncFrame.BadOrders

/-!
# Timers that come to the front

The timerfd's event resumes the operation that has the current timer by then.
When the events of the one that had it come first, and of all the others that
certainly end, it resumes an operation that has not expired.
-/

namespace AsyncFrame

open Lib

variable {queues : TimerQueue}

/-! ## Going round -/

/-- An operation that goes round its loop has made a transfer. -/
theorem Operation.wake_transfers {operation : Operation}
    {rt : Runtime queues} {self : Addr} {io : Io} {total : Nat}
    (kept : FilesKept rt (operation.resumeOnce self io total rt).rt)
    (running : operation.timedTransfer = true → timedOut self rt = false)
    (round : (operation.wake self io total rt).returned = none)
    {fd : Fd} {direction : Direction}
    (socket : operation.socket? = some (fd, direction)) :
    rt.transfers fd <
      (operation.wake self io total rt).rt.transfers fd := by
  rw [wake_returned kept] at round
  have quiet := quiet_of_pending round
  have buffered : operation.buf? ≠ none := by
    intro none
    cases operation with
    | asyncAccept conn =>
        simp only [resumeOnce, InnerAcceptAwaiter.awaitResume] at round
        cases accepted : io.accept with
        | error errno => simp [accepted] at round
        | ok fd => simp [accepted] at round
    | asyncConnect conn => cases round
    | waitFor delay => cases round
    | _ => cases none
  obtain ⟨buf, named⟩ := Option.ne_none_iff_exists'.mp buffered
  obtain ⟨call, way, here, calls, _⟩ :=
    resumeOnce_moves self io total quiet running named
  rw [socket] at here
  cases here
  have silent := awaitSuspend_silent operation self
    (operation.resumeOnce self io total rt).rt
  rw [wake_eq kept, round]
  simp only [Runtime.transfers, silent.calls, calls]
  rw [List.countP_cons_of_pos (by simp)]
  exact Nat.lt_succ_self _

/-- An operation that goes round its loop is registered again. -/
theorem Sound.registry_of_round {rt : Runtime queues}
    {pending : Addr → Option OpFrame} (sound : Sound rt pending)
    {frame : Addr} {op : OpFrame} (io : Io)
    (waits : pending frame = some op)
    (current : ∀ delay, op.operation = .waitFor delay →
      rt.timer.cur.state.read = some ⟨frame, .timer⟩)
    (round : (op.operation.wake frame io op.total rt).returned = none)
    {member : OpMember} {fd : Fd} {direction : Direction}
    (slot : op.operation.slot? member = some (fd, direction)) :
    (op.operation.wake frame io op.total rt).rt.scheduler.registry fd
        direction = some ⟨frame, member⟩ := by
  rcases sound.wake_cases io op.total waits current with
    ⟨result, returns⟩ | ⟨middle, left, suspends, _⟩
  · rw [returns.returned] at round
    cases round
  · exact System.registry_of_own suspends.leaves
      ((sound.fits frame op waits).kept left.files) left.inOrder slot

namespace System

variable {s t next : System queues} {event own : EpollEvent}
variable {evs order rest todo tail : List EpollEvent} {since : Nat}
variable {answers : Answers} {frame holder other : Addr}
variable {op held otherOp : OpFrame}

/-! ## Who leaves and who stays -/

/-- The operation with the current timer, or one that its own event certainly
ends. -/
structure Departs (s : System queues) (evs : List EpollEvent)
    (holder frame : Addr) (op : OpFrame) : Prop where
  waits : s.pending frame = some op
  ready : op.ready evs = true
  settled : frame = holder ∨ s.flagged op = true ∨
    op.operation.EndsAtOnce s.rt

/-- Any other operation. -/
structure Follows (s : System queues) (evs : List EpollEvent)
    (holder frame : Addr) (op : OpFrame) : Prop where
  waits : s.pending frame = some op
  other : frame ≠ holder
  unsettled : ¬(op.ready evs = true ∧
    (s.flagged op = true ∨ op.operation.EndsAtOnce s.rt))

private theorem Departs.not_follows (departs : Departs s evs holder frame op)
    (follows : Follows s evs holder frame otherOp) : False := by
  have same := follows.waits
  rw [departs.waits] at same
  cases same
  rcases departs.settled with same | settled
  · exact follows.other same
  · exact follows.unsettled ⟨departs.ready, settled⟩

private theorem departs_or_follows (holds : s.pending holder = some held)
    (ready : held.ready evs = true) (waits : s.pending frame = some op) :
    Departs s evs holder frame op ∨ Follows s evs holder frame op := by
  by_cases same : frame = holder
  · subst same
    rw [holds] at waits
    cases waits
    exact Or.inl ⟨holds, ready, Or.inl rfl⟩
  · by_cases settled : op.ready evs = true ∧
        (s.flagged op = true ∨ op.operation.EndsAtOnce s.rt)
    · exact Or.inl ⟨waits, settled.1, Or.inr settled.2⟩
    · exact Or.inr ⟨waits, same, settled⟩

/-! ## Answers that end those that leave -/

/-- Every socket is reset, but the next transfer of an operation that follows
and is woken leaves it unfinished. -/
structure Provokes (answers : Answers) (s : System queues)
    (evs : List EpollEvent) (holder : Addr) : Prop where
  reset : ∀ fd before remain,
    (∀ frame op direction, Follows s evs holder frame op →
      op.ready evs = true → op.operation.socket? = some (fd, direction) →
      before ≠ s.rt.transfers fd) →
    answers.io fd before remain = .reset
  rounds : ∀ frame op, Follows s evs holder frame op →
    op.ready evs = true →
    op.operation.serve (answers.answer s.rt op.operation) op.total s.rt = none

private theorem exists_provokes (separate : Separate s) (evs : List EpollEvent)
    (holder : Addr) : ∃ answers, Provokes answers s evs holder := by
  have each : ∀ fd before remain, ∃ io : Io,
      io.recv.possible remain = true ∧ io.send.possible remain = true ∧
      ((∀ frame op direction, Follows s evs holder frame op →
        op.ready evs = true →
        op.operation.socket? = some (fd, direction) →
        before ≠ s.rt.transfers fd) → io = .reset) ∧
      ∀ frame op direction, Follows s evs holder frame op →
        op.ready evs = true →
        op.operation.socket? = some (fd, direction) →
        before = s.rt.transfers fd → remain = op.operation.asks s.rt →
        op.operation.serve io op.total s.rt = none := by
    intro fd before remain
    by_cases found : ∃ frame op direction, Follows s evs holder frame op ∧
        op.ready evs = true ∧
        op.operation.socket? = some (fd, direction) ∧
        before = s.rt.transfers fd ∧ remain = op.operation.asks s.rt
    · obtain ⟨frame, op, direction, follows, ready, socket, rfl, rfl⟩ := found
      have unfinished : ¬op.operation.EndsAtOnce s.rt := fun ends =>
        follows.unsettled ⟨ready, Or.inr ends⟩
      simp only [Operation.EndsAtOnce, not_forall] at unfinished
      obtain ⟨io, total, recv, send, round⟩ := unfinished
      refine ⟨io, recv, send, fun elsewhere => ?_, ?_⟩
      · exact absurd rfl (elsewhere frame op direction follows ready socket)
      · intro again opAgain way followsAgain _ socketAgain _ _
        have same := separate.sockets _ _ _ _ _ _ _ follows.waits
          followsAgain.waits socket socketAgain
        subst same
        have sameOp := follows.waits.symm.trans followsAgain.waits
        cases sameOp
        rw [op.operation.serve_isSome io total op.total] at round
        simpa using round
    · refine ⟨.reset, rfl, rfl, fun _ => rfl, ?_⟩
      intro frame op direction follows ready socket transfers asks
      exact absurd
        ⟨frame, op, direction, follows, ready, socket, transfers, asks⟩ found
  choose io recv send reset rounds using each
  refine ⟨⟨io, recv, send⟩, reset, ?_⟩
  intro frame op follows ready
  obtain ⟨event, _, own⟩ := List.any_eq_true.mp ready
  obtain ⟨⟨fd, direction⟩, socket⟩ :=
    Option.ne_none_iff_exists'.mp (socket_of_own own)
  simp only [Answers.answer, socket]
  exact rounds fd _ _ frame op direction follows ready socket rfl rfl

/-- An operation that leaves waits on a socket that is reset. -/
theorem Provokes.answer_of_departs (provokes : Provokes answers s evs holder)
    (separate : Separate s) (departs : Departs s evs holder frame op)
    (rt : Runtime queues) : answers.answer rt op.operation = .reset := by
  obtain ⟨event, _, own⟩ := List.any_eq_true.mp departs.ready
  obtain ⟨⟨fd, direction⟩, socket⟩ :=
    Option.ne_none_iff_exists'.mp (socket_of_own own)
  simp only [Answers.answer, socket]
  refine provokes.reset fd _ _ ?_
  intro other otherOp way follows _ otherSocket
  have same := separate.sockets _ _ _ _ _ _ _ departs.waits follows.waits
    socket otherSocket
  subst same
  exact (departs.not_follows follows).elim

/-! ## The events of those that leave -/

/-- The operations that leave do so, and nothing else happens. -/
structure Clearing (s t : System queues) (evs : List EpollEvent)
    (holder : Addr) (todo : List EpollEvent) : Prop where
  clock : t.rt.clock = s.rt.clock
  buffers : t.rt.buffers = s.rt.buffers
  following : ∀ frame op, Follows s evs holder frame op →
    Standing s t frame op
  departing : ∀ frame op, Departs s evs holder frame op →
    t.pending frame = none ∨
      Standing s t frame op ∧ op.ready todo = true
  early : ∀ event ∈ todo, event ∈ evs ∧
    ∃ frame op, Departs s evs holder frame op ∧ op.ownEvent event = true

private theorem Clearing.of_spared
    (clearing : Clearing s t evs holder (event :: todo))
    (fetched : Fetched s evs) (clock : next.rt.clock = t.rt.clock)
    (buffers : next.rt.buffers = t.rt.buffers)
    (departs : Departs s evs holder frame op)
    (own : op.ownEvent event = true) (gone : next.pending frame = none)
    (spared : ∀ other otherOp, s.pending other = some otherOp →
      other ≠ frame → Spared t next other otherOp) :
    Clearing s next evs holder todo where
  clock := clock.trans clearing.clock
  buffers := buffers.trans clearing.buffers
  following other otherOp follows := by
    refine (clearing.following other otherOp follows).spared
      (spared other otherOp follows.waits ?_)
    rintro rfl
    exact departs.not_follows follows
  departing other otherOp otherDeparts := by
    by_cases same : other = frame
    · subst same
      exact Or.inl gone
    · have kept := spared other otherOp otherDeparts.waits same
      rcases clearing.departing other otherOp otherDeparts with
        left | ⟨standing, ready⟩
      · exact Or.inl (kept.pending.trans left)
      · refine Or.inr ⟨standing.spared kept, ?_⟩
        rw [ready_cons, Bool.or_eq_true] at ready
        refine ready.resolve_left fun otherOwn => same ?_
        exact fetched.frame_of_own departs.waits own otherDeparts.waits
          otherOwn
  early other member :=
    clearing.early other (List.mem_cons_of_mem event member)

private theorem Clearing.turned
    (clearing : Clearing s t evs holder (event :: todo))
    (partway : Partway s t (event :: rest) since) (fetched : Fetched s evs)
    (provokes : Provokes answers s evs holder)
    (turned : Turned t next answers event rest since) :
    Clearing s next evs holder todo := by
  obtain ⟨inside, frame, op, departs, own⟩ :=
    clearing.early event List.mem_cons_self
  rcases turned.effect with
    ⟨nothing, passed⟩ | ⟨pointer, x, found, waits, concerns, woke⟩
  · have gone : t.pending frame = none := by
      refine (clearing.departing frame op departs).resolve_right ?_
      rintro ⟨standing, _⟩
      obtain ⟨pointer, found, _⟩ :=
        partway.targets_own fetched inside departs.waits standing own
      rw [nothing] at found
      cases found
    refine clearing.of_spared fetched ?_ ?_ departs own
      ((congrFun passed.pending frame).trans gone)
      fun _ _ _ _ => passed.spared
    · rw [passed.rt]
    · rw [passed.rt]
  · have same := partway.frame_of_own fetched departs.waits own waits concerns
    subst same
    rcases clearing.departing _ op departs with gone | ⟨standing, _⟩
    · rw [waits] at gone
      cases gone
    · have here := standing.waits
      rw [waits] at here
      cases here
      have clock := partway.clock_of_own waits concerns own woke
      rw [provokes.answer_of_departs fetched.separate departs] at woke
      have kept := partway.kept waits concerns .reset
      obtain ⟨result, returned⟩ := Operation.wake_reset op.total kept
      refine clearing.of_spared fetched clock ?_ departs own ?_ ?_
      · rw [woke.rt]
        exact (Operation.wake_confined kept).buffers_of_failed rfl rfl
      · rw [woke.pending, Function.update_self, OpFrame.after, returned]
      · intro other otherOp otherWaits different
        exact partway.spares fetched waits concerns woke otherWaits different

/-- Afterwards an operation that follows has the current timer. -/
theorem Clearing.front (clearing : Clearing s t evs holder [])
    (partway : Partway s t rest since)
    (holds : s.pending holder = some held) (ready : held.ready evs = true)
    (follows : Follows s evs holder frame op)
    (timed : op.operation.delay?.isSome = true) :
    ∃ front x, t.current front = true ∧ Follows s evs holder front x := by
  have nonempty := partway.good.timed_iff.mpr
    ⟨frame, op, (clearing.following frame op follows).waits, timed⟩
  obtain ⟨front, again, named, waits, _⟩ := partway.good.current nonempty
  obtain ⟨x, first, _⟩ := partway.origin front again waits
  refine ⟨front, x, current_iff.mpr named, ?_⟩
  refine (departs_or_follows holds ready first).resolve_left fun departs => ?_
  rcases clearing.departing front x departs with gone | ⟨_, never⟩
  · rw [waits] at gone
    cases gone
  · cases never

/-- Without an event of its own it ends then. -/
theorem Follows.ends (follows : Follows s evs holder frame op)
    (unready : op.ready evs = false) (partway : Partway s t rest since)
    (fetched : Fetched s evs) (provokes : Provokes answers s evs holder)
    (standing : Standing s t frame op)
    (concerns : t.Concerns event frame op)
    (woke : Woke t next frame op (answers.answer t.rt op.operation)) :
    ∃ result, Ended next op.number result := by
  obtain ⟨result, returned⟩ := Answers.ends_of_reset op.total
    (fun fd direction socket => provokes.reset fd _ _ (by
      intro other otherOp way otherFollows ready otherSocket
      have same := fetched.separate.sockets _ _ _ _ _ _ _ follows.waits
        otherFollows.waits socket otherSocket
      subst same
      have sameOp := follows.waits.symm.trans otherFollows.waits
      cases sameOp
      rw [unready] at ready
      cases ready)) (partway.kept standing.waits concerns _)
  exact ⟨result, partway.ended fetched standing.waits woke returned⟩

/-- With one, it goes round its loop. -/
theorem Follows.round (follows : Follows s evs holder frame op)
    (ready : op.ready evs = true) (unreached : op.reached s.rt.clock = false)
    (partway : Partway s t rest since)
    (provokes : Provokes answers s evs holder)
    (standing : Standing s t frame op) (clock : t.rt.clock = s.rt.clock)
    (buffers : t.rt.buffers = s.rt.buffers)
    (concerns : t.Concerns event frame op) :
    timedOut frame t.rt = false ∧
      (op.operation.wake frame (answers.answer t.rt op.operation) op.total
        t.rt).returned = none := by
  have running := partway.running standing.waits clock unreached
  refine ⟨running, ?_⟩
  rw [Operation.wake_returned (partway.kept standing.waits concerns _),
    Operation.resumeOnce_serves _ fun _ => running,
    Operation.serve_congr _ _ fun buf _ => congrFun buffers buf,
    Operation.answer_congr answers (fun buf _ => congrFun buffers buf)
      standing.transfers]
  · exact provokes.rounds frame op follows ready
  · rw [partway.flagged_eq]
    cases flag : s.flagged op with
    | false => rfl
    | true => exact absurd ⟨ready, Or.inl flag⟩ follows.unsettled

private theorem Follows.verdict_pending
    (follows : Follows s evs holder frame op)
    (unreached : op.reached s.rt.clock = false)
    (provokes : Provokes answers s evs holder) :
    s.verdict answers evs op = .pending := by
  rw [verdict, unreached, Bool.false_and, Bool.or_false]
  cases ready : op.ready evs with
  | false => rfl
  | true =>
      have quiet : s.flagged op = false := by
        cases flag : s.flagged op with
        | false => rfl
        | true => exact absurd ⟨ready, Or.inl flag⟩ follows.unsettled
      rw [if_pos rfl, quiet, provokes.rounds frame op follows ready]
      rfl

/-! ## The event of one that went round -/

/-- The operation went round its loop, and an event of its own is still to
come. -/
structure Again (s t : System queues) (todo : List EpollEvent)
    (own : EpollEvent) (frame : Addr) (op : OpFrame) : Prop where
  inside : own ∈ todo
  waits : ∃ again, t.pending frame = some again ∧
    again.operation = op.operation ∧ again.number = op.number
  transfers : ∀ fd direction, op.operation.socket? = some (fd, direction) →
    s.rt.transfers fd < t.rt.transfers fd
  filed : ∀ member fd direction,
    op.operation.slot? member = some (fd, direction) →
      ∃ pointer, t.rt.scheduler.registry fd direction = some pointer

private theorem Again.of_round (partway : Partway s t rest since)
    (standing : Standing s t frame op)
    (concerns : t.Concerns event frame op)
    (woke : Woke t next frame op (answers.answer t.rt op.operation))
    (running : timedOut frame t.rt = false)
    (round : (op.operation.wake frame (answers.answer t.rt op.operation)
      op.total t.rt).returned = none) (inside : own ∈ todo) :
    Again s next todo own frame op where
  inside := inside
  waits := by
    rw [woke.pending, Function.update_self, OpFrame.after, round]
    exact ⟨_, rfl, rfl, rfl⟩
  transfers fd direction socket := by
    have moved := Operation.wake_transfers
      (partway.kept standing.waits concerns _) (fun _ => running) round socket
    rw [← woke.rt] at moved
    exact (standing.transfers fd direction socket).ge.trans_lt moved
  filed member fd direction slot := by
    rw [woke.rt]
    exact ⟨_, partway.good.sound.registry_of_round _ standing.waits
      (fun _ same => concerns.current same) round slot⟩

/-- Whatever resumes it now ends it. -/
theorem Again.turned (again : Again s t (event :: todo) own frame op)
    (partway : Partway s t (event :: rest) since) (fetched : Fetched s evs)
    (provokes : Provokes answers s evs holder)
    (waits : s.pending frame = some op) (mine : op.ownEvent own = true)
    (turned : Turned t next answers event rest since) :
    (∃ result, Ended next op.number result) ∨
      Again s next todo own frame op := by
  obtain ⟨later, here, operation, number⟩ := again.waits
  have hit : (∃ pointer, t.target event = some pointer ∧
      pointer.frame = frame) → ∃ result, Ended next op.number result := by
    intro found
    obtain ⟨concerns, woke⟩ := turned.woke found here
    have kept := partway.kept here concerns
      (answers.answer t.rt later.operation)
    obtain ⟨result, returned⟩ := Answers.ends_of_reset later.total
      (fun fd direction socket => provokes.reset fd _ _ (by
        rw [operation] at socket
        intro other otherOp way follows _ otherSocket
        have same := fetched.separate.sockets _ _ _ _ _ _ _ waits
          follows.waits socket otherSocket
        subst same
        exact (again.transfers fd direction socket).ne')) kept
    rw [← number]
    exact ⟨result, partway.ended fetched here woke returned⟩
  have misses : (∀ pointer, t.target event = some pointer →
      pointer.frame ≠ frame) → Spared t next frame op →
      Again s next todo own frame op := by
    intro elsewhere spared
    refine ⟨?_, ?_, ?_, ?_⟩
    · rcases List.mem_cons.mp again.inside with same | inside
      · obtain ⟨member, direction, slot, reads, writes⟩ :=
          ownEvent_cases mine
        obtain ⟨pointer, found⟩ :=
          again.filed member own.fd direction slot
        rw [same] at slot found reads writes
        rw [← operation] at slot
        obtain ⟨target, aimed, aim⟩ := partway.good.target_of_slot
          (partway.separate fetched.separate) here slot reads writes found
        exact absurd aim (elsewhere target aimed)
      · exact inside
    · exact ⟨later, spared.pending.trans here, operation, number⟩
    · intro fd direction socket
      rw [spared.transfers fd direction socket]
      exact again.transfers fd direction socket
    · intro member fd direction slot
      rw [spared.filed member fd direction slot]
      exact again.filed member fd direction slot
  rcases turned.effect with
    ⟨nothing, passed⟩ | ⟨pointer, x, found, hitWaits, concerns, woke⟩
  · right
    refine misses ?_ passed.spared
    intro pointer found
    rw [nothing] at found
    cases found
  · by_cases same : pointer.frame = frame
    · exact Or.inl (hit ⟨pointer, found, same⟩)
    · right
      refine misses ?_ (partway.spares fetched hitWaits concerns woke waits
        (Ne.symm same))
      intro other foundOther
      rw [found] at foundOther
      cases foundOther
      exact same

/-! ## The order -/

/-- The events of those that leave can all come before any other event. -/
theorem exists_early (inside : event ∈ evs) (leaving : EpollEvent → Prop)
    (stays : ¬leaving event) :
    ∃ early late, (early ++ event :: late).Perm evs ∧
      (∀ other ∈ early, leaving other) ∧
      ∀ other ∈ evs, leaving other → other ∈ early := by
  classical
  have split := List.filter_append_perm (fun other => decide (leaving other))
    evs
  have after : event ∈ evs.filter fun other => !decide (leaving other) :=
    List.mem_filter.mpr ⟨inside, by simpa using stays⟩
  refine ⟨evs.filter fun other => decide (leaving other),
    (evs.filter fun other => !decide (leaving other)).erase event, ?_, ?_,
    ?_⟩
  · exact ((List.perm_cons_erase after).symm.append_left _).trans split
  · intro other member
    exact of_decide_eq_true (List.mem_filter.mp member).2
  · intro other member leaves
    exact List.mem_filter.mpr ⟨member, decide_eq_true leaves⟩

private theorem Fetched.clearing (fetched : Fetched s evs)
    (early : ∀ other ∈ rest, ∃ frame op, Departs s evs holder frame op ∧
      op.ownEvent other = true)
    (inside : ∀ other ∈ rest, other ∈ evs)
    (all : ∀ other ∈ evs, (∃ frame op, Departs s evs holder frame op ∧
      op.ownEvent other = true) → other ∈ rest) (order : List EpollEvent) :
    Clearing s (s.fetch order) evs holder rest where
  clock := rfl
  buffers := rfl
  following _ _ follows := fetched.standing follows.waits order
  departing frame op departs := by
    right
    refine ⟨fetched.standing departs.waits order, ?_⟩
    obtain ⟨event, member, own⟩ := List.any_eq_true.mp departs.ready
    exact List.any_eq_true.mpr
      ⟨event, all event member ⟨frame, op, departs, own⟩, own⟩
  early other member := ⟨inside other member, early other member⟩

/-- If the operation with the current timer may go first, the timerfd's event
never finds another one that is not sure to end. -/
theorem Resolves.behind (resolves : Resolves s evs)
    (fetched : Fetched s evs) (allowed : s.enabled (.epollWait evs) = true)
    (timer : s.timerReady evs = true) (holds : s.pending holder = some held)
    (current : s.current holder = true) (ready : held.ready evs = true)
    (waits : s.pending frame = some op)
    (timed : op.operation.delay?.isSome = true) (different : frame ≠ holder) :
    op.ready evs = true ∧
      (s.flagged op = true ∨ op.operation.EndsAtOnce s.rt) := by
  by_contra unsettled
  have follows : Follows s evs holder frame op :=
    ⟨waits, different, unsettled⟩
  obtain ⟨answers, provokes⟩ :=
    exists_provokes fetched.separate evs holder
  obtain ⟨event, inside, here⟩ := List.any_eq_true.mp timer
  obtain ⟨early, late, same, leave, all⟩ := exists_early inside
    (fun other => ∃ frame op, Departs s evs holder frame op ∧
      op.ownEvent other = true) (by
        rintro ⟨frame, op, departs, own⟩
        rw [fetched.good.untimed_of_own departs.waits own] at here
        cases here)
  have members : ∀ other ∈ early, other ∈ evs := fun other member =>
    same.mem_iff.mp (List.mem_append_left _ member)
  have partway := fetched.good.partway (enabled_of_perm same allowed)
  -- those that leave do so
  obtain ⟨middle, drained, partway, cleared⟩ := partway.run
    answers fetched.separate
    (fun t todo => Clearing s t evs holder todo)
    (fun t next event todo partway clearing turned =>
      clearing.turned partway fetched provokes turned)
    (fetched.clearing leave members all _)
  -- the timerfd's event resumes one that follows
  obtain ⟨front, x, inFront, ahead⟩ :=
    cleared.front partway holds ready follows timed
  have standing := cleared.following front x ahead
  obtain ⟨next, taken, turned, later⟩ :=
    partway.turn fetched.separate answers
  obtain ⟨concerns, woke⟩ := turned.woke
    (partway.targets_current here inFront) standing.waits
  have unreached : x.reached s.rt.clock = false := by
    cases reached : x.reached s.rt.clock with
    | false => rfl
    | true =>
        have elsewhere : s.current front = false := by
          cases again : s.current front with
          | false => rfl
          | true => exact absurd (current_unique again current) ahead.other
        have single := resolves.single fetched allowed timer ahead.waits
          reached elsewhere
        exact absurd ⟨single.1, Or.inl single.2⟩ ahead.unsettled
  have pending := ahead.verdict_pending unreached provokes
  have soFar : drain answers (early.length + 1)
      (s.fetch (early ++ event :: late)) = some next := by
    rw [drain_add, drained, Option.bind_some, drain_one, taken]
  cases woken : x.ready evs with
  | false =>
      obtain ⟨result, ended⟩ := ahead.ends woken partway fetched provokes
        standing concerns woke
      have finished := resolves.class_of_ended fetched allowed same (by
        rw [List.length_append, List.length_cons]; omega) soFar later
        ahead.waits ended
      exact class_ne_pending result (finished.symm.trans pending)
  | true =>
      obtain ⟨running, round⟩ := ahead.round woken unreached partway provokes
        standing cleared.clock cleared.buffers concerns
      obtain ⟨own, member, mine⟩ := List.any_eq_true.mp woken
      have still : own ∈ late := by
        rcases List.mem_append.mp (same.mem_iff.mpr member) with
          left | right
        · obtain ⟨other, otherOp, departs, otherOwn⟩ := leave own left
          have sameFrame := fetched.frame_of_own departs.waits otherOwn
            ahead.waits mine
          subst sameFrame
          exact (departs.not_follows ahead).elim
        · rcases List.mem_cons.mp right with rfl | right
          · rw [fetched.good.untimed_of_own ahead.waits mine] at here
            cases here
          · exact right
      have again : Again s next late own front x :=
        .of_round partway standing concerns woke running round still
      rw [← List.append_nil late] at later
      obtain ⟨final, ran, last, ⟨result, ended⟩ | never⟩ := later.run
        answers fetched.separate
        (fun t todo => (∃ result, Ended t x.number result) ∨
          Again s t todo own front x)
        (by
          rintro t next event todo partway (⟨result, ended⟩ | again) turned
          · exact Or.inl ⟨result, ended.turned turned⟩
          · exact again.turned partway fetched provokes ahead.waits mine
              turned)
        (Or.inr again)
      · have ranAll : drain answers (early.length + 1 + late.length)
            (s.fetch (early ++ event :: late)) = some final := by
          rw [drain_add, soFar]
          exact ran
        have finished := resolves.class_of_ended fetched allowed same (by
          rw [List.length_append, List.length_cons, List.length_nil]
          omega) ranAll last ahead.waits ended
        exact class_ne_pending result (finished.symm.trans pending)
      · cases never.inside

end System

end AsyncFrame
