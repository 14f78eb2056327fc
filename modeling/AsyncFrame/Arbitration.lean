import AsyncFrame.Dispatch

/-!
# Arbitrated batches resolve

While a batch is dispatched each operation is at first untouched.  An event of
its own, or the timerfd's, ends it or sends it round its loop, and after that
nothing concerns it any more.  Under the condition each operation is woken in
the class of its verdict, whatever comes first.
-/

namespace AsyncFrame

open Lib

variable {queues : TimerQueue}

namespace System

variable {s t next : System queues} {event : EpollEvent}
variable {evs rest : List EpollEvent} {since : Nat} {answers : Answers}
variable {frame hit : Addr} {op x : OpFrame}

/-! ## The phases of an operation -/

/-- The batch has an event of the timerfd, and one of the descriptors of the
operation with the current timer. -/
def Exposed (s : System queues) (evs : List EpollEvent) : Prop :=
  s.timerReady evs = true ∧
    ∃ holder held, s.pending holder = some held ∧
      s.current holder = true ∧ held.ready evs = true

/-- No event has concerned the operation yet. -/
structure Untouched (s t : System queues) (evs rest : List EpollEvent)
    (frame : Addr) (op : OpFrame) : Prop extends Standing s t frame op where
  buffer : s.Served evs op → ∀ buf, op.operation.buf? = some buf →
    t.rt.buffers buf = s.rt.buffers buf
  events : op.ready rest = op.ready evs
  timer : s.current frame = true → op.reached s.rt.clock = true →
    t.current frame = true ∧ s.timerReady rest = s.timerReady evs

/-- The operation went round its loop, and nothing concerns it any more. -/
structure Rounded (s t : System queues) (answers : Answers)
    (evs rest : List EpollEvent) (frame : Addr) (op : OpFrame) : Prop where
  again : ∃ again, t.pending frame = some again ∧
    again.operation = op.operation
  verdict : s.verdict answers evs op = .pending
  events : op.ready rest = false
  safe : Exposed s evs → op.operation.delay? = none
  result : t.resultOf op.number = none

/-- The operation is over, in the class of its verdict. -/
structure Decided (s t : System queues) (answers : Answers)
    (evs rest : List EpollEvent) (frame : Addr) (op : OpFrame) : Prop where
  gone : t.pending frame = none
  outcome : t.outcome op.number = s.verdict answers evs op
  cause : op.ready evs = true ∨ s.timerReady rest = false

/-- The batch has been dispatched up to `rest`, and every operation is on the
way to its verdict. -/
structure Draining (s t : System queues) (answers : Answers)
    (evs rest : List EpollEvent) (since : Nat) : Prop
    extends Partway s t rest since where
  clock : t.rt.clock = s.rt.clock
  nodup : (rest.map EpollEvent.fd).Nodup
  inside : ∀ event ∈ rest, event ∈ evs
  phase : ∀ frame op, s.pending frame = some op →
    Untouched s t evs rest frame op ∨
      Rounded s t answers evs rest frame op ∨
      Decided s t answers evs rest frame op

/-! ## What the rest of the batch tells -/

namespace Draining

variable (draining : Draining s t answers evs (event :: rest) since)
include draining

/-- While the timerfd's event is still to come, an expired operation with the
current timer is untouched, or is over for an event of its own. -/
theorem holder_cases (fetched : Fetched s evs)
    (timer : s.timerEvent event = true) :
    ∃ holder held, s.pending holder = some held ∧
      s.current holder = true ∧ held.reached s.rt.clock = true ∧
      (Untouched s t evs (event :: rest) holder held ∧
          t.current holder = true ∨
        held.ready evs = true) := by
  have ready : s.timerReady evs = true := List.any_eq_true.mpr
    ⟨event, draining.inside event List.mem_cons_self, timer⟩
  obtain ⟨holder, held, waits, current, reached⟩ := fetched.expired ready
  refine ⟨holder, held, waits, current, reached, ?_⟩
  rcases draining.phase holder held waits with
    untouched | rounded | decided
  · exact Or.inl ⟨untouched, (untouched.timer current reached).1⟩
  · exact absurd rounded.verdict
      (verdict_of_expired fetched.good waits reached ready)
  · right
    rcases decided.cause with own | finished
    · exact own
    · rw [timerReady_cons, timer, Bool.true_or] at finished
      cases finished

/-- What an event resumes was untouched. -/
theorem hit_untouched (fetched : Fetched s evs)
    (waits : t.pending hit = some x)
    (concerns : t.Concerns event hit x) :
    s.pending hit = some x ∧ Untouched s t evs (event :: rest) hit x := by
  obtain ⟨op, first, same, _⟩ := draining.origin hit x waits
  rcases draining.phase hit op first with untouched | rounded | decided
  · have here := untouched.waits
    rw [waits] at here
    cases here
    exact ⟨first, untouched⟩
  · exfalso
    rcases concerns with own | ⟨timer, current⟩
    · have unready := rounded.events
      rw [ready_cons, ← ownEvent_congr same, own] at unready
      cases unready
    · have timed := draining.good.timed_of_current current waits
      rw [draining.timerEvent_eq] at timer
      have ready : s.timerReady evs = true := List.any_eq_true.mpr
        ⟨event, draining.inside event List.mem_cons_self, timer⟩
      obtain ⟨holder, held, holds, holderCurrent, reached,
        ⟨untouched, still⟩ | own⟩ := draining.holder_cases fetched timer
      · have sameFrame := current_unique still current
        subst sameFrame
        rw [first] at holds
        cases holds
        exact verdict_of_expired fetched.good first reached ready
          rounded.verdict
      · have exposed : Exposed s evs :=
          ⟨ready, holder, held, holds, holderCurrent, own⟩
        rw [same, rounded.safe exposed] at timed
        cases timed
  · have gone := decided.gone
    rw [waits] at gone
    cases gone

end Draining

/-- Why an untouched operation is resumed. -/
theorem Draining.reason (draining : Draining s t answers evs
      (event :: rest) since) (fetched : Fetched s evs)
    (arbitrated : Arbitrated s evs) (waits : t.pending hit = some x)
    (concerns : t.Concerns event hit x) :
    x.ownEvent event = true ∨
      s.timerEvent event = true ∧ t.current hit = true ∧
        (x.reached s.rt.clock = true ∨
          x.ready evs = true ∧
            (s.flagged x = true ∨ x.operation.EndsAtOnce s.rt)) := by
  rcases concerns with own | ⟨timer, current⟩
  · exact Or.inl own
  · right
    rw [draining.timerEvent_eq] at timer
    refine ⟨timer, current, ?_⟩
    have first := (draining.hit_untouched fetched waits
      (Or.inr ⟨(draining.timerEvent_eq event).trans timer, current⟩)).1
    have ready : s.timerReady evs = true := List.any_eq_true.mpr
      ⟨event, draining.inside event List.mem_cons_self, timer⟩
    obtain ⟨holder, held, holds, holderCurrent, reached,
      ⟨_, still⟩ | own⟩ := draining.holder_cases fetched timer
    · have sameFrame := current_unique still current
      subst sameFrame
      rw [first] at holds
      cases holds
      exact Or.inl reached
    · by_cases same : hit = holder
      · subst same
        rw [first] at holds
        cases holds
        exact Or.inl reached
      · exact Or.inr (arbitrated.behind ready holder held holds holderCurrent
          own hit x first (draining.good.timed_of_current current waits)
          same)

/-! ## The operation that a turn resumes -/

/-- What is known of an operation that the next turn resumes. -/
structure Hit (s t : System queues) (evs rest : List EpollEvent)
    (event : EpollEvent) (hit : Addr) (x : OpFrame) : Prop where
  first : s.pending hit = some x
  untouched : Untouched s t evs (event :: rest) hit x
  concerns : t.Concerns event hit x
  reason : x.ownEvent event = true ∨
    s.timerEvent event = true ∧ t.current hit = true ∧
      (x.reached s.rt.clock = true ∨
        x.ready evs = true ∧
          (s.flagged x = true ∨ x.operation.EndsAtOnce s.rt))

private theorem Draining.strikes (draining : Draining s t answers evs
      (event :: rest) since) (fetched : Fetched s evs)
    (arbitrated : Arbitrated s evs) (waits : t.pending hit = some x)
    (concerns : t.Concerns event hit x) : Hit s t evs rest event hit x := by
  obtain ⟨first, untouched⟩ :=
    draining.hit_untouched fetched waits concerns
  exact ⟨first, untouched, concerns,
    draining.reason fetched arbitrated waits concerns⟩

namespace Hit

variable (struck : Hit s t evs rest event hit x)
variable (draining : Draining s t answers evs (event :: rest) since)
include struck draining

/-- By its verdict the operation is woken. -/
theorem woken :
    (x.ready evs || x.reached s.rt.clock && s.timerReady evs) = true := by
  have inside := draining.inside event List.mem_cons_self
  rcases struck.reason with own | ⟨timer, _, reached | ⟨ready, _⟩⟩
  · have ready : x.ready evs = true :=
      List.any_eq_true.mpr ⟨event, inside, own⟩
    rw [ready, Bool.true_or]
  · have ready : s.timerReady evs = true :=
      List.any_eq_true.mpr ⟨event, inside, timer⟩
    rw [reached, ready, Bool.and_true, Bool.or_true]
  · rw [ready, Bool.true_or]

/-- An expired operation that is not cancelled is woken with its timer
current. -/
theorem current (arbitrated : Arbitrated s evs)
    (quiet : s.flagged x = false)
    (reached : x.reached s.rt.clock = true) : t.current hit = true := by
  rcases struck.reason with own | ⟨_, current, _⟩
  · have ready : x.ready evs = true := List.any_eq_true.mpr
      ⟨event, draining.inside event List.mem_cons_self, own⟩
    have before := arbitrated.current hit x struck.first ready reached quiet
    exact (struck.untouched.timer before reached).1
  · exact current

/-- An operation that reads the timerfd finds it expired. -/
theorem readable (waits : x.operation.Waits hit t.rt) :
    t.rt.timer.timerFd.isReadable t.rt.clock = true := by
  have good := draining.good
  have settled := good.sound.inOrder.settled
  rcases waits with ⟨_, expired⟩ | ⟨delay, same⟩
  · obtain ⟨named, reached⟩ := (timedOut_iff settled hit).mp expired
    exact isReadable_of_reached settled named reached
  · have named := struck.concerns.current same
    rcases struck.reason with own | ⟨_, current, reached | ⟨ready, _⟩⟩
    · simp [OpFrame.ownEvent, OpFrame.socketEvent, OpFrame.cancelEvent,
        same, Operation.socket?, Operation.token?] at own
    · refine isReadable_of_reached settled named ?_
      obtain ⟨deadline, set, passed⟩ := reached_iff.mp reached
      rw [good.deadline_of_current current struck.untouched.waits] at set
      cases set
      rw [draining.clock]
      exact passed
    · obtain ⟨own, _, here⟩ := List.any_eq_true.mp ready
      simp [OpFrame.ownEvent, OpFrame.socketEvent, OpFrame.cancelEvent,
        same, Operation.socket?, Operation.token?] at here

/-- An operation with a buffer that is neither cancelled nor timed out is
woken for a transfer. -/
theorem serves (quiet : s.flagged x = false)
    (running : x.operation.timedTransfer = true →
      x.reached s.rt.clock = false) {buf : BufferRef}
    (named : x.operation.buf? = some buf) : s.Served evs x := by
  have good := draining.good
  have timed : x.operation.delay?.isSome = true →
      x.operation.timedTransfer = true := by
    intro delayed
    cases same : x.operation with
    | asyncReadTimeout base delay => rfl
    | asyncWriteTimeout base delay => rfl
    | waitFor delay =>
        rw [same] at named
        cases named
    | _ =>
        rw [same] at delayed
        cases delayed
  have unreached : x.reached s.rt.clock = false := by
    cases reached : x.reached s.rt.clock with
    | false => rfl
    | true =>
        obtain ⟨deadline, set, _⟩ := reached_iff.mp reached
        obtain ⟨now, _, dated, _⟩ :=
          good.sound.dated hit x struck.untouched.waits
        rw [dated] at set
        obtain ⟨delay, delayed, _⟩ := Option.map_eq_some_iff.mp set
        have late := running (timed (by rw [delayed]; rfl))
        rw [reached] at late
        exact late
  refine ⟨?_, quiet, unreached⟩
  rcases struck.reason with own | ⟨_, _, reached | ⟨ready, _⟩⟩
  · exact List.any_eq_true.mpr
      ⟨event, draining.inside event List.mem_cons_self, own⟩
  · rw [unreached] at reached
    cases reached
  · exact ready

/-- Neither cancelled nor timed out, the operation is served as it would have
been before the batch. -/
theorem served (quiet : s.flagged x = false)
    (running : x.operation.timedTransfer = true →
      x.reached s.rt.clock = false) :
    (x.operation.wake hit (answers.answer t.rt x.operation) x.total
        t.rt).returned =
      x.operation.serve (answers.answer s.rt x.operation) x.total s.rt := by
  have buffer : ∀ buf, x.operation.buf? = some buf →
      t.rt.buffers buf = s.rt.buffers buf := fun buf named =>
    struck.untouched.buffer (struck.serves draining quiet running named) buf
      named
  rw [Operation.wake_returned
      (draining.kept struck.untouched.waits struck.concerns _),
    Operation.resumeOnce_serves]
  · rw [Operation.serve_congr _ _ buffer,
      Operation.answer_congr answers buffer struck.untouched.transfers]
  · rw [draining.flagged_eq]
    exact quiet
  · intro timed
    cases expired : timedOut hit t.rt with
    | false => rfl
    | true =>
        have reached := (draining.good.timedOut_iff_reached
          struck.untouched.waits).mp expired
        rw [draining.clock, running timed] at reached
        cases reached.2

/-- The class of the wake-up is the operation's verdict. -/
theorem class_eq (arbitrated : Arbitrated s evs) :
    OutcomeClass.of (x.operation.wake hit (answers.answer t.rt x.operation)
        x.total t.rt).returned = s.verdict answers evs x := by
  have kept := draining.kept struck.untouched.waits struck.concerns
    (answers.answer t.rt x.operation)
  rw [verdict, struck.woken draining, if_pos rfl]
  cases flag : s.flagged x with
  | true =>
      rw [if_pos rfl]
      refine Operation.class_of_cancelled kept ?_
      rw [draining.flagged_eq, flag]
  | false =>
      rw [if_neg Bool.false_ne_true]
      cases late : x.reached s.rt.clock && x.operation.timedTransfer with
      | true =>
          obtain ⟨reached, timed⟩ := Bool.and_eq_true_iff.mp late
          rw [if_pos rfl]
          refine Operation.class_of_timedOut ?_ timed ?_
          · rw [draining.flagged_eq, flag]
          · refine (draining.good.timedOut_iff_reached
              struck.untouched.waits).mpr ⟨?_, ?_⟩
            · exact struck.current draining arbitrated flag reached
            · rw [draining.clock, reached]
      | false =>
          rw [if_neg Bool.false_ne_true]
          refine congrArg OutcomeClass.of
            (struck.served draining flag fun timed => ?_)
          rw [timed, Bool.and_true] at late
          exact late

/-- An operation that goes round its loop is neither cancelled nor expired. -/
theorem quiet_of_round (arbitrated : Arbitrated s evs)
    (fetched : Fetched s evs)
    (round : (x.operation.wake hit (answers.answer t.rt x.operation) x.total
      t.rt).returned = none) :
    s.verdict answers evs x = .pending ∧ s.flagged x = false ∧
      x.reached s.rt.clock = false ∧ ¬x.operation.EndsAtOnce s.rt := by
  have pending : s.verdict answers evs x = .pending := by
    rw [← struck.class_eq draining arbitrated, round]
    rfl
  have unreached : x.reached s.rt.clock = false := by
    cases reached : x.reached s.rt.clock with
    | false => rfl
    | true =>
        exact absurd pending (verdict_of_reached fetched.good struck.first
          reached (struck.woken draining))
  have quiet : s.flagged x = false := by
    cases flag : s.flagged x with
    | false => rfl
    | true =>
        rw [verdict, struck.woken draining, if_pos rfl, flag, if_pos rfl]
          at pending
        cases pending
  refine ⟨pending, quiet, unreached, fun ends => ?_⟩
  obtain ⟨recv, send⟩ := answers.possible s.rt x.operation
  have some := ends (answers.answer s.rt x.operation) x.total recv send
  rw [← struck.served draining quiet fun _ => unreached, round] at some
  cases some

/-- Nothing concerns an operation any more that went round its loop. -/
theorem rounded (arbitrated : Arbitrated s evs) (fetched : Fetched s evs)
    (round : (x.operation.wake hit (answers.answer t.rt x.operation) x.total
      t.rt).returned = none) :
    x.ready rest = false ∧ (Exposed s evs → x.operation.delay? = none) := by
  obtain ⟨_, quiet, unreached, unfinished⟩ :=
    struck.quiet_of_round draining arbitrated fetched round
  have unsettled : ¬(s.flagged x = true ∨ x.operation.EndsAtOnce s.rt) := by
    rintro (flag | ends)
    · rw [quiet] at flag
      cases flag
    · exact unfinished ends
  have socketOf : ∀ other ∈ evs, x.ownEvent other = true →
      ∃ direction, x.operation.socket? = some (other.fd, direction) := by
    intro other inside own
    rcases Bool.or_eq_true_iff.mp own with socket | cancel
    · unfold OpFrame.socketEvent at socket
      split at socket
      · rename_i fd here
        rw [Bool.and_eq_true, decide_eq_true_eq] at socket
        exact ⟨.read, here.trans (by rw [socket.1])⟩
      · rename_i fd here
        rw [Bool.and_eq_true, decide_eq_true_eq] at socket
        exact ⟨.write, here.trans (by rw [socket.1])⟩
      · cases socket
    · have flag :=
        fetched.flagged_of_cancelEvent inside struck.first cancel
      rw [quiet] at flag
      cases flag
  have own : x.ownEvent event = true := by
    rcases struck.reason with own | ⟨_, _, reached | ⟨_, settled⟩⟩
    · exact own
    · rw [unreached] at reached
      cases reached
    · exact absurd settled unsettled
  refine ⟨?_, fun exposed => ?_⟩
  · rw [OpFrame.ready, List.any_eq_false]
    intro other later here
    obtain ⟨direction, socket⟩ :=
      socketOf event (draining.inside event List.mem_cons_self) own
    obtain ⟨way, again⟩ := socketOf other
      (draining.inside other (List.mem_cons_of_mem event later)) here
    rw [socket] at again
    have same := (Prod.mk.inj (Option.some.inj again)).1
    have nodup := draining.nodup
    rw [List.map_cons, List.nodup_cons] at nodup
    exact nodup.1 (List.mem_map.mpr ⟨other, later, same.symm⟩)
  · obtain ⟨ready, holder, held, holds, current, ownReady⟩ := exposed
    obtain ⟨expired, late, lateWaits, lateCurrent, reached⟩ :=
      fetched.expired ready
    have different : hit ≠ holder := by
      intro same
      have sameHolder := current_unique lateCurrent current
      rw [sameHolder, ← same, struck.first] at lateWaits
      cases lateWaits
      rw [unreached] at reached
      cases reached
    cases delayed : x.operation.delay? with
    | none => rfl
    | some delay =>
        have timed : x.operation.delay?.isSome = true := by
          rw [delayed]
          rfl
        exact absurd (arbitrated.behind ready holder held holds current
          ownReady hit x struck.first timed different).2 unsettled

end Hit

/-! ## The other operations -/

/-- No operation that makes a transfer sees another one's. -/
theorem Hit.buffer (struck : Hit s t evs rest event hit x)
    (draining : Draining s t answers evs (event :: rest) since)
    (arbitrated : Arbitrated s evs)
    (woke : Woke t next hit x (answers.answer t.rt x.operation))
    (waits : s.pending frame = some op) (different : frame ≠ hit)
    (serves : s.Served evs op) (buf : BufferRef)
    (named : op.operation.buf? = some buf) :
    next.rt.buffers buf = t.rt.buffers buf := by
  have confined := Operation.wake_confined (draining.kept
    struck.untouched.waits struck.concerns
      (answers.answer t.rt x.operation))
  rw [woke.rt]
  by_cases shared : x.operation.buf? = some buf
  · have refused : t.rt.cancelRequested x.operation.token? = true ∨
        x.operation.timedTransfer = true ∧ timedOut hit t.rt = true →
        (x.operation.wake hit (answers.answer t.rt x.operation) x.total
          t.rt).rt.buffers buf = t.rt.buffers buf := fun refused =>
      congrFun (Operation.wake_buffers_of_refused hit _ x.total refused) buf
    cases flag : s.flagged x with
    | true =>
        refine refused (Or.inl ?_)
        rw [draining.flagged_eq, flag]
    | false =>
        cases late : x.reached s.rt.clock && x.operation.timedTransfer with
        | true =>
            obtain ⟨reached, timed⟩ := Bool.and_eq_true_iff.mp late
            refine refused (Or.inr ⟨timed,
              (draining.good.timedOut_iff_reached
                struck.untouched.waits).mpr ⟨?_, ?_⟩⟩)
            · exact struck.current draining arbitrated flag reached
            · rw [draining.clock, reached]
        | false =>
            have serving := struck.serves draining flag (fun timed => by
              rw [timed, Bool.and_true] at late
              exact late) shared
            have full := arbitrated.apart _ _ _ _ buf waits struck.first
              different named shared serves serving
            have same := struck.untouched.buffer serving buf shared
            have asks : x.operation.asks t.rt = 0 := by
              rw [Operation.asks, shared, Option.map_some, same, full]
              rfl
            obtain ⟨recv, send⟩ := answers.possible t.rt x.operation
            rw [asks] at recv send
            exact confined.buffer_of_full recv send
  · exact confined.others buf shared

/-- The current timer stays with an expired operation until that is
resumed. -/
theorem Hit.keeps_current (struck : Hit s t evs rest event hit x)
    (draining : Draining s t answers evs (event :: rest) since)
    (fetched : Fetched s evs) (arbitrated : Arbitrated s evs)
    (woke : Woke t next hit x (answers.answer t.rt x.operation))
    (different : frame ≠ hit) (still : t.pending frame = some op)
    (here : t.current frame = true)
    (reached : op.reached s.rt.clock = true) : next.current frame = true := by
  have good := draining.good
  have named := current_iff.mp here
  rw [current_iff, woke.rt]
  refine (congrArg (fun task => task.state.read)
    (good.sound.cur_of_wake struck.untouched.waits named different ?_
      ?_)).trans named
  · intro delay same
    have holds := current_iff.mpr (struck.concerns.current same)
    exact different (current_unique here holds)
  · intro round deadline set
    have unreached :=
      (struck.quiet_of_round draining arbitrated fetched round).2.2.1
    have dated := good.sound.dated hit x struck.untouched.waits
    rw [← draining.clock] at unreached
    have later := unreached_again dated unreached set
    obtain ⟨passed, known, order⟩ := reached_iff.mp reached
    rw [good.deadline_of_current here still] at known
    cases known
    rw [← draining.clock] at order
    exact order.trans (le_of_lt later)

private theorem Untouched.spared
    (untouched : Untouched s t evs (event :: rest) frame op)
    (spared : Spared t next frame op)
    (buffer : s.Served evs op → ∀ buf, op.operation.buf? = some buf →
      next.rt.buffers buf = t.rt.buffers buf)
    (elsewhere : op.ownEvent event = false)
    (stays : t.current frame = true → op.reached s.rt.clock = true →
      next.current frame = true)
    (later : s.current frame = true → op.reached s.rt.clock = true →
      s.timerEvent event = false) :
    Untouched s next evs rest frame op where
  toStanding := untouched.toStanding.spared spared
  buffer serves buf named :=
    (buffer serves buf named).trans (untouched.buffer serves buf named)
  events := by
    rw [← untouched.events, ready_cons, elsewhere, Bool.false_or]
  timer current reached := by
    obtain ⟨still, same⟩ := untouched.timer current reached
    refine ⟨stays still reached, ?_⟩
    rw [← same, timerReady_cons, later current reached, Bool.false_or]

private theorem Rounded.spared
    (rounded : Rounded s t answers evs (event :: rest) frame op)
    (spared : Spared t next frame op) :
    Rounded s next answers evs rest frame op where
  again := by
    rw [spared.pending]
    exact rounded.again
  verdict := rounded.verdict
  events := by
    have unready := rounded.events
    rw [ready_cons, Bool.or_eq_false_iff] at unready
    exact unready.2
  safe := rounded.safe
  result := spared.result.trans rounded.result

private theorem Decided.spared
    (decided : Decided s t answers evs (event :: rest) frame op)
    (spared : Spared t next frame op) :
    Decided s next answers evs rest frame op where
  gone := spared.pending.trans decided.gone
  outcome := (congrArg OutcomeClass.of spared.result).trans decided.outcome
  cause := by
    refine decided.cause.imp_right fun finished => ?_
    rw [timerReady_cons, Bool.or_eq_false_iff] at finished
    exact finished.2

/-! ## One turn, and the whole batch -/

/-- An operation that the event does not resume stays in its phase. -/
theorem Draining.phase_of_spared
    (draining : Draining s t answers evs (event :: rest) since)
    (fetched : Fetched s evs) (waits : s.pending frame = some op)
    (spared : Spared t next frame op)
    (buffer : s.Served evs op → ∀ buf, op.operation.buf? = some buf →
      next.rt.buffers buf = t.rt.buffers buf)
    (stays : t.pending frame = some op → t.current frame = true →
      op.reached s.rt.clock = true → next.current frame = true)
    (missed : ∀ pointer, t.target event = some pointer →
      pointer.frame ≠ frame) :
    Untouched s next evs rest frame op ∨
      Rounded s next answers evs rest frame op ∨
      Decided s next answers evs rest frame op := by
  rcases draining.phase frame op waits with untouched | rounded | decided
  · left
    refine untouched.spared spared buffer ?_ (stays untouched.waits) ?_
    · cases own : op.ownEvent event with
      | false => rfl
      | true =>
          obtain ⟨pointer, found, same⟩ :=
            draining.targets_own fetched
              (draining.inside event List.mem_cons_self) waits
              untouched.toStanding own
          exact absurd same (missed pointer found)
    · intro current reached
      cases timer : s.timerEvent event with
      | false => rfl
      | true =>
          obtain ⟨pointer, found, same⟩ := draining.targets_current timer
            (untouched.timer current reached).1
          exact absurd same (missed pointer found)
  · exact Or.inr (Or.inl (rounded.spared spared))
  · exact Or.inr (Or.inr (decided.spared spared))

/-- The operation that the event resumes is over, or went round its loop. -/
theorem Hit.phase (struck : Hit s t evs rest event hit x)
    (draining : Draining s t answers evs (event :: rest) since)
    (fetched : Fetched s evs) (arbitrated : Arbitrated s evs)
    (woke : Woke t next hit x (answers.answer t.rt x.operation)) :
    Rounded s next answers evs rest hit x ∨
      Decided s next answers evs rest hit x := by
  have results := woke.results x.number
  rw [if_pos rfl, struck.untouched.result, Option.or_none] at results
  have pending := congrFun woke.pending hit
  rw [Function.update_self] at pending
  cases round : (x.operation.wake hit (answers.answer t.rt x.operation)
      x.total t.rt).returned with
  | none =>
      left
      simp only [OpFrame.after, round] at pending
      obtain ⟨verdict, _⟩ :=
        struck.quiet_of_round draining arbitrated fetched round
      obtain ⟨unready, safe⟩ :=
        struck.rounded draining arbitrated fetched round
      exact ⟨⟨_, pending, rfl⟩, verdict, unready, safe,
        results.trans round⟩
  | some result =>
      right
      simp only [OpFrame.after, round] at pending
      refine ⟨pending, ?_, ?_⟩
      · rw [← struck.class_eq draining arbitrated]
        exact congrArg OutcomeClass.of results
      · have inside := draining.inside event List.mem_cons_self
        rcases struck.reason with own | ⟨timer, _⟩
        · exact Or.inl (List.any_eq_true.mpr ⟨event, inside, own⟩)
        · exact Or.inr (timerReady_of_nodup draining.nodup timer)

/-- One turn keeps every operation on the way to its verdict. -/
theorem Draining.turn
    (draining : Draining s t answers evs (event :: rest) since)
    (fetched : Fetched s evs)
    (arbitrated : Arbitrated s evs) :
    ∃ next, t.turn answers = some next ∧
      Draining s next answers evs rest since := by
  obtain ⟨next, taken, turned, partway⟩ :=
    draining.toPartway.turn fetched.separate answers
  have nodup := draining.nodup
  rw [List.map_cons, List.nodup_cons] at nodup
  have inside : ∀ later ∈ rest, later ∈ evs := fun later member =>
    draining.inside later (List.mem_cons_of_mem event member)
  refine ⟨next, taken, partway, ?_, nodup.2, inside, ?_⟩
  · rcases turned.effect with
      ⟨_, passed⟩ | ⟨pointer, x, _, waits, concerns, woke⟩
    · rw [passed.rt, draining.clock]
    · have struck := draining.strikes fetched arbitrated waits concerns
      rw [woke.rt, Operation.wake_clock_of_readable
        (draining.kept waits concerns _) (struck.readable draining),
        draining.clock]
  · intro frame op waitsFirst
    rcases turned.effect with
      ⟨nothing, passed⟩ | ⟨pointer, x, found, waits, concerns, woke⟩
    · refine draining.phase_of_spared fetched waitsFirst passed.spared ?_ ?_
        ?_
      · intro _ _ _
        rw [passed.rt]
      · intro _ here _
        rw [current, passed.rt]
        exact here
      · intro pointer found
        rw [nothing] at found
        cases found
    · have struck := draining.strikes fetched arbitrated waits concerns
      by_cases same : frame = pointer.frame
      · subst same
        have first := struck.first
        rw [waitsFirst] at first
        cases first
        exact Or.inr (struck.phase draining fetched arbitrated woke)
      · refine draining.phase_of_spared fetched waitsFirst
          (draining.spares fetched waits concerns woke waitsFirst same)
          (struck.buffer draining arbitrated woke waitsFirst same)
          (struck.keeps_current draining fetched arbitrated woke same) ?_
        intro other foundOther
        rw [found] at foundOther
        cases foundOther
        exact Ne.symm same

theorem Draining.drain
    (draining : Draining s t answers evs rest since)
    (fetched : Fetched s evs)
    (arbitrated : Arbitrated s evs) :
    ∃ final, System.drain answers rest.length t = some final ∧
      Draining s final answers evs [] since := by
  induction rest generalizing t with
  | nil => exact ⟨t, rfl, draining⟩
  | cons event rest inductionRest =>
      obtain ⟨next, taken, later⟩ := draining.turn fetched arbitrated
      obtain ⟨final, drained, done⟩ := inductionRest later
      refine ⟨final, ?_, done⟩
      rw [List.length_cons, System.drain, taken]
      exact drained

/-- At the end of the batch every operation is in the class of its verdict. -/
theorem Draining.outcome (draining : Draining s t answers evs [] since)
    (arbitrated : Arbitrated s evs) (waits : s.pending frame = some op) :
    t.outcome op.number = s.verdict answers evs op := by
  rcases draining.phase frame op waits with untouched | rounded | decided
  · have unready : op.ready evs = false := untouched.events.symm
    have asleep : (op.reached s.rt.clock && s.timerReady evs) = false := by
      cases reached : op.reached s.rt.clock with
      | false => rfl
      | true =>
          rw [Bool.true_and]
          cases current : s.current frame with
          | true => exact (untouched.timer current reached).2.symm
          | false =>
              cases ready : s.timerReady evs with
              | false => rfl
              | true =>
                  have single :=
                    arbitrated.single ready frame op waits reached current
                  rw [unready] at single
                  cases single.1
    rw [System.outcome, untouched.result, verdict, unready, asleep]
    rfl
  · rw [System.outcome, rounded.result, rounded.verdict]
    rfl
  · exact decided.outcome

end System

end AsyncFrame
