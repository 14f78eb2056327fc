import AsyncFrame.Arbitration
import AsyncFrame.Overtaken
import AsyncFrame.SharedBuffers

/-!
# Every order of a batch

An arbitrated batch resolves, and only an arbitrated batch does: otherwise some
order of its events, with some answers of the sockets, gives an operation
another class than its verdict.
-/

namespace AsyncFrame

open Lib

variable {queues : TimerQueue}

namespace System

variable {s : System queues} {evs order : List EpollEvent}
variable {answers : Answers} {op : OpFrame}
variable {timerFd : Fd} {uptime : Nat} {buffers : BufferRef → Buffer}
variable {actions : List Action}

private theorem fetched_of_reaches
    (reached : Reaches KeepsPending timerFd uptime buffers actions s)
    (separate : Separate s) (allowed : s.enabled (.epollWait evs) = true) :
    Fetched s evs := by
  simp only [enabled, Bool.and_eq_true, decide_eq_true_eq,
    List.all_eq_true] at allowed
  exact
    { good := reached.good fun _ _ keeps => keeps
      ledger := ledger_of_run reached
      unsignalled := unsignalled_of_run reached
      separate := separate
      reports := allowed.2
      nodup := allowed.1.2 }

/-! ## Arbitrated batches -/

private theorem verdict_of_perm (same : order.Perm evs) :
    s.verdict answers order op = s.verdict answers evs op := by
  rw [verdict, verdict, ready_of_perm same, timerReady_of_perm same]

private theorem Arbitrated.of_perm (arbitrated : Arbitrated s evs)
    (same : order.Perm evs) : Arbitrated s order where
  current := by
    intro frame op waits ready
    rw [ready_of_perm same] at ready
    exact arbitrated.current frame op waits ready
  single := by
    intro timer frame op
    rw [timerReady_of_perm same] at timer
    rw [ready_of_perm same]
    exact arbitrated.single timer frame op
  behind := by
    intro timer holder held waits current ready frame op
    rw [timerReady_of_perm same] at timer
    rw [ready_of_perm same] at ready ⊢
    exact arbitrated.behind timer holder held waits current ready frame op
  apart frame other op otherOp buf waits otherWaits different named
      otherNamed serves otherServes := by
    refine arbitrated.apart frame other op otherOp buf waits otherWaits
      different named otherNamed ⟨?_, serves.quiet, serves.unreached⟩
      ⟨?_, otherServes.quiet, otherServes.unreached⟩
    · exact (ready_of_perm same op).symm.trans serves.ready
    · exact (ready_of_perm same otherOp).symm.trans otherServes.ready

/-- Before the first turn nothing has concerned any operation. -/
theorem Fetched.draining (fetched : Fetched s order)
    (allowed : s.enabled (.epollWait order) = true) (answers : Answers) :
    Draining s (s.fetch order) answers order order
      s.rt.timer.timerFd.settimes where
  toPartway := fetched.good.partway allowed
  clock := rfl
  nodup := fetched.nodup
  inside _ member := member
  phase _ _ waits := Or.inl ⟨fetched.standing waits order,
    fun _ _ _ => rfl, rfl, fun current _ => ⟨current, rfl⟩⟩

/-- An arbitrated batch resolves. -/
theorem Arbitrated.resolves (arbitrated : Arbitrated s evs)
    (reached : Reaches KeepsPending timerFd uptime buffers actions s)
    (separate : Separate s)
    (allowed : s.enabled (.epollWait evs) = true) : Resolves s evs := by
  intro answers order same
  have allowedOrder := enabled_of_perm same allowed
  have fetched := fetched_of_reaches reached separate allowedOrder
  have decided := arbitrated.of_perm same
  obtain ⟨final, drained, done⟩ :=
    (fetched.draining allowedOrder answers).drain fetched decided
  refine ⟨final, ?_, fun frame op waits => ?_⟩
  · rw [runBatch, fetched.good.fetched_step allowedOrder]
    exact drained
  · rw [done.outcome decided waits, verdict_of_perm same]

/-- A batch that resolves is arbitrated. -/
theorem Resolves.arbitrated (resolves : Resolves s evs)
    (fetched : Fetched s evs) (within : Within s)
    (allowed : s.enabled (.epollWait evs) = true) : Arbitrated s evs where
  current _ _ waits ready reached quiet :=
    resolves.current fetched allowed waits ready reached quiet
  single timer _ _ waits reached behind :=
    resolves.single fetched allowed timer waits reached behind
  behind timer _ _ holds current ready _ _ waits timed different :=
    resolves.behind fetched allowed timer holds current ready waits timed
      different
  apart _ _ _ _ _ waits otherWaits different named otherNamed serves
      otherServes :=
    resolves.apart fetched within allowed waits otherWaits different named
      otherNamed serves otherServes

/-- The suspended operations are these two reads, on fresh buffers. -/
structure Pair (s : System queues) (first second : Int) : Prop where
  cases : ∀ frame op, s.pending frame = some op →
    op.operation = .asyncReadTimeout ⟨5, 0, none⟩ first ∧ op.number = 0 ∨
      op.operation = .asyncReadTimeout ⟨6, 1, none⟩ second ∧ op.number = 1
  buffers : s.rt.buffers 0 = ⟨[0], 0⟩ ∧ s.rt.buffers 1 = ⟨[0], 0⟩

private theorem Pair.socket {first second : Int} (pair : Pair s first second)
    {frame : Addr} {op : OpFrame} {fd : Fd} {direction : Direction}
    (waits : s.pending frame = some op)
    (socket : op.operation.socket? = some (fd, direction)) :
    fd = 5 + op.number := by
  rcases pair.cases frame op waits with ⟨same, number⟩ | ⟨same, number⟩ <;>
    rw [same] at socket <;> rw [number] <;> cases socket <;> rfl

private theorem Pair.buffer {first second : Int} (pair : Pair s first second)
    {frame : Addr} {op : OpFrame} {buf : BufferRef}
    (waits : s.pending frame = some op)
    (named : op.operation.buf? = some buf) : buf = op.number := by
  rcases pair.cases frame op waits with ⟨same, number⟩ | ⟨same, number⟩ <;>
    rw [same] at named <;> rw [number] <;> cases named <;> rfl

private theorem Pair.separate {first second : Int} (pair : Pair s first second)
    (ledger : Ledger s) : Separate s where
  sockets frame other op otherOp fd direction way waits otherWaits socket
      otherSocket := by
    have own := pair.socket waits socket
    have others := pair.socket otherWaits otherSocket
    exact ledger.distinct frame other op otherOp waits otherWaits
      (Nat.add_left_cancel (own.symm.trans others))
  tokens frame _ op _ token waits _ named := by
    rcases pair.cases frame op waits with ⟨same, _⟩ | ⟨same, _⟩ <;>
      rw [same] at named <;> cases named

private theorem Pair.within {first second : Int} (pair : Pair s first second) :
    Within s := by
  intro frame op buf waits named
  rcases pair.cases frame op waits with ⟨same, _⟩ | ⟨same, _⟩ <;>
    rw [same] at named <;> cases named
  · rw [pair.buffers.1]
    decide
  · rw [pair.buffers.2]
    decide

end System

end AsyncFrame
