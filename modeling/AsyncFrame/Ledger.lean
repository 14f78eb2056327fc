import AsyncFrame.Registrations
import AsyncFrame.Slots

/-!
# Each operation completes exactly once

What was recorded of one `co_await` has one of few shapes.  When `running` may
return nothing is suspended any more, so that every operation that was started
is over.
-/

namespace AsyncFrame

open Lib

namespace System

variable {queues : TimerQueue} {s next : System queues} {action : Action}
variable {timerFd : Fd} {uptime : Nat} {buffers : BufferRef → Buffer}
variable {actions : List Action}

/-- What is recorded of a `co_await` that is over: the operation got a result,
and then its awaiting coroutine was resumed with it once, or went on. -/
def Over (number : Nat) (operation : Operation) (history : List Obs) :
    Prop :=
  ∃ result,
    history = [.resumed number result, .finished number result,
      .started number operation] ∨
    history = [.wentOn number result, .finished number result,
      .started number operation]

/-- What is recorded of each `co_await`. -/
structure Ledger (s : System queues) : Prop where
  fresh : ∀ number, s.nextNumber ≤ number → s.history number = []
  waits : ∀ frame op, s.pending frame = some op →
    s.history op.number = [.started op.number op.operation]
  distinct : ∀ frame other op otherOp, s.pending frame = some op →
    s.pending other = some otherOp → op.number = otherOp.number →
      frame = other
  shape : ∀ number, s.history number = [] ∨
    (∃ frame op, s.pending frame = some op ∧ op.number = number) ∨
    (∃ operation, Over number operation (s.history number)) ∨
    ∃ wrapped delay,
      s.history number = [.startedWithTimeout number wrapped delay]

private theorem history_of_trace {entries : List Obs}
    (trace : next.trace = entries ++ s.trace) (number : Nat) :
    next.history number =
      entries.filter (fun obs => obs.number? = some number) ++
        s.history number := by
  simp only [history, trace, List.filter_append]

/-- What is recorded without a number changes no history. -/
theorem history_of_marks
    (trace : next.trace = s.marks action ++ s.trace) (number : Nat) :
    next.history number = s.history number := by
  rw [history_of_trace trace]
  have silent : (s.marks action).filter
      (fun obs => obs.number? = some number) = [] := by
    refine List.filter_eq_nil_iff.mpr fun mark member => ?_
    simp [marks_unnumbered member]
  rw [silent, List.nil_append]

namespace Ledger

/-- A new `co_await` is recorded under a new number, and with it perhaps the
one of `with_timeout`. -/
theorem opens (ledger : Ledger s) {number : Nat} {prelude : List Obs}
    (entries : List Obs) (opening : Opening s number prelude next.nextNumber)
    (own : ∀ mark ∈ entries, mark.number? = some number)
    (trace : next.trace = entries ++ (prelude ++ s.trace)) :
    s.nextNumber ≤ number ∧ number < next.nextNumber ∧
      next.history number = entries ∧
      ∀ other, other ≠ number →
        next.history other = s.history other ∨
        s.nextNumber ≤ other ∧ other < next.nextNumber ∧
          ∃ wrapped delay, next.history other =
            [.startedWithTimeout other wrapped delay] := by
  have all : entries.filter (fun obs => obs.number? = some number) =
      entries :=
    List.filter_eq_self.mpr fun mark member => by simp [own mark member]
  have nothing : ∀ other, other ≠ number →
      entries.filter (fun obs => obs.number? = some other) = [] := by
    intro other different
    refine List.filter_eq_nil_iff.mpr fun mark member => ?_
    simp [own mark member, Ne.symm different]
  have split : ∀ other, next.history other =
      entries.filter (fun obs => obs.number? = some other) ++
        (prelude.filter (fun obs => obs.number? = some other) ++
          s.history other) := by
    intro other
    simp only [history, trace, List.filter_append]
  generalize counted : next.nextNumber = after at opening ⊢
  cases opening with
  | plain =>
      refine ⟨le_refl _, by omega, ?_, ?_⟩
      · rw [split, all, ledger.fresh _ (le_refl _)]
        simp
      · intro other different
        left
        rw [split, nothing other different]
        simp
  | wrapped operation delay =>
      refine ⟨by omega, by omega, ?_, ?_⟩
      · rw [split, all, ledger.fresh _ (by omega)]
        simp [Obs.number?]
      · intro other different
        rw [split, nothing other different]
        by_cases same : other = s.nextNumber
        · subst same
          right
          refine ⟨le_refl _, by omega, operation, delay, ?_⟩
          rw [ledger.fresh _ (le_refl _)]
          simp [Obs.number?]
        · left
          simp [Obs.number?, Ne.symm same]

/-- Every suspended operation has a number that was given. -/
theorem number_lt (ledger : Ledger s) {frame : Addr} {op : OpFrame}
    (waits : s.pending frame = some op) : op.number < s.nextNumber := by
  by_contra above
  have empty := ledger.fresh op.number (by omega)
  rw [ledger.waits frame op waits] at empty
  cases empty

/-- The new histories of a `co_await` that is not suspended, or is. -/
theorem fresh_of_opens {number : Nat}
    (ledger : Ledger s) (given : number < next.nextNumber)
    (below : s.nextNumber ≤ number)
    (others : ∀ other, other ≠ number →
      next.history other = s.history other ∨
      s.nextNumber ≤ other ∧ other < next.nextNumber ∧
        ∃ wrapped delay, next.history other =
          [.startedWithTimeout other wrapped delay]) :
    ∀ other, next.nextNumber ≤ other → next.history other = [] := by
  intro other above
  rcases others other (by omega) with same | ⟨_, under, _⟩
  · rw [same]
    exact ledger.fresh other (by omega)
  · omega

/-- The operations stay suspended, under their numbers. -/
theorem keeps (ledger : Ledger s)
    (counted : next.nextNumber = s.nextNumber)
    (same : ∀ number, next.history number = s.history number)
    (before : ∀ frame op, next.pending frame = some op →
      ∃ old, s.pending frame = some old ∧ op.number = old.number ∧
        op.operation = old.operation)
    (after : ∀ frame op, s.pending frame = some op →
      ∃ new, next.pending frame = some new ∧ new.number = op.number) :
    Ledger next where
  fresh number above := by
    rw [same]
    exact ledger.fresh number (counted ▸ above)
  waits frame op waits := by
    obtain ⟨old, oldWaits, number, operation⟩ := before frame op waits
    rw [same, number, operation]
    exact ledger.waits frame old oldWaits
  distinct first second firstOp secondOp firstWaits secondWaits equal := by
    obtain ⟨_, firstBefore, firstNumber, _⟩ := before _ _ firstWaits
    obtain ⟨_, secondBefore, secondNumber, _⟩ := before _ _ secondWaits
    exact ledger.distinct _ _ _ _ firstBefore secondBefore
      (firstNumber.symm.trans (equal.trans secondNumber))
  shape number := by
    rw [same]
    rcases ledger.shape number with empty | ⟨frame, op, waits, named⟩ | rest
    · exact Or.inl empty
    · obtain ⟨new, newWaits, again⟩ := after frame op waits
      exact Or.inr (Or.inl ⟨frame, new, newWaits, again.trans named⟩)
    · exact Or.inr (Or.inr rest)

/-- One more operation is suspended. -/
theorem suspends (ledger : Ledger s) {frame : Addr} {op : OpFrame}
    {prelude : List Obs}
    (opening : Opening s op.number prelude next.nextNumber)
    (absent : s.pending frame = none)
    (pending : next.pending = Function.update s.pending frame (some op))
    (trace : next.trace =
      .started op.number op.operation :: (prelude ++ s.trace)) :
    Ledger next := by
  obtain ⟨below, given, own, others⟩ :=
    ledger.opens [.started op.number op.operation] opening
      (by simp [Obs.number?]) trace
  have here : next.pending frame = some op := by
    rw [pending, Function.update_self]
  have older : ∀ other otherOp, next.pending other = some otherOp →
      other ≠ frame → s.pending other = some otherOp ∧
        otherOp.number < s.nextNumber := by
    intro other otherOp waits different
    rw [pending, Function.update_of_ne different] at waits
    exact ⟨waits, ledger.number_lt waits⟩
  have only : ∀ other otherOp, next.pending other = some otherOp →
      op.number ≤ otherOp.number → other = frame := by
    intro other otherOp waits above
    by_contra different
    have under := (older other otherOp waits different).2
    omega
  refine ⟨ledger.fresh_of_opens given below others, ?_, ?_, ?_⟩
  · intro other otherOp waits
    by_cases same : other = frame
    · subst same
      rw [here] at waits
      cases waits
      exact own
    · obtain ⟨before, under⟩ := older other otherOp waits same
      rcases others otherOp.number (by omega) with kept | ⟨above, _⟩
      · rw [kept]
        exact ledger.waits other otherOp before
      · omega
  · intro first second firstOp secondOp firstWaits secondWaits equal
    by_cases firstNew : first = frame
    · subst firstNew
      rw [here] at firstWaits
      cases firstWaits
      exact (only _ _ secondWaits (le_of_eq equal)).symm
    · by_cases secondNew : second = frame
      · subst secondNew
        rw [here] at secondWaits
        cases secondWaits
        exact only _ _ firstWaits (le_of_eq equal.symm)
      · exact ledger.distinct _ _ _ _ (older _ _ firstWaits firstNew).1
          (older _ _ secondWaits secondNew).1 equal
  · intro number
    by_cases same : number = op.number
    · exact Or.inr (Or.inl ⟨frame, op, here, same.symm⟩)
    · rcases others number same with kept | ⟨_, _, timed⟩
      · rw [kept]
        rcases ledger.shape number with
          empty | ⟨other, otherOp, waits, named⟩ | rest
        · exact Or.inl empty
        · refine Or.inr (Or.inl ⟨other, otherOp, ?_, named⟩)
          rw [pending, Function.update_of_ne _ _ _]
          · exact waits
          · rintro rfl
            rw [absent] at waits
            cases waits
        · exact Or.inr (Or.inr rest)
      · exact Or.inr (Or.inr (Or.inr timed))

/-- An operation starts and ends at once. -/
theorem passes (ledger : Ledger s) {operation : Operation} {number : Nat}
    {result : OpResult} {prelude : List Obs}
    (opening : Opening s number prelude next.nextNumber)
    (pending : next.pending = s.pending)
    (trace : next.trace =
      .wentOn number result :: .finished number result ::
        .started number operation :: (prelude ++ s.trace)) :
    Ledger next := by
  obtain ⟨below, given, own, others⟩ :=
    ledger.opens [.wentOn number result, .finished number result,
      .started number operation] opening
      (by simp [Obs.number?]) trace
  refine ⟨ledger.fresh_of_opens given below others, ?_, ?_, ?_⟩
  · intro frame op waits
    rw [pending] at waits
    have under := ledger.number_lt waits
    rcases others op.number (by omega) with kept | ⟨above, _⟩
    · rw [kept]
      exact ledger.waits frame op waits
    · omega
  · rw [pending]
    exact ledger.distinct
  · intro other
    by_cases same : other = number
    · subst same
      exact Or.inr (Or.inr (Or.inl ⟨operation, result, Or.inr own⟩))
    · rcases others other same with kept | ⟨_, _, timed⟩
      · rw [kept, pending]
        exact ledger.shape other
      · exact Or.inr (Or.inr (Or.inr timed))

/-- The history of the operation that ends grows, no other does. -/
theorem history_of_ends (ledger : Ledger s) {frame : Addr} {op : OpFrame}
    {result : OpResult} (waits : s.pending frame = some op)
    (trace : next.trace =
      .resumed op.number result :: .finished op.number result ::
        (s.marks action ++ s.trace)) (number : Nat) :
    next.history number =
      if number = op.number then
        [.resumed number result, .finished number result,
          .started number op.operation]
      else s.history number := by
  have grown : next.history number =
      [Obs.resumed op.number result, .finished op.number result].filter
        (fun obs => obs.number? = some number) ++ s.history number := by
    have marked : s.history number =
        (s.marks action ++ s.trace).filter
          fun obs => obs.number? = some number := by
      rw [List.filter_append, List.filter_eq_nil_iff.mpr]
      · rfl
      · intro mark member
        simp [marks_unnumbered member]
    rw [marked, ← List.filter_append]
    simp only [history, trace]
    rfl
  split
  · rename_i same
    subst same
    rw [grown, ledger.waits _ _ waits]
    simp [Obs.number?]
  · rename_i different
    rw [grown]
    simp [Obs.number?, Ne.symm different]

/-- A suspended operation ends. -/
theorem ends (ledger : Ledger s) {frame : Addr} {op : OpFrame}
    {result : OpResult} (waits : s.pending frame = some op)
    (pending : next.pending = Function.update s.pending frame none)
    (counted : next.nextNumber = s.nextNumber)
    (trace : next.trace =
      .resumed op.number result :: .finished op.number result ::
        (s.marks action ++ s.trace)) :
    Ledger next := by
  have recorded := ledger.history_of_ends waits trace
  have older : ∀ other otherOp, next.pending other = some otherOp →
      s.pending other = some otherOp ∧ otherOp.number ≠ op.number := by
    intro other otherOp otherWaits
    by_cases same : other = frame
    · rw [pending, same, Function.update_self] at otherWaits
      cases otherWaits
    · rw [pending, Function.update_of_ne same] at otherWaits
      refine ⟨otherWaits, fun number => same ?_⟩
      exact ledger.distinct _ _ _ _ otherWaits waits number
  refine ⟨?_, ?_, ?_, ?_⟩
  · intro number above
    have under := ledger.number_lt waits
    rw [recorded, if_neg (by omega)]
    exact ledger.fresh number (counted ▸ above)
  · intro other otherOp otherWaits
    obtain ⟨before, different⟩ := older _ _ otherWaits
    rw [recorded, if_neg different]
    exact ledger.waits other otherOp before
  · intro first second firstOp secondOp firstWaits secondWaits
    exact ledger.distinct _ _ _ _ (older _ _ firstWaits).1
      (older _ _ secondWaits).1
  · intro number
    by_cases same : number = op.number
    · subst same
      refine Or.inr (Or.inr (Or.inl ⟨op.operation, result, Or.inl ?_⟩))
      rw [recorded, if_pos rfl]
    · rw [recorded, if_neg same]
      rcases ledger.shape number with
        empty | ⟨other, otherOp, otherWaits, named⟩ | rest
      · exact Or.inl empty
      · refine Or.inr (Or.inl ⟨other, otherOp, ?_, named⟩)
        rw [pending, Function.update_of_ne _ _ _]
        · exact otherWaits
        · rintro rfl
          rw [waits] at otherWaits
          cases otherWaits
          exact same named.symm
      · exact Or.inr (Or.inr rest)

theorem move (ledger : Ledger s) (move : Move action s next) :
    Ledger next := by
  cases move with
  | calm _ _ pending _ _ _ _ _ _ _ counted trace =>
      refine ledger.keeps counted (history_of_marks trace) ?_ ?_
      · exact fun frame op waits => ⟨op, pending ▸ waits, rfl, rfl⟩
      · exact fun frame op waits => ⟨op, pending.symm ▸ waits, rfl⟩
  | suspends frame op _ _ opening free _ _ pending _ _ trace =>
      exact ledger.suspends opening (pendingIn_of_free free) pending trace
  | passes _ _ _ _ _ _ opening _ _ pending _ trace =>
      exact ledger.passes opening pending trace
  | ends pointer op result _ waits pending _ _ _ counted trace =>
      exact ledger.ends waits pending counted trace
  | rounds pointer op again _ _ waits operation _ number _ pending _ _ _
      counted trace =>
      refine ledger.keeps counted (history_of_marks trace) ?_ ?_
      · intro other otherOp otherWaits
        by_cases here : other = pointer.frame
        · rw [pending, here, Function.update_self] at otherWaits
          cases otherWaits
          exact ⟨op, here ▸ waits, number, operation⟩
        · rw [pending, Function.update_of_ne here] at otherWaits
          exact ⟨otherOp, otherWaits, rfl, rfl⟩
      · intro other otherOp otherWaits
        by_cases here : other = pointer.frame
        · rw [here, waits] at otherWaits
          cases otherWaits
          refine ⟨again, ?_, number⟩
          rw [pending, here, Function.update_self]
        · refine ⟨otherOp, ?_, rfl⟩
          rw [pending, Function.update_of_ne here]
          exact otherWaits

end Ledger

theorem ledger_initial (queues : TimerQueue) (timerFd : Fd) (uptime : Nat)
    (buffers : BufferRef → Buffer) :
    Ledger (initial queues timerFd uptime buffers) where
  fresh _ _ := rfl
  waits frame op waits := by simp [pending, initial, pendingIn] at waits
  distinct frame other op otherOp waits := by
    simp [pending, initial, pendingIn] at waits
  shape _ := Or.inl rfl

/-! ## Whole runs -/

/-- What the program must respect: no operation is started on a descriptor
while another one of its direction is suspended there, and no `Task` is
destroyed while an operation inside it is suspended. -/
def OneWaiter (s : System queues) (action : Action) : Prop :=
  KeepsPending s action ∧ s.unshared .socket action = true

instance : DecidableRel (@OneWaiter queues) :=
  fun s action => inferInstanceAs (Decidable
    (KeepsPending s action ∧ s.unshared .socket action = true))

theorem Reaches.ledger
    (reached : Reaches OneWaiter timerFd uptime buffers actions s) :
    Good s ∧ Filed .socket s ∧ Ledger s :=
  invariant_of_run
    (fun state => Good state ∧ Filed .socket state ∧ Ledger state)
    (fun ⟨good, filed, ledger⟩ ⟨keeps, alone⟩ taken =>
      have stepped := step_move good keeps taken
      ⟨stepped.2, filed.move good.sound stepped.1 alone,
        ledger.move stepped.1⟩)
    ⟨good_initial queues timerFd uptime buffers,
      filed_initial queues .socket timerFd uptime buffers,
      ledger_initial queues timerFd uptime buffers⟩
    reached.1 reached.2

/-- Without an entry in the table nothing is suspended. -/
theorem Good.pending_of_empty (good : Good s) (filed : Filed .socket s)
    (empty : s.rt.scheduler.fdToOp = ∅) (frame : Addr) :
    s.pending frame = none := by
  cases waits : s.pending frame with
  | none => rfl
  | some op =>
      exfalso
      cases socket : op.operation.socket? with
      | some key =>
          have registered := filed frame op key.1 key.2 waits socket
          simp [Scheduler.registry, empty] at registered
      | none =>
          obtain ⟨delay, operation⟩ :=
            Operation.waitFor_of_no_socket socket
          have timed : op.operation.delay?.isSome = true := by
            rw [operation]
            rfl
          have entry := good.timer_entry.mpr
            (good.timed_iff.mpr ⟨frame, op, waits, timed⟩)
          simp [empty] at entry

/-- What is recorded as resumed in a step was suspended before it, and the
coroutine that awaited it goes on. -/
theorem Move.goesOn_of_resumed (move : Move action s next) {number : Nat}
    {result : OpResult} (resumed : .resumed number result ∈ next.trace) :
    .resumed number result ∈ s.trace ∨
      ∃ frame op, s.pending frame = some op ∧ op.number = number ∧
        GoesOn s next frame op.outer result := by
  have unmarked : .resumed number result ∉ s.marks action := by
    intro member
    cases marks_unnumbered member
  have unopened : ∀ {opened after : Nat} {prelude : List Obs},
      Opening s opened prelude after →
        Obs.resumed number result ∉ prelude := by
    intro opened after prelude opening member
    obtain ⟨_, _, same⟩ := opening.prelude_spec member
    cases same
  cases move with
  | calm _ _ _ _ _ _ _ _ _ _ _ trace =>
      rw [trace, List.mem_append] at resumed
      exact Or.inl (resumed.resolve_left unmarked)
  | suspends _ _ _ _ opening _ _ _ _ _ _ trace =>
      simp only [trace, List.mem_cons, List.mem_append, reduceCtorEq,
        false_or] at resumed
      exact Or.inl (resumed.resolve_left (unopened opening))
  | passes _ _ _ _ _ _ opening _ _ _ _ trace =>
      simp only [trace, List.mem_cons, List.mem_append, reduceCtorEq,
        false_or] at resumed
      exact Or.inl (resumed.resolve_left (unopened opening))
  | ends pointer op ended _ waits _ _ _ goesOn _ trace =>
      simp only [trace, List.mem_cons, List.mem_append,
        Obs.resumed.injEq, reduceCtorEq, false_or] at resumed
      rcases resumed with ⟨rfl, rfl⟩ | marked | older
      · exact Or.inr ⟨pointer.frame, op, waits, rfl, goesOn⟩
      · exact absurd marked unmarked
      · exact Or.inl older
  | rounds _ _ _ _ _ _ _ _ _ _ _ _ _ _ _ trace =>
      rw [trace, List.mem_append] at resumed
      exact Or.inl (resumed.resolve_left unmarked)

/-- In every reachable state nothing has gone wrong, and each operation that
was started is suspended without a result, or is over: it got its result and
after that its awaiting coroutine was resumed once, or went on without having
been suspended.  When `running` returns, every operation is over.  A coroutine
is resumed only out of its own `co_await`. -/
theorem exactlyOnce_completion
    (reached : Reaches OneWaiter timerFd uptime buffers actions s) :
    s.rt.fault = none ∧
    (∀ number operation, .started number operation ∈ s.trace →
      (∃ frame op, s.pending frame = some op ∧ op.number = number ∧
        s.history number = [.started number operation]) ∨
      Over number operation (s.history number)) ∧
    (∀ number result,
      .resumed number result ∈ s.trace ∨ .wentOn number result ∈ s.trace →
        ∃ operation, Over number operation (s.history number)) ∧
    (∀ next, s.step .exit = some next →
      next.control = .outside ∧ ∀ number operation,
        .started number operation ∈ next.trace →
          Over number operation (next.history number)) ∧
    ∀ action next number result, OneWaiter s action →
      s.step action = some next → .resumed number result ∈ next.trace →
        .resumed number result ∈ s.trace ∨
          ∃ frame op, s.pending frame = some op ∧ op.number = number ∧
            GoesOn s next frame op.outer result := by
  obtain ⟨good, filed, ledger⟩ := reached.ledger
  have told : ∀ (obs : Obs) number, obs ∈ s.trace →
      obs.number? = some number → obs ∈ s.history number :=
    fun obs number member named =>
      List.mem_filter.mpr ⟨member, decide_eq_true named⟩
  have started : ∀ number operation, .started number operation ∈ s.trace →
      (∃ frame op, s.pending frame = some op ∧ op.number = number ∧
        s.history number = [.started number operation]) ∨
      Over number operation (s.history number) := by
    intro number operation member
    have here := told _ number member rfl
    rcases ledger.shape number with
      empty | ⟨frame, op, waits, rfl⟩ | ⟨other, result, settled⟩ | ⟨_, _, timed⟩
    · rw [empty] at here
      cases here
    · left
      have own := ledger.waits frame op waits
      rw [own, List.mem_singleton] at here
      cases here
      exact ⟨frame, op, waits, rfl, own⟩
    · right
      have same : operation = other := by
        rcases settled with settled | settled <;>
          · rw [settled] at here
            simpa using here
      rw [same]
      exact ⟨result, settled⟩
    · rw [timed, List.mem_singleton] at here
      cases here
  refine ⟨good.sound.healthy, started, ?_, ?_, ?_⟩
  · intro number result ended
    rcases ledger.shape number with
      empty | ⟨frame, op, waits, rfl⟩ | settled | ⟨_, _, timed⟩
    · rcases ended with member | member <;>
        · have here := told _ number member rfl
          rw [empty] at here
          cases here
    · rcases ended with member | member <;>
        · have here := told _ op.number member rfl
          rw [ledger.waits frame op waits, List.mem_singleton] at here
          cases here
    · exact settled
    · rcases ended with member | member <;>
        · have here := told _ number member rfl
          rw [timed, List.mem_singleton] at here
          cases here
  · intro next taken
    obtain ⟨allowed, rfl⟩ := step_eq_some taken
    simp only [enabled, Bool.and_eq_true, decide_eq_true_eq] at allowed
    refine ⟨rfl, fun number operation member => ?_⟩
    have before : .started number operation ∈ s.trace := by
      simpa [perform] using member
    have trace : (s.perform .exit).trace = s.marks .exit ++ s.trace := rfl
    rw [history_of_marks trace]
    rcases started number operation before with ⟨frame, op, waits, _⟩ | settled
    · rw [good.pending_of_empty filed allowed.2] at waits
      cases waits
    · exact settled
  · intro action next number result meets taken resumed
    exact (step_move good meets.1 taken).1.goesOn_of_resumed resumed

theorem exactlyOnce_completion_sample :
    ∃ s : System TimerQueue.sorted,
      Reaches OneWaiter 3 100 (fun _ => ⟨[0, 0], 0⟩)
        [.openFd 5 .socket, .spawn 1,
          .await 10 (.asyncReadTimeout ⟨5, 0, none⟩ 50) {}, .run,
          .epollWait [⟨EPOLLIN, 5⟩], .dispatch { recv := .received [7] },
          .batchEnd, .tick 50, .epollWait [⟨EPOLLIN, 3⟩], .dispatch {},
          .finish, .batchEnd] s ∧
      ∃ next, s.step .exit = some next ∧ next.control = .outside ∧
        Over 0 (.asyncReadTimeout ⟨5, 0, none⟩ 50) (next.history 0) := by
  refine (exists_reaches (fun s => (s.step .exit).any fun next =>
    .started 0 (.asyncReadTimeout ⟨5, 0, none⟩ 50) ∈ next.trace)
    ?_ ?_).imp fun s ⟨reached, passed⟩ => ⟨reached, ?_⟩
  · decide +kernel
  · decide +kernel
  · obtain ⟨next, taken, started⟩ := (Option.any_eq_true _ _).mp passed
    obtain ⟨_, _, _, returns, _⟩ := exactlyOnce_completion reached
    obtain ⟨outside, settled⟩ := returns next taken
    exact ⟨next, taken, outside, settled 0 _ (of_decide_eq_true started)⟩

end System

end AsyncFrame
