import AsyncFrame.ReactorRefinement

/-!
# The order of the timers

In the reactor the timer ends operations in the order of their deadlines, over
whole runs and not only among those that wait at the same time.  What holds of
the reactor then holds of the scheduler, through the refinement.
-/

namespace AsyncFrame

open AsyncFrame.Lib

/-- Delays are not negative, and no system call fails with an error that the
library reports by itself. -/
def Action.orderly (action : Action) : Bool :=
  action.io?.all Io.plain &&
    (action.starts?.bind Operation.delay?).all fun delay => 0 ≤ delay

/-- What a system call gives a read or a write is no timeout. -/
theorem Operation.answer_ec {operation : Operation} {io : Io} {total : Nat}
    {buffers : BufferRef → Buffer} {result : OpResult}
    (plain : io.plain = true) (timed : operation.timedTransfer = true)
    (returned : (operation.answer io total buffers).returned = some result) :
    result.ec ≠ timeoutError := by
  have present : timeoutError ≠ 0 := by decide
  simp only [Io.plain, Bool.and_eq_true, decide_eq_true_eq] at plain
  cases operation with
  | asyncReadTimeout base delay =>
      obtain ⟨pair, body, rfl⟩ := Option.map_eq_some_iff.mp returned
      have reported : (OpResult.ofPair pair).ec =
          (tryRead (buffers base.buf) io.recv).1.1 := readBody_ec body
      rw [reported]
      exact tryRead_ec present plain.1.1.1.1.1.2
  | asyncWriteTimeout base delay =>
      obtain ⟨pair, body, rfl⟩ := Option.map_eq_some_iff.mp returned
      have reported : (OpResult.ofPair pair).ec =
          (tryWrite (buffers base.buf) io.send).1.ec :=
        congrArg Prod.fst ((writeBody_count total _).2 pair body)
      rw [reported]
      exact tryWrite_ec present plain.1.1.1.2
  | _ => cases timed

private theorem Operation.fails_ec (operation : Operation) (ec : ErrorCode)
    (total : Nat) (buffers : BufferRef → Buffer) :
    (operation.fails ec total buffers).ec = ec := by
  unfold fails
  split <;> rfl

namespace Reactor

variable {r next later last : Reactor} {action : Action} {limit : Int}

/-- Time does not go back. -/
theorem Resumes.clock_le {frame : Addr} {op : OpFrame} {io : Io}
    {answer : Answer} {clock : Int}
    (resumes : r.Resumes frame op io answer clock) : r.clock ≤ clock := by
  cases resumes with
  | slept => exact le_max_left _ _
  | _ => exact le_refl _

/-- What a step does to the operations that wait: nothing, one more waits, or
one is resumed. -/
theorem Step.effect (step : r.Step action next) :
    (next.waits = r.waits ∧ r.clock ≤ next.clock) ∨
    (∃ frame op, action.starts? = some op.operation ∧
      r.waits frame = none ∧
      next.waits = Function.update r.waits frame (some op) ∧
      next.clock = r.clock ∧
      op.deadline = op.operation.deadlineAt r.clock) ∨
    ∃ frame op io answer clock, r.waits frame = some op ∧
      action.io? = some io ∧ r.Resumes frame op io answer clock ∧
      next.waits = (r.after frame op answer clock).waits ∧
      next.clock = clock ∧
      next.results = (r.after frame op answer clock).results := by
  cases step with
  | calm allowed =>
      refine Or.inl ⟨(r.calm_keeps action).2.1, ?_⟩
      cases action with
      | tick elapsed =>
          have order : r.clock ≤ r.clock + elapsed := by omega
          exact order
      | _ => exact le_refl _
  | suspends starts free quiet number total deadline =>
      exact Or.inr (Or.inl ⟨_, _, starts, free, rfl, rfl, deadline⟩)
  | refuses => exact Or.inl ⟨rfl, le_refl _⟩
  | connects => exact Or.inl ⟨rfl, le_refl _⟩
  | reads batch ready waits resumes remains =>
      exact Or.inr (Or.inr ⟨_, _, _, _, _, waits.1, rfl, resumes, rfl, rfl,
        rfl⟩)
  | skips => exact Or.inl ⟨rfl, le_refl _⟩
  | writes half waits resumes =>
      exact Or.inr (Or.inr ⟨_, _, _, _, _, waits.1, rfl, resumes, rfl, rfl,
        rfl⟩)

/-- Of what waits after an operation was resumed, the others waited before, and
it waits with the deadline of that moment. -/
theorem waits_after {frame other : Addr} {op now : OpFrame}
    {answer : Answer} {clock : Int}
    (waits : (r.after frame op answer clock).waits other = some now) :
    r.waits other = some now ∨
      now.operation = op.operation ∧
        now.deadline = op.operation.deadlineAt clock := by
  by_cases here : other = frame
  · subst here
    simp only [after, Function.update_self] at waits
    split at waits
    · cases waits
    · cases waits
      exact Or.inr ⟨rfl, rfl⟩
  · simp only [after, Function.update_of_ne here] at waits
    exact Or.inl waits

/-- No operation waits with a negative delay. -/
def Patient (r : Reactor) : Prop :=
  ∀ frame op delay, r.waits frame = some op →
    op.operation.delay? = some delay → 0 ≤ delay

/-- The limit has passed, and no operation waits for anything before it. -/
structure Beyond (limit : Int) (r : Reactor) : Prop where
  clock : limit ≤ r.clock
  waits : ∀ frame op deadline, r.waits frame = some op →
    op.deadline = some deadline → limit ≤ deadline

/-- The timer ends an operation with this deadline: a `wait_for`, or a read or
a write that times out. -/
def Fires (r next : Reactor) (deadline : Int) : Prop :=
  ∃ frame op result, r.waits frame = some op ∧ next.waits frame = none ∧
    next.results = (op.number, result) :: r.results ∧
    op.deadline = some deadline ∧
    ((∃ delay, op.operation = .waitFor delay) ∨
      op.operation.timedTransfer = true ∧ result.ec = timeoutError)

private theorem Patient.step (patient : r.Patient)
    (orderly : action.orderly = true)
    (step : r.Step action next) : next.Patient := by
  intro frame op delay waits delayed
  rcases step.effect with ⟨same, _⟩ |
    ⟨fresh, started, starts, _, changed, _, _⟩ |
    ⟨woken, was, io, answer, clock, waited, _, _, changed, _, _⟩
  · exact patient frame op delay (same ▸ waits) delayed
  · by_cases here : frame = fresh
    · rw [changed, here, Function.update_self] at waits
      cases waits
      have positive := (Bool.and_eq_true_iff.mp orderly).2
      rw [starts, Option.bind_some, delayed] at positive
      exact of_decide_eq_true positive
    · rw [changed, Function.update_of_ne here] at waits
      exact patient frame op delay waits delayed
  · rcases waits_after (changed ▸ waits) with before | ⟨same, _⟩
    · exact patient frame op delay before delayed
    · exact patient woken was delay waited (same ▸ delayed)

/-- A deadline set from now on is no earlier than now. -/
theorem clock_le_deadlineAt {operation : Operation} {now deadline : Int}
    (patient : ∀ delay, operation.delay? = some delay → 0 ≤ delay)
    (set : operation.deadlineAt now = some deadline) : now ≤ deadline := by
  obtain ⟨delay, delayed, rfl⟩ := Option.map_eq_some_iff.mp set
  have positive := patient delay delayed
  rw [TimerEvent.toTimePoint]
  omega

private theorem Beyond.step (passed : Beyond limit r) (patient : r.Patient)
    (orderly : action.orderly = true) (step : r.Step action next) :
    Beyond limit next := by
  have patientNext := patient.step orderly step
  rcases step.effect with ⟨same, order⟩ |
    ⟨fresh, started, _, _, changed, still, set⟩ |
    ⟨woken, was, io, answer, clock, _, _, resumes, changed, now, _⟩
  · exact ⟨passed.clock.trans order, same ▸ passed.waits⟩
  · refine ⟨still ▸ passed.clock, fun frame op deadline waits dated => ?_⟩
    by_cases here : frame = fresh
    · have held := waits
      rw [changed, here, Function.update_self] at waits
      cases waits
      exact passed.clock.trans (clock_le_deadlineAt
        (patientNext frame started · held) (set ▸ dated))
    · rw [changed, Function.update_of_ne here] at waits
      exact passed.waits frame op deadline waits dated
  · have later : limit ≤ clock := passed.clock.trans resumes.clock_le
    refine ⟨now ▸ later, fun frame op deadline waits dated => ?_⟩
    rcases waits_after (changed ▸ waits) with before | ⟨same, set⟩
    · exact passed.waits frame op deadline before dated
    · exact later.trans (clock_le_deadlineAt
        (patientNext frame op · waits) (same ▸ set ▸ dated))

/-- When the timer ends an operation, nothing is left that waits for an earlier
deadline. -/
theorem Fires.beyond (fires : r.Fires next limit)
    (orderly : action.orderly = true)
    (step : r.Step action next) : Beyond limit next := by
  obtain ⟨frame, op, result, waits, ended, given, set, timed⟩ := fires
  rcases step.effect with ⟨same, _⟩ | ⟨fresh, _, _, free, changed, _, _⟩ |
    ⟨woken, was, io, answer, clock, waited, answers, resumes, changed, now,
      results⟩
  · rw [same, waits] at ended
    cases ended
  · have different : frame ≠ fresh := by
      rintro rfl
      rw [free] at waits
      cases waits
    rw [changed, Function.update_of_ne different, waits] at ended
    cases ended
  · have here : frame = woken := by
      by_contra different
      rw [changed] at ended
      simp only [after, Function.update_of_ne different] at ended
      rw [waits] at ended
      cases ended
    subst here
    rw [waits] at waited
    cases waited
    have returned : answer.returned = some result := by
      rw [results] at given
      cases here : answer.returned with
      | none =>
          rw [changed] at ended
          simp only [after, Function.update_self, here] at ended
          cases ended
      | some reported =>
          simp only [after, here] at given
          injection given with same _
          exact congrArg (fun pair => some pair.2) same
    have others : ∀ other held deadline, next.waits other = some held →
        held.deadline = some deadline → ∃ held, r.waits other = some held ∧
          held.deadline = some deadline := by
      intro other held deadline waiting dated
      by_cases own : other = frame
      · rw [own, ended] at waiting
        cases waiting
      · rw [changed] at waiting
        simp only [after, Function.update_of_ne own] at waiting
        exact ⟨held, waiting, dated⟩
    have reached : r.Least limit ∧ limit ≤ clock := by
      cases resumes with
      | cancelled requested =>
          cases returned
          rcases timed with ⟨delay, operation⟩ | ⟨_, error⟩
          · rw [operation] at requested
            cases requested
          · rw [Operation.fails_ec] at error
            exact absurd error (by decide)
      | timedOut quiet transfer due least passed =>
          rw [set] at due
          cases due
          exact ⟨least, passed⟩
      | slept operation due least =>
          rw [set] at due
          cases due
          exact ⟨least, le_max_right _ _⟩
      | served quiet transfers early =>
          rcases timed with ⟨delay, operation⟩ | ⟨transfer, error⟩
          · exact absurd operation (transfers delay)
          · have plain := (Bool.and_eq_true_iff.mp orderly).1
            rw [answers] at plain
            exact absurd error
              (Operation.answer_ec plain transfer returned)
    refine ⟨now ▸ reached.2, fun other held deadline waiting dated => ?_⟩
    obtain ⟨before, was, due⟩ := others other held deadline waiting dated
    exact reached.1 other before deadline was due

/-- When the timer ends one operation and later another one, the deadline of
the first is no later than that of the second. -/
theorem fires_in_order {actions : List Action} {first second : Int}
    (patient : r.Patient)
    (orderly : ∀ act ∈ action :: actions, act.orderly = true)
    (step : r.Step action next) (fires : r.Fires next first)
    (path : Path Step next actions later) (again : later.Fires last second) :
    first ≤ second := by
  have here := orderly action List.mem_cons_self
  have reached := invariant_of_path
    (fun state => Patient state ∧ Beyond first state)
    (fun ⟨patient, beyond⟩ allowed step =>
      ⟨patient.step allowed step, beyond.step patient allowed step⟩)
    path (fun act member => orderly act (List.mem_cons_of_mem _ member))
    ⟨patient.step here step, fires.beyond here step⟩
  obtain ⟨frame, op, _, waits, _, _, set, _⟩ := again
  exact reached.2.waits frame op second waits set

end Reactor

/-! ## The scheduler -/

namespace System

variable {queues : TimerQueue} {s next later last : System queues}
variable {action other : Action}
variable {timerFd : Fd} {uptime : Nat} {buffers : BufferRef → Buffer}
variable {before actions : List Action} {first second : Int}

/-- In every run with delays that are not negative: when the timer ends one
operation in a step and another one in a later step, the deadline of the first
is no later than that of the second. -/
theorem timers_in_order
    (reached : Reaches Unshared timerFd uptime buffers before s)
    (unshared : Unshared s action) (taken : s.step action = some next)
    (run : Leads Unshared next actions later)
    (orderly : ∀ act ∈ before ++ action :: actions, act.orderly = true)
    (fires : s.reactor.Fires next.reactor first)
    (again : later.reactor.Fires last.reactor second) : first ≤ second := by
  have arranged := reached.arranged
  have early : ∀ act ∈ before, act.orderly = true :=
    fun act member => orderly act (List.mem_append_left _ member)
  have late : ∀ act ∈ action :: actions, act.orderly = true :=
    fun act member => orderly act (List.mem_append_right _ member)
  have patient : s.reactor.Patient :=
    invariant_of_path Reactor.Patient
      (fun patient allowed step => patient.step allowed step)
      reached.path early (fun _ _ _ waits => by cases waits)
  exact Reactor.fires_in_order patient late
    (arranged.step_reactor unshared.1 taken) fires
    ((arranged.step unshared taken).path run) again

/-- A read with a timeout of 50 nanoseconds, started after a `wait_for` of 80
at the same time, times out first. -/
theorem timers_in_order_sample :
    ∃ s next later last : System TimerQueue.sorted,
      Reaches Unshared 3 100 (fun _ => ⟨[0], 0⟩)
        [.openFd 5 .socket, .spawn 1, .await 10 (.waitFor 80) {}, .spawn 2,
          .await 20 (.asyncReadTimeout ⟨5, 0, none⟩ 50) {}, .run, .tick 90,
          .epollWait [⟨EPOLLIN, 3⟩]] s ∧
      s.step (.dispatch {}) = some next ∧
      Leads Unshared next [.finish, .batchEnd, .epollWait [⟨EPOLLIN, 3⟩]]
        later ∧
      later.step (.dispatch {}) = some last ∧
      s.reactor.Fires next.reactor 151 ∧
      later.reactor.Fires last.reactor 181 ∧ (151 : Int) ≤ 181 := by
  obtain ⟨s, reached, passed⟩ := @exists_reaches TimerQueue.sorted 3 100
    (fun _ => ⟨[0], 0⟩)
    [.openFd 5 .socket, .spawn 1, .await 10 (.waitFor 80) {}, .spawn 2,
      .await 20 (.asyncReadTimeout ⟨5, 0, none⟩ 50) {}, .run, .tick 90,
      .epollWait [⟨EPOLLIN, 3⟩]]
    Unshared
    (fun s => (s.step (.dispatch {})).any fun next =>
      Meets step Unshared next
        [.finish, .batchEnd, .epollWait [⟨EPOLLIN, 3⟩]] &&
      (runFrom step next
        [.finish, .batchEnd, .epollWait [⟨EPOLLIN, 3⟩]]).any fun later =>
        (later.step (.dispatch {})).any fun last =>
          s.pending 20 = some ⟨.asyncReadTimeout ⟨5, 0, none⟩ 50, 2, 0, 1,
            some 151⟩ && next.pending 20 = none &&
          next.reactor.results = (1, .transfer timeoutError 0) ::
            s.reactor.results &&
          later.pending 10 = some ⟨.waitFor 80, 1, 0, 0, some 181⟩ &&
          last.pending 10 = none &&
          last.reactor.results = (0, .waited 0) :: later.reactor.results)
    (by decide +kernel) (by decide +kernel)
  obtain ⟨next, taken, passed⟩ := (Option.any_eq_true _ _).mp passed
  obtain ⟨keeps, passed⟩ := Bool.and_eq_true_iff.mp passed
  obtain ⟨later, run, passed⟩ := (Option.any_eq_true _ _).mp passed
  obtain ⟨last, again, passed⟩ := (Option.any_eq_true _ _).mp passed
  simp only [Bool.and_eq_true, decide_eq_true_eq] at keeps passed
  obtain ⟨⟨⟨⟨⟨reads, readEnds⟩, timedOut⟩, sleeps⟩, sleepEnds⟩, slept⟩ :=
    passed
  have leads : Leads Unshared next
      [.finish, .batchEnd, .epollWait [⟨EPOLLIN, 3⟩]] later := ⟨keeps, run⟩
  have unshared : Unshared s (.dispatch {}) := ⟨rfl, rfl, rfl⟩
  have first : s.reactor.Fires next.reactor 151 :=
    ⟨20, _, _, reads, readEnds, timedOut, rfl, Or.inr ⟨rfl, rfl⟩⟩
  have second : later.reactor.Fires last.reactor 181 :=
    ⟨10, _, _, sleeps, sleepEnds, slept, rfl, Or.inl ⟨80, rfl⟩⟩
  exact ⟨s, next, later, last, reached, taken, leads, again, first, second,
    timers_in_order reached unshared taken leads (by decide) first second⟩

end System

end AsyncFrame
