import AsyncFrame.EdgeTriggered

/-!
# How long an overdue operation waits

The timerfd's event ends one operation at a time, the one of least deadline,
and none that is started later gets before an overdue one.  So `running` asks
the kernel at most once for each operation that is as overdue.
-/

namespace AsyncFrame

open AsyncFrame.Lib

/-- The delay is not negative. -/
def Action.unhurried (action : Action) : Bool :=
  (action.starts?.bind Operation.delay?).all fun delay => 0 ≤ delay

def Action.isPoll : Action → Bool
  | .epollWait _ => true
  | _ => false

namespace System

variable {queues : TimerQueue} {s next final : System queues}
variable {action : Action} {actions before : List Action} {frame : Addr}
variable {op : OpFrame} {timerFd : Fd} {uptime : Nat}
variable {buffers : BufferRef → Buffer} {limit : Int}

/-- What the program respects. -/
def Unhurried (s : System queues) (action : Action) : Prop :=
  KeepsPending s action ∧ action.unhurried = true

instance : DecidableRel (@Unhurried queues) :=
  fun s action => inferInstanceAs
    (Decidable (KeepsPending s action ∧ action.unhurried = true))

/-- A poll reports the timerfd, if it has expired. -/
def prompt (s : System queues) : Action → Bool
  | .epollWait evs =>
      !s.rt.timer.timerFd.isReadable s.rt.clock || evs.any s.isExpiry
  | _ => true

/-- What the program and the kernel respect. -/
def Prompt (s : System queues) (action : Action) : Prop :=
  Unhurried s action ∧ s.prompt action = true

instance : DecidableRel (@Prompt queues) :=
  fun s action => inferInstanceAs
    (Decidable (Unhurried s action ∧ s.prompt action = true))

/-- The frames of the operations that are due by the limit. -/
def dueBy (s : System queues) (limit : Int) : Finset Addr :=
  s.waiting.filter fun frame =>
    (s.pending frame).any fun op =>
      op.deadline.any fun deadline => deadline ≤ limit

private theorem mem_dueBy :
    frame ∈ s.dueBy limit ↔
      ∃ op deadline, s.pending frame = some op ∧
        op.deadline = some deadline ∧ deadline ≤ limit := by
  simp only [dueBy, Finset.mem_filter, mem_waiting, Option.any_eq_true,
    decide_eq_true_eq]
  constructor
  · rintro ⟨_, op, waits, deadline, set, due⟩
    exact ⟨op, deadline, waits, set, due⟩
  · rintro ⟨op, deadline, waits, set, due⟩
    exact ⟨waits ▸ rfl, op, waits, deadline, set, due⟩

/-- One if a report of the timerfd is still to be dispatched. -/
def owing (s : System queues) : Nat :=
  match s.control.rest? with
  | some (evs, _) => if evs.any s.isExpiry then 1 else 0
  | none => 0

private theorem owing_le (s : System queues) : s.owing ≤ 1 := by
  unfold owing
  split
  · split <;> simp
  · exact Nat.zero_le 1

/-- No operation waits with a negative delay. -/
def Patient (s : System queues) : Prop :=
  ∀ frame op delay, s.pending frame = some op →
    op.operation.delay? = some delay → 0 ≤ delay

/-! ## One step -/

/-- An operation is suspended after a step as it was before, or with the
deadline of now. -/
theorem Good.pending_of_step (good : Good s)
    (keeps : KeepsPending s action) (taken : s.step action = some next)
    (waits : next.pending frame = some op) :
    s.pending frame = some op ∨
      op.deadline = op.operation.deadlineAt s.rt.clock := by
  cases woken : s.completes action with
  | some pointer =>
      obtain ⟨woke, was⟩ := good.waits_of_completes woken
      obtain ⟨io, _, pending⟩ := good.completed taken woken was
      by_cases here : frame = pointer.frame
      · subst here
        split at pending
        · obtain ⟨total, pending⟩ := pending
          rw [pending, Function.update_self] at waits
          cases waits
          exact Or.inr rfl
        · rw [pending, Function.update_self] at waits
          cases waits
      · left
        split at pending
        · obtain ⟨_, pending⟩ := pending
          rwa [pending, Function.update_of_ne here] at waits
        · rwa [pending, Function.update_of_ne here] at waits
  | none =>
      cases (step_move good keeps taken).1 with
      | calm _ _ pending => exact Or.inl (pending ▸ waits)
      | suspends fresh new prelude starting opening free _ _ pending =>
          by_cases here : frame = fresh
          · have absent : s.pending frame = none :=
              here ▸ pendingIn_of_free free
            obtain ⟨same, set⟩ := step_suspends starting taken absent waits
            rw [same]
            exact Or.inr set
          · rw [pending, Function.update_of_ne here] at waits
            exact Or.inl waits
      | passes _ _ _ _ _ _ _ _ _ pending => exact Or.inl (pending ▸ waits)
      | ends pointer _ _ here =>
          rw [woken] at here
          cases here
      | rounds pointer _ _ _ here =>
          rw [woken] at here
          cases here

/-- What a step leaves of a suspended operation: it waits on, is over, or goes
round its loop. -/
theorem Good.fate (good : Good s) (keeps : KeepsPending s action)
    (taken : s.step action = some next) (waits : s.pending frame = some op) :
    next.pending frame = some op ∨
      (∃ result, .finished op.number result ∈ next.trace) ∨
      ∃ again io, next.pending frame = some again ∧
        again.number = op.number ∧ again.operation = op.operation ∧
        again.deadline = op.operation.deadlineAt s.rt.clock ∧
        op.operation.goesRound frame io s.rt = true := by
  cases (step_move good keeps taken).1 with
  | calm _ _ pending => exact Or.inl (pending ▸ waits)
  | suspends fresh new prelude _ _ free _ _ pending =>
      have other : frame ≠ fresh := by
        rintro rfl
        have absent := pendingIn_of_free free
        rw [pendingIn_eq_some.mp waits] at free
        cases free
      rw [pending, Function.update_of_ne other]
      exact Or.inl waits
  | passes _ _ _ _ _ _ _ _ _ pending => exact Or.inl (pending ▸ waits)
  | ends pointer woke result _ was pending _ _ _ _ trace =>
      by_cases here : frame = pointer.frame
      · subst here
        rw [waits] at was
        cases was
        exact Or.inr (Or.inl ⟨result, by rw [trace]; simp⟩)
      · rw [pending, Function.update_of_ne here]
        exact Or.inl waits
  | rounds pointer woke again _ woken was _ _ _ _ pending =>
      by_cases here : frame = pointer.frame
      · subst here
        rw [waits] at was
        cases was
        have still : next.pending pointer.frame = some again := by
          rw [pending, Function.update_self]
        obtain ⟨io, asked, goesRound⟩ :=
          good.goesRound_of_waits taken woken waits still
        obtain ⟨given, answers, completed⟩ :=
          good.completed taken woken waits
        rw [asked] at answers
        cases answers
        rw [if_pos goesRound] at completed
        obtain ⟨total, completed⟩ := completed
        refine Or.inr (Or.inr ⟨{ op with
          total := total
          deadline := op.operation.deadlineAt s.rt.clock }, io, ?_, rfl, rfl,
            rfl, goesRound⟩)
        rw [completed, Function.update_self]
      · rw [pending, Function.update_of_ne here]
        exact Or.inl waits

private theorem Patient.step (patient : Patient s) (good : Good s)
    (unhurried : Unhurried s action) (taken : s.step action = some next) :
    Patient next := by
  intro frame op delay waits delayed
  cases (step_move good unhurried.1 taken).1 with
  | calm _ _ pending => exact patient frame op delay (pending ▸ waits) delayed
  | suspends fresh new prelude starting _ _ _ _ pending =>
      by_cases here : frame = fresh
      · rw [pending, here, Function.update_self] at waits
        cases waits
        have positive := unhurried.2
        rw [Action.unhurried, starting, Option.bind_some, delayed] at positive
        exact of_decide_eq_true positive
      · rw [pending, Function.update_of_ne here] at waits
        exact patient frame op delay waits delayed
  | passes _ _ _ _ _ _ _ _ _ pending =>
      exact patient frame op delay (pending ▸ waits) delayed
  | ends pointer _ _ _ _ pending =>
      by_cases here : frame = pointer.frame
      · rw [pending, here, Function.update_self] at waits
        cases waits
      · rw [pending, Function.update_of_ne here] at waits
        exact patient frame op delay waits delayed
  | rounds pointer woke again _ _ was operation _ _ _ pending =>
      by_cases here : frame = pointer.frame
      · rw [pending, here, Function.update_self] at waits
        cases waits
        exact patient pointer.frame woke delay was (operation ▸ delayed)
      · rw [pending, Function.update_of_ne here] at waits
        exact patient frame op delay waits delayed

/-! ## After the limit -/

/-- The limit has passed. -/
structure Late (limit : Int) (s : System queues) : Prop where
  good : Good s
  patient : Patient s
  clock : limit < s.rt.clock

namespace Late

private theorem step (late : Late limit s) (unhurried : Unhurried s action)
    (taken : s.step action = some next) : Late limit next := by
  obtain ⟨move, goodNext⟩ := step_move late.good unhurried.1 taken
  exact ⟨goodNext, late.patient.step late.good unhurried taken,
    lt_of_lt_of_le late.clock move.rearmed.2.1⟩

/-- What is due by the limit was so before. -/
theorem was (late : Late limit s) (unhurried : Unhurried s action)
    (taken : s.step action = some next) (waits : next.pending frame = some op)
    {deadline : Int} (set : op.deadline = some deadline)
    (due : deadline ≤ limit) : s.pending frame = some op := by
  rcases late.good.pending_of_step unhurried.1 taken waits with
    before | fresh
  · exact before
  · rw [set, Operation.deadlineAt] at fresh
    obtain ⟨delay, delayed, same⟩ := Option.map_eq_some_iff.mp fresh.symm
    have patient := late.patient.step late.good unhurried taken
    have positive := patient frame op delay waits delayed
    have clock := late.clock
    rw [TimerEvent.toTimePoint] at same
    omega

private theorem dueBy_subset (late : Late limit s)
    (unhurried : Unhurried s action) (taken : s.step action = some next) :
    next.dueBy limit ⊆ s.dueBy limit := by
  intro frame member
  obtain ⟨op, deadline, waits, set, due⟩ := mem_dueBy.mp member
  exact mem_dueBy.mpr ⟨op, deadline,
    late.was unhurried taken waits set due, set, due⟩

/-- While an operation is due, the current task is, and the timerfd has
expired. -/
theorem readable (late : Late limit s) (member : frame ∈ s.dueBy limit) :
    s.rt.timer.cur.timePoint ≤ limit ∧
      s.rt.timer.timerFd.isReadable s.rt.clock = true := by
  obtain ⟨op, deadline, waits, set, due⟩ := mem_dueBy.mp member
  have delayed : op.operation.delay?.isSome = true := by
    obtain ⟨now, _, dated, _⟩ := late.good.sound.dated frame op waits
    rw [set, Operation.deadlineAt] at dated
    obtain ⟨delay, here, _⟩ := Option.map_eq_some_iff.mp dated.symm
    rw [here]
    rfl
  have nonempty := late.good.timed_iff.mpr ⟨frame, op, waits, delayed⟩
  obtain ⟨current, _, named, _, _, least⟩ := late.good.current nonempty
  have first := (least frame op deadline waits set).trans due
  exact ⟨first, isReadable_of_reached late.good.sound.inOrder.settled named
    (first.trans late.clock.le)⟩

/-- The timerfd's event ends one of the operations that are due. -/
theorem served (late : Late limit s) {io : Io} {event : EpollEvent}
    {evs : List EpollEvent} {fetched : Nat}
    (unhurried : Unhurried s (.dispatch io))
    (taken : s.step (.dispatch io) = some next)
    (batch : s.control = .batch (event :: evs) fetched)
    (expiry : s.isExpiry event = true) (member : frame ∈ s.dueBy limit) :
    (next.dueBy limit).card < (s.dueBy limit).card := by
  obtain ⟨first, readable⟩ := late.readable member
  obtain ⟨current, op, named, woken, waits, set, delayed⟩ :=
    late.good.wakes_of_expiry io batch expiry readable
  obtain ⟨given, _, pending⟩ := late.good.completed taken woken waits
  rw [Operation.goesRound_of_expired late.good.sound.inOrder.settled named
    readable delayed, if_neg Bool.false_ne_true] at pending
  refine Finset.card_lt_card ⟨late.dueBy_subset unhurried taken, ?_⟩
  intro all
  have here := all (mem_dueBy.mpr ⟨op, _, waits, set, first⟩)
  obtain ⟨again, _, remains, _⟩ := mem_dueBy.mp here
  rw [pending, Function.update_self] at remains
  cases remains

/-- A poll is paid for by the operation that the timerfd's event ends. -/
theorem pays (late : Late limit s) (prompt : Prompt s action)
    (taken : s.step action = some next) (member : frame ∈ s.dueBy limit) :
    (if action.isPoll then 1 else 0) + (next.dueBy limit).card + s.owing ≤
      (s.dueBy limit).card + next.owing := by
  have fewer := Finset.card_le_card (late.dueBy_subset prompt.1 taken)
  have readable := (late.readable member).2
  have expires : next.isExpiry = s.isExpiry := by
    funext event
    rw [isExpiry, isExpiry,
      (step_move late.good prompt.1.1 taken).1.rearmed.1]
  have unpolled : action.isPoll = false →
      (next.dueBy limit).card + s.owing ≤
        (s.dueBy limit).card + next.owing := by
    intro other
    cases rest : s.control.rest? with
    | none =>
        have nothing : s.owing = 0 := by rw [owing, rest]
        omega
    | some left =>
        obtain ⟨evs, fetched⟩ := left
        cases due : evs.any s.isExpiry with
        | false =>
            have nothing : s.owing = 0 := by simp [owing, rest, due]
            omega
        | true =>
            have one : s.owing = 1 := by simp [owing, rest, due]
            have unread : evs ≠ [] := by
              rintro rfl
              cases due
            rcases step_keeps_rest taken rest unread with
              kept | ⟨io, event, left, rfl, rfl, batch, kept⟩
            · have same : next.owing = 1 := by
                simp [owing, kept, expires, due]
              omega
            · cases here : s.isExpiry event with
              | true =>
                  have ended := late.served prompt.1 taken batch here member
                  omega
              | false =>
                  have same : next.owing = 1 := by
                    rw [List.any_cons, here, Bool.false_or] at due
                    simp [owing, kept, expires, due]
                  omega
  cases action with
  | epollWait evs =>
      have reported := prompt.2
      simp only [System.prompt, readable, Bool.not_true, Bool.false_or]
        at reported
      obtain ⟨allowed, rfl⟩ := step_eq_some taken
      simp only [enabled, Bool.and_eq_true, decide_eq_true_eq] at allowed
      have before : s.owing = 0 := by
        rw [owing, allowed.1.1.1.1.1]
        rfl
      have after : (s.perform (.epollWait evs)).owing = 1 := by
        have same : (s.perform (.epollWait evs)).control.rest? =
            some (evs, s.rt.timer.timerFd.settimes) := rfl
        simp [owing, same, expires, reported]
      simp only [Action.isPoll, if_true]
      omega
  | _ =>
      have cost := unpolled rfl
      simp only [Action.isPoll, Bool.false_eq_true, if_false, Nat.zero_add]
      exact cost

end Late

/-! ## Whole runs -/

/-- The operation is over, or it is a read or a write with a timeout that went
round its loop, and its deadline is not before `since`. -/
def Attended (op : OpFrame) (frame : Addr) (since : Int)
    (s : System queues) : Prop :=
  (∃ result, .finished op.number result ∈ s.trace) ∨
    op.operation.timedTransfer = true ∧
      ∃ again later, s.pending frame = some again ∧
        again.number = op.number ∧ again.operation = op.operation ∧
        again.deadline = some later ∧ since ≤ later

/-- A new deadline is set only for a read or a write. -/
theorem timedTransfer_of_goesRound {operation : Operation} {io : Io}
    {rt : Runtime queues} (delayed : operation.delay?.isSome = true)
    (goesRound : operation.goesRound frame io rt = true) :
    operation.timedTransfer = true := by
  cases operation with
  | asyncReadTimeout base delay => rfl
  | asyncWriteTimeout base delay => rfl
  | waitFor delay => cases goesRound
  | _ => cases delayed

/-- Once attended to, an operation stays so; and until then it waits. -/
theorem Late.waits_or_attended {since : Int} (late : Late limit s)
    (unhurried : Unhurried s action) (taken : s.step action = some next)
    (delayed : op.operation.delay?.isSome = true)
    (past : since ≤ s.rt.clock)
    (before : s.pending frame = some op ∨ Attended op frame since s) :
    next.pending frame = some op ∨ Attended op frame since next := by
  have renewed : ∀ {now again : OpFrame} {io : Io},
      s.pending frame = some now → now.operation = op.operation →
        again.operation = now.operation →
          again.deadline = now.operation.deadlineAt s.rt.clock →
            now.operation.goesRound frame io s.rt = true →
              op.operation.timedTransfer = true ∧
                ∃ later, again.deadline = some later ∧ since ≤ later := by
    intro now again io waits same _ set goesRound
    rw [same] at goesRound set
    refine ⟨timedTransfer_of_goesRound delayed goesRound, ?_⟩
    obtain ⟨delay, here⟩ := Option.isSome_iff_exists.mp delayed
    have positive := late.patient frame now delay waits (same ▸ here)
    refine ⟨TimerEvent.toTimePoint s.rt.clock delay, ?_, ?_⟩
    · rw [set, Operation.deadlineAt, here]
      rfl
    · rw [TimerEvent.toTimePoint]
      omega
  have grows : ∀ {obs : Obs}, obs ∈ s.trace → obs ∈ next.trace := by
    intro obs member
    obtain ⟨entries, trace, _⟩ := step_records taken
    rw [trace]
    exact List.mem_append_right _ member
  rcases before with waits | ⟨result, ended⟩ |
    ⟨timed, now, later, waits, named, same, set, order⟩
  · rcases late.good.fate unhurried.1 taken waits with
      still | ended | ⟨again, io, waits', named, same, set, goesRound⟩
    · exact Or.inl still
    · exact Or.inr (Or.inl ended)
    · obtain ⟨timed, later, dated, order⟩ :=
        renewed waits rfl same set goesRound
      exact Or.inr (Or.inr ⟨timed, again, later, waits', named, same, dated,
        order⟩)
  · exact Or.inr (Or.inl ⟨result, grows ended⟩)
  · right
    rcases late.good.fate unhurried.1 taken waits with
      still | ended | ⟨again, io, waits', named', same', set', goesRound⟩
    · exact Or.inr ⟨timed, now, later, still, named, same, set, order⟩
    · exact Or.inl (named ▸ ended)
    · obtain ⟨_, later', dated, order'⟩ :=
        renewed waits same same' set' goesRound
      exact Or.inr ⟨timed, again, later', waits', named'.trans named,
        same'.trans same, dated, order'⟩

private theorem patient_of_run
    (reached : Reaches Unhurried timerFd uptime buffers before s) :
    Good s ∧ Patient s := by
  refine invariant_of_run (fun state => Good state ∧ Patient state) ?_ ?_
    reached.1 reached.2
  · intro state action after both unhurried taken
    exact ⟨(step_move both.1 unhurried.1 taken).2,
      both.2.step both.1 unhurried taken⟩
  · refine ⟨good_initial queues timerFd uptime buffers, ?_⟩
    intro frame op delay waits
    cases waits

/-- Once the clock has passed the deadline of a suspended operation, `running`
asks the kernel at most once for each operation that was due by then, if the
kernel reports the timerfd whenever it has expired: with one more question the
operation is over, or it is a read or a write with a timeout that went round
its loop and has a deadline not before that time. -/
theorem overdue_served
    (reached : Reaches Unhurried timerFd uptime buffers before s)
    (waits : s.pending frame = some op) (set : op.deadline = some limit)
    (overdue : limit < s.rt.clock) (run : Leads Prompt s actions final)
    (asked : (s.dueBy limit).card < actions.countP Action.isPoll) :
    Attended op frame s.rt.clock final := by
  obtain ⟨good, patient⟩ := patient_of_run reached
  have late : Late limit s := ⟨good, patient, overdue⟩
  have delayed : op.operation.delay?.isSome = true := by
    obtain ⟨now, _, dated, _⟩ := good.sound.dated frame op waits
    rw [set, Operation.deadlineAt] at dated
    obtain ⟨delay, here, _⟩ := Option.map_eq_some_iff.mp dated.symm
    rw [here]
    rfl
  have ends := (invariant_of_run
    (fun state => (Late limit state ∧ s.rt.clock ≤ state.rt.clock) ∧
      (state.pending frame = some op ∨
        Attended op frame s.rt.clock state)) ?_
    ⟨⟨late, le_refl _⟩, Or.inl waits⟩ run.1 run.2).2
  · rcases ends with still | attended
    · obtain ⟨_, throughout⟩ := meets_of_final (Late limit)
        (fun state => state.pending frame = some op)
        (fun late prompt taken => late.step prompt.1 taken)
        (fun late prompt taken waits =>
          late.was prompt.1 taken waits set (le_refl _))
        late run.1 run.2 still
      have spent := total_le_of_run step (Late limit)
        (fun _ action => if action.isPoll then 1 else 0) (fun _ _ => 0)
        (fun state => (state.dueBy limit).card) owing
        (fun late both taken => late.step both.1.1 taken)
        (fun late both taken => late.pays both.1 taken
          (mem_dueBy.mpr ⟨op, limit, both.2, set, le_refl _⟩))
        late (run.1.and throughout) run.2
      have left : 0 < (final.dueBy limit).card :=
        Finset.card_pos.mpr ⟨frame,
          mem_dueBy.mpr ⟨op, limit, still, set, le_refl _⟩⟩
      have owed : final.owing ≤ 1 := final.owing_le
      rw [total_eq_countP Action.isPoll run.2, total_zero] at spent
      omega
    · exact attended
  · rintro state action after ⟨⟨late, past⟩, now⟩ prompt taken
    have order := (step_move late.good prompt.1.1 taken).1.rearmed.2.1
    exact ⟨⟨late.step prompt.1 taken, past.trans order⟩,
      late.waits_or_attended prompt.1 taken delayed past now⟩

/-- A read with a timeout and a `wait_for` are overdue, and another read keeps
the loop going: with the third question the `wait_for` is over. -/
theorem overdue_served_sample :
    ∃ s final : System TimerQueue.sorted,
      Reaches Unhurried 3 100 (fun _ => ⟨[0, 0], 0⟩)
        [.openFd 5 .socket, .openFd 6 .socket, .spawn 1,
          .await 10 (.asyncRead ⟨6, 0, none⟩) {}, .spawn 2,
          .await 20 (.asyncReadTimeout ⟨5, 1, none⟩ 50) {}, .spawn 3,
          .await 30 (.waitFor 80) {}, .run, .tick 100] s ∧
      Leads Prompt s
        [.epollWait [⟨EPOLLIN, 3⟩], .dispatch {}, .finish, .batchEnd,
          .epollWait [⟨EPOLLIN, 3⟩], .dispatch {}, .finish, .batchEnd,
          .epollWait []] final ∧
      s.pending 30 = some ⟨.waitFor 80, 3, 0, 2, some 181⟩ ∧
      Attended ⟨.waitFor 80, 3, 0, 2, some 181⟩ 30 s.rt.clock final := by
  obtain ⟨s, reached, passed⟩ := @exists_reaches TimerQueue.sorted 3 100
    (fun _ => ⟨[0, 0], 0⟩)
    [.openFd 5 .socket, .openFd 6 .socket, .spawn 1,
      .await 10 (.asyncRead ⟨6, 0, none⟩) {}, .spawn 2,
      .await 20 (.asyncReadTimeout ⟨5, 1, none⟩ 50) {}, .spawn 3,
      .await 30 (.waitFor 80) {}, .run, .tick 100]
    Unhurried
    (fun s => s.pending 30 = some ⟨.waitFor 80, 3, 0, 2, some 181⟩ &&
      s.rt.clock = 201 && (s.dueBy 181).card = 2 &&
      Meets step Prompt s
        [.epollWait [⟨EPOLLIN, 3⟩], .dispatch {}, .finish, .batchEnd,
          .epollWait [⟨EPOLLIN, 3⟩], .dispatch {}, .finish, .batchEnd,
          .epollWait []] &&
      (runFrom step s
        [.epollWait [⟨EPOLLIN, 3⟩], .dispatch {}, .finish, .batchEnd,
          .epollWait [⟨EPOLLIN, 3⟩], .dispatch {}, .finish, .batchEnd,
          .epollWait []]).isSome)
    (by decide +kernel) (by decide +kernel)
  simp only [Bool.and_eq_true, decide_eq_true_eq, Option.isSome_iff_exists]
    at passed
  obtain ⟨⟨⟨⟨waits, clock⟩, due⟩, keeps⟩, final, run⟩ := passed
  have overdue : (181 : Int) < s.rt.clock := by rw [clock]; decide
  refine ⟨s, final, reached, ⟨keeps, run⟩, waits,
    overdue_served reached waits rfl overdue ⟨keeps, run⟩ ?_⟩
  rw [due]
  decide

end System

end AsyncFrame
