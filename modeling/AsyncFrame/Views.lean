import AsyncFrame.Schedulers
import AsyncFrame.Untimed

/-!
# What each scheduler sees

As long as only one scheduler at a time has timed operations suspended, each
scheduler sees of `TimerEvent` what it would see of its own: the one with timed
operations the object itself, every other one an object that was never used.
With that view each scheduler keeps the invariant of a scheduler of its own.
-/

namespace AsyncFrame

variable {queues : TimerQueue}

namespace Process

variable {p next : Process queues} {call : Call} {home scheduler : Nat}

/-- The suspended operations of one scheduler. -/
def pendingOn (p : Process queues) (scheduler : Nat) :
    Addr → Option OpFrame :=
  fun frame => if p.owner frame = scheduler then p.pending frame else none

/-- What a scheduler sees of `TimerEvent`: the object itself at home, one that
was never used elsewhere. -/
def timerOn (p : Process queues) (home scheduler : Nat) :
    TimerEvent queues :=
  if scheduler = home then p.program.rt.timer
  else TimerEvent.initial queues p.program.rt.timer.fd

def view (p : Process queues) (home scheduler : Nat) : Runtime queues :=
  (p.focus scheduler).rt.retimed (p.timerOn home scheduler)

/-- All timed operations are suspended on the scheduler `home`. -/
structure Apart (p : Process queues) (home : Nat) : Prop where
  sound : ∀ scheduler,
    Sound (p.view home scheduler) (p.pendingOn scheduler)
  linked : Linked p.program.frames
  fetched : ∀ writeOp evs fetched,
    p.program.control = .half writeOp evs fetched →
      ∃ op fd, p.pendingOn p.running writeOp.frame = some op ∧
        op.operation.socket? = some (fd, .write)

theorem pendingOn_owner (p : Process queues) (frame : Addr) :
    p.pendingOn (p.owner frame) frame = p.pending frame :=
  if_pos rfl

theorem pendingOn_eq_some {frame : Addr} {op : OpFrame} :
    p.pendingOn scheduler frame = some op ↔
      p.owner frame = scheduler ∧ p.pending frame = some op := by
  unfold pendingOn
  split
  · rename_i own
    simp [own]
  · rename_i other
    simp [other]

theorem timerOn_home (p : Process queues) (home : Nat) :
    p.timerOn home home = p.program.rt.timer :=
  if_pos rfl

private theorem timerOn_elsewhere (p : Process queues)
    (elsewhere : scheduler ≠ home) :
    p.timerOn home scheduler =
      TimerEvent.initial queues p.program.rt.timer.fd :=
  if_neg elsewhere

theorem timerOn_fd (p : Process queues) (home scheduler : Nat) :
    (p.timerOn home scheduler).fd = p.program.rt.timer.fd := by
  unfold timerOn
  split
  · rfl
  · rfl

private theorem view_home (p : Process queues) (home : Nat) :
    p.view home home = (p.focus home).rt := by
  unfold view
  rw [timerOn_home]
  rfl

/-- A scheduler other than `home` has no timed operation. -/
theorem Apart.timed_home (apart : p.Apart home) {frame : Addr}
    {op : OpFrame} (waits : p.pending frame = some op)
    (timed : op.operation.delay?.isSome = true) : p.owner frame = home := by
  by_contra elsewhere
  have empty : (p.view home (p.owner frame)).timer.currentEmpty = true := by
    change (p.timerOn home (p.owner frame)).currentEmpty = true
    rw [p.timerOn_elsewhere elsewhere]
    rfl
  have here : p.pendingOn (p.owner frame) frame = some op :=
    (p.pendingOn_owner frame).trans waits
  rw [(apart.sound (p.owner frame)).untimed_of_empty empty here] at timed
  cases timed

/-- With no timed operation at all, any scheduler can be the next home. -/
theorem Apart.rehome (apart : p.Apart home)
    (untimed : ∀ frame op, p.pending frame = some op →
      op.operation.delay? = none) (other : Nat) : p.Apart other where
  linked := apart.linked
  fetched := apart.fetched
  sound scheduler := by
    have silent : ∀ scheduler,
        deadlines (p.pendingOn scheduler) = fun _ => none := by
      intro scheduler
      funext pointer
      cases present : deadlines (p.pendingOn scheduler) pointer with
      | none => rfl
      | some deadline =>
          obtain ⟨_, op, waits, set⟩ := deadlines_eq_some present
          obtain ⟨now, _, dated, _⟩ :=
            (apart.sound scheduler).dated _ op waits
          rw [set, Operation.deadlineAt,
            untimed _ op (pendingOn_eq_some.mp waits).2] at dated
          cases dated
    have real : p.program.rt.timer.Settled fun _ => none := by
      have settled := (apart.sound home).inOrder.settled
      rw [silent] at settled
      rw [← timerOn_home p home]
      exact settled
    have settled : ∀ home,
        (p.timerOn home scheduler).Settled fun _ => none := by
      intro home
      unfold timerOn
      split
      · exact real
      · exact TimerEvent.settled_initial _
    have idle : ∀ home,
        (p.timerOn home scheduler).cur.state.read = none := by
      intro home
      cases named : (p.timerOn home scheduler).cur.state.read with
      | none => rfl
      | some read =>
          have nonempty :=
            (settled home).wellFormed.nonempty_of_read named
          obtain ⟨_, _, present⟩ := (settled home).current_present nonempty
          cases present
    change Sound
      ((p.view home scheduler).retimed (p.timerOn other scheduler)) _
    refine (apart.sound scheduler).retimed ?_ ?_ ?_
    · rw [silent]
      exact settled other
    · exact (p.timerOn_fd other scheduler).trans
        (p.timerOn_fd home scheduler).symm
    · exact (idle other).trans (idle home).symm

/-- What a scheduler keeps while another one works. -/
theorem Apart.spared (apart : p.Apart home)
    {rt : Runtime queues} (spares : Spares (p.view home scheduler) rt)
    (files : next.program.rt.files = rt.files)
    (clock : next.program.rt.clock = rt.clock)
    (fault : next.program.rt.fault = rt.fault)
    (timerFd : next.program.rt.timer.fd = p.program.rt.timer.fd)
    (timer : scheduler ≠ home →
      next.program.rt.timer = p.program.rt.timer)
    {other : Nat} (different : other ≠ scheduler)
    (table : next.tables other = p.tables other) :
    Sound (next.view home other) (p.pendingOn other) := by
  have sound := apart.sound other
  have kept : FilesKept (p.view home other) (next.view home other) := by
    intro fd
    change next.program.rt.files fd = _ ∨ ∃ cancelled counter, _ ∧
      next.program.rt.files fd = _
    rw [files]
    exact spares.files fd
  refine sound.carried table ?_ ?_ ?_ ?_ ?_
  · change next.timerOn home other = p.timerOn home other
    unfold timerOn
    split
    · rename_i here
      exact timer fun same => different (here.trans same.symm)
    · rw [timerFd]
  · change p.program.rt.clock ≤ next.program.rt.clock
    rw [clock]
    exact spares.clock
  · exact fault.trans spares.fault
  · exact fun frame op waits => (sound.fits frame op waits).kept kept
  · rcases kept (p.view home other).timer.fd with same | ⟨_, _, before, _⟩
    · exact same
    · rw [sound.inOrder.timerFile] at before
      cases before

/-- Of what an operation's stretch changes, its scheduler sees all, and the
others nothing. -/
theorem pendingOn_update {frame : Addr} {changed : Option OpFrame}
    (pending : next.pending = Function.update p.pending frame changed)
    (owner : next.owner = Function.update p.owner frame scheduler)
    (own : p.owner frame = scheduler ∨ p.pending frame = none) :
    next.pendingOn scheduler =
        Function.update (p.pendingOn scheduler) frame changed ∧
      ∀ other, other ≠ scheduler →
        next.pendingOn other = p.pendingOn other := by
  constructor
  · funext here
    unfold pendingOn
    rw [pending, owner]
    by_cases same : here = frame
    · subst same
      simp
    · simp [same]
  · intro other different
    funext here
    unfold pendingOn
    rw [pending, owner]
    by_cases same : here = frame
    · subst same
      rw [Function.update_self, if_neg different.symm]
      rcases own with own | free
      · rw [own, if_neg different.symm]
      · rw [free, ite_self]
    · simp [same]

/-- A stretch runs on the scheduler's table and the real `TimerEvent` as it
would run on the scheduler's view. -/
theorem view_of_run {run : Runtime queues → Stretch queues}
    (timerFree : scheduler ≠ home → ∀ rt timer,
      run (rt.retimed timer) = (run rt).retimed timer)
    (rt : next.program.rt = (run (p.focus scheduler).rt).rt)
    (table : next.tables scheduler = next.program.rt.scheduler) :
    next.view home scheduler = (run (p.view home scheduler)).rt ∧
      (∀ op : OpFrame, op.after (run (p.focus scheduler).rt) =
        op.after (run (p.view home scheduler))) ∧
      (scheduler ≠ home →
        next.program.rt.timer = p.program.rt.timer) := by
  have stored : (next.focus scheduler).rt = next.program.rt := by
    unfold focus
    rw [table]
  by_cases same : scheduler = home
  · subst same
    rw [p.view_home, next.view_home]
    exact ⟨stored.trans rt, fun _ => rfl, fun away => absurd rfl away⟩
  · have focused : (p.focus scheduler).rt =
        (p.view home scheduler).retimed p.program.rt.timer := rfl
    rw [focused, timerFree same] at rt
    have kept : (run (p.view home scheduler)).rt.timer =
        p.timerOn home scheduler :=
      congrArg (fun stretch => stretch.rt.timer)
        (timerFree same (p.view home scheduler) (p.timerOn home scheduler))
    refine ⟨?_, fun op => ?_, fun _ => ?_⟩
    · have unused : next.timerOn home scheduler =
          p.timerOn home scheduler := by
        rw [next.timerOn_elsewhere same, p.timerOn_elsewhere same, rt]
        rfl
      change (next.focus scheduler).rt.retimed
        (next.timerOn home scheduler) = _
      rw [stored, unused, ← kept, rt]
      rfl
    · rw [focused, timerFree same]
      rfl
    · rw [rt]
      rfl

/-- What work on one scheduler leaves. -/
structure Worked (home scheduler : Nat) (p next : Process queues) :
    Prop where
  sound : ∀ other, Sound (next.view home other) (next.pendingOn other)
  timer : scheduler ≠ home → next.program.rt.timer = p.program.rt.timer
  others : ∀ other, other ≠ scheduler →
    next.pendingOn other = p.pendingOn other
  tables : ∀ other, other ≠ scheduler → next.tables other = p.tables other

/-- A stretch of an operation of one scheduler. -/
theorem Apart.works (apart : p.Apart home)
    (run : Runtime queues → Stretch queues) {frame : Addr} {op : OpFrame}
    (timerFree : scheduler ≠ home → ∀ rt timer,
      run (rt.retimed timer) = (run rt).retimed timer)
    (done : Sound (run (p.view home scheduler)).rt
        (Function.update (p.pendingOn scheduler) frame
          (op.after (run (p.view home scheduler)))) ∧
      Spares (p.view home scheduler) (run (p.view home scheduler)).rt)
    (rt : next.program.rt = (run (p.focus scheduler).rt).rt)
    (tables : next.tables =
      Function.update p.tables scheduler next.program.rt.scheduler)
    (pending : next.pending = Function.update p.pending frame
      (op.after (run (p.focus scheduler).rt)))
    (owner : next.owner = Function.update p.owner frame scheduler)
    (own : p.owner frame = scheduler ∨ p.pending frame = none) :
    Worked home scheduler p next := by
  obtain ⟨sound, spares⟩ := done
  have table : next.tables scheduler = next.program.rt.scheduler := by
    rw [tables, Function.update_self]
  have otherTables : ∀ other, other ≠ scheduler →
      next.tables other = p.tables other := by
    intro other different
    rw [tables, Function.update_of_ne different]
  obtain ⟨seen, after, timer⟩ := view_of_run timerFree rt table
  rw [after op] at pending
  obtain ⟨here, elsewhere⟩ := pendingOn_update pending owner own
  refine ⟨fun other => ?_, timer, elsewhere, otherTables⟩
  by_cases same : other = scheduler
  · subst same
    rw [seen, here]
    exact sound
  · rw [elsewhere other same]
    refine apart.spared spares ?_ ?_ ?_ ?_ timer same
      (otherTables other same)
    · rw [← seen]
      rfl
    · rw [← seen]
      rfl
    · rw [← seen]
      rfl
    · have fd := congrArg (fun rt : Runtime queues => rt.timer.fd) seen
      exact (next.timerOn_fd home scheduler).symm.trans
        (fd.trans (spares.timerFd.trans (p.timerOn_fd home scheduler)))

/-- Completing an operation of one scheduler. -/
theorem Apart.complete (apart : p.Apart home) {pointer : OpPtr}
    {op : OpFrame} (io : Io) (control : Control) (marks : List Obs)
    (waits : p.pendingOn scheduler pointer.frame = some op)
    (current : ∀ delay, op.operation = .waitFor delay →
      (p.view home scheduler).timer.cur.state.read =
        some ⟨pointer.frame, .timer⟩) :
    Worked home scheduler p
        ((p.withMarks control marks).complete pointer io) ∧
      Linked ((p.withMarks control marks).complete pointer
        io).program.frames ∧
      ((p.withMarks control marks).complete pointer io).program.control =
        control ∧
      ∀ frame, frame ≠ pointer.frame →
        ((p.withMarks control marks).complete pointer io).pending frame =
          p.pending frame := by
  obtain ⟨own, pends⟩ := pendingOn_eq_some.mp waits
  have done := (apart.sound scheduler).woken io waits current
  have timerFree : scheduler ≠ home →
      ∀ (rt : Runtime queues) (timer : TimerEvent queues),
        op.operation.wake pointer.frame io op.total (rt.retimed timer) =
          (op.operation.wake pointer.frame io op.total rt).retimed timer := by
    intro away rt timer
    refine Operation.wake_retimed ?_ pointer.frame io op.total timer
    cases timed : op.operation.delay? with
    | none => rfl
    | some delay =>
        have atHome := apart.timed_home pends (by rw [timed]; rfl)
        exact absurd (own.symm.trans atHome) away
  have healthy : (op.operation.wake pointer.frame io op.total
      (p.focus scheduler).rt).rt.fault = none := by
    have sane := done.1.healthy
    by_cases same : scheduler = home
    · subst same
      rw [p.view_home] at sane
      exact sane
    · have focused : (p.focus scheduler).rt =
          (p.view home scheduler).retimed p.program.rt.timer := rfl
      rw [focused, timerFree same]
      exact sane
  subst own
  obtain ⟨rt, pending⟩ := System.complete_spec
    (s := (p.withMarks control marks).focus (p.owner pointer.frame))
    apart.linked io pends healthy
  refine ⟨?_, ?_, ?_, fun frame different => ?_⟩
  · exact apart.works
      (fun rt => op.operation.wake pointer.frame io op.total rt) timerFree
      done rt rfl pending (Function.update_eq_self _ _).symm (Or.inl rfl)
  · exact Linked.complete
      (s := (p.withMarks control marks).focus (p.owner pointer.frame))
      apart.linked pointer io
  · exact (Linked.complete_rest _ pointer io).2
  · exact (congrFun pending frame).trans
      (Function.update_of_ne different _ _)

end Process

end AsyncFrame
