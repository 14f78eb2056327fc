import AsyncFrame.Frames
import AsyncFrame.Scheduler

/-!
# Single steps

When an action may be taken, what the dispatch of one event comes to, and that
no step breaks the links between the frames.
-/

namespace AsyncFrame

variable {queues : TimerQueue}

namespace System

variable {s next : System queues}

theorem step_eq_some {action : Action} (taken : s.step action = some next) :
    s.enabled action = true ∧ next = s.perform action := by
  unfold step at taken
  split at taken
  · rename_i allowed
    exact ⟨allowed.2, (Option.some.inj taken).symm⟩
  · cases taken

/-! ## When an action may be taken -/

theorem runningFrame_isSome (running : s.runningFrame.isSome = true) :
    ∃ caller below, s.stack = caller :: below ∧
      s.frames.lookup caller = some (.user none) := by
  unfold runningFrame at running
  cases stack : s.stack with
  | nil =>
      rw [stack] at running
      cases running
  | cons caller below =>
      rw [stack] at running
      refine ⟨caller, below, rfl, ?_⟩
      by_contra asleep
      simp [asleep] at running

theorem enabled_await {frame : Addr} {operation : Operation} {io : Io}
    (allowed : s.enabled (.await frame operation io) = true) :
    (∃ caller below, s.stack = caller :: below ∧
      s.frames.lookup caller = some (.user none)) ∧
    s.frames.lookup frame = none ∧ s.admits operation = true := by
  simp only [enabled, Bool.and_eq_true, decide_eq_true_eq] at allowed
  exact ⟨runningFrame_isSome allowed.1.1, allowed.1.2, allowed.2⟩

theorem enabled_awaitWithTimeout {impl frame : Addr} {wrapped : Operation}
    {delay : Int} {io : Io}
    (allowed : s.enabled (.awaitWithTimeout impl frame wrapped delay io) =
      true) :
    (∃ caller below, s.stack = caller :: below ∧
      s.frames.lookup caller = some (.user none)) ∧
    s.frames.lookup impl = none ∧ s.frames.lookup frame = none ∧
      impl ≠ frame ∧ ∃ operation,
        wrapped.withTimeout delay = some operation ∧
          s.admits operation = true := by
  simp only [enabled, Bool.and_eq_true, decide_eq_true_eq,
    Option.any_eq_true] at allowed
  obtain ⟨⟨⟨⟨running, implFree⟩, free⟩, different⟩, operation⟩ := allowed
  exact ⟨runningFrame_isSome running, implFree, free, different, operation⟩

theorem enabled_destroy {frame : Addr}
    (allowed : s.enabled (.destroy frame) = true) :
    frame ∉ s.stack ∧
      ∃ awaits, s.frames.lookup frame = some (.user awaits) := by
  simp only [enabled, Bool.and_eq_true, decide_eq_true_eq] at allowed
  obtain ⟨⟨_, asleep⟩, found⟩ := allowed
  refine ⟨asleep, ?_⟩
  split at found
  · exact ⟨_, by assumption⟩
  · cases found

theorem enabled_dispatch {io : Io}
    (allowed : s.enabled (.dispatch io) = true) :
    s.stack = [] ∧
      ∃ event evs fetched, s.control = .batch (event :: evs) fetched := by
  simp only [enabled, Bool.and_eq_true, idle, decide_eq_true_eq] at allowed
  obtain ⟨idle, batch⟩ := allowed
  refine ⟨idle, ?_⟩
  split at batch
  · exact ⟨_, _, _, by assumption⟩
  · cases batch

theorem enabled_dispatchWrite {io : Io}
    (allowed : s.enabled (.dispatchWrite io) = true) :
    s.stack = [] ∧
      ∃ writeOp evs fetched, s.control = .half writeOp evs fetched := by
  simp only [enabled, Bool.and_eq_true, idle, decide_eq_true_eq] at allowed
  obtain ⟨idle, half⟩ := allowed
  refine ⟨idle, ?_⟩
  split at half
  · exact ⟨_, _, _, by assumption⟩
  · cases half

/-! ## One event of a batch -/

theorem marks_unnumbered {action : Action} {mark : Obs}
    (member : mark ∈ s.marks action) : mark.number? = none := by
  unfold marks at member
  split at member
  · split at member
    · unfold timerMarks at member
      split at member
      · rw [List.mem_singleton.mp member]
        rfl
      · cases member
    · cases member
  · rw [List.mem_singleton.mp member]
    rfl
  · cases member

/-- The program after a part of `running` that completes no operation. -/
def withMarks (s : System queues) (control : Control)
    (marks : List Obs) : System queues :=
  { s with control := control, trace := marks ++ s.trace }

theorem record_eq {event : EpollEvent} {evs : List EpollEvent}
    {fetched : Nat} (io : Io)
    (batch : s.control = .batch (event :: evs) fetched) :
    s.record event =
      { s with trace := s.marks (.dispatch io) ++ s.trace } := by
  simp only [record, marks, batch]

/-- One event completes the registered read operation, or only goes on; a
write half that is left is for the registered write operation. -/
theorem dispatch_cases {event : EpollEvent} {evs : List EpollEvent}
    {fetched : Nat} (io : Io)
    (batch : s.control = .batch (event :: evs) fetched) :
    ∃ control,
      (control = .batch evs fetched ∨
        ∃ writeOp, control = .half writeOp evs fetched ∧
          s.rt.scheduler.registry event.fd .write = some writeOp) ∧
      s.perform (.dispatch io) =
        match s.completes (.dispatch io) with
        | none => s.withMarks control (s.marks (.dispatch io))
        | some readOp =>
            (s.withMarks control (s.marks (.dispatch io))).complete readOp
              io := by
  have recorded := record_eq io batch
  cases found : s.rt.scheduler.fdToOp.lookup event.fd with
  | none =>
      refine ⟨.batch evs fetched, Or.inl rfl, ?_⟩
      have absent : s.rt.scheduler.registry event.fd .read = none := by
        simp [Scheduler.registry, found]
      simp only [perform, completes, batch, dispatchEvent, recorded, found,
        absent, ite_self, withMarks]
  | some state =>
      have registered := Scheduler.registry_of_lookup found
      refine ⟨writeHalf event state.write evs fetched, ?_, ?_⟩
      · unfold writeHalf
        split
        · split
          · rename_i writeOp writes _
            exact Or.inr ⟨writeOp, rfl, (registered .write).trans writes⟩
          · exact Or.inl rfl
        · exact Or.inl rfl
      · have reads : s.rt.scheduler.registry event.fd .read = state.read :=
          registered .read
        simp only [perform, completes, batch, dispatchEvent, recorded, found,
          reads, withMarks]
        cases state.read with
        | none =>
            simp only [ite_self]
        | some readOp =>
            cases readReady event.events with
            | false => rfl
            | true => rfl

theorem dispatchWrite_eq {writeOp : OpPtr} {evs : List EpollEvent}
    {fetched : Nat} (io : Io)
    (half : s.control = .half writeOp evs fetched) :
    s.perform (.dispatchWrite io) =
      (s.withMarks (.batch evs fetched) []).complete writeOp io := by
  simp only [perform, half]
  rfl

/-! ## Frames in every step -/

theorem linked_initial (queues : TimerQueue) (timerFd : Fd) (uptime : Nat)
    (buffers : BufferRef → Buffer) :
    Linked (initial queues timerFd uptime buffers).frames := by
  constructor <;> simp [initial]

/-- In every step the frames stay linked. -/
theorem step_linked {action : Action} (linked : Linked s.frames)
    (taken : s.step action = some next) : Linked next.frames := by
  obtain ⟨allowed, rfl⟩ := step_eq_some taken
  cases action with
  | spawn frame =>
      simp only [enabled, Bool.and_eq_true, decide_eq_true_eq] at allowed
      exact linked.spawn allowed.2
  | destroy frame =>
      obtain ⟨_, awaits, found⟩ := enabled_destroy allowed
      exact linked.destroy found
  | await frame operation io =>
      obtain ⟨⟨caller, below, stack, awake⟩, free, _⟩ := enabled_await allowed
      exact linked.await io stack awake free
  | awaitWithTimeout impl frame wrapped delay io =>
      obtain ⟨⟨caller, below, stack, awake⟩, implFree, free, different,
        operation, timeout, _⟩ := enabled_awaitWithTimeout allowed
      exact linked.awaitWithTimeout io stack awake implFree free different
        timeout
  | dispatch io =>
      obtain ⟨_, event, evs, fetched, batch⟩ := enabled_dispatch allowed
      obtain ⟨control, _, performed⟩ := dispatch_cases io batch
      have marked : Linked
          (s.withMarks control (s.marks (.dispatch io))).frames := linked
      rw [performed]
      split
      · exact marked
      · exact marked.complete _ io
  | dispatchWrite io =>
      obtain ⟨_, writeOp, evs, fetched, half⟩ := enabled_dispatchWrite allowed
      have marked : Linked (s.withMarks (.batch evs fetched) []).frames :=
        linked
      rw [dispatchWrite_eq io half]
      exact marked.complete writeOp io
  | tick _ => exact linked
  | requestCancel _ => exact linked
  | openFd _ _ => exact linked
  | closeFd _ => exact linked
  | setBuffer _ _ => exact linked
  | finish => exact linked
  | run => exact linked
  | epollWait _ => exact linked
  | batchEnd => exact linked
  | exit => exact linked

end System

end AsyncFrame
