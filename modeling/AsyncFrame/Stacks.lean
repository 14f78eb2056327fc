import AsyncFrame.Steps

/-!
# The running coroutines

The coroutines on the stack await nothing, and none is on it twice, so that
the innermost one can always go on to its end.
-/

namespace AsyncFrame

variable {queues : TimerQueue}

namespace System

variable {s next : System queues} {action : Action}

structure Stacked (s : System queues) : Prop where
  distinct : s.stack.Nodup
  awake : ∀ frame ∈ s.stack, s.frames.lookup frame = some (.user none)

namespace Stacked

/-- Frames off the stack may change. -/
theorem reframed (stacked : Stacked s) (stack : next.stack = s.stack)
    (frames : ∀ frame ∈ s.stack,
      next.frames.lookup frame = s.frames.lookup frame) : Stacked next where
  distinct := by
    rw [stack]
    exact stacked.distinct
  awake frame member := by
    rw [stack] at member
    rw [frames frame member]
    exact stacked.awake frame member

/-- The innermost coroutine is suspended, and what is below it stays. -/
theorem popped (stacked : Stacked s) {caller : Addr} {below : List Addr}
    (stack : s.stack = caller :: below) (left : next.stack = below)
    (frames : ∀ frame ∈ below,
      next.frames.lookup frame = s.frames.lookup frame) : Stacked next where
  distinct := by
    have distinct := stacked.distinct
    rw [stack] at distinct
    rw [left]
    exact (List.nodup_cons.mp distinct).2
  awake frame member := by
    rw [left] at member
    rw [frames frame member]
    apply stacked.awake frame
    rw [stack]
    exact List.mem_cons_of_mem caller member

/-- A coroutine that was not running is on the stack now. -/
theorem pushed (stacked : Stacked s) {frame : Addr}
    (asleep : s.frames.lookup frame ≠ some (.user none))
    (stack : next.stack = frame :: s.stack)
    (awake : next.frames.lookup frame = some (.user none))
    (frames : ∀ other ∈ s.stack,
      next.frames.lookup other = s.frames.lookup other) : Stacked next where
  distinct := by
    rw [stack, List.nodup_cons]
    exact ⟨fun member => asleep (stacked.awake frame member),
      stacked.distinct⟩
  awake other member := by
    rw [stack] at member
    rcases List.mem_cons.mp member with rfl | below
    · exact awake
    · rw [frames other below]
      exact stacked.awake other below

/-- What is on the stack is no operation, and awaits none. -/
theorem ne_of_lookup (stacked : Stacked s) {frame other : Addr} {new : Frame}
    (member : frame ∈ s.stack) (found : s.frames.lookup other = some new)
    (different : new ≠ .user none) : frame ≠ other := by
  rintro rfl
  rw [stacked.awake frame member] at found
  exact different (Option.some.inj found).symm

private theorem ne_of_free (stacked : Stacked s) {frame other : Addr}
    (member : frame ∈ s.stack) (free : s.frames.lookup other = none) :
    frame ≠ other := by
  rintro rfl
  rw [stacked.awake frame member] at free
  cases free

private theorem complete (stacked : Stacked s) (linked : Linked s.frames)
    (pointer : OpPtr) (io : Io) : Stacked (s.complete pointer io) := by
  rcases linked.complete_cases pointer io with
    ⟨frames, stack, _⟩ | ⟨op, found, ⟨again, _, _, frames, stack, _⟩ |
      ⟨result, _, ⟨outer, frames, stack⟩ | ⟨number, outer, frames, stack⟩⟩⟩
  · exact stacked.reframed stack fun _ _ => by rw [frames]
  · refine stacked.reframed stack fun frame member => ?_
    have other := stacked.ne_of_lookup member found (by simp)
    rw [frames, lookup_insert_frame, if_neg other]
  · refine stacked.pushed ?_ stack ?_ fun frame member => ?_
    · rw [outer]
      simp
    · rw [frames, lookup_insert_frame, if_pos rfl]
    · have notOp := stacked.ne_of_lookup member found (by simp)
      have notOuter := stacked.ne_of_lookup member outer (by simp)
      rw [frames, lookup_insert_frame, if_neg notOuter, lookup_erase_frame,
        if_neg notOp]
  · refine stacked.reframed stack fun frame member => ?_
    have notOp := stacked.ne_of_lookup member found (by simp)
    have notOuter := stacked.ne_of_lookup member outer (by simp)
    rw [frames, lookup_insert_frame, if_neg notOuter, lookup_erase_frame,
      if_neg notOp]

/-- A coroutine that is destroyed is not running, and neither is what it
awaits. -/
theorem destroy (stacked : Stacked s) (linked : Linked s.frames)
    {frame : Addr} (asleep : frame ∉ s.stack) :
    Stacked (s.perform (.destroy frame)) := by
  refine stacked.reframed rfl fun other member => ?_
  have outside : other ∉ s.owned frame := by
    intro inside
    have different : other ≠ frame := by
      rintro rfl
      exact asleep member
    have awake := stacked.awake other member
    rcases linked.owned_kinds frame other inside different with
      ⟨_, _, _, _, impl⟩ | ⟨_, waits, _⟩
    · rw [awake] at impl
      cases impl
    · rw [awake] at waits
      cases waits
  simp only [perform, lookup_erase_frames, outside, if_false]

private theorem await (stacked : Stacked s) {caller frame : Addr}
    {below : List Addr} {operation : Operation} (io : Io)
    (stack : s.stack = caller :: below)
    (free : s.frames.lookup frame = none) :
    Stacked (s.await frame operation io) := by
  cases returned : (operation.start frame io s.rt).returned with
  | some result =>
      simp only [System.await, returned]
      exact stacked.reframed rfl fun _ _ => rfl
  | none =>
      simp only [System.await, returned, stack]
      refine stacked.popped stack rfl fun other member => ?_
      have distinct := stacked.distinct
      rw [stack] at distinct
      have inside : other ∈ s.stack := by
        rw [stack]
        exact List.mem_cons_of_mem caller member
      have notCaller : other ≠ caller := by
        rintro rfl
        exact (List.nodup_cons.mp distinct).1 member
      have notFrame := stacked.ne_of_free inside free
      rw [lookup_insert_frame, if_neg notCaller, lookup_insert_frame,
        if_neg notFrame]

private theorem awaitWithTimeout (stacked : Stacked s)
    {caller impl frame : Addr}
    {below : List Addr} {wrapped operation : Operation} {delay : Int}
    (io : Io) (stack : s.stack = caller :: below)
    (implFree : s.frames.lookup impl = none)
    (free : s.frames.lookup frame = none)
    (timeout : wrapped.withTimeout delay = some operation) :
    Stacked (s.awaitWithTimeout impl frame wrapped delay io) := by
  have distinct := stacked.distinct
  rw [stack] at distinct
  have inside : ∀ other ∈ below, other ≠ caller ∧ other ≠ impl ∧
      other ≠ frame := by
    intro other member
    have here : other ∈ s.stack := by
      rw [stack]
      exact List.mem_cons_of_mem caller member
    refine ⟨?_, stacked.ne_of_free here implFree,
      stacked.ne_of_free here free⟩
    rintro rfl
    exact (List.nodup_cons.mp distinct).1 member
  cases returned : (operation.start frame io s.rt).returned with
  | none =>
      simp only [System.awaitWithTimeout, timeout, returned, stack]
      refine stacked.popped stack rfl fun other member => ?_
      obtain ⟨notCaller, notImpl, notFrame⟩ := inside other member
      simp only [lookup_insert_frame, notCaller, notImpl, notFrame, if_false]
  | some result =>
      simp only [System.awaitWithTimeout, timeout, returned, stack]
      refine stacked.popped stack rfl fun other member => ?_
      obtain ⟨notCaller, notImpl, _⟩ := inside other member
      simp only [lookup_insert_frame, notCaller, notImpl, if_false]

end Stacked

theorem stacked_initial (queues : TimerQueue) (timerFd : Fd) (uptime : Nat)
    (buffers : BufferRef → Buffer) :
    Stacked (initial queues timerFd uptime buffers) where
  distinct := List.nodup_nil
  awake _ member := absurd member List.not_mem_nil

/-- Every step keeps the stack in order. -/
theorem step_stacked (stacked : Stacked s) (linked : Linked s.frames)
    (taken : s.step action = some next) : Stacked next := by
  obtain ⟨allowed, rfl⟩ := step_eq_some taken
  cases action with
  | spawn frame =>
      simp only [enabled, Bool.and_eq_true, decide_eq_true_eq] at allowed
      refine stacked.pushed ?_ rfl ?_ fun other member => ?_
      · rw [allowed.2]
        simp
      · exact Finmap.lookup_insert _
      · have notFrame := stacked.ne_of_free member allowed.2
        exact Finmap.lookup_insert_of_ne _ notFrame
  | finish =>
      obtain ⟨caller, below, stack, _⟩ := runningFrame_isSome allowed
      refine stacked.popped stack ?_ fun _ _ => rfl
      simp only [perform, stack, List.tail_cons]
  | destroy frame =>
      exact stacked.destroy linked (enabled_destroy allowed).1
  | await frame operation io =>
      obtain ⟨⟨caller, below, stack, _⟩, free, _⟩ := enabled_await allowed
      exact stacked.await io stack free
  | awaitWithTimeout impl frame wrapped delay io =>
      obtain ⟨⟨caller, below, stack, _⟩, implFree, free, _, operation,
        timeout, _⟩ := enabled_awaitWithTimeout allowed
      exact stacked.awaitWithTimeout io stack implFree free timeout
  | dispatch io =>
      obtain ⟨_, event, evs, fetched, batch⟩ := enabled_dispatch allowed
      obtain ⟨control, _, performed⟩ := dispatch_cases io batch
      have marked : Stacked (s.withMarks control (s.marks (.dispatch io))) :=
        stacked.reframed rfl fun _ _ => rfl
      rw [performed]
      split
      · exact marked
      · exact marked.complete linked _ io
  | dispatchWrite io =>
      obtain ⟨_, writeOp, evs, fetched, half⟩ := enabled_dispatchWrite allowed
      have marked : Stacked (s.withMarks (.batch evs fetched) []) :=
        stacked.reframed rfl fun _ _ => rfl
      rw [dispatchWrite_eq io half]
      exact marked.complete linked writeOp io
  | tick _ => exact stacked.reframed rfl fun _ _ => rfl
  | requestCancel _ => exact stacked.reframed rfl fun _ _ => rfl
  | openFd _ _ => exact stacked.reframed rfl fun _ _ => rfl
  | closeFd _ => exact stacked.reframed rfl fun _ _ => rfl
  | setBuffer _ _ => exact stacked.reframed rfl fun _ _ => rfl
  | run => exact stacked.reframed rfl fun _ _ => rfl
  | epollWait _ => exact stacked.reframed rfl fun _ _ => rfl
  | batchEnd => exact stacked.reframed rfl fun _ _ => rfl
  | exit => exact stacked.reframed rfl fun _ _ => rfl

end System

end AsyncFrame
