import AsyncFrame.System

/-!
# Coroutine frames

How the frames of the suspended operations and of the coroutines that await
them hang together, and that every change of the frames keeps it so.
-/

namespace AsyncFrame

variable {queues : TimerQueue}
variable {frames : Finmap fun _ : Addr => Frame}

/-! ## Looking up frames -/

@[grind =]
theorem lookup_insert_frame (frame other : Addr) (new : Frame) :
    (frames.insert frame new).lookup other =
      if other = frame then some new else frames.lookup other := by
  split
  · rename_i same
    subst same
    simp
  · rename_i different
    exact Finmap.lookup_insert_of_ne _ different

@[grind =]
theorem lookup_erase_frame (frame other : Addr) :
    (frames.erase frame).lookup other =
      if other = frame then none else frames.lookup other := by
  split
  · rename_i same
    subst same
    simp
  · rename_i different
    exact Finmap.lookup_erase_ne different

theorem lookup_erase_frames (gone : List Addr) (other : Addr) :
    (gone.foldl (fun frames one => frames.erase one) frames).lookup other =
      if other ∈ gone then none else frames.lookup other := by
  induction gone generalizing frames with
  | nil => simp
  | cons head tail inductionTail =>
      rw [List.foldl_cons, inductionTail, lookup_erase_frame]
      simp only [List.mem_cons]
      grind

theorem pendingIn_eq_some {frame : Addr} {op : OpFrame} :
    pendingIn frames frame = some op ↔
      frames.lookup frame = some (.op op) := by
  unfold pendingIn
  cases frames.lookup frame with
  | none => simp
  | some found => cases found <;> simp [Frame.op?]

theorem pendingIn_insert (frame : Addr) (new : Frame) :
    pendingIn (frames.insert frame new) =
      Function.update (pendingIn frames) frame new.op? := by
  funext other
  by_cases same : other = frame
  · subst same
    simp [pendingIn]
  · simp [pendingIn, same, Finmap.lookup_insert_of_ne]

private theorem pendingIn_erase (frame : Addr) :
    pendingIn (frames.erase frame) =
      Function.update (pendingIn frames) frame none := by
  funext other
  by_cases same : other = frame
  · subst same
    simp [pendingIn]
  · simp [pendingIn, same, Finmap.lookup_erase_ne]

/-- A frame which is no operation may change without notice. -/
theorem pendingIn_insert_silent {frame : Addr} {new : Frame}
    (silent : new.op? = none) (free : pendingIn frames frame = none) :
    pendingIn (frames.insert frame new) = pendingIn frames := by
  rw [pendingIn_insert, silent, ← free]
  exact Function.update_eq_self frame _

theorem pendingIn_of_user {frame : Addr} {awaits : Option Addr}
    (found : frames.lookup frame = some (.user awaits)) :
    pendingIn frames frame = none := by
  simp [pendingIn, found, Frame.op?]

theorem pendingIn_of_impl {frame : Addr} {number : Nat}
    {awaits : Option Addr} {result : Option OpResult}
    (found : frames.lookup frame =
      some (.withTimeoutImpl number awaits result)) :
    pendingIn frames frame = none := by
  simp [pendingIn, found, Frame.op?]

theorem pendingIn_of_free {frame : Addr}
    (free : frames.lookup frame = none) : pendingIn frames frame = none := by
  simp [pendingIn, free]

/-- An operation ends, and the frame that awaited it goes on. -/
theorem pendingIn_resume {frame outer : Addr} {new : Frame}
    (silent : new.op? = none) (free : pendingIn frames outer = none) :
    pendingIn ((frames.erase frame).insert outer new) =
      Function.update (pendingIn frames) frame none := by
  rw [pendingIn_insert_silent silent, pendingIn_erase]
  rw [pendingIn_erase]
  by_cases same : outer = frame
  · rw [same, Function.update_self]
  · rw [Function.update_of_ne same, free]

/-- An operation is suspended, awaited by a coroutine that has awaited
nothing. -/
theorem pendingIn_suspend {frame caller : Addr} {op : OpFrame}
    (awake : frames.lookup caller = some (.user none))
    (free : frames.lookup frame = none) :
    pendingIn ((frames.insert frame (.op op)).insert caller
        (.user (some frame))) =
      Function.update (pendingIn frames) frame (some op) := by
  have different : caller ≠ frame := by
    rintro rfl
    rw [free] at awake
    cases awake
  rw [pendingIn_insert_silent rfl, pendingIn_insert]
  · rfl
  · rw [pendingIn_insert, Function.update_of_ne different]
    exact pendingIn_of_user awake

/-! ## Awaiting and awaited -/

/-- Awaiting and awaited frames point at each other. -/
structure Linked (frames : Finmap fun _ : Addr => Frame) : Prop where
  outer : ∀ frame op, frames.lookup frame = some (.op op) →
    frames.lookup op.outer = some (.user (some frame)) ∨
      ∃ number, frames.lookup op.outer =
        some (.withTimeoutImpl number (some frame) none)
  impl : ∀ frame number inner result,
    frames.lookup frame =
      some (.withTimeoutImpl number (some inner) result) →
    ∃ op, frames.lookup inner = some (.op op) ∧ op.outer = frame
  user : ∀ frame child,
    frames.lookup frame = some (.user (some child)) →
    (∃ op, frames.lookup child = some (.op op) ∧ op.outer = frame) ∨
      ∃ number awaits result, frames.lookup child =
        some (.withTimeoutImpl number awaits result)
  single : ∀ frame other child,
    frames.lookup frame = some (.user (some child)) →
    frames.lookup other = some (.user (some child)) → frame = other

namespace Linked

theorem spawn (linked : Linked frames) {frame : Addr}
    (free : frames.lookup frame = none) :
    Linked (frames.insert frame (.user none)) := by
  constructor
  · intro a op found
    have outer := linked.outer a op
    grind
  · intro a number inner result found
    have impl := linked.impl a number inner result
    grind
  · intro a child found
    have first := linked.user a child
    grind
  · intro a b child found
    have single := linked.single a b child
    have first := linked.user a child
    have second := linked.user b child
    grind

private theorem suspend (linked : Linked frames) {frame caller : Addr}
    {op : OpFrame} (free : frames.lookup frame = none)
    (awake : frames.lookup caller = some (.user none))
    (outer : op.outer = caller) :
    Linked ((frames.insert frame (.op op)).insert caller
      (.user (some frame))) := by
  constructor
  · intro a op found
    have outer := linked.outer a op
    grind
  · intro a number inner result found
    have impl := linked.impl a number inner result
    grind
  · intro a child found
    have first := linked.user a child
    grind
  · intro a b child found
    have single := linked.single a b child
    have first := linked.user a child
    have second := linked.user b child
    grind

private theorem suspendWrapped (linked : Linked frames)
    {impl frame caller : Addr} {op : OpFrame} {number : Nat}
    (implFree : frames.lookup impl = none)
    (free : frames.lookup frame = none) (different : impl ≠ frame)
    (awake : frames.lookup caller = some (.user none))
    (outer : op.outer = impl) :
    Linked (((frames.insert frame (.op op)).insert impl
      (.withTimeoutImpl number (some frame) none)).insert caller
        (.user (some impl))) := by
  constructor
  · intro a op found
    have outer := linked.outer a op
    grind
  · intro a number inner result found
    have impl := linked.impl a number inner result
    grind
  · intro a child found
    have first := linked.user a child
    grind
  · intro a b child found
    have single := linked.single a b child
    have first := linked.user a child
    have second := linked.user b child
    grind

private theorem passWrapped (linked : Linked frames)
    {impl caller : Addr} {number : Nat} {result : OpResult}
    (implFree : frames.lookup impl = none)
    (awake : frames.lookup caller = some (.user none)) :
    Linked ((frames.insert impl
      (.withTimeoutImpl number none (some result))).insert caller
        (.user (some impl))) := by
  constructor
  · intro a op found
    have outer := linked.outer a op
    grind
  · intro a number inner result found
    have impl := linked.impl a number inner result
    grind
  · intro a child found
    have first := linked.user a child
    grind
  · intro a b child found
    have single := linked.single a b child
    have first := linked.user a child
    have second := linked.user b child
    grind

private theorem round (linked : Linked frames) {frame : Addr}
    {op again : OpFrame} (waits : frames.lookup frame = some (.op op))
    (outer : again.outer = op.outer) :
    Linked (frames.insert frame (.op again)) := by
  constructor
  · intro a op found
    have outer := linked.outer a op
    have waiting := linked.outer _ _ waits
    grind
  · intro a number inner result found
    have impl := linked.impl a number inner result
    grind
  · intro a child found
    have first := linked.user a child
    grind
  · intro a b child found
    have single := linked.single a b child
    have first := linked.user a child
    have second := linked.user b child
    grind

private theorem resumeUser (linked : Linked frames) {frame : Addr}
    {op : OpFrame} (waits : frames.lookup frame = some (.op op))
    (outer : frames.lookup op.outer = some (.user (some frame))) :
    Linked ((frames.erase frame).insert op.outer (.user none)) := by
  constructor
  · intro a op found
    have outer := linked.outer a op
    grind
  · intro a number inner result found
    have impl := linked.impl a number inner result
    grind
  · intro a child found
    have first := linked.user a child
    grind
  · intro a b child found
    have single := linked.single a b child
    grind

private theorem resumeImpl (linked : Linked frames) {frame : Addr}
    {op : OpFrame} {number : Nat} {result : OpResult}
    (waits : frames.lookup frame = some (.op op))
    (outer : frames.lookup op.outer =
      some (.withTimeoutImpl number (some frame) none)) :
    Linked ((frames.erase frame).insert op.outer
      (.withTimeoutImpl number none (some result))) := by
  constructor
  · intro a op found
    have outer := linked.outer a op
    grind
  · intro a number inner result found
    have impl := linked.impl a number inner result
    grind
  · intro a child found
    have first := linked.user a child
    grind
  · intro a b child found
    have single := linked.single a b child
    grind

/-- A destroyed coroutine takes along what it awaits, and what that awaits. -/
theorem mem_owned_iff {s : System queues} {frame gone : Addr} :
    gone ∈ s.owned frame ↔ gone = frame ∨
      s.frames.lookup frame = some (.user (some gone)) ∨
      ∃ child number result,
        s.frames.lookup frame = some (.user (some child)) ∧
          s.frames.lookup child =
            some (.withTimeoutImpl number (some gone) result) := by
  unfold System.owned
  split <;> grind

/-- Of what is destroyed with a coroutine only operations and coroutines of
`with_timeout` are awaited or awaiting. -/
theorem owned_kinds {s : System queues} (linked : Linked s.frames)
    (frame gone : Addr) (member : gone ∈ s.owned frame)
    (other : gone ≠ frame) :
    s.frames.lookup frame = some (.user (some gone)) ∧
        (∃ number awaits result, s.frames.lookup gone =
          some (.withTimeoutImpl number awaits result)) ∨
      ∃ op, s.frames.lookup gone = some (.op op) ∧
        op.outer ∈ s.owned frame := by
  rcases mem_owned_iff.mp member with
    same | awaited | ⟨child, number, result, awaited, inside⟩
  · exact absurd same other
  · rcases linked.user frame gone awaited with ⟨op, waits, rfl⟩ | impl
    · exact Or.inr ⟨op, waits, mem_owned_iff.mpr (Or.inl rfl)⟩
    · exact Or.inl ⟨awaited, impl⟩
  · obtain ⟨op, waits, rfl⟩ := linked.impl child number gone result inside
    exact Or.inr ⟨op, waits, mem_owned_iff.mpr (Or.inr (Or.inl awaited))⟩

theorem destroy {s : System queues} (linked : Linked s.frames)
    {frame : Addr} {awaits : Option Addr}
    (found : s.frames.lookup frame = some (.user awaits)) :
    Linked ((s.owned frame).foldl (fun frames gone => frames.erase gone)
      s.frames) := by
  have kinds := owned_kinds linked frame
  constructor
  · intro a op here
    have outer := linked.outer a op
    have other := kinds op.outer
    grind [lookup_erase_frames, mem_owned_iff]
  · intro a number inner result here
    have impl := linked.impl a number inner result
    have other := kinds inner
    grind [lookup_erase_frames, mem_owned_iff]
  · intro a child here
    have user := linked.user a child
    have other := kinds child
    have single := linked.single a frame child
    grind [lookup_erase_frames, mem_owned_iff]
  · intro a b child here
    have single := linked.single a b child
    grind [lookup_erase_frames]

/-- What completing an operation does to frames, stack and trace: nothing, one
more turn of its loop, or its end, with the coroutine that awaits it going
on. -/
theorem complete_cases {s : System queues} (linked : Linked s.frames)
    (pointer : OpPtr) (io : Io) :
    ((s.complete pointer io).frames = s.frames ∧
      (s.complete pointer io).stack = s.stack ∧
      (s.complete pointer io).trace = s.trace) ∨
    ∃ op, s.frames.lookup pointer.frame = some (.op op) ∧
      ((∃ again : OpFrame, again.number = op.number ∧
        again.outer = op.outer ∧
        (s.complete pointer io).frames =
          s.frames.insert pointer.frame (.op again) ∧
        (s.complete pointer io).stack = s.stack ∧
        (s.complete pointer io).trace = s.trace) ∨
      ∃ result,
        (s.complete pointer io).trace = .resumed op.number result ::
          .finished op.number result :: s.trace ∧
        (s.frames.lookup op.outer = some (.user (some pointer.frame)) ∧
          (s.complete pointer io).frames =
            (s.frames.erase pointer.frame).insert op.outer (.user none) ∧
          (s.complete pointer io).stack = op.outer :: s.stack ∨
        ∃ number,
          s.frames.lookup op.outer =
            some (.withTimeoutImpl number (some pointer.frame) none) ∧
          (s.complete pointer io).frames =
            (s.frames.erase pointer.frame).insert op.outer
              (.withTimeoutImpl number none (some result)) ∧
          (s.complete pointer io).stack = s.stack)) := by
  unfold System.complete
  cases waits : s.pending pointer.frame with
  | none => exact Or.inl ⟨rfl, rfl, rfl⟩
  | some op =>
      have found := pendingIn_eq_some.mp waits
      simp only
      split
      · exact Or.inl ⟨rfl, rfl, rfl⟩
      · right
        refine ⟨op, found, ?_⟩
        cases (op.operation.wake pointer.frame io op.total s.rt).returned with
        | none =>
            left
            dsimp only
            refine ⟨{
              op with
              total := (op.operation.wake pointer.frame io op.total s.rt).total
              deadline := op.operation.deadlineAt
                (op.operation.wake pointer.frame io op.total s.rt).rt.clock
              }, rfl, rfl, rfl, rfl, rfl⟩
        | some result =>
            right
            refine ⟨result, ?_⟩
            rcases linked.outer _ _ found with outer | ⟨number, outer⟩
            · simp [System.resumeOuter, outer]
            · simp [System.resumeOuter, outer]

theorem complete {s : System queues} (linked : Linked s.frames)
    (pointer : OpPtr) (io : Io) : Linked (s.complete pointer io).frames := by
  rcases linked.complete_cases pointer io with
    ⟨same, _⟩ | ⟨op, found, ⟨again, _, outer, round, _⟩ |
      ⟨result, _, ⟨outer, user, _⟩ | ⟨number, outer, impl, _⟩⟩⟩
  · rw [same]
    exact linked
  · rw [round]
    exact linked.round found outer
  · rw [user]
    exact linked.resumeUser found outer
  · rw [impl]
    exact linked.resumeImpl found outer

/-- Completing an operation neither gives a number nor moves `running`. -/
theorem complete_rest (s : System queues) (pointer : OpPtr) (io : Io) :
    (s.complete pointer io).nextNumber = s.nextNumber ∧
      (s.complete pointer io).control = s.control := by
  unfold System.complete
  split
  · exact ⟨rfl, rfl⟩
  · simp only
    split
    · exact ⟨rfl, rfl⟩
    · split
      · simp only [System.resumeOuter]
        split <;> exact ⟨rfl, rfl⟩
      · exact ⟨rfl, rfl⟩

theorem await {s : System queues} (linked : Linked s.frames)
    {caller frame : Addr} {below : List Addr} {operation : Operation}
    (io : Io) (stack : s.stack = caller :: below)
    (awake : s.frames.lookup caller = some (.user none))
    (free : s.frames.lookup frame = none) :
    Linked (s.await frame operation io).frames := by
  simp only [System.await, stack]
  cases (operation.start frame io s.rt).returned with
  | none => exact linked.suspend free awake rfl
  | some result => exact linked

theorem awaitWithTimeout {s : System queues} (linked : Linked s.frames)
    {caller impl frame : Addr} {below : List Addr}
    {wrapped operation : Operation} {delay : Int} (io : Io)
    (stack : s.stack = caller :: below)
    (awake : s.frames.lookup caller = some (.user none))
    (implFree : s.frames.lookup impl = none)
    (free : s.frames.lookup frame = none) (different : impl ≠ frame)
    (timeout : wrapped.withTimeout delay = some operation) :
    Linked (s.awaitWithTimeout impl frame wrapped delay io).frames := by
  simp only [System.awaitWithTimeout, timeout, stack]
  cases (operation.start frame io s.rt).returned with
  | none => exact linked.suspendWrapped implFree free different awake rfl
  | some result => exact linked.passWrapped implFree awake

end Linked

end AsyncFrame
