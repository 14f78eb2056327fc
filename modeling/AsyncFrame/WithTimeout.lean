import AsyncFrame.Registrations

/-!
# Awaiting with a timeout

The handle that `with_timeout_impl` is given is dropped, so the coroutine that
awaits `with_timeout` stays suspended in every run, however its operation
ends.  Nothing is assumed of the runs here: the argument is about frames and
numbers only.
-/

namespace AsyncFrame

open Lib

namespace System

variable {queues : TimerQueue} {s next final : System queues}
variable {timerFd : Fd} {uptime : Nat} {buffers : BufferRef → Buffer}
variable {actions more : List Action} {action : Action}

/-! ## Running coroutines -/

/-- The coroutines on the stack are not suspended. -/
structure Awake (s : System queues) : Prop where
  linked : Linked s.frames
  awake : ∀ frame ∈ s.stack, s.frames.lookup frame = some (.user none)
  nodup : s.stack.Nodup

namespace Awake

private theorem complete (holds : Awake s) (pointer : OpPtr) (io : Io) :
    Awake (s.complete pointer io) := by
  have linked := holds.linked.complete pointer io
  rcases holds.linked.complete_cases pointer io with
    ⟨frames, stack, _⟩ | ⟨op, found, ⟨again, _, _, frames, stack, _⟩ |
      ⟨result, _, ⟨outer, frames, stack⟩ | ⟨number, outer, frames, stack⟩⟩⟩
  · refine ⟨linked, ?_, stack ▸ holds.nodup⟩
    rw [frames, stack]
    exact holds.awake
  · refine ⟨linked, fun frame member => ?_, stack ▸ holds.nodup⟩
    have before := holds.awake frame (stack ▸ member)
    grind
  · refine ⟨linked, fun frame member => ?_, ?_⟩
    · have before := holds.awake frame
      grind
    · rw [stack]
      refine List.nodup_cons.mpr ⟨fun member => ?_, holds.nodup⟩
      have before := holds.awake op.outer member
      rw [outer] at before
      cases before
  · refine ⟨linked, fun frame member => ?_, stack ▸ holds.nodup⟩
    have before := holds.awake frame (stack ▸ member)
    grind

private theorem step (holds : Awake s) (taken : s.step action = some next) :
    Awake next := by
  have linked := step_linked holds.linked taken
  obtain ⟨allowed, rfl⟩ := step_eq_some taken
  cases action with
  | spawn frame =>
      simp only [enabled, Bool.and_eq_true, decide_eq_true_eq] at allowed
      have fresh : frame ∉ s.stack := fun member => by
        have before := holds.awake frame member
        rw [allowed.2] at before
        cases before
      refine ⟨linked, fun other member => ?_,
        List.nodup_cons.mpr ⟨fresh, holds.nodup⟩⟩
      simp only [perform, lookup_insert_frame]
      split
      · rfl
      · rename_i different
        exact holds.awake other
          ((List.mem_cons.mp member).resolve_left different)
  | finish =>
      exact ⟨linked,
        fun other member => holds.awake other (List.mem_of_mem_tail member),
        holds.nodup.tail⟩
  | destroy frame =>
      obtain ⟨asleep, awaits, found⟩ := enabled_destroy allowed
      refine ⟨linked, fun other (member : other ∈ s.stack) => ?_,
        holds.nodup⟩
      have before := holds.awake other member
      have kinds := Linked.owned_kinds holds.linked frame other
      simp only [perform, lookup_erase_frames]
      grind
  | await frame operation io =>
      obtain ⟨⟨caller, below, stack, awake⟩, free, _⟩ := enabled_await allowed
      have unique := holds.nodup
      rw [stack, List.nodup_cons] at unique
      simp only [perform, System.await, stack] at linked ⊢
      cases returned : (operation.start frame io s.rt).returned with
      | none =>
          rw [returned] at linked
          refine ⟨linked, fun other member => ?_, unique.2⟩
          have before := holds.awake other
            (stack ▸ List.mem_cons_of_mem _ member)
          grind
      | some result =>
          rw [returned] at linked
          exact ⟨linked, stack ▸ holds.awake, stack ▸ holds.nodup⟩
  | awaitWithTimeout impl frame wrapped delay io =>
      obtain ⟨⟨caller, below, stack, awake⟩, implFree, free, different,
        operation, timeout, _⟩ := enabled_awaitWithTimeout allowed
      have unique := holds.nodup
      rw [stack, List.nodup_cons] at unique
      simp only [perform, System.awaitWithTimeout, timeout, stack]
        at linked ⊢
      cases returned : (operation.start frame io s.rt).returned with
      | none =>
          rw [returned] at linked
          refine ⟨linked, fun other member => ?_, unique.2⟩
          have before := holds.awake other
            (stack ▸ List.mem_cons_of_mem _ member)
          grind
      | some result =>
          rw [returned] at linked
          refine ⟨linked, fun other member => ?_, unique.2⟩
          have before := holds.awake other
            (stack ▸ List.mem_cons_of_mem _ member)
          grind
  | dispatch io =>
      obtain ⟨_, event, evs, fetched, batch⟩ := enabled_dispatch allowed
      obtain ⟨control, _, performed⟩ := dispatch_cases io batch
      have marked : Awake (s.withMarks control (s.marks (.dispatch io))) :=
        ⟨holds.linked, holds.awake, holds.nodup⟩
      rw [performed]
      split
      · exact marked
      · exact marked.complete _ io
  | dispatchWrite io =>
      obtain ⟨_, writeOp, evs, fetched, half⟩ := enabled_dispatchWrite allowed
      have marked : Awake (s.withMarks (.batch evs fetched) []) :=
        ⟨holds.linked, holds.awake, holds.nodup⟩
      rw [dispatchWrite_eq io half]
      exact marked.complete writeOp io
  | tick _ => exact ⟨linked, holds.awake, holds.nodup⟩
  | requestCancel _ => exact ⟨linked, holds.awake, holds.nodup⟩
  | openFd _ _ => exact ⟨linked, holds.awake, holds.nodup⟩
  | closeFd _ => exact ⟨linked, holds.awake, holds.nodup⟩
  | setBuffer _ _ => exact ⟨linked, holds.awake, holds.nodup⟩
  | run => exact ⟨linked, holds.awake, holds.nodup⟩
  | epollWait _ => exact ⟨linked, holds.awake, holds.nodup⟩
  | batchEnd => exact ⟨linked, holds.awake, holds.nodup⟩
  | exit => exact ⟨linked, holds.awake, holds.nodup⟩

end Awake

/-! ## The coroutine that awaits -/

/-- A coroutine of the program is suspended in `with_timeout`. -/
structure Stuck (caller impl : Addr) (s : System queues) : Prop where
  awaits : s.frames.lookup caller = some (.user (some impl))
  coroutine : ∃ number inner result, s.frames.lookup impl =
    some (.withTimeoutImpl number inner result)

namespace Stuck

variable {caller impl : Addr}

private theorem complete (stuck : Stuck caller impl s)
    (linked : Linked s.frames) (pointer : OpPtr) (io : Io) :
    Stuck caller impl (s.complete pointer io) := by
  obtain ⟨awaits, number, inner, result, coroutine⟩ := stuck
  rcases linked.complete_cases pointer io with
    ⟨frames, _⟩ | ⟨op, found, ⟨again, _, _, frames, _⟩ |
      ⟨result, _, ⟨outer, frames, _⟩ | ⟨number, outer, frames, _⟩⟩⟩
  · rw [← frames] at awaits coroutine
    exact ⟨awaits, _, _, _, coroutine⟩
  · constructor <;> grind
  · constructor <;> grind
  · constructor <;> grind

private theorem step (stuck : Stuck caller impl s) (holds : Awake s)
    (kept : action ≠ .destroy caller) (taken : s.step action = some next) :
    Stuck caller impl next := by
  obtain ⟨allowed, rfl⟩ := step_eq_some taken
  cases action with
  | spawn frame =>
      simp only [enabled, Bool.and_eq_true, decide_eq_true_eq] at allowed
      obtain ⟨awaits, number, inner, result, coroutine⟩ := stuck
      constructor <;> simp only [perform, lookup_insert_frame] <;> grind
  | destroy frame =>
      obtain ⟨_, own, found⟩ := enabled_destroy allowed
      have different : frame ≠ caller := fun same => kept (same ▸ rfl)
      obtain ⟨awaits, number, inner, result, coroutine⟩ := stuck
      have kinds := Linked.owned_kinds holds.linked frame
      have single := holds.linked.single frame caller impl
      constructor <;> simp only [perform, lookup_erase_frames]
      · have away := kinds caller
        grind
      · have away := kinds impl
        grind
  | await frame operation io =>
      obtain ⟨⟨runner, below, stack, awake⟩, free, _⟩ := enabled_await allowed
      obtain ⟨awaits, number, inner, result, coroutine⟩ := stuck
      simp only [perform, System.await, stack]
      cases (operation.start frame io s.rt).returned with
      | none => constructor <;> grind
      | some result => exact ⟨awaits, _, _, _, coroutine⟩
  | awaitWithTimeout other frame wrapped delay io =>
      obtain ⟨⟨runner, below, stack, awake⟩, otherFree, free, _,
        operation, timeout, _⟩ := enabled_awaitWithTimeout allowed
      obtain ⟨awaits, number, inner, result, coroutine⟩ := stuck
      simp only [perform, System.awaitWithTimeout, timeout, stack]
      cases (operation.start frame io s.rt).returned with
      | none => constructor <;> grind
      | some result => constructor <;> grind
  | dispatch io =>
      obtain ⟨_, event, evs, fetched, batch⟩ := enabled_dispatch allowed
      obtain ⟨control, _, performed⟩ := dispatch_cases io batch
      have marked : Stuck caller impl
          (s.withMarks control (s.marks (.dispatch io))) :=
        ⟨stuck.awaits, stuck.coroutine⟩
      rw [performed]
      split
      · exact marked
      · exact marked.complete holds.linked _ io
  | dispatchWrite io =>
      obtain ⟨_, writeOp, evs, fetched, half⟩ := enabled_dispatchWrite allowed
      have marked : Stuck caller impl (s.withMarks (.batch evs fetched) []) :=
        ⟨stuck.awaits, stuck.coroutine⟩
      rw [dispatchWrite_eq io half]
      exact marked.complete holds.linked writeOp io
  | finish => exact ⟨stuck.awaits, stuck.coroutine⟩
  | tick _ => exact ⟨stuck.awaits, stuck.coroutine⟩
  | requestCancel _ => exact ⟨stuck.awaits, stuck.coroutine⟩
  | openFd _ _ => exact ⟨stuck.awaits, stuck.coroutine⟩
  | closeFd _ => exact ⟨stuck.awaits, stuck.coroutine⟩
  | setBuffer _ _ => exact ⟨stuck.awaits, stuck.coroutine⟩
  | run => exact ⟨stuck.awaits, stuck.coroutine⟩
  | epollWait _ => exact ⟨stuck.awaits, stuck.coroutine⟩
  | batchEnd => exact ⟨stuck.awaits, stuck.coroutine⟩
  | exit => exact ⟨stuck.awaits, stuck.coroutine⟩

end Stuck

/-! ## What is recorded -/

/-- What one step adds to the trace and to the suspended operations is
numbered by a suspended operation, or newly. -/
structure Grows (s next : System queues) : Prop where
  counted : s.nextNumber ≤ next.nextNumber
  waits : ∀ frame op, next.pending frame = some op →
    (∃ other old, s.pending other = some old ∧ op.number = old.number) ∨
      s.nextNumber ≤ op.number ∧ op.number < next.nextNumber
  told : ∀ obs ∈ next.trace, obs ∈ s.trace ∨
    ∀ number, obs.number? = some number →
      (∃ frame op, s.pending frame = some op ∧ number = op.number) ∨
        s.nextNumber ≤ number ∧ number < next.nextNumber

namespace Grows

private theorem of_same (action : Action)
    (pending : ∀ frame op, next.pending frame = some op →
      s.pending frame = some op)
    (counted : next.nextNumber = s.nextNumber)
    (trace : next.trace = s.marks action ++ s.trace) : Grows s next where
  counted := counted.ge
  waits frame op waits := Or.inl ⟨frame, op, pending frame op waits, rfl⟩
  told obs member := by
    rw [trace, List.mem_append] at member
    rcases member with mark | older
    · right
      intro number named
      rw [marks_unnumbered mark] at named
      cases named
    · exact Or.inl older

private theorem complete (linked : Linked s.frames) (control : Control)
    (pointer : OpPtr) (io : Io) :
    Grows s ((s.withMarks control (s.marks action)).complete pointer io) := by
  have counted := (Linked.complete_rest
    (s.withMarks control (s.marks action)) pointer io).1
  have marked : Linked (s.withMarks control (s.marks action)).frames := linked
  have tail : ∀ obs ∈ s.marks action ++ s.trace, obs ∈ s.trace ∨
      ∀ number, obs.number? = some number →
        (∃ frame op, s.pending frame = some op ∧ number = op.number) ∨
          s.nextNumber ≤ number ∧ number < s.nextNumber := by
    intro obs member
    rcases List.mem_append.mp member with mark | older
    · right
      intro number named
      rw [marks_unnumbered mark] at named
      cases named
    · exact Or.inl older
  have samePending : ∀ frame op,
      (s.withMarks control (s.marks action)).frames.lookup frame =
        some (.op op) → s.pending frame = some op :=
    fun frame op found => pendingIn_eq_some.mpr found
  rcases marked.complete_cases pointer io with
    ⟨frames, _, trace⟩ | ⟨op, found, ⟨again, number, _, frames, _, trace⟩ |
      ⟨result, trace, next⟩⟩
  · refine ⟨counted.ge, fun frame op waits => ?_, ?_⟩
    · rw [System.pending, frames] at waits
      exact Or.inl ⟨frame, op, waits, rfl⟩
    · rw [trace, counted]
      exact tail
  · refine ⟨counted.ge, fun frame other waits => ?_, ?_⟩
    · left
      rw [System.pending, frames, pendingIn_insert] at waits
      by_cases same : frame = pointer.frame
      · rw [same, Function.update_self] at waits
        cases waits
        exact ⟨pointer.frame, op, samePending _ _ found, number⟩
      · rw [Function.update_of_ne same] at waits
        exact ⟨frame, other, waits, rfl⟩
    · rw [trace, counted]
      exact tail
  · refine ⟨counted.ge, fun frame other waits => ?_, ?_⟩
    · left
      refine ⟨frame, other, ?_, rfl⟩
      rw [System.pending, pendingIn_eq_some] at waits
      refine pendingIn_eq_some.mpr ?_
      rcases next with ⟨_, frames, _⟩ | ⟨_, _, frames, _⟩ <;>
        · rw [frames, lookup_insert_frame, lookup_erase_frame] at waits
          split at waits
          · cases waits
          · split at waits
            · cases waits
            · exact waits
    · rw [trace, counted]
      intro obs member
      rcases List.mem_cons.mp member with rfl | member
      · right
        rintro number ⟨⟩
        exact Or.inl ⟨pointer.frame, op, samePending _ _ found, rfl⟩
      · rcases List.mem_cons.mp member with rfl | member
        · right
          rintro number ⟨⟩
          exact Or.inl ⟨pointer.frame, op, samePending _ _ found, rfl⟩
        · exact tail obs member

private theorem await {caller frame : Addr} {below : List Addr}
    {operation : Operation} (io : Io) (stack : s.stack = caller :: below) :
    Grows s (s.await frame operation io) := by
  simp only [System.await, stack]
  cases (operation.start frame io s.rt).returned with
  | none =>
      refine ⟨Nat.le_succ _, fun other op waits => ?_, fun obs member => ?_⟩
      · simp only [System.pending, pendingIn_insert,
          Function.update_apply] at waits
        split at waits
        · cases waits
        · split at waits
          · cases waits
            exact Or.inr ⟨le_refl _, Nat.lt_succ_self _⟩
          · exact Or.inl ⟨other, op, waits, rfl⟩
      · rcases List.mem_cons.mp member with rfl | older
        · right
          rintro number ⟨⟩
          exact Or.inr ⟨le_refl _, Nat.lt_succ_self _⟩
        · exact Or.inl older
  | some result =>
      refine ⟨Nat.le_succ _, fun other op waits => ?_, fun obs member => ?_⟩
      · exact Or.inl ⟨other, op, waits, rfl⟩
      · simp only [List.mem_cons] at member
        rcases member with rfl | rfl | rfl | older
        on_goal 4 => exact Or.inl older
        all_goals
          right
          rintro number ⟨⟩
          exact Or.inr ⟨le_refl _, Nat.lt_succ_self _⟩

end Grows

/-- The `co_await` of `with_timeout` with this number is over for nobody: it
is neither resumed nor gone on from, and no suspended operation has its
number. -/
structure Silent (number : Nat) (s : System queues) : Prop where
  given : number < s.nextNumber
  waits : ∀ frame op, s.pending frame = some op → op.number ≠ number
  told : ∀ obs ∈ s.trace, obs.number? = some number →
    ∃ wrapped delay, obs = .startedWithTimeout number wrapped delay

/-- The numbers in use were given. -/
structure Numbered (s : System queues) : Prop where
  waits : ∀ frame op, s.pending frame = some op → op.number < s.nextNumber
  told : ∀ obs ∈ s.trace, ∀ number, obs.number? = some number →
    number < s.nextNumber

private theorem Grows.silent {number : Nat} (grows : Grows s next)
    (silent : Silent number s) : Silent number next where
  given := lt_of_lt_of_le silent.given grows.counted
  waits frame op waits same := by
    have given := silent.given
    rcases grows.waits frame op waits with ⟨other, old, before, equal⟩ | new
    · exact silent.waits other old before (equal ▸ same)
    · omega
  told obs member named := by
    have given := silent.given
    rcases grows.told obs member with older | new
    · exact silent.told obs older named
    · rcases new number named with ⟨frame, op, waits, same⟩ | new
      · exact absurd same.symm (silent.waits frame op waits)
      · omega

private theorem Grows.numbered (grows : Grows s next) (numbered : Numbered s) :
    Numbered next where
  waits frame op waits := by
    have counted := grows.counted
    rcases grows.waits frame op waits with ⟨other, old, before, equal⟩ | new
    · have below := numbered.waits other old before
      omega
    · exact new.2
  told obs member number named := by
    have counted := grows.counted
    rcases grows.told obs member with older | new
    · have below := numbered.told obs older number named
      omega
    · rcases new number named with ⟨frame, op, waits, same⟩ | new
      · have below := numbered.waits frame op waits
        omega
      · exact new.2

/-- With `with_timeout` two numbers are given, and the operation has the
second one. -/
theorem awaitWithTimeout_cases {caller : Addr} {below : List Addr}
    {impl frame : Addr} {wrapped operation : Operation} {delay : Int}
    (io : Io) (stack : s.stack = caller :: below)
    (timeout : wrapped.withTimeout delay = some operation)
    (same : next = s.awaitWithTimeout impl frame wrapped delay io) :
    next.nextNumber = s.nextNumber + 2 ∧
      (∀ other op, next.pending other = some op →
        s.pending other = some op ∨ op.number = s.nextNumber + 1) ∧
      (∀ obs ∈ next.trace, obs ∈ s.trace ∨
        obs = .startedWithTimeout s.nextNumber wrapped delay ∨
        obs.number? = some (s.nextNumber + 1)) ∧
      next.frames.lookup caller = some (.user (some impl)) ∧
      (caller ≠ impl → ∃ inner result, next.frames.lookup impl =
        some (.withTimeoutImpl s.nextNumber inner result)) := by
  subst same
  simp only [System.awaitWithTimeout, timeout, stack]
  cases (operation.start frame io s.rt).returned with
  | none =>
      refine ⟨rfl, fun other op waits => ?_, fun obs member => ?_,
        Finmap.lookup_insert _, fun different => ?_⟩
      · simp only [System.pending, pendingIn_insert,
          Function.update_apply] at waits ⊢
        grind [Frame.op?]
      · simp only [List.mem_cons] at member
        grind [Obs.number?]
      · refine ⟨some frame, none, ?_⟩
        rw [lookup_insert_frame, if_neg different.symm, lookup_insert_frame,
          if_pos rfl]
  | some result =>
      refine ⟨rfl, fun other op waits => ?_, fun obs member => ?_,
        Finmap.lookup_insert _, fun different => ?_⟩
      · simp only [System.pending, pendingIn_insert,
          Function.update_apply] at waits ⊢
        grind [Frame.op?]
      · simp only [List.mem_cons] at member
        grind [Obs.number?]
      · refine ⟨none, some result, ?_⟩
        rw [lookup_insert_frame, if_neg different.symm, lookup_insert_frame,
          if_pos rfl]

private theorem Grows.awaitWithTimeout {caller : Addr} {below : List Addr}
    {impl frame : Addr} {wrapped operation : Operation} {delay : Int}
    (io : Io) (stack : s.stack = caller :: below)
    (timeout : wrapped.withTimeout delay = some operation) :
    Grows s (s.awaitWithTimeout impl frame wrapped delay io) := by
  obtain ⟨counted, waits, told, _⟩ :=
    awaitWithTimeout_cases io stack timeout
      (Eq.refl (s.awaitWithTimeout impl frame wrapped delay io))
  refine ⟨by omega, fun other op here => ?_, fun obs member => ?_⟩
  · rcases waits other op here with before | new
    · exact Or.inl ⟨other, op, before, rfl⟩
    · exact Or.inr ⟨by omega, by omega⟩
  · rcases told obs member with older | rfl | new
    · exact Or.inl older
    · right
      rintro number ⟨⟩
      exact Or.inr ⟨le_refl _, by omega⟩
    · right
      intro number named
      rw [new] at named
      cases named
      exact Or.inr ⟨by omega, by omega⟩

private theorem step_grows (holds : Awake s)
    (taken : s.step action = some next) :
    Grows s next := by
  obtain ⟨allowed, rfl⟩ := step_eq_some taken
  cases action with
  | spawn frame =>
      simp only [enabled, Bool.and_eq_true, decide_eq_true_eq] at allowed
      refine Grows.of_same (.spawn frame) (fun other op waits => ?_) rfl rfl
      rw [← waits]
      exact (congrFun (pendingIn_insert_silent rfl
        (pendingIn_of_free allowed.2)) other).symm
  | destroy frame =>
      refine Grows.of_same (.destroy frame) (fun other op waits => ?_) rfl rfl
      rw [System.pending, pendingIn_eq_some] at waits ⊢
      simp only [perform, lookup_erase_frames] at waits
      split at waits
      · cases waits
      · exact waits
  | await frame operation io =>
      obtain ⟨⟨caller, below, stack, _⟩, _⟩ := enabled_await allowed
      exact Grows.await io stack
  | awaitWithTimeout impl frame wrapped delay io =>
      obtain ⟨⟨caller, below, stack, _⟩, _, _, _, operation, timeout, _⟩ :=
        enabled_awaitWithTimeout allowed
      exact Grows.awaitWithTimeout io stack timeout
  | dispatch io =>
      obtain ⟨_, event, evs, fetched, batch⟩ := enabled_dispatch allowed
      obtain ⟨control, _, performed⟩ := dispatch_cases io batch
      rw [performed]
      split
      · exact Grows.of_same (.dispatch io) (fun _ _ waits => waits) rfl rfl
      · exact Grows.complete holds.linked control _ io
  | dispatchWrite io =>
      obtain ⟨_, writeOp, evs, fetched, half⟩ := enabled_dispatchWrite allowed
      rw [dispatchWrite_eq io half]
      have unmarked : s.marks (.dispatchWrite io) = [] := rfl
      rw [← unmarked]
      exact Grows.complete holds.linked _ writeOp io
  | finish => exact Grows.of_same .finish (fun _ _ waits => waits) rfl rfl
  | tick elapsed =>
      exact Grows.of_same (.tick elapsed) (fun _ _ waits => waits) rfl rfl
  | requestCancel token =>
      exact Grows.of_same (.requestCancel token) (fun _ _ waits => waits) rfl
        rfl
  | openFd fd file =>
      exact Grows.of_same (.openFd fd file) (fun _ _ waits => waits) rfl rfl
  | closeFd fd =>
      exact Grows.of_same (.closeFd fd) (fun _ _ waits => waits) rfl rfl
  | setBuffer buf buffer =>
      exact Grows.of_same (.setBuffer buf buffer) (fun _ _ waits => waits) rfl
        rfl
  | run => exact Grows.of_same .run (fun _ _ waits => waits) rfl rfl
  | epollWait evs =>
      exact Grows.of_same (.epollWait evs) (fun _ _ waits => waits) rfl rfl
  | batchEnd => exact Grows.of_same .batchEnd (fun _ _ waits => waits) rfl rfl
  | exit => exact Grows.of_same .exit (fun _ _ waits => waits) rfl rfl

/-! ## Whole runs -/

/-- In every run. -/
theorem awake_of_run
    (run : runFrom step (initial queues timerFd uptime buffers) actions =
      some s) : Awake s ∧ Numbered s := by
  refine invariant_of_run (fun state => Awake state ∧ Numbered state)
    (fun ⟨awake, numbered⟩ _ taken =>
      ⟨awake.step taken, (step_grows awake taken).numbered numbered⟩)
    ⟨⟨linked_initial queues timerFd uptime buffers, ?_, List.nodup_nil⟩,
      ?_, ?_⟩
    (meets_of_forall_mem fun _ _ _ => trivial) run
  · intro frame member
    cases member
  · intro frame op waits
    simp [pending, initial, pendingIn] at waits
  · intro obs member
    cases member

/-- In no run is a coroutine that awaits `with_timeout` ever resumed, or gone
on with: from its `co_await` on it stays suspended, off the stack, until it is
destroyed. -/
theorem withTimeout_neverResumes {impl frame : Addr} {wrapped : Operation}
    {delay : Int} {io : Io}
    (reached : runFrom step (initial queues timerFd uptime buffers) actions =
      some s)
    (awaited :
      s.step (.awaitWithTimeout impl frame wrapped delay io) = some next)
    (run : runFrom step next more = some final) :
    (∀ result, .resumed s.nextNumber result ∉ final.trace ∧
      .wentOn s.nextNumber result ∉ final.trace) ∧
    ∃ caller, s.stack.head? = some caller ∧
      (.destroy caller ∉ more →
        final.frames.lookup caller = some (.user (some impl)) ∧
          caller ∉ final.stack) := by
  obtain ⟨awake, numbered⟩ := awake_of_run reached
  have awakeNext := awake.step awaited
  obtain ⟨allowed, rfl⟩ := step_eq_some awaited
  obtain ⟨⟨caller, below, stack, found⟩, implFree, _, _, operation, timeout,
    _⟩ := enabled_awaitWithTimeout allowed
  obtain ⟨counted, waits, told, awaits, coroutine⟩ :=
    awaitWithTimeout_cases io stack timeout rfl
  constructor
  · have silent : Silent s.nextNumber
        (s.perform (.awaitWithTimeout impl frame wrapped delay io)) := by
      refine ⟨?_, fun other op here same => ?_, fun obs member named => ?_⟩
      · exact lt_of_lt_of_eq (by omega) counted.symm
      · rcases waits other op here with before | new
        · have below := numbered.waits other op before
          omega
        · omega
      · rcases told obs member with older | same | new
        · have below := numbered.told obs older _ named
          omega
        · exact ⟨wrapped, delay, same⟩
        · have equal := Option.some.inj (new.symm.trans named)
          omega
    have last : Awake final ∧ Silent s.nextNumber final :=
      invariant_of_run
        (fun state => Awake state ∧ Silent s.nextNumber state)
        (fun ⟨state, here⟩ _ taken =>
          ⟨state.step taken, (step_grows state taken).silent here⟩)
        ⟨awakeNext, silent⟩ (meets_of_forall_mem fun _ _ _ => trivial) run
    intro result
    constructor
    · intro member
      obtain ⟨_, _, same⟩ := last.2.told _ member rfl
      cases same
    · intro member
      obtain ⟨_, _, same⟩ := last.2.told _ member rfl
      cases same
  · refine ⟨caller, by rw [stack]; rfl, fun kept => ?_⟩
    have different : caller ≠ impl := by
      rintro rfl
      rw [implFree] at found
      cases found
    have stuck : Stuck caller impl
        (s.perform (.awaitWithTimeout impl frame wrapped delay io)) :=
      ⟨awaits, s.nextNumber, coroutine different⟩
    have keeps : Meets step (fun _ action => action ≠ .destroy caller)
        (s.perform (.awaitWithTimeout impl frame wrapped delay io)) more :=
      meets_of_forall_mem fun action member _ same => kept (same ▸ member)
    have last : Awake final ∧ Stuck caller impl final :=
      invariant_of_run (fun state => Awake state ∧ Stuck caller impl state)
        (fun ⟨state, here⟩ meets taken =>
          ⟨state.step taken, here.step state meets taken⟩)
        ⟨awakeNext, stuck⟩ keeps run
    refine ⟨last.2.awaits, fun member => ?_⟩
    have running := last.1.awake caller member
    rw [last.2.awaits] at running
    cases running

theorem withTimeout_neverResumes_sample :
    ∃ s next final : System TimerQueue.sorted,
      runFrom step (initial _ 3 100 (fun _ => ⟨[0, 0], 0⟩))
        [.openFd 5 .socket, .spawn 1] = some s ∧
      s.step (.awaitWithTimeout 8 9 (.asyncRead ⟨5, 0, none⟩) 50 {}) =
        some next ∧
      runFrom step next
        [.run, .epollWait [⟨EPOLLIN, 5⟩],
          .dispatch { recv := .received [7, 7] }, .batchEnd, .exit] =
        some final ∧
      .resumed s.nextNumber (.transfer 0 2) ∉ final.trace ∧
        final.frames.lookup 1 = some (.user (some 8)) := by
  have computed : ((runFrom step
      (initial TimerQueue.sorted 3 100 (fun _ => ⟨[0, 0], 0⟩))
      [.openFd 5 .socket, .spawn 1]).any fun s =>
        s.stack.head? = some 1 ∧
        (s.step (.awaitWithTimeout 8 9 (.asyncRead ⟨5, 0, none⟩) 50
          {})).any fun next =>
            (runFrom step next
              [.run, .epollWait [⟨EPOLLIN, 5⟩],
                .dispatch { recv := .received [7, 7] }, .batchEnd,
                .exit]).isSome) = true := by
    decide +kernel
  obtain ⟨s, reached, passed⟩ := (Option.any_eq_true _ _).mp computed
  obtain ⟨running, awaits⟩ := of_decide_eq_true passed
  obtain ⟨next, awaited, runs⟩ := (Option.any_eq_true _ _).mp awaits
  obtain ⟨final, run⟩ := Option.isSome_iff_exists.mp runs
  obtain ⟨silent, caller, same, stays⟩ :=
    withTimeout_neverResumes reached awaited run
  rw [running] at same
  cases same
  exact ⟨s, next, final, reached, awaited, run, (silent _).1,
    (stays (by decide)).1⟩

/-- A read under `with_timeout` fills its buffer, and `running` returns: the
coroutine that awaits the read has its result, and the coroutine that awaits
`with_timeout` is still suspended. -/
theorem withTimeout_counterexample :
    ∃ s : System TimerQueue.sorted,
      runFrom step (initial _ 3 100 (fun _ => ⟨[0, 0], 0⟩))
        [.openFd 5 .socket, .spawn 1,
          .awaitWithTimeout 8 9 (.asyncRead ⟨5, 0, none⟩) 50 {}, .run,
          .epollWait [⟨EPOLLIN, 5⟩],
          .dispatch { recv := .received [7, 7] }, .batchEnd, .exit] =
        some s ∧
      s.control = .outside ∧ s.rt.fault = none ∧
      s.history 0 = [.startedWithTimeout 0 (.asyncRead ⟨5, 0, none⟩) 50] ∧
      s.history 1 = [.resumed 1 (.transfer 0 2), .finished 1 (.transfer 0 2),
        .started 1 (.asyncReadTimeout ⟨5, 0, none⟩ 50)] ∧
      s.frames.lookup 1 = some (.user (some 8)) ∧
      s.frames.lookup 8 =
        some (.withTimeoutImpl 0 none (some (.transfer 0 2))) := by
  have computed : ((runFrom step
      (initial TimerQueue.sorted 3 100 (fun _ => ⟨[0, 0], 0⟩))
      [.openFd 5 .socket, .spawn 1,
        .awaitWithTimeout 8 9 (.asyncRead ⟨5, 0, none⟩) 50 {}, .run,
        .epollWait [⟨EPOLLIN, 5⟩],
        .dispatch { recv := .received [7, 7] }, .batchEnd, .exit]).any
    fun s => s.control = .outside ∧ s.rt.fault = none ∧
      s.history 0 = [.startedWithTimeout 0 (.asyncRead ⟨5, 0, none⟩) 50] ∧
      s.history 1 = [.resumed 1 (.transfer 0 2), .finished 1 (.transfer 0 2),
        .started 1 (.asyncReadTimeout ⟨5, 0, none⟩ 50)] ∧
      s.frames.lookup 1 = some (.user (some 8)) ∧
      s.frames.lookup 8 =
        some (.withTimeoutImpl 0 none (some (.transfer 0 2)))) = true := by
    decide +kernel
  obtain ⟨s, run, passed⟩ := (Option.any_eq_true _ _).mp computed
  exact ⟨s, run, of_decide_eq_true passed⟩

end System

end AsyncFrame
