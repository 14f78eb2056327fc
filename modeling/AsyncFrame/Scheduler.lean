import AsyncFrame.Events

/-!
# The registration table

`Epoll_Manager` and the registration half of `Scheduler`.  The kernel's
interest set is part of the model, so that a call of `epoll_ctl` fails as the
kernel fails it; an injected failure stands for every other reason.  A failing
call throws, and the table stays as the code had left it at that point.

Over the table stands the registry: which operation struct waits for which
direction of which descriptor.  While the table agrees with the kernel, each
submit and each remove is one update of the registry.
-/

namespace AsyncFrame

/-- The `std::runtime_error` thrown by `ERR_MSG`: the function's name and
`errno`. -/
structure RuntimeError where
  function : String
  errno : Errno
  deriving DecidableEq, Repr

/-! ## Epoll_Manager -/

/-- The interest set of the epoll descriptor. -/
structure EpollManager where
  interest : Finmap fun _ : Fd => EpollEvent

namespace EpollManager

def add (injected : Option Errno) (manager : EpollManager)
    (fd : Fd) (ev : EpollEvent) : Except RuntimeError EpollManager :=
  match injected with
  | some errno => .error ⟨"add", errno⟩
  | none =>
      match manager.interest.lookup fd with
      | some _ => .error ⟨"add", EEXIST⟩
      | none => .ok ⟨manager.interest.insert fd ev⟩

def modify (injected : Option Errno) (manager : EpollManager)
    (fd : Fd) (ev : EpollEvent) : Except RuntimeError EpollManager :=
  match injected with
  | some errno => .error ⟨"modify", errno⟩
  | none =>
      match manager.interest.lookup fd with
      | some _ => .ok ⟨manager.interest.insert fd ev⟩
      | none => .error ⟨"modify", ENOENT⟩

def remove (injected : Option Errno) (manager : EpollManager)
    (fd : Fd) : Except RuntimeError EpollManager :=
  match injected with
  | some errno => .error ⟨"remove", errno⟩
  | none =>
      match manager.interest.lookup fd with
      | some _ => .ok ⟨manager.interest.erase fd⟩
      | none => .error ⟨"remove", ENOENT⟩

end EpollManager

/-! ## Scheduler -/

/-- `Scheduler::fd_state`. -/
structure FdState where
  ev : EpollEvent
  read : Option OpPtr := none
  write : Option OpPtr := none
  deriving DecidableEq, Repr

def FdState.pointer (state : FdState) : Direction → Option OpPtr
  | .read => state.read
  | .write => state.write

/-- `Scheduler`: the epoll manager and `fd_to_op`. -/
structure Scheduler where
  epollManager : EpollManager
  fdToOp : Finmap fun _ : Fd => FdState

namespace Scheduler

def initial : Scheduler := ⟨⟨∅⟩, ∅⟩

/-- The outcome of a call that may throw: the object as the call left it, and
the exception. -/
abbrev Outcome := Scheduler × Option RuntimeError

/-- Store the interest set of a successful `epoll_ctl`, or let the exception
pass. -/
def settle (scheduler : Scheduler)
    (called : Except RuntimeError EpollManager) : Outcome :=
  match called with
  | .ok manager => ({ scheduler with epollManager := manager }, none)
  | .error thrown => (scheduler, some thrown)

/-- `fd_to_op[fd] = state`, or an update through an iterator. -/
def store (scheduler : Scheduler) (fd : Fd) (state : FdState) : Scheduler :=
  { scheduler with fdToOp := scheduler.fdToOp.insert fd state }

def submitEventImpl (injected : Option Errno) (scheduler : Scheduler)
    (fd : Fd) (op : FdOps) (event : Events) : Outcome :=
  let readBit := event &&& RegisterType.eventRead.toUnderlying
  let writeBit := event &&& RegisterType.eventWrite.toUnderlying
  match scheduler.fdToOp.lookup fd with
  | none =>
      let state : FdState :=
        { ev := ⟨event, fd⟩
          read := if readBit ≠ 0 then op.read else none
          write := if writeBit ≠ 0 then op.write else none }
      let scheduler := scheduler.store fd state
      scheduler.settle (scheduler.epollManager.add injected fd state.ev)
  | some found =>
      let state : FdState :=
        { ev := ⟨found.ev.events ||| event, found.ev.fd⟩
          read := if readBit ≠ 0 then op.read else found.read
          write := if writeBit ≠ 0 then op.write else found.write }
      let scheduler := scheduler.store fd state
      scheduler.settle (scheduler.epollManager.modify injected fd state.ev)

def removeOpImpl (injected : Option Errno) (scheduler : Scheduler)
    (fd : Fd) (event : Events) : Outcome :=
  let readBit := event &&& RegisterType.eventRead.toUnderlying
  let writeBit := event &&& RegisterType.eventWrite.toUnderlying
  match scheduler.fdToOp.lookup fd with
  | none => (scheduler, none)
  | some found =>
      let state : FdState :=
        { ev := ⟨found.ev.events &&& ~~~event, found.ev.fd⟩
          read := if readBit ≠ 0 then none else found.read
          write := if writeBit ≠ 0 then none else found.write }
      let scheduler := scheduler.store fd state
      if state.ev.events = 0 then
        match scheduler.epollManager.remove injected fd with
        | .ok manager => (⟨manager, scheduler.fdToOp.erase fd⟩, none)
        | .error thrown => (scheduler, some thrown)
      else
        scheduler.settle (scheduler.epollManager.modify injected fd state.ev)

section Members

variable (injected : Option Errno) (scheduler : Scheduler) (fd : Fd)
variable (op : FdOps)

def submitRead : Outcome :=
  submitEventImpl injected scheduler fd op
    RegisterType.eventRead.toUnderlying

def submitConnect : Outcome :=
  submitEventImpl injected scheduler fd op
    RegisterType.eventConnect.toUnderlying

def submitAccept : Outcome :=
  submitEventImpl injected scheduler fd op
    RegisterType.eventAccept.toUnderlying

def submitWrite : Outcome :=
  submitEventImpl injected scheduler fd op
    RegisterType.eventWrite.toUnderlying

def submitTimer : Outcome :=
  submitEventImpl injected scheduler fd op
    RegisterType.eventTimer.toUnderlying

def submitCancel : Outcome :=
  submitEventImpl injected scheduler fd op
    RegisterType.eventRead.toUnderlying

def removeRead : Outcome :=
  removeOpImpl injected scheduler fd RegisterType.eventRead.toUnderlying

def removeWrite : Outcome :=
  removeOpImpl injected scheduler fd RegisterType.eventWrite.toUnderlying

def removeConnect : Outcome :=
  removeOpImpl injected scheduler fd RegisterType.eventConnect.toUnderlying

def removeAccept : Outcome :=
  removeOpImpl injected scheduler fd RegisterType.eventAccept.toUnderlying

def removeTimer : Outcome :=
  removeOpImpl injected scheduler fd RegisterType.eventTimer.toUnderlying

def removeCancel : Outcome :=
  removeOpImpl injected scheduler fd RegisterType.eventRead.toUnderlying

end Members

end Scheduler

/-! ## The registry -/

/-- Which operation struct waits for which direction of which descriptor. -/
abbrev Registry := Fd → Direction → Option OpPtr

/-- Register a pointer, or clear a registration. -/
def Registry.put (registry : Registry) (fd : Fd) (direction : Direction)
    (pointer : Option OpPtr) : Registry :=
  fun other way =>
    if other = fd ∧ way = direction then pointer else registry other way

namespace Registry

variable (registry : Registry) {fd other : Fd} {direction way : Direction}
variable (pointer : Option OpPtr)

@[simp]
theorem put_self :
    registry.put fd direction pointer fd direction = pointer := by
  simp [put]

theorem put_of_fd_ne (different : other ≠ fd) :
    registry.put fd direction pointer other way = registry other way := by
  simp [put, different]

theorem put_eq_self (same : registry fd direction = pointer) :
    registry.put fd direction pointer = registry := by
  funext other way
  unfold put
  split
  · rename_i here
    rw [here.1, here.2, same]
  · rfl

theorem put_comm (different : fd ≠ other) (second : Option OpPtr) :
    (registry.put fd direction pointer).put other way second =
      (registry.put other way second).put fd direction pointer := by
  funext third where'
  unfold put
  split <;> split <;> simp_all

/-- Register or clear the eventfd of a token, if there is one. -/
def putToken (registry : Registry) (token : Option Fd)
    (pointer : Option OpPtr) : Registry :=
  match token with
  | none => registry
  | some fd => registry.put fd .read pointer

theorem put_putToken_comm {token : Option Fd}
    (different : ∀ eventFd, token = some eventFd → fd ≠ eventFd)
    (second : Option OpPtr) :
    (registry.put fd direction pointer).putToken token second =
      (registry.putToken token second).put fd direction pointer := by
  cases token with
  | none => rfl
  | some eventFd =>
      exact registry.put_comm pointer (different eventFd rfl) second

end Registry

namespace Scheduler

/-- The registry that `fd_to_op` stands for. -/
def registry (scheduler : Scheduler) : Registry :=
  fun fd direction =>
    (scheduler.fdToOp.lookup fd).bind fun state => state.pointer direction

/-- An entry's mask has a direction's bits exactly if that direction's pointer
is set, and an entry has at least one of the two. -/
structure EntrySound (timerFd fd : Fd) (state : FdState) : Prop where
  ev : state.ev =
    ⟨maskOf (fd = timerFd) state.read.isSome state.write.isSome, fd⟩
  used : state.read.isSome ∨ state.write.isSome
  timerReads : fd = timerFd → state.write = none

/-- The table is well formed and is what the kernel has been told. -/
structure Agrees (timerFd : Fd) (scheduler : Scheduler) : Prop where
  mirror : ∀ fd, scheduler.epollManager.interest.lookup fd =
    (scheduler.fdToOp.lookup fd).map FdState.ev
  sound : ∀ fd state, scheduler.fdToOp.lookup fd = some state →
    EntrySound timerFd fd state

variable {timerFd : Fd} {scheduler : Scheduler}

theorem agrees_initial : Agrees timerFd initial where
  mirror fd := by simp [initial]
  sound fd state found := by simp [initial] at found

@[simp]
theorem registry_initial : initial.registry = fun _ _ => none := by
  funext fd direction
  simp [registry, initial]

theorem registry_of_lookup {fd : Fd} {state : FdState}
    (found : scheduler.fdToOp.lookup fd = some state)
    (direction : Direction) :
    scheduler.registry fd direction = state.pointer direction := by
  simp [registry, found]

/-- Store one entry and tell the kernel. -/
theorem agrees_store (agrees : Agrees timerFd scheduler)
    {fd : Fd} {state : FdState} (sound : EntrySound timerFd fd state) :
    Agrees timerFd
      ⟨⟨scheduler.epollManager.interest.insert fd state.ev⟩,
        scheduler.fdToOp.insert fd state⟩ where
  mirror other := by
    by_cases same : other = fd
    · subst same
      simp
    · simp [Finmap.lookup_insert_of_ne, same, agrees.mirror]
  sound other found lookup := by
    by_cases same : other = fd
    · subst same
      simp only [Finmap.lookup_insert, Option.some.injEq] at lookup
      exact lookup ▸ sound
    · rw [Finmap.lookup_insert_of_ne _ same] at lookup
      exact agrees.sound other found lookup

private theorem agrees_erase (agrees : Agrees timerFd scheduler) (fd : Fd) :
    Agrees timerFd
      ⟨⟨scheduler.epollManager.interest.erase fd⟩,
        scheduler.fdToOp.erase fd⟩ where
  mirror other := by
    by_cases same : other = fd
    · subst same
      simp
    · simp [Finmap.lookup_erase_ne, same, agrees.mirror]
  sound other found lookup := by
    by_cases same : other = fd
    · subst same
      simp at lookup
    · rw [Finmap.lookup_erase_ne same] at lookup
      exact agrees.sound other found lookup

/-- The kernel knows the mask of every entry. -/
theorem Agrees.known (agrees : Agrees timerFd scheduler) {fd : Fd}
    {state : FdState} (found : scheduler.fdToOp.lookup fd = some state) :
    scheduler.epollManager.interest.lookup fd = some state.ev := by
  rw [agrees.mirror, found]
  rfl

private theorem registry_insert {fd : Fd} {state : FdState}
    (manager : EpollManager) (direction : Direction)
    (others : ∀ way, way ≠ direction →
      state.pointer way = scheduler.registry fd way) :
    registry ⟨manager, scheduler.fdToOp.insert fd state⟩ =
      scheduler.registry.put fd direction (state.pointer direction) := by
  funext other way
  by_cases same : other = fd
  · subst same
    by_cases here : way = direction
    · subst here
      simp [registry]
    · have untouched := others way here
      simpa [registry, Registry.put, here] using untouched
  · simp [registry, Registry.put, same, Finmap.lookup_insert_of_ne]

private theorem registry_erase {fd : Fd} {direction : Direction}
    (manager : EpollManager)
    (others : ∀ way, way ≠ direction → scheduler.registry fd way = none) :
    registry ⟨manager, scheduler.fdToOp.erase fd⟩ =
      scheduler.registry.put fd direction none := by
  funext other way
  by_cases same : other = fd
  · subst same
    by_cases here : way = direction
    · subst here
      simp [registry]
    · have unused := others way here
      simpa [registry, Registry.put, here] using unused.symm
  · simp [registry, Registry.put, same, Finmap.lookup_erase_ne]

/-- The first entry of a descriptor. -/
theorem entrySound_of_present {fd : Fd} {op : FdOps} {direction : Direction}
    {pointer : OpPtr} (present : op.pointer direction = some pointer)
    (timerReads : fd = timerFd → direction = .read) :
    EntrySound timerFd fd
      { ev := ⟨eventOf (fd = timerFd) direction, fd⟩
        read := if direction = .read then op.read else none
        write := if direction = .write then op.write else none } := by
  cases direction with
  | read =>
      have here : op.read = some pointer := present
      constructor <;> simp [here, maskOf]
  | write =>
      have here : op.write = some pointer := present
      constructor
      · simp [here, maskOf]
      · simp [here]
      · intro timer
        cases timerReads timer

private theorem EntrySound.submit {fd : Fd} {state : FdState}
    (sound : EntrySound timerFd fd state) {op : FdOps}
    {direction : Direction} {pointer : OpPtr}
    (present : op.pointer direction = some pointer)
    (timerReads : fd = timerFd → direction = .read) :
    EntrySound timerFd fd
      { ev := ⟨state.ev.events ||| eventOf (fd = timerFd) direction,
          state.ev.fd⟩
        read := if direction = .read then op.read else state.read
        write := if direction = .write then op.write else state.write } := by
  cases direction with
  | read =>
      have here : op.read = some pointer := present
      constructor
      · simp [sound.ev, maskOf_submit_read, here]
      · simp [here]
      · intro timer
        simpa using sound.timerReads timer
  | write =>
      have here : op.write = some pointer := present
      constructor
      · simp [sound.ev, maskOf_submit_write, here]
      · simp [here]
      · intro timer
        cases timerReads timer

/-- A submit never throws, keeps the agreement and registers its pointer, and
nothing else changes. -/
theorem submit_spec (agrees : Agrees timerFd scheduler) {fd : Fd}
    {op : FdOps} {direction : Direction} {pointer : OpPtr}
    (present : op.pointer direction = some pointer)
    (timerReads : fd = timerFd → direction = .read) :
    ∃ next, submitEventImpl none scheduler fd op
        (eventOf (fd = timerFd) direction) = (next, none) ∧
      Agrees timerFd next ∧
      next.registry =
        scheduler.registry.put fd direction (some pointer) := by
  cases found : scheduler.fdToOp.lookup fd with
  | none =>
      have unknown : scheduler.epollManager.interest.lookup fd = none := by
        rw [agrees.mirror, found]
        rfl
      refine ⟨_, ?_, agrees_store agrees
        (entrySound_of_present present timerReads), ?_⟩
      · simp only [submitEventImpl, found, store, settle, EpollManager.add,
          unknown, ne_eq]
        simp only [← ne_eq, eventOf_touches_read, eventOf_touches_write]
      · rw [← present, registry_insert _ direction]
        · cases direction <;> rfl
        · intro way elsewhere
          cases direction <;> cases way <;>
            simp_all [registry, FdState.pointer]
  | some state =>
      have known := agrees.known found
      have sound := agrees.sound fd state found
      refine ⟨_, ?_, agrees_store agrees
        (sound.submit present timerReads), ?_⟩
      · simp only [submitEventImpl, found, store, settle,
          EpollManager.modify, known, ne_eq]
        simp only [← ne_eq, eventOf_touches_read, eventOf_touches_write]
      · rw [← present, registry_insert _ direction]
        · cases direction <;> rfl
        · intro way elsewhere
          rw [registry_of_lookup found]
          cases direction <;> cases way <;>
            simp_all [FdState.pointer]

/-- What `remove_op_impl` leaves of an entry. -/
def narrowed (timerFd fd : Fd) (direction : Direction) (state : FdState) :
    FdState :=
  { ev := ⟨state.ev.events &&& ~~~eventOf (fd = timerFd) direction,
      state.ev.fd⟩
    read := if direction = .read then none else state.read
    write := if direction = .write then none else state.write }

private theorem EntrySound.narrowed_ev {fd : Fd} {state : FdState}
    (sound : EntrySound timerFd fd state) (direction : Direction) :
    (narrowed timerFd fd direction state).ev =
      ⟨maskOf (fd = timerFd) (narrowed timerFd fd direction state).read.isSome
        (narrowed timerFd fd direction state).write.isSome, fd⟩ := by
  cases direction <;>
    simp [narrowed, sound.ev, maskOf_remove_read, maskOf_remove_write]

private theorem EntrySound.narrowed_empty {fd : Fd} {state : FdState}
    (sound : EntrySound timerFd fd state) {direction : Direction}
    (empty : (narrowed timerFd fd direction state).ev.events = 0)
    (way : Direction) :
    (narrowed timerFd fd direction state).pointer way = none := by
  rw [sound.narrowed_ev] at empty
  have unused := (maskOf_eq_zero_iff _ _ _).mp empty
  cases way with
  | read => simpa [FdState.pointer] using unused.1
  | write => simpa [FdState.pointer] using unused.2

private theorem EntrySound.narrow {fd : Fd} {state : FdState}
    (sound : EntrySound timerFd fd state) {direction : Direction}
    (used : (narrowed timerFd fd direction state).ev.events ≠ 0) :
    EntrySound timerFd fd (narrowed timerFd fd direction state) := by
  refine ⟨sound.narrowed_ev direction, ?_, ?_⟩
  · by_contra unused
    rw [not_or] at unused
    apply used
    rw [sound.narrowed_ev]
    exact (maskOf_eq_zero_iff _ _ _).mpr
      ⟨by simpa using unused.1, by simpa using unused.2⟩
  · intro timer
    have old := sound.timerReads timer
    simp [narrowed, old]

private theorem pointer_narrowed {fd : Fd} {state : FdState}
    {direction way : Direction} (elsewhere : way ≠ direction) :
    (narrowed timerFd fd direction state).pointer way =
      state.pointer way := by
  cases direction <;> cases way <;> simp_all [FdState.pointer, narrowed]

private theorem removeOpImpl_of_found (agrees : Agrees timerFd scheduler)
    {fd : Fd}
    {state : FdState} (found : scheduler.fdToOp.lookup fd = some state)
    (direction : Direction) :
    removeOpImpl none scheduler fd (eventOf (fd = timerFd) direction) =
      if (narrowed timerFd fd direction state).ev.events = 0 then
        (⟨⟨scheduler.epollManager.interest.erase fd⟩,
          scheduler.fdToOp.erase fd⟩, none)
      else
        (⟨⟨scheduler.epollManager.interest.insert fd
            (narrowed timerFd fd direction state).ev⟩,
          scheduler.fdToOp.insert fd (narrowed timerFd fd direction state)⟩,
          none) := by
  have known := agrees.known found
  by_cases empty : (narrowed timerFd fd direction state).ev.events = 0
  · rw [if_pos empty]
    simp only [narrowed] at empty
    simp only [removeOpImpl, found, store, settle, EpollManager.remove,
      known, empty, if_true]
    congr 2
    apply Finmap.ext_lookup
    intro other
    by_cases same : other = fd
    · subst same
      simp
    · simp [Finmap.lookup_erase_ne same, Finmap.lookup_insert_of_ne _ same]
  · rw [if_neg empty]
    simp only [narrowed] at empty
    simp only [removeOpImpl, found, store, settle, EpollManager.modify,
      known, ne_eq, empty, if_false, narrowed]
    simp only [← ne_eq, eventOf_touches_read, eventOf_touches_write]

/-- A remove never throws, keeps the agreement and clears its direction, also
when nothing was registered there. -/
theorem remove_spec (agrees : Agrees timerFd scheduler) (fd : Fd)
    (direction : Direction) :
    ∃ next, removeOpImpl none scheduler fd
        (eventOf (fd = timerFd) direction) = (next, none) ∧
      Agrees timerFd next ∧
      next.registry = scheduler.registry.put fd direction none := by
  cases found : scheduler.fdToOp.lookup fd with
  | none =>
      refine ⟨scheduler, ?_, agrees, ?_⟩
      · simp only [removeOpImpl, found]
      · rw [Registry.put_eq_self]
        simp [registry, found]
  | some state =>
      have sound := agrees.sound fd state found
      have unfolded := removeOpImpl_of_found agrees found direction
      by_cases empty : (narrowed timerFd fd direction state).ev.events = 0
      · rw [if_pos empty] at unfolded
        refine ⟨_, unfolded, agrees_erase agrees fd, registry_erase _ ?_⟩
        intro way elsewhere
        rw [registry_of_lookup found, ← pointer_narrowed elsewhere]
        exact sound.narrowed_empty empty way
      · rw [if_neg empty] at unfolded
        refine ⟨_, unfolded, agrees_store agrees (sound.narrow empty), ?_⟩
        rw [registry_insert _ direction]
        · cases direction <;> rfl
        · intro way elsewhere
          rw [registry_of_lookup found]
          exact pointer_narrowed elsewhere

/-- An entry exists only while something is registered in it. -/
theorem lookup_eq_none_of_unused (agrees : Agrees timerFd scheduler)
    {fd : Fd}
    (unused : ∀ direction, scheduler.registry fd direction = none) :
    scheduler.fdToOp.lookup fd = none := by
  cases found : scheduler.fdToOp.lookup fd with
  | none => rfl
  | some state =>
      have reads := unused .read
      have writes := unused .write
      rw [registry_of_lookup found] at reads writes
      have used := (agrees.sound fd state found).used
      simp only [FdState.pointer] at reads writes
      simp [reads, writes] at used

/-- The kernel has nothing to forget about a descriptor with no
registration. -/
theorem erase_interest_of_unused (agrees : Agrees timerFd scheduler)
    {fd : Fd}
    (unused : ∀ direction, scheduler.registry fd direction = none) :
    scheduler.epollManager.interest.erase fd =
      scheduler.epollManager.interest := by
  apply Finmap.ext_lookup
  intro other
  by_cases same : other = fd
  · subst same
    rw [agrees.mirror, lookup_eq_none_of_unused agrees unused,
      Finmap.lookup_erase]
    rfl
  · rw [Finmap.lookup_erase_ne same]

/-- `while (!fd_to_op.empty())` stops exactly when nothing is registered. -/
theorem fdToOp_eq_empty_iff (agrees : Agrees timerFd scheduler) :
    scheduler.fdToOp = ∅ ↔
      ∀ fd direction, scheduler.registry fd direction = none := by
  constructor
  · intro empty fd direction
    simp [registry, empty]
  · intro unused
    apply Finmap.ext_lookup
    intro fd
    rw [Finmap.lookup_empty]
    exact lookup_eq_none_of_unused agrees (unused fd)

end Scheduler

end AsyncFrame
