import AsyncFrame.Lib.Runs
import AsyncFrame.Scheduler

/-!
# Sequences of calls on the registration table

The twelve `submit_*` and `remove_*` functions as calls of one machine.  A
call requests one change of the kernel's interest set, or none, and throws
exactly if the kernel refuses it.
-/

namespace AsyncFrame

open Lib

/-- Which of the `submit_*` or `remove_*` functions. -/
inductive CallKind where
  | read
  | write
  | connect
  | accept
  | cancel
  | timer
  deriving DecidableEq, Repr

namespace CallKind

def direction : CallKind → Direction
  | .read => .read
  | .write => .write
  | .connect => .write
  | .accept => .read
  | .cancel => .read
  | .timer => .read

/-- The mask that the functions of this kind pass on. -/
def event : CallKind → Events
  | .read => RegisterType.eventRead.toUnderlying
  | .write => RegisterType.eventWrite.toUnderlying
  | .connect => RegisterType.eventConnect.toUnderlying
  | .accept => RegisterType.eventAccept.toUnderlying
  | .cancel => RegisterType.eventRead.toUnderlying
  | .timer => RegisterType.eventTimer.toUnderlying

/-- `submit_read`, `submit_write`, and so on. -/
def submit (kind : CallKind) (injected : Option Errno)
    (scheduler : Scheduler) (fd : Fd) (op : FdOps) : Scheduler.Outcome :=
  match kind with
  | .read => scheduler.submitRead injected fd op
  | .write => scheduler.submitWrite injected fd op
  | .connect => scheduler.submitConnect injected fd op
  | .accept => scheduler.submitAccept injected fd op
  | .cancel => scheduler.submitCancel injected fd op
  | .timer => scheduler.submitTimer injected fd op

/-- `remove_read`, `remove_write`, and so on. -/
def remove (kind : CallKind) (injected : Option Errno)
    (scheduler : Scheduler) (fd : Fd) : Scheduler.Outcome :=
  match kind with
  | .read => scheduler.removeRead injected fd
  | .write => scheduler.removeWrite injected fd
  | .connect => scheduler.removeConnect injected fd
  | .accept => scheduler.removeAccept injected fd
  | .cancel => scheduler.removeCancel injected fd
  | .timer => scheduler.removeTimer injected fd

end CallKind

/-- A call on the registration half of a scheduler. -/
inductive Call where
  | submit (kind : CallKind) (fd : Fd) (op : FdOps)
  | remove (kind : CallKind) (fd : Fd)
  deriving DecidableEq, Repr

/-- The three requests that `epoll_ctl` takes. -/
inductive Request where
  | add
  | modify
  | remove
  deriving DecidableEq, Repr

def Request.issue (injected : Option Errno) (manager : EpollManager)
    (fd : Fd) (ev : EpollEvent) : Request → Except RuntimeError EpollManager
  | .add => manager.add injected fd ev
  | .modify => manager.modify injected fd ev
  | .remove => manager.remove injected fd

namespace Call

def kind : Call → CallKind
  | .submit kind _ _ => kind
  | .remove kind _ => kind

def fd : Call → Fd
  | .submit _ fd _ => fd
  | .remove _ fd => fd

/-- The pointer that the call registers; a remove clears it. -/
def pointer : Call → Option OpPtr
  | .submit kind _ op => op.pointer kind.direction
  | .remove _ _ => none

def perform (injected : Option Errno) (scheduler : Scheduler) :
    Call → Scheduler.Outcome
  | .submit kind fd op => kind.submit injected scheduler fd op
  | .remove kind fd => kind.remove injected scheduler fd

/-- What the call asks of the kernel. -/
def request (scheduler : Scheduler) : Call → Option Request
  | .submit _ fd _ =>
      match scheduler.fdToOp.lookup fd with
      | none => some .add
      | some _ => some .modify
  | .remove kind fd =>
      (scheduler.fdToOp.lookup fd).map fun found =>
        if found.ev.events &&& ~~~kind.event = 0 then .remove else .modify

/-- What the call asks for is there already: the bits and the pointer of its
direction, or neither of them. -/
def alreadyDone (scheduler : Scheduler) : Call → Bool
  | .submit kind fd op =>
      (scheduler.fdToOp.lookup fd).any fun found =>
        found.ev.events ||| kind.event = found.ev.events &&
          found.pointer kind.direction = op.pointer kind.direction
  | .remove kind fd =>
      (scheduler.fdToOp.lookup fd).all fun found =>
        found.ev.events &&& kind.event = 0 &&
          found.pointer kind.direction = none

/-- A submit passes a pointer for its direction. -/
def passesPointer : Call → Bool
  | .submit kind _ op => (op.pointer kind.direction).isSome
  | .remove _ _ => true

/-- The callers' side of the table: pointers are passed, and the timerfd and
only it goes through the timer calls. -/
def Admitted (timerFd : Fd) (call : Call) : Prop :=
  (call.kind = .timer ↔ call.fd = timerFd) ∧ call.passesPointer = true

instance (timerFd : Fd) (call : Call) : Decidable (call.Admitted timerFd) :=
  inferInstanceAs (Decidable (_ ∧ _))

end Call

/-! ## One call -/

private theorem CallKind.event_eq (kind : CallKind) :
    kind.event = eventOf (kind = .timer) kind.direction := by
  cases kind <;> rfl

private theorem CallKind.event_of {kind : CallKind} {timerFd fd : Fd}
    (timed : kind = .timer ↔ fd = timerFd) :
    kind.event = eventOf (fd = timerFd) kind.direction := by
  rw [kind.event_eq]
  simp only [timed]

theorem CallKind.submit_eq (kind : CallKind) (injected : Option Errno)
    (scheduler : Scheduler) (fd : Fd) (op : FdOps) :
    kind.submit injected scheduler fd op =
      scheduler.submitEventImpl injected fd op kind.event := by
  cases kind <;> rfl

theorem CallKind.remove_eq (kind : CallKind) (injected : Option Errno)
    (scheduler : Scheduler) (fd : Fd) :
    kind.remove injected scheduler fd =
      scheduler.removeOpImpl injected fd kind.event := by
  cases kind <;> rfl

private theorem maskOf_reads (timer reads writes : Bool) :
    maskOf timer reads writes &&& EPOLLIN ≠ 0 ↔ reads = true := by
  cases timer <;> cases reads <;> cases writes <;> decide

private theorem maskOf_writes (timer reads writes : Bool) :
    maskOf timer reads writes &&& EPOLLOUT ≠ 0 ↔ writes = true := by
  cases timer <;> cases reads <;> cases writes <;> decide

private theorem maskOf_edge (timer reads writes : Bool) :
    maskOf timer reads writes &&& EPOLLET ≠ 0 ↔
      timer = true ∧ reads = true := by
  cases timer <;> cases reads <;> cases writes <;> decide

namespace Scheduler

variable {injected : Option Errno} {scheduler : Scheduler} {fd : Fd}

/-- A call that throws leaves what it had stored. -/
theorem settle_of_thrown {called : Except RuntimeError EpollManager}
    {thrown : RuntimeError}
    (failed : (scheduler.settle called).2 = some thrown) :
    (scheduler.settle called).1 = scheduler := by
  cases called with
  | ok manager => cases failed
  | error error => rfl

private theorem store_eq_self_iff {state : FdState} :
    (scheduler.store fd state).fdToOp = scheduler.fdToOp ↔
      scheduler.fdToOp.lookup fd = some state := by
  constructor
  · intro same
    rw [← same]
    exact Finmap.lookup_insert _
  · intro found
    apply Finmap.ext_lookup
    intro other
    by_cases here : other = fd
    · subst here
      rw [found]
      exact Finmap.lookup_insert _
    · exact Finmap.lookup_insert_of_ne _ here

end Scheduler

private theorem Events.eq_and_not_self_iff (mask event : Events) :
    mask = mask &&& ~~~event ↔ mask &&& event = 0 := by
  constructor
  · intro kept
    rw [kept, BitVec.and_assoc, BitVec.and_comm (~~~event) event]
    simp
  · intro apart
    have split : mask &&& (event ||| ~~~event) = mask := by
      rw [BitVec.or_not_self, BitVec.and_allOnes]
    rw [BitVec.and_or_distrib_left, apart] at split
    simpa using split.symm

/-- What the kernel can report for an entry concerns one of its pointers. -/
theorem ready_of_reported {timer reads writes : Bool} {ready : Events}
    (something : ready ≠ 0)
    (reported : ready &&& ~~~((maskOf timer reads writes &&& ~~~EPOLLET) |||
      EPOLLERR ||| EPOLLHUP) = 0)
    (used : reads = true ∨ writes = true) :
    readReady ready = true ∧ reads = true ∨
      writeReady ready = true ∧ writes = true := by
  have within := (Events.eq_and_not_self_iff ready _).mpr reported
  rw [BitVec.not_not] at within
  by_contra neither
  rw [not_or] at neither
  apply something
  rw [within]
  cases reads with
  | true =>
      have noRead : ready &&& (EPOLLIN ||| EPOLLERR ||| EPOLLHUP) = 0 := by
        simpa [readReady] using neither.1
      cases writes with
      | true =>
          have noWrite :
              ready &&& (EPOLLOUT ||| EPOLLERR ||| EPOLLHUP) = 0 := by
            simpa [writeReady] using neither.2
          have both : (maskOf timer true true &&& ~~~EPOLLET) ||| EPOLLERR |||
              EPOLLHUP = (EPOLLIN ||| EPOLLERR ||| EPOLLHUP) |||
                (EPOLLOUT ||| EPOLLERR ||| EPOLLHUP) := by
            cases timer <;> decide
          rw [both, BitVec.and_or_distrib_left, noRead, noWrite]
          rfl
      | false =>
          have one : (maskOf timer true false &&& ~~~EPOLLET) ||| EPOLLERR |||
              EPOLLHUP = EPOLLIN ||| EPOLLERR ||| EPOLLHUP := by
            cases timer <;> decide
          rw [one, noRead]
  | false =>
      cases writes with
      | true =>
          have noWrite :
              ready &&& (EPOLLOUT ||| EPOLLERR ||| EPOLLHUP) = 0 := by
            simpa [writeReady] using neither.2
          have one : (maskOf timer false true &&& ~~~EPOLLET) ||| EPOLLERR |||
              EPOLLHUP = EPOLLOUT ||| EPOLLERR ||| EPOLLHUP := by
            cases timer <;> decide
          rw [one, noWrite]
      | false => simp at used

namespace Call

/-- The call issues its one request, stores the interest set that comes of it,
and throws what the kernel's refusal throws. -/
theorem perform_issues (injected : Option Errno) (scheduler : Scheduler)
    (call : Call) :
    match call.request scheduler with
    | none => call.perform injected scheduler = (scheduler, none)
    | some request =>
        ∃ ev,
          match request.issue injected scheduler.epollManager call.fd ev with
          | .ok manager =>
              (call.perform injected scheduler).1.epollManager = manager ∧
                (call.perform injected scheduler).2 = none
          | .error thrown =>
              (call.perform injected scheduler).1.epollManager =
                  scheduler.epollManager ∧
                (call.perform injected scheduler).2 = some thrown := by
  cases call with
  | submit kind fd op =>
      simp only [request, perform, kind.submit_eq, Call.fd,
        Scheduler.submitEventImpl]
      cases found : scheduler.fdToOp.lookup fd with
      | none =>
          refine ⟨⟨kind.event, fd⟩, ?_⟩
          simp only [Request.issue, Scheduler.store]
          cases issued : scheduler.epollManager.add injected fd
            ⟨kind.event, fd⟩ <;> exact ⟨rfl, rfl⟩
      | some state =>
          refine ⟨⟨state.ev.events ||| kind.event, state.ev.fd⟩, ?_⟩
          simp only [Request.issue, Scheduler.store]
          cases issued : scheduler.epollManager.modify injected fd
            ⟨state.ev.events ||| kind.event, state.ev.fd⟩ <;>
              exact ⟨rfl, rfl⟩
  | remove kind fd =>
      simp only [request, perform, kind.remove_eq, Call.fd,
        Scheduler.removeOpImpl]
      cases found : scheduler.fdToOp.lookup fd with
      | none => rfl
      | some state =>
          refine ⟨⟨state.ev.events &&& ~~~kind.event, state.ev.fd⟩, ?_⟩
          simp only [Scheduler.store]
          by_cases empty : state.ev.events &&& ~~~kind.event = 0
          · simp only [empty, if_true, Request.issue]
            cases issued : scheduler.epollManager.remove injected fd <;>
              exact ⟨rfl, rfl⟩
          · simp only [empty, if_false, Request.issue]
            cases issued : scheduler.epollManager.modify injected fd
              ⟨state.ev.events &&& ~~~kind.event, state.ev.fd⟩ <;>
                exact ⟨rfl, rfl⟩

/-! ## A call that throws -/

/-- The entry that a submit stores is the one it found. -/
theorem merged_eq_iff (kind : CallKind) (op : FdOps) (found : FdState) :
    found =
        { ev := ⟨found.ev.events ||| kind.event, found.ev.fd⟩
          read :=
            if kind.event &&& RegisterType.eventRead.toUnderlying ≠ 0 then
              op.read
            else found.read
          write :=
            if kind.event &&& RegisterType.eventWrite.toUnderlying ≠ 0 then
              op.write
            else found.write } ↔
      found.ev.events ||| kind.event = found.ev.events ∧
        found.pointer kind.direction = op.pointer kind.direction := by
  obtain ⟨⟨events, fd⟩, read, write⟩ := found
  simp only [kind.event_eq, eventOf_touches_read, eventOf_touches_write]
  cases kind.direction <;>
    simp [FdState.pointer, FdOps.pointer, eq_comm]

/-- The entry that a remove stores is the one it found. -/
theorem narrowed_eq_iff (kind : CallKind) (found : FdState) :
    found =
        { ev := ⟨found.ev.events &&& ~~~kind.event, found.ev.fd⟩
          read :=
            if kind.event &&& RegisterType.eventRead.toUnderlying ≠ 0 then
              none
            else found.read
          write :=
            if kind.event &&& RegisterType.eventWrite.toUnderlying ≠ 0 then
              none
            else found.write } ↔
      found.ev.events &&& kind.event = 0 ∧
        found.pointer kind.direction = none := by
  obtain ⟨⟨events, fd⟩, read, write⟩ := found
  simp only [kind.event_eq, eventOf_touches_read, eventOf_touches_write]
  cases kind.direction <;>
    simp [FdState.pointer, Events.eq_and_not_self_iff]

/-- For every table, every call and every reason for which `epoll_ctl` fails:
the kernel's interest set is what it was, and the table is what it was exactly
if the call found its entry as it would leave it. -/
theorem thrown_atomic_iff (injected : Option Errno) (scheduler : Scheduler)
    (call : Call) (thrown : RuntimeError)
    (failed : (call.perform injected scheduler).2 = some thrown) :
    (call.perform injected scheduler).1.epollManager =
        scheduler.epollManager ∧
      ((call.perform injected scheduler).1.fdToOp = scheduler.fdToOp ↔
        call.alreadyDone scheduler = true) := by
  constructor
  · have issued := perform_issues injected scheduler call
    split at issued
    · rw [issued] at failed
      cases failed
    · obtain ⟨ev, outcome⟩ := issued
      split at outcome
      · rw [outcome.2] at failed
        cases failed
      · exact outcome.1
  · cases call with
    | submit kind fd op =>
        simp only [perform, kind.submit_eq, Scheduler.submitEventImpl]
          at failed ⊢
        cases found : scheduler.fdToOp.lookup fd with
        | none =>
            simp only [found] at failed ⊢
            rw [Scheduler.settle_of_thrown failed,
              Scheduler.store_eq_self_iff, found]
            simp [alreadyDone, found]
        | some state =>
            simp only [found] at failed ⊢
            rw [Scheduler.settle_of_thrown failed,
              Scheduler.store_eq_self_iff, found, Option.some.injEq,
              merged_eq_iff]
            simp [alreadyDone, found]
    | remove kind fd =>
        simp only [perform, kind.remove_eq, Scheduler.removeOpImpl]
          at failed ⊢
        cases found : scheduler.fdToOp.lookup fd with
        | none =>
            simp only [found] at failed
            cases failed
        | some state =>
            simp only [found] at failed ⊢
            by_cases empty : state.ev.events &&& ~~~kind.event = 0
            · rw [if_pos empty] at failed ⊢
              split at failed
              · cases failed
              · simp only
                rw [Scheduler.store_eq_self_iff, found, Option.some.injEq,
                  narrowed_eq_iff]
                simp [alreadyDone, found]
            · rw [if_neg empty] at failed ⊢
              rw [Scheduler.settle_of_thrown failed,
                Scheduler.store_eq_self_iff, found, Option.some.injEq,
                narrowed_eq_iff]
              simp [alreadyDone, found]

/-- A submit that repeats the registration it finds, refused by the kernel. -/
theorem thrown_atomic_iff_sample :
    ((Call.submit .timer 3 { read := some ⟨12, .timer⟩ }).perform (some 12)
        (Scheduler.initial.submitTimer none 3
          { read := some ⟨12, .timer⟩ }).1).1.fdToOp =
      (Scheduler.initial.submitTimer none 3
        { read := some ⟨12, .timer⟩ }).1.fdToOp :=
  (thrown_atomic_iff (some 12)
    (Scheduler.initial.submitTimer none 3 { read := some ⟨12, .timer⟩ }).1
    (.submit .timer 3 { read := some ⟨12, .timer⟩ }) ⟨"modify", 12⟩
    (by decide +kernel)).2.mpr (by decide +kernel)

/-- `submit_read` of a new descriptor whose ADD the kernel refuses leaves an
entry that epoll does not know. -/
theorem thrown_counterexample :
    ((Call.submit .read 5 { read := some ⟨10, .socket⟩ }).perform (some 28)
        Scheduler.initial).2 = some ⟨"add", 28⟩ ∧
      ((Call.submit .read 5 { read := some ⟨10, .socket⟩ }).perform (some 28)
        Scheduler.initial).1.fdToOp ≠ Scheduler.initial.fdToOp := by
  decide +kernel

end Call

/-! ## Sequences of calls that do not throw -/

namespace Scheduler

/-- One call; none if it throws. -/
def call (scheduler : Scheduler) (call : Call) : Option Scheduler :=
  match call.perform none scheduler with
  | (next, none) => some next
  | (_, some _) => none

variable {timerFd : Fd} {scheduler : Scheduler}

/-- An admitted call does not throw, keeps the agreement, and is one update of
the registry. -/
theorem call_spec (agrees : Agrees timerFd scheduler) {call : Call}
    (admitted : call.Admitted timerFd) :
    ∃ next, scheduler.call call = some next ∧ Agrees timerFd next ∧
      next.registry =
        scheduler.registry.put call.fd call.kind.direction call.pointer := by
  obtain ⟨timed, present⟩ := admitted
  cases call with
  | submit kind fd op =>
      have event : kind.event = eventOf (fd = timerFd) kind.direction :=
        CallKind.event_of timed
      obtain ⟨pointer, named⟩ :=
        Option.isSome_iff_exists.mp present
      have timerReads : fd = timerFd → kind.direction = .read := by
        intro timer
        have same : kind = .timer := timed.mpr timer
        rw [same]
        rfl
      obtain ⟨next, called, nextAgrees, registry⟩ :=
        submit_spec agrees named timerReads
      refine ⟨next, ?_, nextAgrees, ?_⟩
      · simp only [Scheduler.call, Call.perform, kind.submit_eq]
        rw [event, called]
      · rw [registry]
        simp only [Call.fd, Call.kind, Call.pointer, named]
  | remove kind fd =>
      obtain ⟨next, called, nextAgrees, registry⟩ :=
        remove_spec agrees fd kind.direction
      have event : kind.event = eventOf (fd = timerFd) kind.direction :=
        CallKind.event_of timed
      refine ⟨next, ?_, nextAgrees, registry⟩
      simp only [Scheduler.call, Call.perform, kind.remove_eq]
      rw [event, called]

/-- The kernel knows a descriptor exactly if the table has an entry for it. -/
theorem request_known (agrees : Agrees timerFd scheduler) {call : Call}
    {request : Request} (made : call.request scheduler = some request) :
    request = .add ↔
      scheduler.epollManager.interest.lookup call.fd = none := by
  rw [agrees.mirror, Option.map_eq_none_iff]
  cases call with
  | submit kind fd op =>
      simp only [Call.request] at made
      split at made
      · rename_i unknown
        cases made
        exact iff_of_true rfl unknown
      · rename_i state found
        cases made
        exact iff_of_false (by simp) (by simp [Call.fd, found])
  | remove kind fd =>
      simp only [Call.request, Option.map_eq_some_iff] at made
      obtain ⟨state, found, rfl⟩ := made
      refine iff_of_false ?_ (by simp [Call.fd, found])
      split <;> simp

/-! ## Table and kernel -/

/-- The interest set is the table's, each entry's mask and pointers go
together, and each event that the kernel can report completes an operation. -/
structure Mirrors (timerFd : Fd) (scheduler : Scheduler) : Prop where
  masks : ∀ fd, scheduler.epollManager.interest.lookup fd =
    (scheduler.fdToOp.lookup fd).map FdState.ev
  reads : ∀ fd state, scheduler.fdToOp.lookup fd = some state →
    (state.ev.events &&& EPOLLIN ≠ 0 ↔ state.read ≠ none)
  writes : ∀ fd state, scheduler.fdToOp.lookup fd = some state →
    (state.ev.events &&& EPOLLOUT ≠ 0 ↔ state.write ≠ none)
  edge : ∀ fd state, scheduler.fdToOp.lookup fd = some state →
    (state.ev.events &&& EPOLLET ≠ 0 ↔ fd = timerFd)
  used : ∀ fd, scheduler.fdToOp.lookup fd ≠ none ↔
    ∃ direction, scheduler.registry fd direction ≠ none
  drained : scheduler.fdToOp = ∅ ↔
    ∀ fd direction, scheduler.registry fd direction = none
  completes : ∀ fd state ready, scheduler.fdToOp.lookup fd = some state →
    ready ≠ 0 →
    ready &&& ~~~((state.ev.events &&& ~~~EPOLLET) ||| EPOLLERR |||
      EPOLLHUP) = 0 →
    readReady ready = true ∧ state.read ≠ none ∨
      writeReady ready = true ∧ state.write ≠ none

private theorem Agrees.mirrors (agrees : Agrees timerFd scheduler) :
    scheduler.Mirrors timerFd where
  masks := agrees.mirror
  reads fd state found := by
    have sound := agrees.sound fd state found
    rw [sound.ev, maskOf_reads, ← Option.isSome_iff_ne_none]
  writes fd state found := by
    have sound := agrees.sound fd state found
    rw [sound.ev, maskOf_writes, ← Option.isSome_iff_ne_none]
  edge fd state found := by
    have sound := agrees.sound fd state found
    rw [sound.ev, maskOf_edge]
    constructor
    · intro timed
      exact of_decide_eq_true timed.1
    · intro timer
      have used := sound.used
      rw [sound.timerReads timer] at used
      exact ⟨decide_eq_true timer, by simpa using used⟩
  used fd := by
    constructor
    · intro present
      by_contra unused
      simp only [not_exists, not_not] at unused
      exact present (lookup_eq_none_of_unused agrees unused)
    · rintro ⟨direction, registered⟩ absent
      simp [registry, absent] at registered
  drained := fdToOp_eq_empty_iff agrees
  completes fd state ready found something reported := by
    have sound := agrees.sound fd state found
    rw [sound.ev] at reported
    have ready := ready_of_reported something reported
      (by simpa using sound.used)
    simpa [← Option.isSome_iff_ne_none] using ready

private theorem runFrom_call_spec :
    ∀ {calls : List Call} {scheduler : Scheduler},
      Agrees timerFd scheduler →
      (∀ call ∈ calls, call.Admitted timerFd) →
        ∃ final, runFrom call scheduler calls = some final ∧
          Agrees timerFd final
  | [], scheduler, agrees, _ => ⟨scheduler, rfl, agrees⟩
  | first :: rest, scheduler, agrees, admitted => by
      obtain ⟨next, called, nextAgrees, _⟩ :=
        call_spec agrees (admitted first List.mem_cons_self)
      obtain ⟨final, run, finalAgrees⟩ :=
        runFrom_call_spec nextAgrees fun later member =>
          admitted later (List.mem_cons_of_mem first member)
      refine ⟨final, ?_, finalAgrees⟩
      simp only [runFrom, called]
      exact run

/-- For every sequence of admitted calls from the empty scheduler: no call
throws, the table mirrors the kernel, and whatever is called next requests an
ADD exactly for a descriptor that the kernel does not know, does not throw,
and registers or clears its own direction of its own descriptor only. -/
theorem calls_mirror (timerFd : Fd) (calls : List Call)
    (admitted : ∀ call ∈ calls, call.Admitted timerFd) :
    ∃ final, runFrom call initial calls = some final ∧
      final.Mirrors timerFd ∧
      ∀ next : Call, next.Admitted timerFd →
        (∀ request, next.request final = some request →
          (request = .add ↔
            final.epollManager.interest.lookup next.fd = none)) ∧
        ∃ after, final.call next = some after ∧ after.Mirrors timerFd ∧
          after.registry =
            final.registry.put next.fd next.kind.direction next.pointer := by
  obtain ⟨final, run, agrees⟩ := runFrom_call_spec agrees_initial admitted
  refine ⟨final, run, agrees.mirrors, ?_⟩
  intro next allowed
  obtain ⟨after, called, afterAgrees, registry⟩ := call_spec agrees allowed
  exact ⟨fun request made => request_known agrees made, after, called,
    afterAgrees.mirrors, registry⟩

/-- A read and a write on socket 5 and a timer on descriptor 3; then the read
goes away. -/
theorem calls_mirror_sample :
    ∃ final, runFrom call initial
        [.submit .read 5 { read := some ⟨10, .socket⟩ },
          .submit .connect 5 { write := some ⟨11, .socket⟩ },
          .submit .timer 3 { read := some ⟨12, .timer⟩ },
          .remove .accept 5, .remove .read 6] = some final ∧
      final.Mirrors 3 ∧
      final.registry 5 .write = some ⟨11, .socket⟩ ∧
      ∃ after, final.call (.remove .write 5) = some after ∧
        after.Mirrors 3 := by
  have admitted : ∀ call ∈
      [Call.submit .read 5 { read := some ⟨10, .socket⟩ },
        .submit .connect 5 { write := some ⟨11, .socket⟩ },
        .submit .timer 3 { read := some ⟨12, .timer⟩ },
        .remove .accept 5, .remove .read 6], call.Admitted 3 := by
    decide
  obtain ⟨final, run, mirrors, later⟩ := calls_mirror 3 _ admitted
  have last : (Call.remove .write 5).Admitted 3 := by decide
  obtain ⟨after, called, afterMirrors, _⟩ := (later _ last).2
  refine ⟨final, run, mirrors, ?_, after, called, afterMirrors⟩
  have registered : (runFrom call initial
      [.submit .read 5 { read := some ⟨10, .socket⟩ },
        .submit .connect 5 { write := some ⟨11, .socket⟩ },
        .submit .timer 3 { read := some ⟨12, .timer⟩ },
        .remove .accept 5, .remove .read 6]).map
          (fun scheduler => scheduler.registry 5 .write) =
            some (some ⟨11, .socket⟩) := by
    decide +kernel
  rw [run] at registered
  simpa using registered

end Scheduler

end AsyncFrame
