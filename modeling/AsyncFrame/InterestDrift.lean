import AsyncFrame.Lib.Runs
import AsyncFrame.TableCalls

/-!
# Table and kernel apart

`fd_to_op` is the scheduler's copy of the kernel's interest set.  Three things
change the one and not the other: `commit_to_epoll`, a submit for a descriptor
that is not open, and `close` of a descriptor that is still registered.  An
exception is taken to be caught, so that the calls go on with what the failed
one left behind.  `epoll_ctl` fails for what it is asked only, not for want of
memory, and no descriptor is duplicated.
-/

namespace AsyncFrame

open Lib

def EPOLLWAKEUP : Events := 0x20000000#32
def EPOLLEXCLUSIVE : Events := 0x10000000#32

/-- `EPOLLEXCLUSIVE` goes with these bits only. -/
def exclusiveOkBits : Events :=
  EPOLLIN ||| EPOLLOUT ||| EPOLLERR ||| EPOLLHUP ||| EPOLLWAKEUP |||
    EPOLLET ||| EPOLLEXCLUSIVE

namespace Scheduler

/-- `commit_to_epoll` tells the kernel, and stores nothing. -/
def commitToEpoll (injected : Option Errno) (scheduler : Scheduler) (fd : Fd)
    (ev : EpollEvent) : Outcome :=
  match scheduler.fdToOp.lookup fd with
  | none => scheduler.settle (scheduler.epollManager.add injected fd ev)
  | some found =>
      let ev : EpollEvent := ⟨ev.events ||| found.ev.events, fd⟩
      scheduler.settle (scheduler.epollManager.modify injected fd ev)

/-- `::close`: the kernel forgets the descriptor. -/
def closeFd (scheduler : Scheduler) (fd : Fd) : Scheduler :=
  { scheduler with
    epollManager := ⟨scheduler.epollManager.interest.erase fd⟩ }

/-- The table has an entry. -/
def known (scheduler : Scheduler) (fd : Fd) : Bool :=
  (scheduler.fdToOp.lookup fd).isSome

/-- The kernel watches the descriptor. -/
def watched (scheduler : Scheduler) (fd : Fd) : Bool :=
  (scheduler.epollManager.interest.lookup fd).isSome

/-- Table and kernel have the same descriptors. -/
def Synced (scheduler : Scheduler) : Prop :=
  ∀ fd, scheduler.known fd = scheduler.watched fd

/-- What happens to table and kernel. -/
inductive Contact where
  | call (call : Call)
  | commit (fd : Fd) (ev : EpollEvent)
  | openFd (fd : Fd)
  | closeFd (fd : Fd)
  deriving DecidableEq, Repr

def Contact.fd : Contact → Fd
  | .call made => made.fd
  | .commit fd _ => fd
  | .openFd fd => fd
  | .closeFd fd => fd

/-- The mask is one that the kernel takes at any time. -/
def Contact.plain : Contact → Bool
  | .commit _ ev => ev.events &&& EPOLLEXCLUSIVE = 0
  | _ => true

/-- The scheduler in its process, with the sockets, eventfds and timerfds that
are open. -/
structure Hosted where
  scheduler : Scheduler
  opened : Finset Fd

namespace Hosted

def initial (opened : Finset Fd) : Hosted := ⟨Scheduler.initial, opened⟩

/-- The kernel holds the descriptor with `EPOLLEXCLUSIVE`. -/
def exclusive (hosted : Hosted) (fd : Fd) : Bool :=
  (hosted.scheduler.epollManager.interest.lookup fd).any fun ev =>
    ev.events &&& EPOLLEXCLUSIVE ≠ 0

/-- Why `epoll_ctl` refuses, if not with `EEXIST` or `ENOENT`: the descriptor
is not open, or the request and `EPOLLEXCLUSIVE` do not go together. -/
def refusal (hosted : Hosted) (contact : Contact) : Option Errno :=
  if contact.fd ∉ hosted.opened then some EBADF
  else
    match contact with
    | .call call =>
        if call.request hosted.scheduler = some .modify ∧
            hosted.exclusive call.fd = true then
          some EINVAL
        else none
    | .commit fd ev =>
        if hosted.scheduler.known fd then
          if ev.events &&& EPOLLEXCLUSIVE ≠ 0 ∨
              hosted.exclusive fd = true then
            some EINVAL
          else none
        else if ev.events &&& EPOLLEXCLUSIVE ≠ 0 ∧
            ev.events &&& ~~~exclusiveOkBits ≠ 0 then
          some EINVAL
        else none
    | _ => none

def contact (hosted : Hosted) (contact : Contact) :
    Hosted × Option RuntimeError :=
  match contact with
  | .call call =>
      let outcome := call.perform (hosted.refusal contact) hosted.scheduler
      ({ hosted with scheduler := outcome.1 }, outcome.2)
  | .commit fd ev =>
      let outcome :=
        hosted.scheduler.commitToEpoll (hosted.refusal contact) fd ev
      ({ hosted with scheduler := outcome.1 }, outcome.2)
  | .openFd fd => ({ hosted with opened := insert fd hosted.opened }, none)
  | .closeFd fd =>
      ({ scheduler := hosted.scheduler.closeFd fd
         opened := hosted.opened.erase fd }, none)

/-- One step, whether it throws or not.  The kernel gives a new descriptor a
number that is not in use. -/
def proceed (hosted : Hosted) (contact : Contact) : Option Hosted :=
  match contact with
  | .openFd fd =>
      if fd ∈ hosted.opened then none else some (hosted.contact contact).1
  | _ => some (hosted.contact contact).1

/-- A submit is for a descriptor that is open; `commit_to_epoll` registers no
descriptor that the table does not have; and none is closed that it has. -/
def careful (hosted : Hosted) (contact : Contact) : Bool :=
  match contact with
  | .call (.submit _ fd _) => fd ∈ hosted.opened
  | .call (.remove _ _) => true
  | .commit fd _ =>
      hosted.scheduler.known fd || (hosted.refusal contact).isSome
  | .openFd _ => true
  | .closeFd fd => !hosted.scheduler.known fd

def Careful (hosted : Hosted) (contact : Contact) : Prop :=
  hosted.careful contact = true

instance : DecidableRel Careful :=
  fun hosted contact =>
    inferInstanceAs (Decidable (hosted.careful contact = true))

/-- The kernel watches open descriptors only. -/
def Confined (hosted : Hosted) : Prop :=
  ∀ fd, hosted.scheduler.watched fd = true → fd ∈ hosted.opened

/-- Nothing that can be called for an open descriptor throws. -/
def Serves (hosted : Hosted) : Prop :=
  ∀ contact : Contact, contact.fd ∈ hosted.opened → contact.plain = true →
    (hosted.contact contact).2 = none

end Hosted

/-- `EPOLLEXCLUSIVE` is in no mask of table or kernel. -/
structure Shared (scheduler : Scheduler) : Prop where
  table : ∀ fd state, scheduler.fdToOp.lookup fd = some state →
    state.ev.events &&& EPOLLEXCLUSIVE = 0
  kernel : ∀ fd ev, scheduler.epollManager.interest.lookup fd = some ev →
    ev.events &&& EPOLLEXCLUSIVE = 0

/-! ## One call -/

variable {scheduler : Scheduler} {fd : Fd}

/-- Only this descriptor was touched; afterwards the table has it, and the
kernel watches it, as the flags say. -/
structure Touched (scheduler next : Scheduler) (fd : Fd)
    (known watched : Bool) : Prop where
  known : next.known fd = known
  watched : next.watched fd = watched
  others : ∀ other, other ≠ fd →
    next.known other = scheduler.known other ∧
      next.watched other = scheduler.watched other

private theorem Touched.trans {middle next : Scheduler}
    {known watched known' watched' : Bool}
    (first : Touched scheduler middle fd known watched)
    (second : Touched middle next fd known' watched') :
    Touched scheduler next fd known' watched' where
  known := second.known
  watched := second.watched
  others other different :=
    ⟨(second.others other different).1.trans (first.others other different).1,
      (second.others other different).2.trans
        (first.others other different).2⟩

/-- The kernel is left alone. -/
private theorem touched_store (scheduler : Scheduler) (fd : Fd)
    (state : FdState) :
    Touched scheduler (scheduler.store fd state) fd true
      (scheduler.watched fd) where
  known := by simp [Scheduler.known, store]
  watched := rfl
  others other different := by
    simp only [Scheduler.known, Scheduler.watched, store,
      Finmap.lookup_insert_of_ne _ different, and_self]

/-- The table is left alone. -/
private theorem touched_interest {manager : EpollManager}
    {known watched : Bool} (entry : scheduler.known fd = known)
    (flag : (manager.interest.lookup fd).isSome = watched)
    (kept : ∀ other, other ≠ fd →
      manager.interest.lookup other =
        scheduler.epollManager.interest.lookup other) :
    Touched scheduler ⟨manager, scheduler.fdToOp⟩ fd known watched where
  known := entry
  watched := flag
  others other different := by
    simp only [Scheduler.known, Scheduler.watched, kept other different,
      and_self]

/-- `EPOLL_CTL_ADD` throws for a descriptor that is watched. -/
private theorem settle_add {known : Bool} (entry : scheduler.known fd = known)
    (injected : Option Errno) (ev : EpollEvent) :
    Touched scheduler
        (scheduler.settle (scheduler.epollManager.add injected fd ev)).1 fd
        known (scheduler.watched fd || injected.isNone) ∧
      (scheduler.settle
          (scheduler.epollManager.add injected fd ev)).2.isSome =
        (injected.isSome || scheduler.watched fd) := by
  cases injected with
  | some errno =>
      exact ⟨touched_interest entry (by simp [watched]) fun _ _ => rfl, rfl⟩
  | none =>
      cases interest : scheduler.epollManager.interest.lookup fd with
      | none =>
          simp only [EpollManager.add, interest, settle, watched]
          exact ⟨touched_interest entry (by simp) fun _ different =>
            Finmap.lookup_insert_of_ne _ different, rfl⟩
      | some found =>
          simp only [EpollManager.add, interest, settle, watched]
          exact ⟨touched_interest entry (by simp [interest])
            fun _ _ => rfl, rfl⟩

/-- `EPOLL_CTL_MOD` throws for a descriptor that is not watched. -/
private theorem settle_modify {known : Bool}
    (entry : scheduler.known fd = known) (injected : Option Errno)
    (ev : EpollEvent) :
    Touched scheduler
        (scheduler.settle (scheduler.epollManager.modify injected fd ev)).1 fd
        known (scheduler.watched fd) ∧
      (scheduler.settle
          (scheduler.epollManager.modify injected fd ev)).2.isSome =
        (injected.isSome || !scheduler.watched fd) := by
  cases injected with
  | some errno => exact ⟨touched_interest entry rfl fun _ _ => rfl, rfl⟩
  | none =>
      cases interest : scheduler.epollManager.interest.lookup fd with
      | none =>
          simp only [EpollManager.modify, interest, settle, watched]
          exact ⟨touched_interest entry (by simp [interest])
            fun _ _ => rfl, rfl⟩
      | some found =>
          simp only [EpollManager.modify, interest, settle, watched]
          exact ⟨touched_interest entry (by simp) fun _ different =>
            Finmap.lookup_insert_of_ne _ different, rfl⟩

private theorem store_add (injected : Option Errno) (state : FdState)
    (ev : EpollEvent) :
    Touched scheduler ((scheduler.store fd state).settle
        ((scheduler.store fd state).epollManager.add injected fd ev)).1 fd
        true (scheduler.watched fd || injected.isNone) ∧
      ((scheduler.store fd state).settle
          ((scheduler.store fd state).epollManager.add injected fd
            ev)).2.isSome =
        (injected.isSome || scheduler.watched fd) := by
  have stored := touched_store scheduler fd state
  have added := settle_add stored.known injected ev
  exact ⟨stored.trans added.1, added.2⟩

private theorem store_modify (injected : Option Errno) (state : FdState)
    (ev : EpollEvent) :
    Touched scheduler ((scheduler.store fd state).settle
        ((scheduler.store fd state).epollManager.modify injected fd ev)).1 fd
        true (scheduler.watched fd) ∧
      ((scheduler.store fd state).settle
          ((scheduler.store fd state).epollManager.modify injected fd
            ev)).2.isSome =
        (injected.isSome || !scheduler.watched fd) := by
  have stored := touched_store scheduler fd state
  have modified := settle_modify stored.known injected ev
  exact ⟨stored.trans modified.1, modified.2⟩

/-- A submit stores its entry, whatever the kernel answers. -/
theorem submit_contact (kind : CallKind) (injected : Option Errno) (fd : Fd)
    (op : FdOps) :
    Touched scheduler (kind.submit injected scheduler fd op).1 fd true
        (scheduler.watched fd ||
          (!scheduler.known fd && injected.isNone)) ∧
      (kind.submit injected scheduler fd op).2.isSome =
        (injected.isSome || scheduler.known fd != scheduler.watched fd) := by
  simp only [kind.submit_eq, submitEventImpl]
  cases entry : scheduler.fdToOp.lookup fd with
  | none =>
      have unknown : scheduler.known fd = false := by simp [known, entry]
      rw [unknown, Bool.not_false, Bool.true_and, Bool.false_bne]
      exact store_add injected _ _
  | some found =>
      have present : scheduler.known fd = true := by simp [known, entry]
      rw [present, Bool.not_true, Bool.false_and, Bool.or_false, Bool.true_bne]
      exact store_modify injected _ _

/-- A remove throws when the table has an entry and the kernel refuses, and
keeps that entry. -/
theorem remove_contact (kind : CallKind) (injected : Option Errno)
    (fd : Fd) :
    ∃ stays : Bool,
      Touched scheduler (kind.remove injected scheduler fd).1 fd
        (scheduler.known fd &&
          (stays || injected.isSome || !scheduler.watched fd))
        (scheduler.watched fd &&
          (stays || injected.isSome || !scheduler.known fd)) ∧
      (kind.remove injected scheduler fd).2.isSome =
        (scheduler.known fd && (injected.isSome || !scheduler.watched fd)) := by
  simp only [kind.remove_eq, removeOpImpl]
  cases entry : scheduler.fdToOp.lookup fd with
  | none =>
      have unknown : scheduler.known fd = false := by simp [known, entry]
      refine ⟨true, ?_, ?_⟩
      · exact touched_interest (by simp [unknown])
          (by simp [watched, unknown]) fun _ _ => rfl
      · simp [unknown]
  | some found =>
      have present : scheduler.known fd = true := by simp [known, entry]
      simp only [present, Bool.true_and, Bool.not_true, Bool.or_false]
      split
      · cases injected with
        | some errno =>
            refine ⟨true, ?_, rfl⟩
            simp only [Bool.true_or, Bool.and_true]
            exact touched_store scheduler fd _
        | none =>
            cases interest : scheduler.epollManager.interest.lookup fd with
            | none =>
                simp only [EpollManager.remove, store, interest]
                refine ⟨true, ?_, by simp [watched, interest]⟩
                simp only [Bool.true_or, Bool.and_true]
                exact touched_store scheduler fd _
            | some ev =>
                simp only [EpollManager.remove, store, interest]
                refine ⟨false, ⟨?_, ?_, ?_⟩, by simp [watched, interest]⟩
                · simp [known, watched, interest]
                · simp [watched]
                · intro other different
                  simp only [known, watched, Finmap.lookup_erase_ne different,
                    Finmap.lookup_insert_of_ne _ different, and_self]
      · obtain ⟨touched, thrown⟩ := @store_modify scheduler fd injected _ _
        refine ⟨true, ?_, thrown⟩
        simp only [Bool.true_or, Bool.and_true]
        exact touched

/-- `commit_to_epoll` leaves the table alone. -/
theorem commit_contact (injected : Option Errno) (fd : Fd)
    (ev : EpollEvent) :
    Touched scheduler (scheduler.commitToEpoll injected fd ev).1 fd
        (scheduler.known fd)
        (scheduler.watched fd ||
          (!scheduler.known fd && injected.isNone)) ∧
      (scheduler.commitToEpoll injected fd ev).2.isSome =
        (injected.isSome || scheduler.known fd != scheduler.watched fd) := by
  simp only [commitToEpoll]
  cases entry : scheduler.fdToOp.lookup fd with
  | none =>
      have unknown : scheduler.known fd = false := by simp [known, entry]
      rw [unknown, Bool.not_false, Bool.true_and, Bool.false_bne]
      exact settle_add unknown injected ev
  | some found =>
      have present : scheduler.known fd = true := by simp [known, entry]
      rw [present, Bool.not_true, Bool.false_and, Bool.or_false, Bool.true_bne]
      exact settle_modify present injected _

private theorem close_contact (fd : Fd) :
    Touched scheduler (scheduler.closeFd fd) fd (scheduler.known fd) false :=
  touched_interest rfl (by simp)
    fun _ different => Finmap.lookup_erase_ne different

/-! ## Masks -/

section Masks

variable {Value : Type*} {entries : Finmap fun _ : Fd => Value}
variable {good : Value → Prop}

private theorem every_insert {value : Value}
    (every : ∀ fd found, entries.lookup fd = some found → good found)
    (here : good value) :
    ∀ other found, (entries.insert fd value).lookup other = some found →
      good found := by
  intro other found entry
  by_cases own : other = fd
  · rw [own, Finmap.lookup_insert] at entry
    exact Option.some.inj entry ▸ here
  · rw [Finmap.lookup_insert_of_ne _ own] at entry
    exact every other found entry

private theorem every_erase
    (every : ∀ fd found, entries.lookup fd = some found → good found) :
    ∀ other found, (entries.erase fd).lookup other = some found →
      good found := by
  intro other found entry
  by_cases own : other = fd
  · rw [own, Finmap.lookup_erase] at entry
    cases entry
  · rw [Finmap.lookup_erase_ne own] at entry
    exact every other found entry

end Masks

/-- Bits that are not `EPOLLEXCLUSIVE` may be set and cleared. -/
theorem plain_or {mask event : Events} (plain : mask &&& EPOLLEXCLUSIVE = 0)
    (other : event &&& EPOLLEXCLUSIVE = 0) :
    (mask ||| event) &&& EPOLLEXCLUSIVE = 0 := by
  rw [BitVec.and_or_distrib_right, plain, other]
  rfl

private theorem plain_clear {mask : Events} (event : Events)
    (plain : mask &&& EPOLLEXCLUSIVE = 0) :
    mask &&& ~~~event &&& EPOLLEXCLUSIVE = 0 := by
  rw [BitVec.and_assoc, BitVec.and_comm (~~~event), ← BitVec.and_assoc,
    plain]
  exact BitVec.zero_and

private theorem plain_event (kind : CallKind) :
    kind.event &&& EPOLLEXCLUSIVE = 0 := by
  cases kind <;> rfl

private theorem Shared.store (shared : scheduler.Shared) {state : FdState}
    (plain : state.ev.events &&& EPOLLEXCLUSIVE = 0) :
    (scheduler.store fd state).Shared :=
  ⟨every_insert shared.table plain, shared.kernel⟩

/-- An `epoll_ctl` that adds or modifies leaves the given mask there. -/
theorem Shared.settle (shared : scheduler.Shared)
    {called : Except RuntimeError EpollManager} {ev : EpollEvent}
    (plain : ev.events &&& EPOLLEXCLUSIVE = 0)
    (answer : ∀ manager, called = .ok manager →
      manager.interest = scheduler.epollManager.interest.insert fd ev) :
    (scheduler.settle called).1.Shared := by
  cases called with
  | error thrown => exact shared
  | ok manager =>
      refine ⟨shared.table, ?_⟩
      rw [show (scheduler.settle (.ok manager)).1.epollManager.interest =
        scheduler.epollManager.interest.insert fd ev from answer manager rfl]
      exact every_insert shared.kernel plain

private theorem interest_of_add {injected : Option Errno}
    {manager grown : EpollManager} {ev : EpollEvent}
    (added : manager.add injected fd ev = .ok grown) :
    grown.interest = manager.interest.insert fd ev := by
  unfold EpollManager.add at added
  split at added
  · cases added
  · split at added
    · cases added
    · cases added
      rfl

private theorem interest_of_modify {injected : Option Errno}
    {manager changed : EpollManager} {ev : EpollEvent}
    (modified : manager.modify injected fd ev = .ok changed) :
    changed.interest = manager.interest.insert fd ev := by
  unfold EpollManager.modify at modified
  split at modified
  · cases modified
  · split at modified
    · cases modified
      rfl
    · cases modified

private theorem Shared.submit (shared : scheduler.Shared) (kind : CallKind)
    (injected : Option Errno) (fd : Fd) (op : FdOps) :
    (kind.submit injected scheduler fd op).1.Shared := by
  simp only [kind.submit_eq, submitEventImpl]
  cases entry : scheduler.fdToOp.lookup fd with
  | none =>
      exact (shared.store (plain_event kind)).settle (plain_event kind)
        fun _ added => interest_of_add added
  | some found =>
      have plain := plain_or (shared.table fd found entry) (plain_event kind)
      exact (shared.store plain).settle plain
        fun _ modified => interest_of_modify modified

private theorem Shared.remove (shared : scheduler.Shared) (kind : CallKind)
    (injected : Option Errno) (fd : Fd) :
    (kind.remove injected scheduler fd).1.Shared := by
  simp only [kind.remove_eq, removeOpImpl]
  cases entry : scheduler.fdToOp.lookup fd with
  | none => exact shared
  | some found =>
      have plain := plain_clear kind.event (shared.table fd found entry)
      simp only
      split
      · split
        · rename_i manager removed
          refine ⟨every_erase (every_insert shared.table plain), ?_⟩
          unfold EpollManager.remove at removed
          split at removed
          · cases removed
          · split at removed
            · cases removed
              exact every_erase shared.kernel
            · cases removed
        · exact shared.store plain
      · exact (shared.store plain).settle plain
          fun _ modified => interest_of_modify modified

private theorem Shared.commit (shared : scheduler.Shared)
    {injected : Option Errno} {fd : Fd} {ev : EpollEvent}
    (plain : injected = none → ev.events &&& EPOLLEXCLUSIVE = 0) :
    (scheduler.commitToEpoll injected fd ev).1.Shared := by
  unfold commitToEpoll
  cases injected with
  | some errno => split <;> exact shared
  | none =>
      cases entry : scheduler.fdToOp.lookup fd with
      | none =>
          exact shared.settle (plain rfl)
            fun _ added => interest_of_add added
      | some found =>
          have merged := plain_or (plain rfl) (shared.table fd found entry)
          exact @Shared.settle _ _ shared _ ⟨_, fd⟩ merged
            fun _ modified => interest_of_modify modified

private theorem Shared.closeFd (shared : scheduler.Shared) (fd : Fd) :
    (scheduler.closeFd fd).Shared :=
  ⟨shared.table, every_erase shared.kernel⟩

/-! ## One contact -/

namespace Hosted

variable {hosted next : Hosted} {made : Contact}

private theorem proceed_eq (taken : hosted.proceed made = some next) :
    next = (hosted.contact made).1 := by
  cases made with
  | openFd fd =>
      simp only [proceed] at taken
      split at taken
      · cases taken
      · exact (Option.some.inj taken).symm
  | _ => exact (Option.some.inj taken).symm

private theorem refusal_of_closed (closed : made.fd ∉ hosted.opened) :
    hosted.refusal made = some EBADF :=
  if_pos closed

private theorem exclusive_of_shared (shared : hosted.scheduler.Shared)
    (fd : Fd) :
    hosted.exclusive fd = false := by
  unfold exclusive
  cases entry : hosted.scheduler.epollManager.interest.lookup fd with
  | none => rfl
  | some ev => simp [shared.kernel fd ev entry]

private theorem refusal_of_plain (opened : made.fd ∈ hosted.opened)
    (plain : made.plain = true) (shared : hosted.scheduler.Shared) :
    hosted.refusal made = none := by
  have open' : ¬ made.fd ∉ hosted.opened := not_not.mpr opened
  cases made with
  | call call =>
      simp only [refusal, if_neg open', exclusive_of_shared shared]
      exact if_neg (not_and_of_not_right _ Bool.false_ne_true)
  | commit fd ev =>
      have absent : ev.events &&& EPOLLEXCLUSIVE = 0 :=
        of_decide_eq_true plain
      simp only [refusal, if_neg open', exclusive_of_shared shared, absent]
      simp
  | openFd fd => exact if_neg open'
  | closeFd fd => exact if_neg open'

/-- A descriptor that is new to the table is added, and that needs an open
descriptor only. -/
theorem refusal_submit {kind : CallKind} {fd : Fd} {op : FdOps}
    (opened : fd ∈ hosted.opened)
    (unknown : hosted.scheduler.known fd = false) :
    hosted.refusal (.call (.submit kind fd op)) = none := by
  have missing : hosted.scheduler.fdToOp.lookup fd = none :=
    Option.isNone_iff_eq_none.mp (Option.isSome_eq_false_iff.mp unknown)
  have open' : ¬ (Contact.call (.submit kind fd op)).fd ∉ hosted.opened :=
    not_not.mpr opened
  simp only [refusal, if_neg open', Call.request, missing]
  exact if_neg (not_and_of_not_left _ (by decide))

private theorem opened_of_accepted
    (accepted : (hosted.refusal made).isNone = true) :
    made.fd ∈ hosted.opened := by
  by_contra closed
  rw [refusal_of_closed closed] at accepted
  cases accepted

/-- The kernel goes on watching open descriptors only. -/
theorem Confined.contact (confined : hosted.Confined) (made : Contact) :
    (hosted.contact made).1.Confined := by
  have reduced : ∀ {known watched : Bool},
      (hosted.contact made).1.opened = hosted.opened →
      Touched hosted.scheduler (hosted.contact made).1.scheduler made.fd
        known watched →
      (watched = true → made.fd ∈ hosted.opened) →
      (hosted.contact made).1.Confined := by
    intro known watched same touched here fd watches
    rw [same]
    by_cases own : fd = made.fd
    · rw [own, touched.watched] at watches
      rw [own]
      exact here watches
    · rw [(touched.others fd own).2] at watches
      exact confined fd watches
  rcases made with (⟨kind, fd, op⟩ | ⟨kind, fd⟩) | ⟨fd, ev⟩ | fd | fd
  · refine reduced rfl (submit_contact kind _ fd op).1 fun watches => ?_
    simp only [Bool.or_eq_true, Bool.and_eq_true] at watches
    exact watches.elim (confined fd) fun added => opened_of_accepted added.2
  · obtain ⟨stays, touched, _⟩ :=
      @remove_contact hosted.scheduler kind
        (hosted.refusal (.call (.remove kind fd))) fd
    refine reduced rfl touched fun watches => ?_
    simp only [Bool.and_eq_true] at watches
    exact confined fd watches.1
  · refine reduced rfl (commit_contact _ fd ev).1 fun watches => ?_
    simp only [Bool.or_eq_true, Bool.and_eq_true] at watches
    exact watches.elim (confined fd) fun added => opened_of_accepted added.2
  · intro other watches
    exact Finset.mem_insert_of_mem (confined other watches)
  · have closed := @close_contact hosted.scheduler fd
    intro other watches
    have different : other ≠ fd := by
      rintro rfl
      have forgotten := closed.watched
      rw [show hosted.scheduler.closeFd other =
        (hosted.contact (.closeFd other)).1.scheduler from rfl, watches]
        at forgotten
      cases forgotten
    refine Finset.mem_erase_of_ne_of_mem different (confined other ?_)
    exact (closed.others other different).2.symm.trans watches

/-- When table and kernel agree, and no mask has `EPOLLEXCLUSIVE`, nothing
throws that is called for an open descriptor. -/
theorem serves_of_synced (synced : hosted.scheduler.Synced)
    (shared : hosted.scheduler.Shared) : hosted.Serves := by
  intro made opened plain
  have accepted := refusal_of_plain opened plain shared
  have silent : (hosted.contact made).2.isSome = false →
      (hosted.contact made).2 = none := fun quiet =>
    Option.isNone_iff_eq_none.mp (Option.isSome_eq_false_iff.mp quiet)
  rcases made with (⟨kind, fd, op⟩ | ⟨kind, fd⟩) | ⟨fd, ev⟩ | fd | fd
  · apply silent
    refine (submit_contact kind _ fd op).2.trans ?_
    simp [accepted, synced fd]
  · obtain ⟨_, _, thrown⟩ := @remove_contact hosted.scheduler kind
      (hosted.refusal (.call (.remove kind fd))) fd
    apply silent
    refine thrown.trans ?_
    simp [accepted, synced fd]
  · apply silent
    refine (commit_contact _ fd ev).2.trans ?_
    simp [accepted, synced fd]
  · rfl
  · rfl

/-! ## Whole runs -/

/-- A step from an agreeing state keeps the agreement exactly if it is
careful. -/
theorem contact_synced_iff (synced : hosted.scheduler.Synced)
    (confined : hosted.Confined) (made : Contact) :
    (hosted.contact made).1.scheduler.Synced ↔
      hosted.careful made = true := by
  have reduced : ∀ {known watched : Bool},
      Touched hosted.scheduler (hosted.contact made).1.scheduler made.fd
        known watched →
      ((hosted.contact made).1.scheduler.Synced ↔ known = watched) := by
    intro known watched touched
    constructor
    · intro agrees
      rw [← touched.known, ← touched.watched]
      exact agrees made.fd
    · intro same other
      by_cases here : other = made.fd
      · rw [here, touched.known, touched.watched, same]
      · rw [(touched.others other here).1, (touched.others other here).2]
        exact synced other
  rcases made with (⟨kind, fd, op⟩ | ⟨kind, fd⟩) | ⟨fd, ev⟩ | fd | fd
  · rw [reduced (submit_contact kind _ fd op).1, synced fd, careful]
    by_cases opened : fd ∈ hosted.opened
    · cases flag : hosted.scheduler.watched fd with
      | true => simp [opened]
      | false =>
          have accepted : hosted.refusal (.call (.submit kind fd op)) =
              none := refusal_submit opened ((synced fd).trans flag)
          simp [accepted, opened]
    · have refused : hosted.refusal (.call (.submit kind fd op)) =
          some EBADF := refusal_of_closed opened
      have unwatched : hosted.scheduler.watched fd = false :=
        Bool.eq_false_iff.mpr fun watches => opened (confined fd watches)
      simp [refused, opened, unwatched]
  · obtain ⟨stays, touched, _⟩ := @remove_contact hosted.scheduler kind
      (hosted.refusal (.call (.remove kind fd))) fd
    rw [reduced touched, synced fd]
    simp [careful]
  · rw [reduced (commit_contact _ fd ev).1, careful, synced fd]
    cases hosted.scheduler.watched fd with
    | true => simp
    | false => cases hosted.refusal (.commit fd ev) <;> simp
  · exact iff_of_true synced rfl
  · rw [reduced (close_contact fd), careful]
    simp

/-- No careful step brings `EPOLLEXCLUSIVE` in. -/
theorem shared_contact (shared : hosted.scheduler.Shared)
    (careful : hosted.careful made = true) :
    (hosted.contact made).1.scheduler.Shared := by
  rcases made with (⟨kind, fd, op⟩ | ⟨kind, fd⟩) | ⟨fd, ev⟩ | fd | fd
  · exact shared.submit kind _ fd op
  · exact shared.remove kind _ fd
  · refine shared.commit fun accepted => ?_
    by_contra asked
    -- an open descriptor that the table has is not modified to be exclusive
    have known : hosted.scheduler.known fd = true := by
      simpa [Hosted.careful, accepted] using careful
    have opened : fd ∈ hosted.opened :=
      @opened_of_accepted hosted (.commit fd ev)
        (Option.isNone_iff_eq_none.mpr accepted)
    have open' : ¬ (Contact.commit fd ev).fd ∉ hosted.opened :=
      not_not.mpr opened
    simp only [refusal, if_neg open', known, if_true,
      if_pos (Or.inl asked)] at accepted
    cases accepted
  · exact shared
  · exact shared.closeFd fd

end Hosted

/-- A sequence of calls, commits, openings and closes is careful exactly if in
every state that it goes through `fd_to_op` and the kernel have the same
descriptors, and nothing that can be called for an open one throws. -/
theorem careful_iff_synced {opened : Finset Fd} {contacts : List Contact}
    {final : Hosted}
    (run : runFrom Hosted.proceed (.initial opened) contacts = some final) :
    Meets Hosted.proceed Hosted.Careful (.initial opened) contacts ↔
      Throughout Hosted.proceed
        (fun hosted => hosted.scheduler.Synced ∧ hosted.Serves)
        (.initial opened) contacts := by
  have initial : Hosted.Confined (.initial opened) := by
    intro fd watches
    cases watches
  have always : Meets Hosted.proceed (fun _ _ => True) (.initial opened)
      contacts := meets_of_forall_mem fun _ _ _ => trivial
  have keeps : ∀ {hosted : Hosted} {made : Contact} {next : Hosted},
      hosted.Confined → True → hosted.proceed made = some next →
        next.Confined := by
    intro hosted made next confined _ taken
    rw [Hosted.proceed_eq taken]
    exact confined.contact made
  constructor
  · intro careful
    have sound := (throughout_iff_meets_of_run Hosted.Confined
      (fun hosted => hosted.scheduler.Synced ∧ hosted.scheduler.Shared)
      (fun hosted made => hosted.Careful made) keeps ?_ initial
      ⟨fun _ => rfl, ⟨fun _ _ entry => ?_, fun _ _ entry => ?_⟩⟩
      always run).mpr careful
    · intro done inside hosted reached
      obtain ⟨synced, shared⟩ := sound done inside hosted reached
      exact ⟨synced, Hosted.serves_of_synced synced shared⟩
    · rintro hosted made next confined (_ : True) taken ⟨synced, shared⟩
      rw [Hosted.proceed_eq taken]
      have agreed := Hosted.contact_synced_iff synced confined made
      exact ⟨fun both => agreed.mp both.1, fun careful =>
        ⟨agreed.mpr careful, Hosted.shared_contact shared careful⟩⟩
    · cases entry
    · cases entry
  · intro throughout
    refine (throughout_iff_meets_of_run Hosted.Confined
      (fun hosted => hosted.scheduler.Synced) Hosted.Careful keeps ?_
      initial (fun _ => rfl) always run).mp
        fun done inside hosted reached =>
          (throughout done inside hosted reached).1
    rintro hosted made next confined (_ : True) taken synced
    rw [Hosted.proceed_eq taken]
    exact Hosted.contact_synced_iff synced confined made

/-- A socket is opened, read from and closed once the read is over; its number
is given out again. -/
theorem careful_iff_synced_sample :
    ∃ final, runFrom Hosted.proceed (.initial ∅)
        [.openFd 5, .call (.submit .read 5 { read := some ⟨10, .socket⟩ }),
          .call (.remove .read 5), .closeFd 5, .openFd 5] = some final ∧
      final.scheduler.Synced ∧ final.Serves := by
  obtain ⟨final, run⟩ := Option.isSome_iff_exists.mp (show (runFrom
      Hosted.proceed (.initial ∅)
        [.openFd 5, .call (.submit .read 5 { read := some ⟨10, .socket⟩ }),
          .call (.remove .read 5), .closeFd 5, .openFd 5]).isSome = true
    by decide)
  have careful : Meets Hosted.proceed Hosted.Careful (.initial ∅)
      [.openFd 5, .call (.submit .read 5 { read := some ⟨10, .socket⟩ }),
        .call (.remove .read 5), .closeFd 5, .openFd 5] := by
    decide
  exact ⟨final, run,
    (careful_iff_synced run).mp careful _ List.prefix_rfl final run⟩

/-! ## A registered descriptor is closed -/

namespace Hosted

variable {hosted : Hosted}

/-- The table has an entry that the kernel has forgotten. -/
def Orphaned (fd : Fd) (hosted : Hosted) : Prop :=
  hosted.scheduler.known fd = true ∧ hosted.scheduler.watched fd = false

private theorem Orphaned.contact (orphaned : hosted.Orphaned fd)
    (made : Contact) :
    (hosted.contact made).1.Orphaned fd := by
  obtain ⟨known, watched⟩ := orphaned
  have reduced : ∀ {entry interest : Bool},
      Touched hosted.scheduler (hosted.contact made).1.scheduler made.fd
        entry interest →
      (fd = made.fd → entry = true ∧ interest = false) →
      (hosted.contact made).1.Orphaned fd := by
    intro entry interest touched here
    by_cases same : fd = made.fd
    · obtain ⟨rfl, rfl⟩ := here same
      rw [same]
      exact ⟨touched.known, touched.watched⟩
    · exact ⟨(touched.others fd same).1.trans known,
        (touched.others fd same).2.trans watched⟩
  rcases made with (⟨kind, fd, op⟩ | ⟨kind, fd⟩) | ⟨fd, ev⟩ | fd | fd
  · refine reduced (submit_contact kind _ fd op).1 ?_
    rintro rfl
    simp [known, watched]
  · obtain ⟨stays, touched, _⟩ := @remove_contact hosted.scheduler kind
      (hosted.refusal (.call (.remove kind fd))) fd
    refine reduced touched ?_
    rintro rfl
    simp [known, watched]
  · refine reduced (commit_contact _ fd ev).1 ?_
    rintro rfl
    simp [known, watched]
  · exact ⟨known, watched⟩
  · refine reduced (close_contact fd) ?_
    rintro rfl
    exact ⟨known, rfl⟩

end Hosted

/-- Once a registered descriptor is closed its entry is never taken out again,
whatever is called or opened after that: every submit, remove or commit for it
throws, and the table that `running` waits to be empty never is. -/
theorem orphan_stays {hosted final : Hosted} {contacts : List Contact}
    (known : hosted.scheduler.known fd = true)
    (run : runFrom Hosted.proceed hosted (.closeFd fd :: contacts) =
      some final) :
    final.Orphaned fd ∧ final.scheduler.fdToOp ≠ ∅ ∧
      (∀ call : Call, call.fd = fd →
        (final.contact (.call call)).2.isSome = true) ∧
      ∀ ev, (final.contact (.commit fd ev)).2.isSome = true := by
  obtain ⟨closed, taken, later⟩ := runFrom_cons_eq_some run
  have start : closed.Orphaned fd := by
    rw [Hosted.proceed_eq taken]
    exact ⟨(close_contact fd).known.trans known, (close_contact fd).watched⟩
  have anyContact : Meets Hosted.proceed (fun _ _ => True) closed contacts :=
    meets_of_forall_mem fun _ _ _ => trivial
  have orphaned := invariant_of_run (Hosted.Orphaned fd)
    (fun {state made _} orphaned _ taken => by
      rw [Hosted.proceed_eq taken]
      exact orphaned.contact made)
    start anyContact later
  obtain ⟨stored, forgotten⟩ := orphaned
  refine ⟨⟨stored, forgotten⟩, ?_, ?_, ?_⟩
  · intro empty
    rw [Scheduler.known, empty, Finmap.lookup_empty] at stored
    cases stored
  · rintro (⟨kind, fd, op⟩ | ⟨kind, fd⟩) rfl
    · refine (submit_contact kind _ fd op).2.trans ?_
      simp only [Call.fd] at stored forgotten
      simp [stored, forgotten]
    · obtain ⟨_, _, thrown⟩ := @remove_contact final.scheduler kind
        (final.refusal (.call (.remove kind fd))) fd
      refine thrown.trans ?_
      simp only [Call.fd] at stored forgotten
      simp [stored, forgotten]
  · intro ev
    refine (commit_contact _ fd ev).2.trans ?_
    simp [stored, forgotten]

/-- Socket 5 is closed while a read is registered: its remove throws, and so
does the read of the next connection that gets the number. -/
theorem orphan_stays_sample :
    ∃ reading final, runFrom Hosted.proceed (.initial ∅)
        [.openFd 5, .call (.submit .read 5 { read := some ⟨10, .socket⟩ })] =
          some reading ∧
      runFrom Hosted.proceed reading
        [.closeFd 5, .call (.remove .read 5), .openFd 5] = some final ∧
      final.scheduler.fdToOp ≠ ∅ ∧ 5 ∈ final.opened ∧
      (final.contact (.call
        (.submit .read 5 { read := some ⟨20, .socket⟩ }))).2.isSome =
          true := by
  have registered : ∃ reading, runFrom Hosted.proceed (.initial ∅)
        [.openFd 5, .call (.submit .read 5 { read := some ⟨10, .socket⟩ })] =
          some reading ∧
      reading.scheduler.known 5 = true ∧
      (runFrom Hosted.proceed reading [.closeFd 5, .call (.remove .read 5),
        .openFd 5]).any (fun final => 5 ∈ final.opened) = true :=
    ⟨_, rfl, by decide, by decide⟩
  obtain ⟨reading, submitted, known, reopened⟩ := registered
  obtain ⟨final, run, opened⟩ := (Option.any_eq_true _ _).mp reopened
  obtain ⟨_, filled, throws, _⟩ := orphan_stays known run
  exact ⟨reading, final, submitted, run, filled, of_decide_eq_true opened,
    throws _ rfl⟩

end Scheduler

end AsyncFrame
