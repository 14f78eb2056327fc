import AsyncFrame.Draining
import Mathlib.Algebra.Order.BigOperators.Group.Finset

/-!
# What suspended operations occupy

The tables of the scheduler and of `TimerEvent` hold entries for suspended
operations only, besides the tombstones behind the current timer.  When
nothing is suspended nothing is left of all that was.
-/

namespace AsyncFrame

open Lib

namespace System

variable {queues : TimerQueue} {s : System queues}
variable {timerFd : Fd} {uptime : Nat} {buffers : BufferRef → Buffer}
variable {actions : List Action}

/-- The frames of the suspended operations with a timer. -/
def timed (s : System queues) : Finset Addr :=
  s.waiting.filter fun frame =>
    (s.pending frame).any fun op => op.operation.delay?.isSome

/-- Their timer structs. -/
def timers (s : System queues) : Finset OpPtr :=
  s.timed.image fun frame => ⟨frame, .timer⟩

/-- The socket and the eventfd of the operation suspended in a frame. -/
def descriptors (s : System queues) (frame : Addr) : Finset Fd :=
  match s.pending frame with
  | none => ∅
  | some op =>
      (op.operation.socket?.map Prod.fst).toFinset ∪
        op.operation.token?.toFinset

/-- What the suspended operations occupy: a live task and an active id for each
timer, and descriptors; the other tasks are tombstones behind `cur`. -/
structure Footprint (s : System queues) : Prop where
  live : (s.rt.timer.liveTasks.map
      fun task => (task.state.read, some task.timePoint)) =
    s.timers.val.map fun read => (some read, deadlines s.pending read)
  tombstones : (s.rt.timer.tasks.filter
      fun task => task.id ∈ s.rt.timer.cancelledTimerIds).map TimerTask.id =
    s.rt.timer.cancelledTimerIds.val
  active : s.rt.timer.activeTimerIds.keys = s.timers
  ids : ∀ task ∈ s.rt.timer.liveTasks, ∀ read,
    task.state.read = some read →
      s.rt.timer.activeTimerIds.lookup read = some task.id
  tasks : s.rt.timer.tasks.card =
    s.timed.card + s.rt.timer.cancelledTimerIds.card
  behind : ∀ task ∈ s.rt.timer.tasks,
    task.id ∈ s.rt.timer.cancelledTimerIds →
      task ∈ queues.elems s.rt.timer.waitingQueue ∧
        s.rt.timer.cur.timePoint ≤ task.timePoint
  table : s.rt.scheduler.fdToOp.keys.card ≤
    2 * s.waiting.card + min 1 s.timed.card
  interest : s.rt.scheduler.epollManager.interest.keys =
    s.rt.scheduler.fdToOp.keys

/-- Nothing is left of any operation. -/
structure Clean (s : System queues) : Prop where
  queue : queues.elems s.rt.timer.waitingQueue = 0
  current : s.rt.timer.cur = {}
  active : s.rt.timer.activeTimerIds = ∅
  tombstones : s.rt.timer.cancelledTimerIds = ∅
  disarmed : s.rt.timer.timerFd.setting = none
  table : s.rt.scheduler.fdToOp = ∅
  interest : s.rt.scheduler.epollManager.interest = ∅

private theorem eq_empty_of_keys {κ value : Type*} [DecidableEq κ]
    {map : Finmap fun _ : κ => value} (keys : map.keys = ∅) : map = ∅ := by
  apply Finmap.ext_lookup
  intro key
  rw [Finmap.lookup_empty, Finmap.lookup_eq_none, ← Finmap.mem_keys, keys]
  exact Finset.notMem_empty key

/-! ## The timers -/

private theorem mem_timed {frame : Addr} :
    frame ∈ s.timed ↔ ∃ op, s.pending frame = some op ∧
      op.operation.delay?.isSome = true := by
  simp only [timed, Finset.mem_filter, mem_waiting, Option.any_eq_true]
  constructor
  · rintro ⟨_, timed⟩
    exact timed
  · rintro ⟨op, waits, timed⟩
    exact ⟨by rw [waits]; rfl, op, waits, timed⟩

/-- The timers that stand for something are those of the suspended timed
operations. -/
theorem Good.deadlines_isSome (good : Good s) (read : OpPtr) :
    read ∈ s.timers ↔ (deadlines s.pending read).isSome = true := by
  rw [timers, Finset.mem_image, Iff.comm]
  constructor
  · intro present
    obtain ⟨deadline, present⟩ := Option.isSome_iff_exists.mp present
    obtain ⟨member, op, waits, set⟩ := deadlines_eq_some present
    obtain ⟨now, _, dated, _⟩ := good.sound.dated read.frame op waits
    rw [set, Operation.deadlineAt] at dated
    obtain ⟨delay, here, _⟩ := Option.map_eq_some_iff.mp dated.symm
    refine ⟨read.frame, mem_timed.mpr ⟨op, waits, by rw [here]; rfl⟩, ?_⟩
    rw [← member]
  · rintro ⟨frame, member, rfl⟩
    obtain ⟨op, waits, timed⟩ := mem_timed.mp member
    obtain ⟨delay, here⟩ := Option.isSome_iff_exists.mp timed
    obtain ⟨now, _, dated, _⟩ := good.sound.dated frame op waits
    rw [deadlines_timer, waits, Option.bind_some, dated,
      Operation.deadlineAt, here]
    rfl

private theorem card_timers (s : System queues) :
    s.timers.card = s.timed.card :=
  Finset.card_image_of_injective _ fun _ _ same => by cases same; rfl

private theorem Good.active_isSome (good : Good s) (read : OpPtr) :
    read ∈ s.timers ↔
      (s.rt.timer.activeTimerIds.lookup read).isSome = true := by
  have settled := good.sound.inOrder.settled
  have inactive := settled.represents.inactive_iff
    settled.wellFormed.booked.ledger read
  rw [good.deadlines_isSome, ← not_iff_not]
  simp only [Bool.not_eq_true, Option.isSome_eq_false_iff,
    Option.isNone_iff_eq_none]
  exact inactive.symm

/-- A tombstone is that of a task behind the current one. -/
theorem Good.behind (good : Good s) {task : TimerTask}
    (member : task ∈ s.rt.timer.tasks)
    (dead : task.id ∈ s.rt.timer.cancelledTimerIds) :
    task ∈ queues.elems s.rt.timer.waitingQueue ∧
      s.rt.timer.cur.timePoint ≤ task.timePoint := by
  have wellFormed := good.sound.inOrder.settled.wellFormed
  cases empty : s.rt.timer.currentEmpty with
  | true =>
      rw [TimerEvent.tasks_of_empty empty, (wellFormed.idle empty).2] at member
      exact absurd member (Multiset.notMem_zero task)
  | false =>
      rw [TimerEvent.tasks_of_nonempty empty] at member
      rcases Multiset.mem_cons.mp member with rfl | queued
      · exact absurd dead (wellFormed.live empty)
      · exact ⟨queued, wellFormed.least empty task queued⟩

/-! ## The table -/

private theorem card_descriptors (s : System queues) (frame : Addr) :
    (s.descriptors frame).card ≤ 2 := by
  unfold descriptors
  split
  · exact Nat.zero_le _
  · rename_i op _
    refine (Finset.card_union_le _ _).trans ?_
    cases op.operation.socket? <;> cases op.operation.token? <;>
      simp

/-- Every entry is for a descriptor of a suspended operation, or for the
timerfd. -/
theorem Good.entry_cases (good : Good s) {fd : Fd}
    (member : fd ∈ s.rt.scheduler.fdToOp.keys) :
    fd = s.rt.timer.fd ∧ s.rt.timer.currentEmpty = false ∨
      fd ∈ s.waiting.biUnion s.descriptors := by
  obtain ⟨state, entry⟩ :=
    Finmap.mem_iff.mp (Finmap.mem_keys.mp member)
  have sound := good.sound.inOrder.agrees.sound fd state entry
  obtain ⟨direction, pointer, found⟩ : ∃ direction pointer,
      s.rt.scheduler.registry fd direction = some pointer := by
    rcases sound.used with reads | writes
    · obtain ⟨pointer, here⟩ := Option.isSome_iff_exists.mp reads
      exact ⟨.read, pointer,
        (Scheduler.registry_of_lookup entry .read).trans here⟩
    · obtain ⟨pointer, here⟩ := Option.isSome_iff_exists.mp writes
      exact ⟨.write, pointer,
        (Scheduler.registry_of_lookup entry .write).trans here⟩
  rcases good.sound.held fd direction pointer found with
    ⟨rfl, _⟩ | ⟨op, waits, holds⟩
  · exact Or.inl ⟨rfl, good.timer_entry.mp (by rw [entry]; rfl)⟩
  · right
    rw [Finset.mem_biUnion]
    refine ⟨pointer.frame, mem_waiting.mpr (by rw [waits]; rfl), ?_⟩
    rw [descriptors, waits, Finset.mem_union]
    rcases holds with ⟨_, socket⟩ | ⟨_, token, _⟩
    · left
      simp [socket]
    · right
      simp [token]

/-- The timerfd has an entry only for a timed operation. -/
theorem Good.timed_nonempty (good : Good s)
    (nonempty : s.rt.timer.currentEmpty = false) : 0 < s.timed.card := by
  obtain ⟨frame, op, waits, timed⟩ := good.timed_iff.mp nonempty
  exact Finset.card_pos.mpr ⟨frame, mem_timed.mpr ⟨op, waits, timed⟩⟩

private theorem Good.card_table (good : Good s) :
    s.rt.scheduler.fdToOp.keys.card ≤
      2 * s.waiting.card + min 1 s.timed.card := by
  have occupied : (s.waiting.biUnion s.descriptors).card ≤
      2 * s.waiting.card := by
    rw [Nat.mul_comm]
    exact Finset.card_biUnion_le_card_mul _ _ 2
      fun frame _ => s.card_descriptors frame
  cases empty : s.rt.timer.currentEmpty with
  | true =>
      have inside : s.rt.scheduler.fdToOp.keys ⊆
          s.waiting.biUnion s.descriptors := by
        intro fd member
        rcases good.entry_cases member with ⟨_, nonempty⟩ | here
        · rw [empty] at nonempty
          cases nonempty
        · exact here
      exact ((Finset.card_le_card inside).trans occupied).trans
        (Nat.le_add_right _ _)
  | false =>
      have inside : s.rt.scheduler.fdToOp.keys ⊆
          insert s.rt.timer.fd (s.waiting.biUnion s.descriptors) := by
        intro fd member
        rw [Finset.mem_insert]
        exact (good.entry_cases member).imp And.left id
      have timed := good.timed_nonempty empty
      have counted := (Finset.card_le_card inside).trans
        (Finset.card_insert_le _ _)
      omega

private theorem interest_keys {timerFd : Fd} {scheduler : Scheduler}
    (agrees : Scheduler.Agrees timerFd scheduler) :
    scheduler.epollManager.interest.keys = scheduler.fdToOp.keys := by
  ext fd
  rw [Finmap.mem_keys, Finmap.mem_keys, ← Finmap.lookup_isSome,
    ← Finmap.lookup_isSome, agrees.mirror, Option.isSome_map]

private theorem Good.footprint (good : Good s) : Footprint s where
  live := by
    have settled := good.sound.inOrder.settled
    have booked := settled.wellFormed.booked
    exact settled.represents.map_live booked.ledger
      (fun task member => (booked.timed task member).2) s.timers
      good.deadlines_isSome
  tombstones := good.sound.inOrder.settled.wellFormed.booked.ledger.map_buried
  active := by
    ext read
    rw [good.active_isSome, Finmap.lookup_isSome, Finmap.mem_keys]
  ids task member read named := by
    obtain ⟨scheduled, live⟩ := TimerEvent.mem_liveTasks.mp member
    exact good.sound.inOrder.settled.wellFormed.booked.ledger.active_of_live
      scheduled live named
  tasks := by
    have settled := good.sound.inOrder.settled
    have booked := settled.wellFormed.booked
    rw [← card_timers]
    exact settled.represents.card_entries booked.ledger
      (fun task member => (booked.timed task member).2) s.timers
      good.deadlines_isSome
  behind _ member dead := good.behind member dead
  table := good.card_table
  interest := interest_keys good.sound.inOrder.agrees

private theorem Good.clean (good : Good s) (calm : s.waiting = ∅) :
    Clean s := by
  have settled := good.sound.inOrder.settled
  have quiet := pending_of_waiting calm
  have empty : s.rt.timer.currentEmpty = true := by
    by_contra nonempty
    obtain ⟨frame, op, waits, _⟩ :=
      good.timed_iff.mp (Bool.eq_false_iff.mpr nonempty)
    rw [quiet] at waits
    cases waits
  have untimed : s.timed = ∅ := by
    rw [timed, calm]
    rfl
  have footprint := good.footprint
  have idle := settled.wellFormed.idle empty
  have counted := footprint.tasks
  rw [TimerEvent.tasks_of_empty empty, idle.2, untimed] at counted
  have active := footprint.active
  rw [timers, untimed, Finset.image_empty] at active
  have setting := settled.armed.setting
  rw [empty, if_pos rfl] at setting
  have table := good.table_of_quiet quiet
  refine ⟨idle.2, idle.1, ?_, ?_, setting, table, ?_⟩
  · exact eq_empty_of_keys active
  · exact Finset.card_eq_zero.mp (by simpa using counted.symm)
  · have keys := footprint.interest
    rw [table, Finmap.keys_empty] at keys
    exact eq_empty_of_keys keys

/-- In every reachable state the live tasks and the active ids are exactly those
of the suspended timed operations, the other tasks are the tombstones behind
the current timer, and table and interest set have at most two entries for
each suspended operation and one for the timerfd.  When nothing is suspended
all of them are empty, and the timerfd is disarmed. -/
theorem footprint_of_run
    (reached : Reaches KeepsPending timerFd uptime buffers actions s) :
    Footprint s ∧ (s.waiting = ∅ → Clean s) := by
  have good := reached.good fun _ _ keeps => keeps
  exact ⟨good.footprint, good.clean⟩

/-- A read with a timeout has got a byte of two: its first timer is a
tombstone. -/
theorem footprint_of_run_sample :
    ∃ s : System TimerQueue.sorted,
      Reaches KeepsPending 3 100 (fun _ => ⟨[0, 0], 0⟩)
        [.openFd 5 .socket, .spawn 1, .await 10 (.waitFor 80) {}, .spawn 2,
          .await 20 (.asyncReadTimeout ⟨5, 0, none⟩ 90) {}, .run,
          .epollWait [⟨EPOLLIN, 5⟩],
          .dispatch { recv := .received [7] }] s ∧
      s.timed.card = 2 ∧ s.rt.timer.cancelledTimerIds.card = 1 ∧
      s.rt.timer.tasks.card = 3 := by
  refine (exists_reaches (fun s => s.timed.card = 2 &&
    s.rt.timer.cancelledTimerIds.card = 1) ?_ ?_).imp
      fun s ⟨reached, counted⟩ => ⟨reached, ?_⟩
  · decide +kernel
  · decide +kernel
  · simp only [Bool.and_eq_true, decide_eq_true_eq] at counted
    refine ⟨counted.1, counted.2, ?_⟩
    rw [(footprint_of_run reached).1.tasks, counted.1, counted.2]

end System

end AsyncFrame
