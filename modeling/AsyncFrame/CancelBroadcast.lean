import AsyncFrame.Ledger

/-!
# Cancelling with a shared token

The copies of a token share one eventfd, and its read slot holds one op struct.
With at most one suspended operation for each token that operation is
registered there and is ended by the eventfd's event; a second one takes the
slot from the first.
-/

namespace AsyncFrame

open Lib

namespace System

variable {queues : TimerQueue} {s next : System queues} {action : Action}
variable {timerFd : Fd} {uptime : Nat} {buffers : BufferRef → Buffer}
variable {actions : List Action} {token : Fd}

/-- No operation is started with a token while another one with that token is
suspended. -/
def OneHolder (s : System queues) (action : Action) : Prop :=
  KeepsPending s action ∧ s.unshared .cancel action = true

instance : DecidableRel (@OneHolder queues) :=
  fun s action => inferInstanceAs (Decidable
    (KeepsPending s action ∧ s.unshared .cancel action = true))

/-- The same, while the token's eventfd stays open. -/
def HoldsOpen (token : Fd) (s : System queues) (action : Action) : Prop :=
  OneHolder s action ∧ action ≠ .closeFd token

instance : DecidableRel (@HoldsOpen queues token) :=
  fun s action => inferInstanceAs (Decidable
    (OneHolder s action ∧ action ≠ .closeFd token))

/-! ## What one step does under a cancelled token -/

theorem Move.mem_trace (move : Move action s next) {obs : Obs}
    (member : obs ∈ s.trace) : obs ∈ next.trace := by
  cases move with
  | calm _ _ _ _ _ _ _ _ _ _ _ trace => simp [trace, member]
  | suspends _ _ _ _ _ _ _ _ _ _ _ trace => simp [trace, member]
  | passes _ _ _ _ _ _ _ _ _ _ _ trace => simp [trace, member]
  | ends _ _ _ _ _ _ _ _ _ _ trace => simp [trace, member]
  | rounds _ _ _ _ _ _ _ _ _ _ _ _ _ _ _ trace => simp [trace, member]

/-- A token stays cancelled. -/
theorem Move.tokenFlag (move : Move action s next)
    (stays : action ≠ .closeFd token)
    (flag : s.rt.tokenFlag token = true) :
    next.rt.tokenFlag token = true := by
  have kept : ∀ {rt rt' : Runtime queues}, FilesKept rt rt' →
      rt.tokenFlag token = true → rt'.tokenFlag token = true := by
    intro rt rt' files before
    have same := files.cancelRequested (some token)
    exact same.trans before
  cases move with
  | calm _ _ _ _ _ _ _ _ _ flags => exact flags token stays flag
  | suspends _ _ _ _ _ _ _ _ _ leaves => exact kept leaves.files flag
  | passes _ _ _ _ _ _ _ _ _ _ leaves =>
      rcases leaves with ⟨_, same⟩ | ⟨_, _, leaves⟩
      · rw [same]
        exact flag
      · exact kept leaves.files flag
  | ends _ _ _ _ _ _ leaves => exact kept leaves.files flag
  | rounds _ _ _ _ _ _ _ _ _ _ _ left leaves =>
      exact kept leaves.files (kept left.files flag)

/-- No suspended operation holds the token. -/
def Released (token : Fd) (s : System queues) : Prop :=
  ∀ frame op, s.pending frame = some op → op.operation.token? ≠ some token

/-- The operation is suspended with the token, or was cancelled. -/
def Owed (token : Fd) (number : Nat) (s : System queues) : Prop :=
  (∃ frame op, s.pending frame = some op ∧ op.number = number ∧
    op.operation.token? = some token) ∨
  ∃ result, .finished number result ∈ s.trace ∧
    result.ec = operationCancelledError

theorem requested_of_flag {rt : Runtime queues} {operation : Operation}
    (flag : rt.tokenFlag token = true)
    (named : operation.token? = some token) :
    rt.cancelRequested operation.token? = true := by
  rw [named]
  exact flag

/-- Nothing is suspended with a cancelled token. -/
theorem Released.move (released : Released token s)
    (flag : s.rt.tokenFlag token = true) (move : Move action s next) :
    Released token next := by
  intro frame op waits named
  cases move with
  | calm _ _ pending => exact released frame op (pending ▸ waits) named
  | suspends started new _ _ _ _ _ quiet pending =>
      rw [pending] at waits
      by_cases same : frame = started
      · subst same
        rw [Function.update_self] at waits
        cases waits
        rw [requested_of_flag flag named] at quiet
        cases quiet
      · rw [Function.update_of_ne same] at waits
        exact released frame op waits named
  | passes _ _ _ _ _ _ _ _ _ pending =>
      exact released frame op (pending ▸ waits) named
  | ends pointer _ _ _ _ pending =>
      rw [pending] at waits
      by_cases same : frame = pointer.frame
      · rw [same, Function.update_self] at waits
        cases waits
      · rw [Function.update_of_ne same] at waits
        exact released frame op waits named
  | rounds pointer old again _ _ oldWaits operation _ _ _ pending =>
      rw [pending] at waits
      by_cases same : frame = pointer.frame
      · rw [same, Function.update_self] at waits
        cases waits
        exact released _ old oldWaits (operation ▸ named)
      · rw [Function.update_of_ne same] at waits
        exact released frame op waits named

/-- What is suspended with a cancelled token can only end as cancelled. -/
theorem Owed.move {number : Nat} (owed : Owed token number s)
    (flag : s.rt.tokenFlag token = true) (move : Move action s next) :
    Owed token number next := by
  rcases owed with ⟨frame, op, waits, counted, named⟩ | ⟨result, done, error⟩
  · have still : next.pending frame = some op → Owed token number next :=
      fun here => Or.inl ⟨frame, op, here, counted, named⟩
    cases move with
    | calm _ _ pending => exact still (pending ▸ waits)
    | suspends started _ _ _ _ free _ _ pending =>
        refine still ?_
        rw [pending, Function.update_of_ne _ _ _]
        · exact waits
        · rintro rfl
          rw [System.pending, pendingIn_of_free free] at waits
          cases waits
    | passes _ _ _ _ _ _ _ _ _ pending => exact still (pending ▸ waits)
    | ends pointer ended result _ endedWaits pending _ cancelled _ _ trace =>
        by_cases same : frame = pointer.frame
        · rw [same, endedWaits] at waits
          cases waits
          right
          refine ⟨result, ?_, cancelled (requested_of_flag flag named)⟩
          rw [trace, counted]
          simp
        · refine still ?_
          rw [pending, Function.update_of_ne same]
          exact waits
    | rounds pointer old _ _ _ oldWaits _ _ _ quiet pending =>
        by_cases same : frame = pointer.frame
        · rw [same, oldWaits] at waits
          cases waits
          rw [requested_of_flag flag named] at quiet
          cases quiet
        · refine still ?_
          rw [pending, Function.update_of_ne same]
          exact waits
  · exact Or.inr ⟨result, move.mem_trace done, error⟩

/-- The eventfd's event takes the token from the operation that is registered
for it. -/
theorem Filed.released_of_dispatch (filed : Filed .cancel s)
    (flag : s.rt.tokenFlag token = true) {event : EpollEvent}
    {evs : List EpollEvent} {fetched : Nat} {io : Io}
    (batch : s.control = .batch (event :: evs) fetched)
    (own : event.fd = token) (ready : readReady event.events = true)
    (move : Move (.dispatch io) s next) : Released token next := by
  have woken : s.completes (.dispatch io) =
      s.rt.scheduler.registry token .read := by
    simp only [completes, batch, ready, if_true, own]
  have pointed : ∀ frame op, s.pending frame = some op →
      op.operation.token? = some token →
        s.completes (.dispatch io) = some ⟨frame, .cancel⟩ := by
    intro frame op waits named
    rw [woken]
    exact filed frame op token .read waits
      (Operation.slot?_cancel.mpr ⟨named, rfl⟩)
  intro frame op waits named
  cases move with
  | calm _ asleep pending =>
      rw [pending] at waits
      rw [pointed frame op waits named] at asleep
      cases asleep
  | suspends _ _ _ starting => cases starting
  | passes _ _ _ _ _ starting => cases starting
  | ends pointer _ _ here _ pending =>
      rw [pending] at waits
      by_cases same : frame = pointer.frame
      · rw [same, Function.update_self] at waits
        cases waits
      · rw [Function.update_of_ne same] at waits
        rw [pointed frame op waits named] at here
        cases here
        exact same rfl
  | rounds pointer old _ _ here oldWaits operation _ _ quiet pending =>
      rw [pending] at waits
      by_cases same : frame = pointer.frame
      · rw [same, Function.update_self] at waits
        cases waits
        rw [requested_of_flag flag (operation ▸ named)] at quiet
        cases quiet
      · rw [Function.update_of_ne same] at waits
        rw [pointed frame op waits named] at here
        cases here
        exact same rfl

/-! ## The second holder -/

/-- An operation that is started takes the slot of its token from the one that
is suspended there. -/
theorem Filed.unshared_of_move (filed : Filed .cancel next) (good : Good s)
    (move : Move action s next) : s.unshared .cancel action = true := by
  by_contra shared
  simp only [unshared, Bool.not_eq_true, Option.all_eq_false,
    Bool.not_eq_false', Option.bind_eq_some_iff] at shared
  obtain ⟨⟨fd, direction⟩, ⟨operation, starting, slot⟩, occupied⟩ := shared
  obtain ⟨other, _, held⟩ := of_decide_eq_true occupied
  obtain ⟨op, waits, same⟩ := (Option.any_eq_true _ _).mp held
  have otherSlot := of_decide_eq_true same
  cases move with
  | calm nothing =>
      rw [nothing] at starting
      cases starting
  | suspends frame new _ here _ free fits _ pending leaves =>
      rw [here] at starting
      cases starting
      have own := registry_of_own leaves fits good.sound.inOrder slot
      have different : other ≠ frame := by
        rintro rfl
        rw [System.pending, pendingIn_of_free free] at waits
        cases waits
      have left := filed other op fd direction
        (by rw [pending, Function.update_of_ne different]; exact waits)
        otherSlot
      rw [own] at left
      cases left
      exact different rfl
  | passes _ _ _ _ _ here _ _ fits pending leaves =>
      rw [here] at starting
      cases starting
      have left := filed other op fd direction (pending ▸ waits) otherSlot
      rcases leaves with ⟨⟨conn, connects⟩, _⟩ | ⟨_, _, leaves⟩
      · rw [connects] at slot
        cases slot
      · have plain := fits.slot_plain good.sound.inOrder slot
        rw [Sound.registry_of_leaves leaves fun timer => plain timer.1,
          Operation.claim_slot fits slot] at left
        cases left
  | ends _ _ _ woken =>
      cases action <;> first | cases woken | cases starting
  | rounds _ _ _ _ woken =>
      cases action <;> first | cases woken | cases starting

/-! ## Whole runs -/

private theorem Reaches.filed_cancel
    (reached : Reaches OneHolder timerFd uptime buffers actions s) :
    Good s ∧ Filed .cancel s :=
  invariant_of_run (fun state => Good state ∧ Filed .cancel state)
    (fun ⟨good, filed⟩ ⟨keeps, alone⟩ taken =>
      have stepped := step_move good keeps taken
      ⟨stepped.2, filed.move good.sound stepped.1 alone⟩)
    ⟨good_initial queues timerFd uptime buffers,
      filed_initial queues .cancel timerFd uptime buffers⟩
    reached.1 reached.2

/-- What holds while a token is cancelled. -/
structure Cancelling (token : Fd) (s : System queues) : Prop where
  good : Good s
  filed : Filed .cancel s
  flag : s.rt.tokenFlag token = true

namespace Cancelling

private theorem step (holds : Cancelling token s)
    (meets : HoldsOpen token s action) (taken : s.step action = some next) :
    Move action s next ∧ Cancelling token next := by
  obtain ⟨⟨keeps, alone⟩, stays⟩ := meets
  obtain ⟨move, good⟩ := step_move holds.good keeps taken
  exact ⟨move, good, holds.filed.move holds.good.sound move alone,
    move.tokenFlag stays holds.flag⟩

/-- What one step keeps while the token is cancelled, a run keeps. -/
theorem run (holds : Cancelling token s) (kept : System queues → Prop)
    (preserved : ∀ {action state next}, Cancelling token state →
      Move action state next → kept state → kept next)
    (start : kept s) (leads : Leads (HoldsOpen token) s actions next) :
    Cancelling token next ∧ kept next :=
  invariant_of_run (fun state => Cancelling token state ∧ kept state)
    (fun ⟨state, here⟩ meets taken =>
      have stepped := state.step meets taken
      ⟨stepped.2, preserved state stepped.1 here⟩)
    ⟨holds, start⟩ leads.1 leads.2

/-- What is owed to an operation stays owed. -/
theorem owed {number : Nat} (holds : Cancelling token s)
    (here : Owed token number s)
    (leads : Leads (HoldsOpen token) s actions next) :
    Cancelling token next ∧ Owed token number next :=
  holds.run (Owed token number)
    (fun state move here => here.move state.flag move) here leads

/-- The eventfd's event releases the token for good. -/
theorem released {final : System queues} {after : List Action}
    {event : EpollEvent} {evs : List EpollEvent} {fetched : Nat} {io : Io}
    (holds : Cancelling token s)
    (batch : s.control = .batch (event :: evs) fetched)
    (own : event.fd = token) (ready : readReady event.events = true)
    (leads : Leads (HoldsOpen token) s (.dispatch io :: after) final) :
    Released token final := by
  obtain ⟨meets, run⟩ := leads
  obtain ⟨next, taken, later⟩ := runFrom_cons_eq_some run
  obtain ⟨move, atNext⟩ := holds.step meets.1 taken
  have left := holds.filed.released_of_dispatch holds.flag batch own ready
    move
  exact (atNext.run (Released token)
    (fun state move here => here.move state.flag move) left
    ⟨meets_cons_tail meets taken, later⟩).2

end Cancelling

/-- In every run in which no operation is started with a token that another
suspended one holds, each suspended operation has its cancel struct registered
for its token, and a step keeps that so exactly if it starts no second one.
After `request_cancel` and the event of the eventfd nothing is suspended with
the token, and every operation that was has finished with
`operation_canceled`. -/
theorem cancelBroadcast_of_oneHolder
    (reached : Reaches OneHolder timerFd uptime buffers actions s) :
    (∀ frame op token, s.pending frame = some op →
      op.operation.token? = some token →
        s.rt.scheduler.registry token .read = some ⟨frame, .cancel⟩) ∧
    (∀ action next, KeepsPending s action → s.step action = some next →
      (Filed .cancel next ↔ OneHolder s action)) ∧
    ∀ token before middle event evs fetched io after final,
      s.rt.tokenFlag token = true →
      Leads (HoldsOpen token) s before middle →
      middle.control = .batch (event :: evs) fetched → event.fd = token →
      readReady event.events = true →
      Leads (HoldsOpen token) middle (.dispatch io :: after) final →
      (∀ frame op, final.pending frame = some op →
        op.operation.token? ≠ some token) ∧
      ∀ frame op, s.pending frame = some op →
        op.operation.token? = some token →
          ∃ result, .finished op.number result ∈ final.trace ∧
            result.ec = operationCancelledError := by
  obtain ⟨good, filed⟩ := reached.filed_cancel
  refine ⟨?_, ?_, ?_⟩
  · intro frame op token waits named
    exact filed frame op token .read waits
      (Operation.slot?_cancel.mpr ⟨named, rfl⟩)
  · intro action next keeps taken
    have move := (step_move good keeps taken).1
    constructor
    · exact fun after => ⟨keeps, after.unshared_of_move good move⟩
    · exact fun alone => filed.move good.sound move alone.2
  · intro token before middle event evs fetched io after final flag first
      batch own ready second
    have holds : Cancelling token s := ⟨good, filed, flag⟩
    have atMiddle := (holds.run (fun _ => True) (fun _ _ _ => trivial)
      trivial first).1
    have left := atMiddle.released batch own ready second
    refine ⟨left, ?_⟩
    intro frame op waits named
    have owed := (holds.owed (Or.inl ⟨frame, op, waits, rfl, named⟩) first).2
    rcases (atMiddle.owed owed second).2 with
      ⟨other, otherOp, still, _, again⟩ | finished
    · exact absurd again (left other otherOp still)
    · exact finished

theorem cancelBroadcast_of_oneHolder_sample :
    ∃ s : System TimerQueue.sorted,
      Reaches OneHolder 3 100 (fun _ => ⟨[0, 0], 0⟩)
        [.openFd 5 .socket, .openFd 7 (.eventFd false 0), .spawn 1,
          .await 10 (.asyncRead ⟨5, 0, some 7⟩) {}, .requestCancel 7, .run,
          .epollWait [⟨EPOLLIN, 7⟩]] s ∧
      ∃ final result, runFrom step s [.dispatch {}] = some final ∧
        .finished 0 result ∈ final.trace ∧
        result.ec = operationCancelledError := by
  refine (exists_reaches (fun s => s.rt.tokenFlag 7 = true ∧
    s.control = .batch [⟨EPOLLIN, 7⟩] 0 ∧
    (s.pending 10).any (fun op =>
      op.number = 0 ∧ op.operation.token? = some 7) ∧
    Meets step (HoldsOpen 7) s [.dispatch {}] ∧
    (runFrom step s [.dispatch {}]).isSome) ?_ ?_).imp
      fun s ⟨reached, passed⟩ => ⟨reached, ?_⟩
  · decide +kernel
  · decide +kernel
  · obtain ⟨flag, batch, held, meets, runs⟩ := of_decide_eq_true passed
    obtain ⟨op, waits, same⟩ := (Option.any_eq_true _ _).mp held
    obtain ⟨counted, named⟩ := of_decide_eq_true same
    obtain ⟨final, run⟩ := Option.isSome_iff_exists.mp runs
    obtain ⟨_, _, broadcast⟩ := cancelBroadcast_of_oneHolder reached
    obtain ⟨_, finished⟩ := broadcast 7 [] s ⟨EPOLLIN, 7⟩ [] 0 {} [] final
      flag ⟨trivial, rfl⟩ batch rfl (by decide) ⟨meets, run⟩
    obtain ⟨result, done, error⟩ := finished 10 op waits named
    exact ⟨final, result, run, counted ▸ done, error⟩

/-- Two reads share a token: the second one takes the slot, and the event of
the eventfd ends it alone. -/
theorem cancelBroadcast_counterexample :
    ∃ s : System TimerQueue.sorted,
      runFrom step (initial _ 3 100 (fun _ => ⟨[0, 0], 0⟩))
        [.openFd 5 .socket, .openFd 6 .socket,
          .openFd 7 (.eventFd false 0), .spawn 1,
          .await 10 (.asyncRead ⟨5, 0, some 7⟩) {}, .spawn 2,
          .await 20 (.asyncRead ⟨6, 1, some 7⟩) {}, .requestCancel 7, .run,
          .epollWait [⟨EPOLLIN, 7⟩], .dispatch {}, .finish, .batchEnd] =
        some s ∧
      (∃ op, s.pending 10 = some op ∧ op.operation.token? = some 7) ∧
      s.rt.tokenFlag 7 = true ∧ s.rt.files 7 = .eventFd true 0 ∧
      s.rt.scheduler.registry 7 .read = none := by
  have computed : (runFrom step
      (initial TimerQueue.sorted 3 100 (fun _ => ⟨[0, 0], 0⟩))
      [.openFd 5 .socket, .openFd 6 .socket,
        .openFd 7 (.eventFd false 0), .spawn 1,
        .await 10 (.asyncRead ⟨5, 0, some 7⟩) {}, .spawn 2,
        .await 20 (.asyncRead ⟨6, 1, some 7⟩) {}, .requestCancel 7, .run,
        .epollWait [⟨EPOLLIN, 7⟩], .dispatch {}, .finish, .batchEnd]).any
      (fun s => (s.pending 10).any (fun op => op.operation.token? = some 7) ∧
        s.rt.tokenFlag 7 = true ∧ s.rt.files 7 = .eventFd true 0 ∧
        s.rt.scheduler.registry 7 .read = none) = true := by
    decide +kernel
  obtain ⟨s, run, passed⟩ := (Option.any_eq_true _ _).mp computed
  obtain ⟨held, rest⟩ := of_decide_eq_true passed
  obtain ⟨op, waits, named⟩ := (Option.any_eq_true _ _).mp held
  exact ⟨s, run, ⟨op, waits, of_decide_eq_true named⟩, rest⟩

end System

end AsyncFrame
