import AsyncFrame.PreCancelled
import AsyncFrame.WakeAccounts

/-!
# What a step does to the open files

The steps of the scheduler's thread read the eventfd of a token only when the
token is cancelled, and what reads it unregisters it.
-/

namespace AsyncFrame

open AsyncFrame.Lib

variable {queues : TimerQueue} {rt : Runtime queues}

namespace Operation

/-! ## One stretch of an operation -/

/-- The open files after a stretch: the eventfd of a cancelled token has been
read. -/
def drained (rt : Runtime queues) (operation : Operation) : Fd → File :=
  if rt.cancelRequested operation.token? then
    (CancelSlot.consume operation.token? rt).files
  else rt.files

variable {operation : Operation} {token : Fd}

private theorem drained_of_cancelled (named : operation.token? = some token)
    {counter : Nat} (file : rt.files token = .eventFd true counter) :
    operation.drained rt =
      Function.update rt.files token (.eventFd true 0) := by
  have flag : rt.cancelRequested (some token) = true := by
    simp [Runtime.cancelRequested, Runtime.tokenFlag, file]
  rw [drained, named, if_pos flag]
  simp [CancelSlot.consume, Runtime.consumeToken, file]

private theorem drained_of_quiet
    (quiet : rt.cancelRequested operation.token? = false) :
    operation.drained rt = rt.files :=
  if_neg (ne_true_of_eq_false quiet)

@[simp]
theorem files_submitToken (self : Addr) (token : Option Fd) :
    (CancelSlot.submit self token rt).files = rt.files := by
  unfold CancelSlot.submit
  split
  · rfl
  · cases token with
    | none => rfl
    | some fd => exact Runtime.files_settle rt _

private theorem awaitSuspend_files (operation : Operation) (self : Addr) :
    (operation.awaitSuspend self rt).1.files = rt.files := by
  cases operation with
  | asyncRead base =>
      simp only [awaitSuspend, InnerRecvAwaiter.awaitSuspend]
      split
      · rfl
      · simp [Runtime.submitRead]
  | asyncReadTimeout base delay =>
      simp only [awaitSuspend, InnerRecvTimeoutAwaiter.awaitSuspend]
      split
      · rfl
      · simp [Runtime.submitRead, Runtime.setTimer]
  | asyncWrite base =>
      simp only [awaitSuspend, InnerSendAwaiter.awaitSuspend]
      split
      · rfl
      · simp [Runtime.submitWrite]
  | asyncWriteTimeout base delay =>
      simp only [awaitSuspend, InnerSendTimeoutAwaiter.awaitSuspend]
      split
      · rfl
      · simp [Runtime.submitWrite, Runtime.setTimer]
  | asyncReadSome conn buf => exact Runtime.files_settle rt _
  | asyncAccept conn => exact Runtime.files_settle rt _
  | asyncConnect conn => exact Runtime.files_settle rt _
  | waitFor delay =>
      simp [awaitSuspend, TimerAwaiter.awaitSuspend, Runtime.setTimer,
        Runtime.submitTimer]

@[simp]
theorem files_consumeTimer (rt : Runtime queues) :
    rt.consumeTimer.files = rt.files := by
  unfold Runtime.consumeTimer
  dsimp only
  split
  · rfl
  · split <;> rfl

private theorem resumeOnce_files_of_quiet (self : Addr) (io : Io) (total : Nat)
    (quiet : rt.cancelRequested operation.token? = false) :
    (operation.resumeOnce self io total rt).rt.files = rt.files := by
  cases operation with
  | asyncRead base =>
      have asleep : CancelSlot.isCancelEvent base.cancelToken rt = false :=
        quiet
      simp [resumeOnce, InnerRecvAwaiter.awaitResume, asleep,
        Runtime.tryRead, Runtime.removeRead]
  | asyncReadTimeout base delay =>
      have asleep : CancelSlot.isCancelEvent base.cancelToken rt = false :=
        quiet
      simp only [resumeOnce, InnerRecvTimeoutAwaiter.awaitResume, asleep,
        Bool.false_eq_true, if_false]
      split <;> simp [Runtime.tryRead, Runtime.removeRead,
        Runtime.cancelTimer]
  | asyncReadSome conn buf =>
      simp [resumeOnce, InnerRecvSomeAwaiter.awaitResume, Runtime.tryRead,
        Runtime.removeRead]
  | asyncWrite base =>
      have asleep : CancelSlot.isCancelEvent base.cancelToken rt = false :=
        quiet
      simp [resumeOnce, InnerSendAwaiter.awaitResume, asleep,
        Runtime.tryWrite, Runtime.removeWrite]
  | asyncWriteTimeout base delay =>
      have asleep : CancelSlot.isCancelEvent base.cancelToken rt = false :=
        quiet
      simp only [resumeOnce, InnerSendTimeoutAwaiter.awaitResume, asleep,
        Bool.false_eq_true, if_false]
      split <;> simp [Runtime.tryWrite, Runtime.removeWrite,
        Runtime.cancelTimer]
  | asyncAccept conn =>
      simp only [resumeOnce, InnerAcceptAwaiter.awaitResume]
      split <;> simp [Runtime.removeAccept]
  | asyncConnect conn =>
      simp [resumeOnce, InnerConnectAwaiter.awaitResume,
        Runtime.removeConnect]
  | waitFor delay =>
      simp [resumeOnce, TimerAwaiter.awaitResume, Runtime.advanceTimer]

private theorem resumeOnce_files (operation : Operation) (self : Addr) (io : Io)
    (total : Nat) :
    (operation.resumeOnce self io total rt).rt.files =
      operation.drained rt := by
  cases requested : rt.cancelRequested operation.token? with
  | false =>
      rw [drained_of_quiet requested,
        resumeOnce_files_of_quiet self io total requested]
  | true =>
      cases named : operation.token? with
      | none =>
          rw [named] at requested
          cases requested
      | some token =>
          rw [drained, if_pos requested, named]
          rw [named] at requested
          exact resumeOnce_files_of_cancelled self io total named requested

private theorem loop_files (operation : Operation) (self : Addr)
    (turns total : Nat) :
    (loop self operation (turns + 1) total rt).rt.files =
      operation.drained rt := by
  rw [loop_succ]
  split
  · exact resumeOnce_files operation self {} total
  · rename_i quiet
    rw [drained_of_quiet (Bool.eq_false_iff.mpr quiet)]
    exact awaitSuspend_files operation self

private theorem start_files (operation : Operation) (self : Addr) (io : Io) :
    (operation.start self io rt).rt.files = operation.drained rt := by
  have looped : (loop self operation 1 0 rt).rt.files =
      operation.drained rt := loop_files operation self 0 0
  cases operation with
  | asyncConnect conn =>
      simp only [start]
      cases tryConnect io.connect with
      | connected => exact (drained_of_quiet rfl).symm
      | error => exact (drained_of_quiet rfl).symm
      | inProgress => exact looped
  | _ => exact looped

private theorem wake_files (operation : Operation) (self : Addr) (io : Io)
    (total : Nat) :
    (operation.wake self io total rt).rt.files = operation.drained rt := by
  have resumed : (operation.resumeOnce self io total rt).rt.files =
      operation.drained rt := resumeOnce_files operation self io total
  unfold wake
  dsimp only
  cases returned : (operation.resumeOnce self io total rt).returned with
  | some result => exact resumed
  | none =>
      -- It is not cancelled, or it would have returned.
      have quiet : rt.cancelRequested operation.token? = false := by
        by_contra requested
        obtain ⟨result, ended, _⟩ := returned_of_cancelled self io total
          (Bool.not_eq_false _ ▸ requested)
        rw [returned] at ended
        cases ended
      rw [drained_of_quiet quiet] at resumed ⊢
      have still : (operation.resumeOnce self io total rt).rt.cancelRequested
          operation.token? = false := by
        rw [← quiet]
        cases operation.token? with
        | none => rfl
        | some token =>
            simp only [Runtime.cancelRequested, Runtime.tokenFlag, resumed]
      calc
        (loop self operation (0 + 1) _ _).rt.files =
            operation.drained (operation.resumeOnce self io total rt).rt :=
          loop_files operation self 0 _
        _ = (operation.resumeOnce self io total rt).rt.files :=
          drained_of_quiet still
        _ = rt.files := resumed

end Operation

/-! ## One step -/

namespace System

variable {s next : System queues} {action : Action}

/-- What a step of the scheduler's thread does to the open files. -/
inductive Refiles (s next : System queues) : Action → Prop
  | keeps {action : Action} (files : next.rt.files = s.rt.files) :
      Refiles s next action
  | reads {action : Action} {token : Fd} {counter : Nat}
      (file : s.rt.files token = .eventFd true counter)
      (files : next.rt.files =
        Function.update s.rt.files token (.eventFd true 0))
      (unregistered : next.rt.scheduler.registry token .read = none) :
      Refiles s next action
  | opens {fd : Fd} {file : File} (closed : s.rt.files fd = .closed)
      (fresh : file = .socket ∨ file = .eventFd false 0)
      (files : next.rt.files = Function.update s.rt.files fd file) :
      Refiles s next (.openFd fd file)
  | closes {fd : Fd}
      (files : next.rt.files = Function.update s.rt.files fd .closed) :
      Refiles s next (.closeFd fd)

/-- A stretch of an operation reads the eventfd of its token, or none. -/
theorem refiles_of_drained {operation : Operation}
    (files : next.rt.files = operation.drained s.rt)
    (clears : ∀ token, operation.token? = some token →
      s.rt.cancelRequested operation.token? = true →
        next.rt.scheduler.registry token .read = none) :
    Refiles s next action := by
  cases requested : s.rt.cancelRequested operation.token? with
  | false =>
      exact .keeps (files.trans (Operation.drained_of_quiet requested))
  | true =>
      cases named : operation.token? with
      | none =>
          rw [named] at requested
          cases requested
      | some token =>
          have flag : s.rt.tokenFlag token = true := by
            rw [named] at requested
            exact requested
          cases file : s.rt.files token with
          | eventFd cancelled counter =>
              have set : cancelled = true := by
                simpa [Runtime.tokenFlag, file] using flag
              subst set
              exact .reads file
                (files.trans (Operation.drained_of_cancelled named file))
                (clears token named requested)
          | _ => simp [Runtime.tokenFlag, file] at flag

/-- What an operation leaves with nothing claimed is not registered for its
token. -/
theorem Good.unregistered_of_leaves (good : Good s) {frame : Addr}
    {operation : Operation} {deadline : Option Int}
    {queue : OpPtr → Option Int} (fits : operation.Fits s.rt)
    (leaves : Leaves frame none operation deadline s.rt next.rt queue)
    {token : Fd} (named : operation.token? = some token) :
    next.rt.scheduler.registry token .read = none := by
  rw [Sound.registry_of_leaves leaves,
    Operation.claim_token named none s.rt.scheduler.registry]
  · rfl
  · rintro ⟨rfl, _⟩
    obtain ⟨cancelled, counter, file⟩ := fits.token _ named
    rw [good.sound.inOrder.timerFile] at file
    cases file

theorem Good.refiles (good : Good s) (keeps : KeepsPending s action)
    (atomic : ∀ token, action ≠ .requestCancel token)
    (taken : s.step action = some next) : Refiles s next action := by
  obtain ⟨move, _⟩ := step_move good keeps taken
  cases starting : action.starts? with
  | some operation =>
      obtain ⟨frame, io, _, _, moved⟩ := step_starts starting taken
      have left : next.rt.files = operation.drained s.rt := by
        rw [moved, Operation.start_files]
      refine refiles_of_drained left ?_
      intro token named requested
      cases move with
      | calm nothing => simp [starting] at nothing
      | suspends frame op prelude starts opening free fits quiet =>
          rw [starting] at starts
          cases starts
          simp [quiet] at requested
      | passes frame other number result prelude starts opening free fits
          pending leaves =>
          rw [starting] at starts
          cases starts
          rcases leaves with ⟨⟨conn, rfl⟩, _⟩ | ⟨_, _, leaves⟩
          · cases named
          · exact good.unregistered_of_leaves fits leaves named
      | ends pointer op result woken =>
          simp [completes_of_starts starting] at woken
      | rounds pointer op again middle woken =>
          simp [completes_of_starts starting] at woken
  | none =>
      cases woken : s.completes action with
      | some pointer =>
          obtain ⟨op, waits⟩ := good.waits_of_completes woken
          obtain ⟨control, io, _, rfl⟩ := step_completes taken woken
          have left : ((s.withMarks control (s.marks action)).complete pointer
              io).rt.files = op.operation.drained s.rt := by
            have here : (s.withMarks control (s.marks action)).pending
                pointer.frame = some op := waits
            have linked : Linked
                (s.withMarks control (s.marks action)).frames := good.linked
            rw [complete_rt io linked here]
            exact Operation.wake_files op.operation pointer.frame io op.total
          refine refiles_of_drained left ?_
          intro token named requested
          cases move with
          | calm nothing asleep => simp [woken] at asleep
          | suspends frame op prelude starts => simp [starting] at starts
          | passes frame other number result prelude starts =>
              simp [starting] at starts
          | ends other ended result wakes here pending leaves =>
              rw [woken] at wakes
              cases wakes
              rw [waits] at here
              cases here
              exact good.unregistered_of_leaves
                (good.sound.fits _ op waits) leaves named
          | rounds other ended again middle wakes here same outer number
              quiet =>
              rw [woken] at wakes
              cases wakes
              rw [waits] at here
              cases here
              simp [quiet] at requested
      | none =>
          obtain ⟨allowed, rfl⟩ := step_eq_some taken
          cases action with
          | requestCancel token => exact absurd rfl (atomic token)
          | openFd fd file =>
              simp only [enabled, Bool.and_eq_true, Bool.or_eq_true,
                decide_eq_true_eq] at allowed
              exact .opens allowed.1.2 allowed.2 rfl
          | closeFd fd => exact .closes rfl
          | dispatch io =>
              obtain ⟨_, event, evs, fetched, batch⟩ :=
                enabled_dispatch allowed
              obtain ⟨control, _, performed⟩ := dispatch_cases io batch
              simp only [woken] at performed
              exact .keeps (by rw [performed]; rfl)
          | dispatchWrite io =>
              obtain ⟨_, writeOp, evs, fetched, half⟩ :=
                enabled_dispatchWrite allowed
              simp [completes, half] at woken
          | await frame operation io => cases starting
          | awaitWithTimeout impl frame wrapped delay io =>
              obtain ⟨_, _, _, _, operation, timeout, _⟩ :=
                enabled_awaitWithTimeout allowed
              simp [Action.starts?, timeout] at starting
          | _ => exact .keeps rfl

/-- What is registered for a token that the operation does not claim was
registered before. -/
theorem older_of_leaves {frame : Addr} {holder : Option Addr}
    {operation : Operation} {deadline : Option Int}
    {before after : Runtime queues} {queue : OpPtr → Option Int}
    (leaves : Leaves frame holder operation deadline before after queue)
    (fits : operation.Fits before) {token : Fd}
    (plain : token ≠ before.timer.fd)
    (eventFd : (before.files token).isEventFd = true)
    (unclaimed : holder.isSome = true → operation.token? ≠ some token)
    {pointer : OpPtr}
    (found : after.scheduler.registry token .read = some pointer) :
    before.scheduler.registry token .read = some pointer := by
  rw [Sound.registry_of_leaves leaves (fun both => plain both.1)] at found
  rcases Operation.claim_cases fits found with
    ⟨self, rfl, ⟨_, socket⟩ | ⟨_, named, _⟩⟩ | ⟨old, _⟩
  · rw [fits.socket token _ socket] at eventFd
    cases eventFd
  · exact absurd named (unclaimed rfl)
  · exact old

/-- Nothing is newly registered for a cancelled token. -/
theorem Good.registered_before (good : Good s) (move : Move action s next)
    {token : Fd} (eventFd : (s.rt.files token).isEventFd = true)
    (flag : s.rt.tokenFlag token = true) {pointer : OpPtr}
    (registered : next.rt.scheduler.registry token .read = some pointer) :
    s.rt.scheduler.registry token .read = some pointer := by
  have plain : token ≠ s.rt.timer.fd := by
    rintro rfl
    rw [good.sound.inOrder.timerFile] at eventFd
    cases eventFd
  have requested : ∀ {operation : Operation} {rt : Runtime queues},
      rt.tokenFlag token = true → rt.cancelRequested operation.token? = false →
        operation.token? ≠ some token := by
    intro operation rt flagged quiet named
    rw [named] at quiet
    exact absurd flagged (ne_true_of_eq_false quiet)
  cases move with
  | calm nothing asleep pending table => rwa [table] at registered
  | suspends frame op prelude starts opening free fits quiet pending leaves =>
      exact older_of_leaves leaves fits plain eventFd
        (fun _ => requested flag quiet) registered
  | passes frame operation number result prelude starts opening free fits
      pending leaves =>
      rcases leaves with ⟨_, same⟩ | ⟨_, _, leaves⟩
      · rwa [same] at registered
      · exact older_of_leaves leaves fits plain eventFd (by simp) registered
  | ends other op result woken waits pending leaves =>
      exact older_of_leaves leaves (good.sound.fits _ op waits) plain eventFd
        (by simp) registered
  | rounds other op again middle woken waits same outer number quiet pending
      left leaves =>
      have fits := good.sound.fits _ op waits
      have kept : (middle.files token).isEventFd = true := by
        rcases left.files token with same | ⟨_, _, _, after⟩
        · rw [same]
          exact eventFd
        · rw [after]
          rfl
      rw [← left.timerFd] at plain
      have found := older_of_leaves leaves
        (same ▸ fits.kept left.files) plain kept
        (fun _ => same ▸ requested flag quiet) registered
      exact older_of_leaves left fits (left.timerFd ▸ plain) eventFd
        (by simp) found

end System

end AsyncFrame
